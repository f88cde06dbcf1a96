import HyperCopy.Library.Table
import HyperCopy.Engine.States

/-!
# Execution destination epochs

The tables and operations of `services/execution_destination.py`.  A user's destination (a
provider and a network) is held for the duration of an *epoch*: the `users` row points at the
active `execution_epochs` row, and every copy job is bound to the epoch it was planned in.

The operations are translated one by one: reading the active destination
(`userDestinationState`), materialising an epoch for a user who has none
(`bootstrapUserDestinationEpoch`), closing and detaching the active epoch
(`closeUserDestinationEpoch`), setting a destination (`setUserDestination`) and binding a
legacy job (`bindJobToActiveDestination`).  Each runs under the row lock of its user, so it is
one atomic step; the clock readings (natural numbers) and the new primary key it uses are
arguments.  The provider reads behind a destination switch are an argument too
(`SwitchEvidence`): their verdict decides whether the switch is refused, and nothing else.

Beside each operation stands one specification lemma that says what it can do to the tables.
-/

namespace HyperCopy

/-! ## Rows -/

/-- The venues an order can be executed at. -/
inductive ExecutionProvider
  | hyperliquid
  | risex
deriving DecidableEq, Repr

/-- A chain the provider runs on. -/
inductive Network
  | testnet
  | mainnet
deriving DecidableEq, Repr

/-- The destination columns of a `users` row.  `network_started_at` is `NOT NULL`, so the
`or datetime.now(UTC)` of the bootstrap never applies. -/
structure User where
  executionProvider : ExecutionProvider
  executionNetwork : Network
  networkStartedAt : ℕ
  activeExecutionEpochId : Option EpochId
deriving DecidableEq, Repr

/-- A row of `execution_epochs`; `endedAt = none` is an open epoch. -/
structure ExecutionEpoch where
  userId : UserId
  provider : ExecutionProvider
  network : Network
  accountAddress : Option AccountAddress
  credentialVersion : Option ℕ
  startedAt : ℕ
  endedAt : Option ℕ
  createdAt : ℕ
deriving DecidableEq, Repr

/-- A text field of a job's context: absent or empty, a known value, or any other text. -/
inductive ContextText (α : Type)
  | absent
  | known (a : α)
  | other
deriving DecidableEq, Repr

/-- The columns of a `copy_jobs` row that the destination code reads or writes.  `openEpoch` is
not a column: it records which epoch of the user was open when the row was inserted. -/
structure DestinationJob where
  userId : UserId
  executionEpochId : Option EpochId
  executionProvider : Option ExecutionProvider
  executionNetwork : Option Network
  createdAt : ℕ
  followerNetworkText : ContextText Network
  executionProviderText : ContextText ExecutionProvider
  openEpoch : Option EpochId
deriving DecidableEq, Repr

/-- None of the three columns of the binding is set. -/
def DestinationJob.unbound (job : DestinationJob) : Bool :=
  job.executionEpochId.isNone && job.executionProvider.isNone && job.executionNetwork.isNone

/-- The users and their execution epochs. -/
structure DestinationDb where
  users : Table UserId User
  epochs : Table EpochId ExecutionEpoch

namespace ExecutionEpoch

/-- The half-open interval `[started_at, ended_at)` of an epoch, unbounded while it is open. -/
def Covers (e : ExecutionEpoch) (t : ℕ) : Prop :=
  e.startedAt ≤ t ∧ ∀ stop, e.endedAt = some stop → t < stop

/-- `UPDATE execution_epochs SET ended_at = :ended_at WHERE … AND ended_at IS NULL`. -/
def close (e : ExecutionEpoch) (now : ℕ) : ExecutionEpoch :=
  match e.endedAt with
  | none => { e with endedAt := some now }
  | some _ => e

lemma close_eq (e : ExecutionEpoch) (now : ℕ) :
    e.close now = { e with endedAt := some (e.endedAt.getD now) } := by
  cases e with
  | mk _ _ _ _ _ _ endedAt _ => cases endedAt <;> rfl

@[simp] lemma close_userId (e : ExecutionEpoch) (now : ℕ) :
    (e.close now).userId = e.userId := by rw [close_eq]

@[simp] lemma close_startedAt (e : ExecutionEpoch) (now : ℕ) :
    (e.close now).startedAt = e.startedAt := by rw [close_eq]

@[simp] lemma close_createdAt (e : ExecutionEpoch) (now : ℕ) :
    (e.close now).createdAt = e.createdAt := by rw [close_eq]

@[simp] lemma close_endedAt (e : ExecutionEpoch) (now : ℕ) :
    (e.close now).endedAt = some (e.endedAt.getD now) := by rw [close_eq]

end ExecutionEpoch

/-! ## Reading the active destination -/

/-- `UserDestinationState`: the open epoch of a user. -/
structure UserDestinationState where
  provider : ExecutionProvider
  network : Network
  epochId : EpochId
  startedAt : ℕ
deriving DecidableEq, Repr

/-- The reasons a switch is blocked for. -/
inductive DestinationSwitchBlocker
  | userUnavailable
  | pauseRequired
  | positionsNotFlat
  | pendingJobs
  | unresolvedExecutions
  | sourceIdentityChanged
deriving DecidableEq, Repr

/-- The `RuntimeError`s of the destination code. -/
inductive DestinationError
  | unavailable
  | noActiveEpoch
  | epochClosed
  | providerDiverges
  | networkDiverges
  | switchBlocked (blockers : List DestinationSwitchBlocker)
deriving DecidableEq, Repr

/-- The message a caller sees; two callers branch on the text of `noActiveEpoch`. -/
def DestinationError.message : DestinationError → String
  | unavailable => "User destination state is unavailable"
  | noActiveEpoch => "User has no active execution destination epoch"
  | epochClosed => "User active execution destination epoch is closed"
  | providerDiverges => "User execution provider diverges from active destination epoch"
  | networkDiverges => "User execution network diverges from active destination epoch"
  | switchBlocked _ => "Destination switch blocked"

/-- Branching on the text is branching on the error. -/
lemma DestinationError.message_eq_noActiveEpoch (e : DestinationError) :
    e.message = DestinationError.noActiveEpoch.message ↔ e = .noActiveEpoch := by
  cases e <;> simp [DestinationError.message]

/-- `user_destination_state`: the open epoch, where the user's row agrees with it. -/
def userDestinationState (db : DestinationDb) (userId : UserId) :
    Except DestinationError UserDestinationState :=
  match db.users.lookup userId with
  | none => .error .unavailable
  | some row =>
    match row.activeExecutionEpochId with
    | none => .error .noActiveEpoch
    | some epochId =>
      match db.epochs.lookup epochId with
      | none => .error .noActiveEpoch
      | some epoch =>
        if epoch.endedAt.isSome then .error .epochClosed
        else if row.executionProvider ≠ epoch.provider then .error .providerDiverges
        else if row.executionNetwork ≠ epoch.network then .error .networkDiverges
        else .ok ⟨epoch.provider, epoch.network, epochId, epoch.startedAt⟩

/-- What a successful read says: the user row points at an open epoch that agrees with it. -/
lemma userDestinationState_eq_ok {db : DestinationDb} {u : UserId} {d : UserDestinationState} :
    userDestinationState db u = .ok d ↔
      ∃ row epoch, db.users.lookup u = some row ∧
        row.activeExecutionEpochId = some d.epochId ∧
        db.epochs.lookup d.epochId = some epoch ∧ epoch.endedAt = none ∧
        row.executionProvider = epoch.provider ∧ row.executionNetwork = epoch.network ∧
        d.provider = epoch.provider ∧ d.network = epoch.network ∧
        d.startedAt = epoch.startedAt := by
  unfold userDestinationState
  constructor
  · intro h
    split at h
    · cases h
    · rename_i row hrow
      split at h
      · cases h
      · rename_i epochId hactive
        split at h
        · cases h
        · rename_i epoch hepoch
          split_ifs at h with hended hprovider hnetwork
          obtain rfl := Except.ok.inj h
          refine ⟨row, epoch, hrow, hactive, hepoch, ?_, ?_, ?_, rfl, rfl, rfl⟩
          · simpa using hended
          · simpa using hprovider
          · simpa using hnetwork
  · rintro ⟨row, epoch, hrow, hactive, hepoch, hended, hprovider, hnetwork, hp, hn, hs⟩
    cases d with
    | mk provider network epochId startedAt =>
        simp only at hactive hepoch hp hn hs
        simp [hrow, hactive, hepoch, hended, hprovider, hnetwork, hp, hn, hs]

/-! ## Bootstrapping an epoch -/

/-- Insert an epoch and make it the active one of its user. -/
def attachEpoch (db : DestinationDb) (userId : UserId) (row : User) (epochId : EpochId)
    (epoch : ExecutionEpoch) : DestinationDb where
  users := db.users.insert userId { row with activeExecutionEpochId := some epochId }
  epochs := db.epochs.insert epochId epoch

/-- The epoch a bootstrap inserts: the destination of the user row, from `network_started_at`. -/
def bootstrapEpoch (userId : UserId) (row : User) (account : Option AccountAddress × Option ℕ)
    (now : ℕ) : ExecutionEpoch where
  userId := userId
  provider := row.executionProvider
  network := row.executionNetwork
  accountAddress := account.1
  credentialVersion := account.2
  startedAt := row.networkStartedAt
  endedAt := none
  createdAt := now

/-- Materialise the epoch of a user without an active one, started at the user's
`network_started_at`. -/
def bootstrapUserDestinationEpoch (db : DestinationDb) (userId : UserId)
    (account : Option AccountAddress × Option ℕ) (now : ℕ) (epochId : EpochId) :
    Except DestinationError (DestinationDb × UserDestinationState) :=
  match db.users.lookup userId with
  | none => .error .unavailable
  | some row =>
    match row.activeExecutionEpochId with
    | some _ => (userDestinationState db userId).map fun d => (db, d)
    | none =>
      .ok (attachEpoch db userId row epochId (bootstrapEpoch userId row account now),
        ⟨row.executionProvider, row.executionNetwork, epochId, row.networkStartedAt⟩)

/-- `user_network_state`: the active destination, bootstrapped when the user has no epoch. -/
def userNetworkState (db : DestinationDb) (userId : UserId)
    (account : Option AccountAddress × Option ℕ) (now : ℕ) (epochId : EpochId) :
    Except DestinationError (DestinationDb × UserDestinationState) :=
  match userDestinationState db userId with
  | .ok d => .ok (db, d)
  | .error .noActiveEpoch => bootstrapUserDestinationEpoch db userId account now epochId
  | .error e => .error e

/-- `user_network_state` leaves the tables alone and reads them, or bootstraps the epoch of a user
who has none. -/
lemma userNetworkState_eq_ok {db db' : DestinationDb} {u : UserId}
    {account : Option AccountAddress × Option ℕ} {now : ℕ} {id : EpochId}
    {d : UserDestinationState} (h : userNetworkState db u account now id = .ok (db', d)) :
    (db' = db ∧ userDestinationState db u = .ok d) ∨
      ∃ row, db.users.lookup u = some row ∧ row.activeExecutionEpochId = none ∧
        db' = attachEpoch db u row id (bootstrapEpoch u row account now) ∧
        d = ⟨row.executionProvider, row.executionNetwork, id, row.networkStartedAt⟩ := by
  unfold userNetworkState at h
  split at h
  · rename_i d' hd
    obtain ⟨rfl, rfl⟩ := Prod.mk.inj (Except.ok.inj h)
    exact Or.inl ⟨rfl, hd⟩
  · rename_i hd
    unfold bootstrapUserDestinationEpoch at h
    split at h
    · cases h
    · rename_i row hrow
      split at h
      · rw [hd] at h
        cases h
      · rename_i hactive
        obtain ⟨rfl, rfl⟩ := Prod.mk.inj (Except.ok.inj h)
        exact Or.inr ⟨row, hrow, hactive, rfl, rfl⟩
  · cases h

/-! ## Closing the active epoch -/

/-- Close an epoch and detach its user. -/
def detachEpoch (db : DestinationDb) (userId : UserId) (row : User) (epochId : EpochId)
    (now : ℕ) : DestinationDb where
  users := db.users.insert userId { row with activeExecutionEpochId := none }
  epochs := Table.modify db.epochs epochId fun e => e.close now

/-- `close_user_destination_epoch`. -/
def closeUserDestinationEpoch (db : DestinationDb) (userId : UserId) (now : ℕ) :
    Except DestinationError DestinationDb :=
  match db.users.lookup userId with
  | none => .error .unavailable
  | some row =>
    match row.activeExecutionEpochId with
    | none => .ok db
    | some epochId => .ok (detachEpoch db userId row epochId now)

lemma closeUserDestinationEpoch_eq_ok {db db' : DestinationDb} {u : UserId} {now : ℕ}
    (h : closeUserDestinationEpoch db u now = .ok db') :
    ∃ row, db.users.lookup u = some row ∧
      ((row.activeExecutionEpochId = none ∧ db' = db) ∨
        ∃ id, row.activeExecutionEpochId = some id ∧ db' = detachEpoch db u row id now) := by
  unfold closeUserDestinationEpoch at h
  split at h
  · cases h
  · rename_i row hrow
    refine ⟨row, hrow, ?_⟩
    split at h
    · rename_i hactive
      exact Or.inl ⟨hactive, (Except.ok.inj h).symm⟩
    · rename_i id hactive
      exact Or.inr ⟨id, hactive, (Except.ok.inj h).symm⟩

/-! ## Setting a destination -/

/-- What is known about the positions at the source. -/
inductive DestinationLifecycleState
  | verifiedFlat
  | neverActivated
  | unreadable
deriving DecidableEq, Repr

/-- What the reads behind a destination switch returned: the assessment of the source
destination, and the blockers found again after it. -/
structure SwitchEvidence where
  state : DestinationLifecycleState
  blockers : List DestinationSwitchBlocker
  freshBlockers : List DestinationSwitchBlocker
deriving DecidableEq, Repr

/-- The two blocker checks of a switch.  The third check of the source, that the user row still
names the same destination, reads the row this transaction holds locked. -/
def assessSwitch (evidence : SwitchEvidence) : Except DestinationError Unit :=
  if evidence.state = .unreadable ∨ evidence.blockers ≠ [] then
    .error (.switchBlocked evidence.blockers)
  else if evidence.freshBlockers ≠ [] then
    .error (.switchBlocked evidence.freshBlockers)
  else .ok ()

/-- The destination a user asks for. -/
structure DestinationRequest where
  provider : ExecutionProvider
  network : Network
  accountAddress : Option AccountAddress
  credentialVersion : Option ℕ
deriving DecidableEq, Repr

/-- The active epoch of a user row, when it is still open. -/
def currentOpenEpoch (db : DestinationDb) (row : User) : Option (EpochId × ExecutionEpoch) :=
  match row.activeExecutionEpochId with
  | none => none
  | some epochId =>
    match db.epochs.lookup epochId with
    | none => none
    | some epoch => if epoch.endedAt.isNone then some (epochId, epoch) else none

/-- The request names exactly the open epoch's destination and credential identity. -/
def destinationUnchanged (request : DestinationRequest) (epoch : ExecutionEpoch) : Bool :=
  epoch.provider = request.provider && epoch.network = request.network &&
    request.accountAddress.isSome && request.credentialVersion.isSome &&
    epoch.accountAddress = request.accountAddress &&
    epoch.credentialVersion = request.credentialVersion

/-- Does the user have any epoch, active or in the past? -/
def hasDestinationHistory (db : DestinationDb) (userId : UserId) (row : User) : Bool :=
  row.activeExecutionEpochId.isSome || Table.any db.epochs fun _ e => e.userId = userId

/-- The user row and the epoch that a granted request writes. -/
def requestedUser (request : DestinationRequest) (row : User) (now : ℕ) : User :=
  { row with
    executionProvider := request.provider
    executionNetwork := request.network
    networkStartedAt := now }

/-- The epoch that a request opens. -/
def requestedEpoch (userId : UserId) (request : DestinationRequest) (now : ℕ) :
    ExecutionEpoch where
  userId := userId
  provider := request.provider
  network := request.network
  accountAddress := request.accountAddress
  credentialVersion := request.credentialVersion
  startedAt := now
  endedAt := none
  createdAt := now

/-- The rows written when a new epoch replaces the current one: the open epoch ends at the
instant the new one starts. -/
def openDestinationEpoch (db : DestinationDb) (userId : UserId) (row : User)
    (request : DestinationRequest) (now : ℕ) (epochId : EpochId) : DestinationDb :=
  let closed :=
    match currentOpenEpoch db row with
    | some (current, _) => Table.modify db.epochs current fun e => e.close now
    | none => db.epochs
  attachEpoch { db with epochs := closed } userId (requestedUser request row now) epochId
    (requestedEpoch userId request now)

/-- A change of provider or network by a user with a destination history. -/
def isDestinationSwitch (db : DestinationDb) (userId : UserId) (row : User)
    (request : DestinationRequest) : Bool :=
  hasDestinationHistory db userId row &&
    (row.executionProvider ≠ request.provider || row.executionNetwork ≠ request.network)

/-- `set_user_destination`: a new epoch, where the open one is not what is asked for. -/
def setUserDestination (db : DestinationDb) (userId : UserId) (request : DestinationRequest)
    (evidence : SwitchEvidence) (now : ℕ) (epochId : EpochId) :
    Except DestinationError (DestinationDb × UserDestinationState) :=
  match db.users.lookup userId with
  | none => .error .unavailable
  | some row =>
    let renew : Except DestinationError (DestinationDb × UserDestinationState) :=
      match if isDestinationSwitch db userId row request then assessSwitch evidence else .ok () with
      | .error e => .error e
      | .ok () =>
        .ok (openDestinationEpoch db userId row request now epochId,
          ⟨request.provider, request.network, epochId, now⟩)
    match currentOpenEpoch db row with
    | some (current, epoch) =>
      if destinationUnchanged request epoch then
        .ok (db, ⟨request.provider, request.network, current, epoch.startedAt⟩)
      else renew
    | none => renew

/-- The request names the destination and the credential of the epoch that is open already. -/
def requestUnchanged (db : DestinationDb) (row : User) (request : DestinationRequest) : Bool :=
  (currentOpenEpoch db row).any fun current => destinationUnchanged request current.2

/-- A granted request keeps the open epoch, or ends it and opens a new one. -/
lemma setUserDestination_eq_ok {db db' : DestinationDb} {u : UserId}
    {request : DestinationRequest} {evidence : SwitchEvidence} {now : ℕ} {id : EpochId}
    {d : UserDestinationState}
    (h : setUserDestination db u request evidence now id = .ok (db', d)) :
    ∃ row, db.users.lookup u = some row ∧
      (db' = db ∨ (requestUnchanged db row request = false ∧
        db' = openDestinationEpoch db u row request now id)) := by
  unfold setUserDestination at h
  split at h
  · cases h
  · rename_i row hrow
    refine ⟨row, hrow, ?_⟩
    have hrenew : ∀ r : Except DestinationError Unit,
        (match r with
          | .error e => Except.error e
          | .ok () => Except.ok (openDestinationEpoch db u row request now id,
            (⟨request.provider, request.network, id, now⟩ : UserDestinationState))) =
          Except.ok (db', d) → db' = openDestinationEpoch db u row request now id := by
      intro r hr
      cases r with
      | error e => cases hr
      | ok _ => exact (Prod.mk.inj (Except.ok.inj hr)).1.symm
    dsimp only at h
    split at h
    · rename_i current epoch hcurrent
      by_cases hunchanged : destinationUnchanged request epoch = true
      · rw [if_pos hunchanged] at h
        exact Or.inl (Prod.mk.inj (Except.ok.inj h)).1.symm
      · rw [if_neg hunchanged] at h
        exact Or.inr ⟨by simp [requestUnchanged, hcurrent, hunchanged], hrenew _ h⟩
    · rename_i hcurrent
      exact Or.inr ⟨by simp [requestUnchanged, hcurrent], hrenew _ h⟩

/-! ## Binding jobs -/

/-- Fail closed unless the job is bound to the user's exact active destination epoch. -/
def jobMatchesActiveDestination (db : DestinationDb) (job : DestinationJob) : Bool :=
  match job.executionEpochId, job.executionProvider, job.executionNetwork with
  | some epochId, some provider, some network =>
    match userDestinationState db job.userId with
    | .ok d => epochId = d.epochId && provider = d.provider && network = d.network
    | .error _ => false
  | _, _, _ => false

/-- The persisted follower-network and provider texts are compatible with a destination; a row
without provider evidence is only ever inferred to be Hyperliquid. -/
def contextAgrees (job : DestinationJob) (d : UserDestinationState) : Bool :=
  (match job.followerNetworkText with
    | .absent => true
    | .known n => n = d.network
    | .other => false) &&
  (match job.executionProviderText with
    | .absent => d.provider = .hyperliquid
    | .known p => p = d.provider
    | .other => false)

/-- Bind an unbound job when it was created at or after the start of the destination, which is
bootstrapped for a user without an active epoch.  Returns the tables, the job and the verdict. -/
def bindJobToActiveDestination (db : DestinationDb) (job : DestinationJob)
    (account : Option AccountAddress × Option ℕ) (now : ℕ) (epochId : EpochId) :
    DestinationDb × DestinationJob × Bool :=
  if job.executionEpochId.isSome && job.executionProvider.isSome && job.executionNetwork.isSome then
    (db, job, jobMatchesActiveDestination db job)
  else if job.executionEpochId.isSome || job.executionProvider.isSome ||
      job.executionNetwork.isSome then
    (db, job, false)
  else
    match userNetworkState db job.userId account now epochId with
    | .error _ => (db, job, false)
    | .ok (db', d) =>
      if job.createdAt < d.startedAt then (db', job, false)
      else if contextAgrees job d then
        (db', { job with
          executionEpochId := some d.epochId
          executionProvider := some d.provider
          executionNetwork := some d.network
          executionProviderText := .known d.provider }, true)
      else (db', job, false)

/-- Binding reads or bootstraps the destination at most once.  The job is left alone, or was
unbound, was created at or after the start of the destination, and is bound to it. -/
lemma bindJobToActiveDestination_cases (db : DestinationDb) (job : DestinationJob)
    (account : Option AccountAddress × Option ℕ) (now : ℕ) (id : EpochId) :
    (∃ ok, bindJobToActiveDestination db job account now id = (db, job, ok)) ∨
      (job.unbound ∧ ∃ db' d,
        userNetworkState db job.userId account now id = .ok (db', d) ∧
        (bindJobToActiveDestination db job account now id = (db', job, false) ∨
          (d.startedAt ≤ job.createdAt ∧
            bindJobToActiveDestination db job account now id = (db', { job with
              executionEpochId := some d.epochId
              executionProvider := some d.provider
              executionNetwork := some d.network
              executionProviderText := .known d.provider }, true)))) := by
  unfold bindJobToActiveDestination
  split
  · exact Or.inl ⟨_, rfl⟩
  · split
    · exact Or.inl ⟨_, rfl⟩
    · rename_i hpartial
      have hnone : job.unbound := by
        simp only [Bool.or_eq_true, not_or, Bool.not_eq_true, Option.isSome_eq_false_iff] at hpartial
        simp [DestinationJob.unbound, hpartial.1.1, hpartial.1.2, hpartial.2]
      split
      · exact Or.inl ⟨_, rfl⟩
      · rename_i db' d hstate
        refine Or.inr ⟨hnone, db', d, hstate, ?_⟩
        split
        · exact Or.inl rfl
        · rename_i hcreated
          split
          · exact Or.inr ⟨Nat.le_of_not_lt hcreated, rfl⟩
          · exact Or.inl rfl

end HyperCopy

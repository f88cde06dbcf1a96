import HyperCopy.Destination.EpochHistory

/-!
# Ambiguous executions across destination epochs

An execution in `SUBMITTING` or `UNKNOWN` is an order whose fate is unknown.  Two routines watch
such rows: the reconciler keeps their asset out of planning (`liveAmbiguityAssets`,
`terminalAmbiguityAssets`), and `resolve_ambiguous_executions` keeps asking the exchange.  Both
drop the rows created before the start of the user's current epoch.

This file adds to the destination tables the Hyperliquid trading accounts, the copy jobs and the
executions, and the API routes that link and unlink an account (`linkTradingAccount`,
`unlinkTradingAccount`).  Linking restarts the epoch without looking at unresolved executions,
which its RISEx sibling refuses to do: `relink_drops_unresolved_execution` is a history in which
an unresolved row leaves both filters.  `ambiguity_watched_of_relinkResolved` shows that this is
the only way: in every history in which no new epoch is opened under an unresolved execution,
every such row stays watched until it is terminal.  Unlinking is harmless because the epoch that
is bootstrapped afterwards starts where the closed one did (`RelinkInv.starts`).
-/

namespace HyperCopy

open Transition

/-! ## Tables -/

/-- The account a user has linked. -/
structure TradingAccount where
  accountAddress : AccountAddress
  keyVersion : ℕ
deriving DecidableEq, Repr

/-- A job, as far as the ambiguity checks read it. -/
structure JobRow where
  userId : UserId
  asset : Asset
  state : JobState
deriving DecidableEq, Repr

/-- The columns of an `executions` row that the two watchers read. -/
structure ExecutionRow where
  copyJobId : JobId
  userId : UserId
  asset : Asset
  executionProvider : Option ExecutionProvider
  state : ExecutionState
  createdAt : ℕ
deriving DecidableEq, Repr

/-- The destination rows, the linked accounts, and the orders. -/
structure RelinkState where
  db : DestinationDb
  accounts : Table UserId TradingAccount
  jobs : Table JobId JobRow
  executions : Table ExecutionId ExecutionRow
  clock : ℕ

/-- Hyperliquid rows are those of the provider, or from before providers were recorded. -/
def ExecutionRow.isHyperliquid (x : ExecutionRow) : Bool :=
  x.executionProvider = none || x.executionProvider = some .hyperliquid

/-! ## The two watchers -/

/-- `unresolved_rows`: the unresolved executions of a user created since `startedAt`, each with
the state of its job. -/
def unresolvedRows (s : RelinkState) (userId : UserId) (startedAt : ℕ) :
    List (Asset × JobState) :=
  s.executions.entries.filterMap fun row =>
    if row.2.userId = userId ∧ startedAt ≤ row.2.createdAt ∧ row.2.state.unresolved then
      (s.jobs.lookup row.2.copyJobId).map fun job => (row.2.asset, job.state)
    else none

/-- The assets with an unresolved order of an active job. -/
def liveAmbiguityAssets (rows : List (Asset × JobState)) : List Asset :=
  (rows.filter fun row => row.2 ∈ [JobState.queued, .processing, .retrying]).map (·.1)

/-- The assets with an unresolved order of a job that is over. -/
def terminalAmbiguityAssets (rows : List (Asset × JobState)) : List Asset :=
  (rows.filter fun row => row.2 ∈ [JobState.done, .skipped, .dead]).map (·.1)

/-- The two sets cover every state of a job. -/
lemma mem_ambiguityAssets {rows : List (Asset × JobState)} {row : Asset × JobState}
    (h : row ∈ rows) :
    row.1 ∈ liveAmbiguityAssets rows ∨ row.1 ∈ terminalAmbiguityAssets rows := by
  simp only [liveAmbiguityAssets, terminalAmbiguityAssets, List.mem_map, List.mem_filter,
    decide_eq_true_eq]
  cases hstate : row.2 with
  | queued | processing | retrying => exact Or.inl ⟨row, ⟨h, by simp [hstate]⟩, rfl⟩
  | done | skipped | dead => exact Or.inr ⟨row, ⟨h, by simp [hstate]⟩, rfl⟩

lemma mem_unresolvedRows {s : RelinkState} {id : ExecutionId} {x : ExecutionRow} {job : JobRow}
    {startedAt : ℕ} (hx : s.executions.lookup id = some x)
    (hjob : s.jobs.lookup x.copyJobId = some job) (hunresolved : x.state.unresolved)
    (hcreated : startedAt ≤ x.createdAt) :
    (x.asset, job.state) ∈ unresolvedRows s x.userId startedAt := by
  unfold unresolvedRows
  refine List.mem_filterMap.2 ⟨⟨id, x⟩, AList.mem_lookup_iff.1 hx, ?_⟩
  simp [hcreated, hunresolved, hjob]

/-- The query of `resolve_ambiguous_executions`. -/
def isResolverCandidate (x : ExecutionRow) : Bool :=
  x.state.unresolved && x.isHyperliquid

/-- Does the resolver for network `hlNetwork` pass over a candidate, given the network state of
its user? -/
def resolverSkips (s : RelinkState) (x : ExecutionRow) (hlNetwork : Network)
    (d : UserDestinationState) : Bool :=
  !x.state.unresolved ||
  (s.jobs.lookup x.copyJobId).isNone ||
  (s.accounts.lookup x.userId).isNone ||
  decide (d.network ≠ hlNetwork) ||
  decide (x.createdAt < d.startedAt)

/-! ## API routes -/

/-- The reasons a link is refused for. -/
inductive LinkError
  | destination (e : DestinationError)
  | openManagedPositions
deriving DecidableEq, Repr

/-- The columns of the account join that a bootstrap copies into its epoch. -/
def accountColumns (s : RelinkState) (userId : UserId) : Option AccountAddress × Option ℕ :=
  ((s.accounts.lookup userId).map (·.accountAddress), (s.accounts.lookup userId).map (·.keyVersion))

/-- The destination half of linking: bootstrap if needed, close, set for the same network. -/
def relinkDestination (s : RelinkState) (userId : UserId) (account : TradingAccount)
    (evidence : SwitchEvidence) (now : ℕ) (bootstrapId epochId : EpochId) :
    Except DestinationError DestinationDb := do
  let (db₁, d) ← userNetworkState s.db userId (accountColumns s userId) now bootstrapId
  let db₂ ← closeUserDestinationEpoch db₁ userId now
  let (db₃, _) ← setUserDestination db₂ userId
    ⟨.hyperliquid, d.network, some account.accountAddress, some account.keyVersion⟩ evidence now
    epochId
  return db₃

/-- `POST /trading-account`: an account change is refused while managed positions are open;
neither a first link nor a rotation looks at unresolved executions. -/
def linkTradingAccount (s : RelinkState) (userId : UserId) (account : TradingAccount)
    (openManaged : Bool) (evidence : SwitchEvidence) (now : ℕ) (bootstrapId epochId : EpochId) :
    Except LinkError RelinkState :=
  if (s.accounts.lookup userId).any (fun old => old.accountAddress ≠ account.accountAddress) &&
      openManaged then
    .error .openManagedPositions
  else
    match relinkDestination s userId account evidence now bootstrapId epochId with
    | .error e => .error (.destination e)
    | .ok db => .ok { s with db := db, accounts := s.accounts.insert userId account }

/-- `DELETE /trading-account`. -/
def unlinkTradingAccount (s : RelinkState) (userId : UserId) (openManaged : Bool) (now : ℕ) :
    Except LinkError RelinkState :=
  if openManaged then .error .openManagedPositions
  else
    match closeUserDestinationEpoch s.db userId now with
    | .error e => .error (.destination e)
    | .ok db => .ok { s with db := db, accounts := s.accounts.erase userId }

lemma linkTradingAccount_eq_ok {s t : RelinkState} {u : UserId} {account : TradingAccount}
    {openManaged : Bool} {evidence : SwitchEvidence} {now : ℕ} {bootstrapId epochId : EpochId}
    (h : linkTradingAccount s u account openManaged evidence now bootstrapId epochId = .ok t) :
    ∃ db, relinkDestination s u account evidence now bootstrapId epochId = .ok db ∧
      t = { s with db := db, accounts := s.accounts.insert u account } := by
  unfold linkTradingAccount at h
  split_ifs at h
  split at h
  · cases h
  · rename_i db hdb
    exact ⟨db, hdb, (Except.ok.inj h).symm⟩

lemma unlinkTradingAccount_eq_ok {s t : RelinkState} {u : UserId} {openManaged : Bool} {now : ℕ}
    (h : unlinkTradingAccount s u openManaged now = .ok t) :
    ∃ db, closeUserDestinationEpoch s.db u now = .ok db ∧
      t = { s with db := db, accounts := s.accounts.erase u } := by
  unfold unlinkTradingAccount at h
  split_ifs at h
  split at h
  · cases h
  · rename_i db hdb
    exact ⟨db, hdb, (Except.ok.inj h).symm⟩

/-! ## The system -/

/-- What requests and workers do. -/
inductive RelinkOp
  | addUser (userId : UserId) (provider : ExecutionProvider) (network : Network)
      (networkStartedAt : ℕ)
  | link (userId : UserId) (account : TradingAccount) (openManaged : Bool)
      (evidence : SwitchEvidence) (bootstrapId epochId : EpochId)
  | unlink (userId : UserId) (openManaged : Bool)
  | setDestination (userId : UserId) (request : DestinationRequest) (evidence : SwitchEvidence)
      (epochId : EpochId)
  | closeEpoch (userId : UserId)
  /-- Any read of the network state: a reconcile cycle, a page view, a resolver pass. -/
  | networkState (userId : UserId) (epochId : EpochId)
  | addJob (jobId : JobId) (userId : UserId) (asset : Asset)
  | jobTransition (jobId : JobId) (state : JobState)
  /-- The executor journals an order before sending it; `createdAt` is the start of the
  transaction that inserts the row. -/
  | insertExecution (id : ExecutionId) (jobId : JobId) (provider : Option ExecutionProvider)
      (createdAt : ℕ)
  /-- The executor or the resolver records what it learned. -/
  | executionTransition (id : ExecutionId) (state : ExecutionState)

/-- An operation at a time. -/
structure RelinkAction where
  now : ℕ
  op : RelinkOp

/-- One operation. -/
def applyRelinkOp (s : RelinkState) (now : ℕ) : RelinkOp → Option RelinkState
  | .addUser userId provider network networkStartedAt =>
    if s.db.users.lookup userId = none ∧ networkStartedAt ≤ now then
      let row : User := ⟨provider, network, networkStartedAt, none⟩
      some { s with db := { s.db with users := s.db.users.insert userId row } }
    else none
  | .link userId account openManaged evidence bootstrapId epochId =>
    if s.db.epochs.lookup bootstrapId = none ∧ s.db.epochs.lookup epochId = none ∧
        bootstrapId ≠ epochId then
      match linkTradingAccount s userId account openManaged evidence now bootstrapId epochId with
      | .ok t => some t
      | .error _ => some s
    else none
  | .unlink userId openManaged =>
    match unlinkTradingAccount s userId openManaged now with
    | .ok t => some t
    | .error _ => some s
  | .setDestination userId request evidence epochId =>
    if s.db.epochs.lookup epochId = none then
      match setUserDestination s.db userId request evidence now epochId with
      | .ok (db, _) => some { s with db := db }
      | .error _ => some s
    else none
  | .closeEpoch userId =>
    match closeUserDestinationEpoch s.db userId now with
    | .ok db => some { s with db := db }
    | .error _ => some s
  | .networkState userId epochId =>
    if s.db.epochs.lookup epochId = none then
      match userNetworkState s.db userId (accountColumns s userId) now epochId with
      | .ok (db, _) => some { s with db := db }
      | .error _ => some s
    else none
  | .addJob jobId userId asset =>
    if s.jobs.lookup jobId = none ∧ (s.db.users.lookup userId).isSome then
      some { s with jobs := s.jobs.insert jobId ⟨userId, asset, .queued⟩ }
    else none
  | .jobTransition jobId state =>
    match s.jobs.lookup jobId with
    | none => none
    | some job =>
      (job.state.assign state).map fun new =>
        { s with jobs := s.jobs.insert jobId { job with state := new } }
  | .insertExecution id jobId provider createdAt =>
    match s.jobs.lookup jobId with
    | none => none
    | some job =>
      if s.executions.lookup id = none ∧ createdAt ≤ now then
        let row : ExecutionRow := ⟨jobId, job.userId, job.asset, provider, .submitting, createdAt⟩
        some { s with executions := s.executions.insert id row }
      else none
  | .executionTransition id state =>
    match s.executions.lookup id with
    | none => none
    | some x =>
      (x.state.assign state).map fun new =>
        { s with executions := s.executions.insert id { x with state := new } }

/-- Time moves forward with every step. -/
def relinkStep (s : RelinkState) (a : RelinkAction) : Option RelinkState :=
  if s.clock < a.now then
    (applyRelinkOp s a.now a.op).map fun t => { t with clock := a.now }
  else none

/-- No user has logged in yet. -/
def RelinkState.initial : RelinkState := ⟨⟨∅, ∅⟩, ∅, ∅, ∅, 0⟩

/-! ## What must stay true of unresolved executions -/

/-- **Watched.**  Whatever reads the network state of the owner next finds the execution's asset
in an ambiguity set, and the resolver does not skip the row while the owner has a trading account
on the resolver's network. -/
def Watched (s : RelinkState) (x : ExecutionRow) : Prop :=
  ∀ now epochId, s.db.epochs.lookup epochId = none →
    ∃ db' d, userNetworkState s.db x.userId (accountColumns s x.userId) now epochId = .ok (db', d) ∧
      (x.asset ∈ liveAmbiguityAssets (unresolvedRows s x.userId d.startedAt) ∨
        x.asset ∈ terminalAmbiguityAssets (unresolvedRows s x.userId d.startedAt)) ∧
      isResolverCandidate x = true ∧
      ∀ hlNetwork, (s.accounts.lookup x.userId).isSome → d.network = hlNetwork →
        resolverSkips s x hlNetwork d = false

/-- Every unresolved Hyperliquid execution is watched. -/
def AmbiguityWatched (s : RelinkState) : Prop :=
  ∀ id x, s.executions.lookup id = some x → x.state.unresolved → x.isHyperliquid → Watched s x

/-- Some Hyperliquid execution of the user is in `SUBMITTING` or `UNKNOWN`. -/
def hasUnresolvedExecution (s : RelinkState) (userId : UserId) : Bool :=
  Table.any s.executions fun _ x => x.userId = userId && x.state.unresolved && x.isHyperliquid

/-- The user for whom the request opens a new epoch: a link or rotation that is not refused, or a
destination that is granted and is not the one of the open epoch. -/
def opensEpochFor (s : RelinkState) (now : ℕ) : RelinkOp → Option UserId
  | .link userId account openManaged evidence bootstrapId epochId =>
    if (linkTradingAccount s userId account openManaged evidence now bootstrapId epochId).isOk then
      some userId
    else none
  | .setDestination userId request evidence epochId =>
    if (setUserDestination s.db userId request evidence now epochId).isOk &&
        !(s.db.users.lookup userId).any fun row => requestUnchanged s.db row request then
      some userId
    else none
  | _ => none

/-- A Hyperliquid row is inserted with a creation time before the start of the epoch that is current
by then. -/
def insertsBehindStart (s : RelinkState) : RelinkOp → Bool
  | .insertExecution _ jobId provider createdAt =>
    provider ≠ some .risex && (s.jobs.lookup jobId).any fun job =>
      (s.db.users.lookup job.userId).any fun row => createdAt < row.networkStartedAt
  | _ => false

/-- **The condition on a step.**  A new epoch is opened for a user when no Hyperliquid execution of
the user is unresolved, and a Hyperliquid row is not inserted behind the start of its epoch. -/
def RelinkResolved (s : RelinkState) (a : RelinkAction) : Prop :=
  (opensEpochFor s a.now a.op).all (fun u => !hasUnresolvedExecution s u) = true ∧
    insertsBehindStart s a.op = false

instance (s : RelinkState) (a : RelinkAction) : Decidable (RelinkResolved s a) :=
  inferInstanceAs (Decidable (_ ∧ _))

/-! ## The start of the current epoch -/

/-- The tables' invariant: beyond `EpochInv`, the active epoch of a user starts at the user's
`network_started_at`, so closing it and bootstrapping another one does not move the start. -/
structure DestinationInv (db : DestinationDb) (clock : ℕ) : Prop extends EpochInv db clock where
  starts : ∀ u row id e, db.users.lookup u = some row → row.activeExecutionEpochId = some id →
    db.epochs.lookup id = some e → e.startedAt = row.networkStartedAt

/-- The users after an operation: nobody disappears, and those in `keep` keep their start. -/
structure StartsKept (keep : UserId → Prop) (db db' : DestinationDb) : Prop where
  present : ∀ v row, db.users.lookup v = some row → ∃ row', db'.users.lookup v = some row'
  start : ∀ v row', keep v → db'.users.lookup v = some row' →
    ∃ row, db.users.lookup v = some row ∧ row'.networkStartedAt = row.networkStartedAt

lemma StartsKept.refl (keep : UserId → Prop) (db : DestinationDb) : StartsKept keep db db :=
  ⟨fun _ row h => ⟨row, h⟩, fun _ row' _ h => ⟨row', h, rfl⟩⟩

lemma StartsKept.trans {keep : UserId → Prop} {db db' db'' : DestinationDb}
    (h : StartsKept keep db db') (h' : StartsKept keep db' db'') : StartsKept keep db db'' := by
  refine ⟨?_, ?_⟩
  · intro v row hrow
    obtain ⟨row', hrow'⟩ := h.present v row hrow
    exact h'.present v row' hrow'
  · intro v row'' hkeep hrow''
    obtain ⟨row', hrow', hstart'⟩ := h'.start v row'' hkeep hrow''
    obtain ⟨row, hrow, hstart⟩ := h.start v row' hkeep hrow'
    exact ⟨row, hrow, hstart'.trans hstart⟩

/-- Rewriting the row of a present user. -/
lemma StartsKept.insert {keep : UserId → Prop} {db : DestinationDb} {u : UserId} {row : User}
    (row' : User) (hrow : db.users.lookup u = some row)
    (hstart : keep u → row'.networkStartedAt = row.networkStartedAt)
    (epochs : Table EpochId ExecutionEpoch) :
    StartsKept keep db ⟨db.users.insert u row', epochs⟩ := by
  refine ⟨?_, ?_⟩
  · intro v row₁ hv
    by_cases hvu : v = u
    · subst hvu
      exact ⟨row', AList.lookup_insert _⟩
    · exact ⟨row₁, by rw [AList.lookup_insert_ne hvu]; exact hv⟩
  · intro v row₁ hkeep hv
    rcases Table.lookup_insert_cases hv with ⟨rfl, rfl⟩ | hv'
    · exact ⟨row, hrow, hstart hkeep⟩
    · by_cases hvu : v = u
      · subst hvu
        rw [AList.lookup_insert, Option.some.injEq] at hv
        subst hv
        exact ⟨row, hrow, hstart hkeep⟩
      · exact ⟨row₁, hv', rfl⟩

lemma DestinationInv.mono {db : DestinationDb} {t t' : ℕ} (h : DestinationInv db t)
    (ht : t ≤ t') : DestinationInv db t' :=
  { h.toEpochInv.mono ht with starts := h.starts }

lemma DestinationInv.attach {db : DestinationDb} {t now : ℕ} (h : DestinationInv db t)
    {u : UserId} {row : User} {id : EpochId} {epoch : ExecutionEpoch}
    (hinv : EpochInv (attachEpoch db u row id epoch) now)
    (hfresh : db.epochs.lookup id = none) (hstart : epoch.startedAt = row.networkStartedAt) :
    DestinationInv (attachEpoch db u row id epoch) now := by
  refine { hinv with starts := ?_ }
  intro v row' i e hv hi he
  rw [attachEpoch, Table.lookup_insert_eq] at hv
  split_ifs at hv with hvu
  · obtain rfl := Option.some.inj hv
    obtain rfl : id = i := by simpa using hi
    rw [attachEpoch, AList.lookup_insert, Option.some.injEq] at he
    rw [← he, hstart]
  · obtain ⟨e', he', -⟩ := h.active_open v row' i hv hi
    have hne : i ≠ id := by
      rintro rfl
      rw [hfresh] at he'
      cases he'
    rw [attachEpoch, AList.lookup_insert_ne hne] at he
    exact h.starts v row' i e hv hi he

lemma DestinationInv.detach {db : DestinationDb} {t t' now : ℕ} (h : DestinationInv db t)
    {u : UserId} {row : User} (hrow : db.users.lookup u = some row) {id : EpochId}
    (hactive : row.activeExecutionEpochId = some id) (hnow : now ≤ t') (ht : t ≤ t') :
    DestinationInv (detachEpoch db u row id now) t' := by
  refine { h.toEpochInv.detach hrow hactive hnow ht with starts := ?_ }
  intro v row' i e' hv hi he'
  obtain ⟨e, he, -, -, hstart, -⟩ := detachEpoch_row he'
  rw [detachEpoch, Table.lookup_insert_eq] at hv
  split_ifs at hv with hvu
  · obtain rfl := Option.some.inj hv
    cases hi
  · rw [hstart]
    exact h.starts v row' i e hv hi he

lemma DestinationInv.addUser {db : DestinationDb} {t : ℕ} (h : DestinationInv db t) {u : UserId}
    (row : User) (hfresh : db.users.lookup u = none) (hactive : row.activeExecutionEpochId = none) :
    DestinationInv { db with users := db.users.insert u row } t := by
  refine { h.toEpochInv.addUser row hfresh hactive with starts := ?_ }
  intro v row' i e hv hi he
  rw [Table.lookup_insert_eq] at hv
  split_ifs at hv with hvu
  · obtain rfl := Option.some.inj hv
    rw [hactive] at hi
    cases hi
  · exact h.starts v row' i e hv hi he

lemma DestinationInv.networkState {db db' : DestinationDb} {t now : ℕ} (h : DestinationInv db t)
    {u : UserId} {account : Option AccountAddress × Option ℕ} {id : EpochId}
    {d : UserDestinationState} (hfresh : db.epochs.lookup id = none) (hnow : t ≤ now)
    (hstate : userNetworkState db u account now id = .ok (db', d)) :
    DestinationInv db' now ∧ StartsKept (fun _ => True) db db' ∧
      ∀ i, i ≠ id → db.epochs.lookup i = none → db'.epochs.lookup i = none := by
  have hinv := h.toEpochInv.networkState hfresh hnow hstate
  rcases userNetworkState_eq_ok hstate with ⟨rfl, -⟩ | ⟨row, hrow, -, rfl, -⟩
  · exact ⟨h.mono hnow, StartsKept.refl _ _, fun _ _ hi => hi⟩
  · refine ⟨h.attach hinv hfresh rfl,
      StartsKept.insert { row with activeExecutionEpochId := some id } hrow (fun _ => rfl) _, ?_⟩
    intro i hne hi
    rw [attachEpoch, AList.lookup_insert_ne hne]
    exact hi

lemma DestinationInv.close {db db' : DestinationDb} {t now : ℕ} (h : DestinationInv db t)
    {u : UserId} (hnow : t ≤ now) (hclose : closeUserDestinationEpoch db u now = .ok db') :
    DestinationInv db' now ∧ StartsKept (fun _ => True) db db' ∧
      ∀ i, db.epochs.lookup i = none → db'.epochs.lookup i = none := by
  obtain ⟨row, hrow, ⟨-, rfl⟩ | ⟨id, hactive, rfl⟩⟩ := closeUserDestinationEpoch_eq_ok hclose
  · exact ⟨h.mono hnow, StartsKept.refl _ _, fun _ hi => hi⟩
  · exact ⟨h.detach hrow hactive le_rfl hnow,
      StartsKept.insert { row with activeExecutionEpochId := none } hrow (fun _ => rfl) _,
      fun _ hi => detachEpoch_lookup_none hi⟩

lemma DestinationInv.openDestinationEpoch {db : DestinationDb} {t now : ℕ}
    (h : DestinationInv db t) {u : UserId} {row : User} (hrow : db.users.lookup u = some row)
    (request : DestinationRequest) {id : EpochId} (hfresh : db.epochs.lookup id = none)
    (hnow : t ≤ now) :
    DestinationInv (openDestinationEpoch db u row request now id) now ∧
      StartsKept (fun v => v ≠ u) db (openDestinationEpoch db u row request now id) := by
  have hinv := h.toEpochInv.openDestinationEpoch hrow request hfresh hnow
  refine ⟨?_, StartsKept.insert _ hrow (fun hne => absurd rfl hne) _⟩
  obtain ⟨db₁, -, hdb₁, heq⟩ := h.toEpochInv.openDestinationEpoch_eq hrow request now id
  rw [heq] at hinv ⊢
  rcases hdb₁ with ⟨-, rfl⟩ | ⟨current, hactive, rfl⟩
  · exact h.attach hinv hfresh rfl
  · exact (h.detach hrow hactive le_rfl hnow).attach hinv (detachEpoch_lookup_none hfresh) rfl

lemma DestinationInv.setUserDestination {db db' : DestinationDb} {t now : ℕ}
    (h : DestinationInv db t) {u : UserId} {request : DestinationRequest}
    {evidence : SwitchEvidence} {id : EpochId} {d : UserDestinationState}
    (hfresh : db.epochs.lookup id = none) (hnow : t ≤ now)
    (hset : setUserDestination db u request evidence now id = .ok (db', d)) :
    DestinationInv db' now ∧ StartsKept (fun v => v ≠ u) db db' := by
  obtain ⟨row, hrow, rfl | ⟨-, rfl⟩⟩ := setUserDestination_eq_ok hset
  · exact ⟨h.mono hnow, StartsKept.refl _ _⟩
  · exact h.openDestinationEpoch hrow request hfresh hnow

lemma relinkDestination_spec {s : RelinkState} {u : UserId} {account : TradingAccount}
    {evidence : SwitchEvidence} {now : ℕ} {bootstrapId epochId : EpochId} {db' : DestinationDb}
    (h : DestinationInv s.db s.clock) (hnow : s.clock ≤ now)
    (hb : s.db.epochs.lookup bootstrapId = none) (he : s.db.epochs.lookup epochId = none)
    (hne : bootstrapId ≠ epochId)
    (hlink : relinkDestination s u account evidence now bootstrapId epochId = .ok db') :
    DestinationInv db' now ∧ StartsKept (fun v => v ≠ u) s.db db' := by
  unfold relinkDestination at hlink
  cases hstate : userNetworkState s.db u (accountColumns s u) now bootstrapId with
  | error e => simp [hstate, bind, Except.bind] at hlink
  | ok r =>
      obtain ⟨db₁, d⟩ := r
      obtain ⟨h₁, hkept₁, hfresh₁⟩ := h.networkState hb hnow hstate
      cases hclose : closeUserDestinationEpoch db₁ u now with
      | error e => simp [hstate, hclose, bind, Except.bind] at hlink
      | ok db₂ =>
          obtain ⟨h₂, hkept₂, hfresh₂⟩ := h₁.close le_rfl hclose
          simp only [hstate, hclose, bind, Except.bind] at hlink
          split at hlink
          · cases hlink
          · rename_i r hset
            obtain ⟨db₃, d₃⟩ := r
            obtain rfl : db₃ = db' := by simpa [pure, Except.pure] using hlink
            obtain ⟨h₃, hkept₃⟩ :=
              h₂.setUserDestination (hfresh₂ _ (hfresh₁ _ (Ne.symm hne) he)) le_rfl hset
            have hweaken : ∀ {db db' : DestinationDb}, StartsKept (fun _ => True) db db' →
                StartsKept (fun v => v ≠ u) db db' := fun hk =>
              ⟨hk.present, fun v row' _ hv => hk.start v row' trivial hv⟩
            exact ⟨h₃, ((hweaken hkept₁).trans (hweaken hkept₂)).trans hkept₃⟩

/-- Reading the network state of a present user succeeds, and the start it reports is the one of
the user row, whether the epoch was there or had to be bootstrapped. -/
lemma DestinationInv.userNetworkState_ok {db : DestinationDb} {t : ℕ} (h : DestinationInv db t)
    {u : UserId} {row : User} (hrow : db.users.lookup u = some row)
    (account : Option AccountAddress × Option ℕ) (now : ℕ) (id : EpochId) :
    ∃ db' d, userNetworkState db u account now id = .ok (db', d) ∧
      d.startedAt = row.networkStartedAt := by
  cases hactive : row.activeExecutionEpochId with
  | none =>
      refine ⟨attachEpoch db u row id (bootstrapEpoch u row account now),
        ⟨row.executionProvider, row.executionNetwork, id, row.networkStartedAt⟩, ?_, rfl⟩
      simp [userNetworkState, userDestinationState, bootstrapUserDestinationEpoch, hrow, hactive]
  | some current =>
      obtain ⟨e, he, -, hopen, hprovider, hnetwork⟩ := h.active_open u row current hrow hactive
      refine ⟨db, ⟨e.provider, e.network, current, e.startedAt⟩, ?_,
        h.starts u row current e hrow hactive he⟩
      have hread : userDestinationState db u =
          .ok ⟨e.provider, e.network, current, e.startedAt⟩ :=
        userDestinationState_eq_ok.2
          ⟨row, e, hrow, hactive, he, hopen, hprovider, hnetwork, rfl, rfl, rfl⟩
      simp [userNetworkState, hread]

/-! ## The invariant of guarded histories -/

/-- Executions have a job and an owner, and an unresolved Hyperliquid execution was created at or
after the start of its owner's current epoch. -/
structure RelinkInv (s : RelinkState) : Prop where
  db : DestinationInv s.db s.clock
  job_owner : ∀ j job, s.jobs.lookup j = some job → ∃ row, s.db.users.lookup job.userId = some row
  job : ∀ id x, s.executions.lookup id = some x → ∃ job, s.jobs.lookup x.copyJobId = some job
  owner : ∀ id x, s.executions.lookup id = some x → ∃ row, s.db.users.lookup x.userId = some row
  recent : ∀ id x row, s.executions.lookup id = some x → x.state.unresolved → x.isHyperliquid →
    s.db.users.lookup x.userId = some row → row.networkStartedAt ≤ x.createdAt

theorem RelinkInv.watched {s : RelinkState} (h : RelinkInv s) : AmbiguityWatched s := by
  intro id x hx hunresolved hhyper now epochId _
  obtain ⟨row, hrow⟩ := h.owner id x hx
  obtain ⟨job, hjob⟩ := h.job id x hx
  obtain ⟨db', d, hstate, hstart⟩ :=
    h.db.userNetworkState_ok hrow (accountColumns s x.userId) now epochId
  have hcreated : d.startedAt ≤ x.createdAt := by
    rw [hstart]
    exact h.recent id x row hx hunresolved hhyper hrow
  refine ⟨db', d, hstate, ?_, by simp [isResolverCandidate, hunresolved, hhyper], ?_⟩
  · exact mem_ambiguityAssets (mem_unresolvedRows hx hjob hunresolved hcreated)
  · intro hlNetwork haccount hnetwork
    obtain ⟨account, haccount⟩ := Option.isSome_iff_exists.1 haccount
    simp [resolverSkips, hunresolved, hjob, haccount, hnetwork, hcreated]

lemma RelinkInv.mono {s : RelinkState} (h : RelinkInv s) {now : ℕ} (hnow : s.clock ≤ now) :
    RelinkInv { s with clock := now } :=
  { h with db := h.db.mono hnow }

/-- Changing the destination tables, where every user whose start moves has nothing unresolved. -/
lemma RelinkInv.withDb {s : RelinkState} (h : RelinkInv s) {keep : UserId → Prop}
    {db' : DestinationDb} {now : ℕ} (hdb : DestinationInv db' now)
    (hkept : StartsKept keep s.db db')
    (hmoved : ∀ u, ¬ keep u → hasUnresolvedExecution s u = false)
    (accounts : Table UserId TradingAccount) :
    RelinkInv { s with db := db', accounts := accounts, clock := now } := by
  refine ⟨hdb, ?_, h.job, ?_, ?_⟩
  · intro j job hj
    obtain ⟨row, hrow⟩ := h.job_owner j job hj
    exact hkept.present _ row hrow
  · intro id x hx
    obtain ⟨row, hrow⟩ := h.owner id x hx
    exact hkept.present _ row hrow
  · intro id x row' hx hunresolved hhyper hrow'
    by_cases hkeep : keep x.userId
    · obtain ⟨row, hrow, hstart⟩ := hkept.start _ row' hkeep hrow'
      rw [hstart]
      exact h.recent id x row hx hunresolved hhyper hrow
    · have := Table.any_eq_false.1 (hmoved _ hkeep) id x hx
      simp [hunresolved, hhyper] at this

lemma RelinkInv.addUser {s : RelinkState} (h : RelinkInv s) {u : UserId} (row : User)
    (hfresh : s.db.users.lookup u = none) (hactive : row.activeExecutionEpochId = none) :
    RelinkInv { s with db := { s.db with users := s.db.users.insert u row } } := by
  have hold : ∀ v row', s.db.users.lookup v = some row' →
      (s.db.users.insert u row).lookup v = some row' := by
    intro v row' hv
    have hne : v ≠ u := by
      rintro rfl
      rw [hfresh] at hv
      cases hv
    rw [AList.lookup_insert_ne hne]
    exact hv
  refine ⟨h.db.addUser row hfresh hactive, ?_, h.job, ?_, ?_⟩
  · intro j job hj
    exact (h.job_owner j job hj).imp fun row' hrow' => hold _ row' hrow'
  · intro id x hx
    exact (h.owner id x hx).imp fun row' hrow' => hold _ row' hrow'
  · intro id x row' hx hunresolved hhyper hrow'
    obtain ⟨row₀, hrow₀⟩ := h.owner id x hx
    obtain rfl : row₀ = row' := Option.some.inj ((hold _ row₀ hrow₀).symm.trans hrow')
    exact h.recent id x row₀ hx hunresolved hhyper hrow₀

lemma RelinkInv.insertExecution {s : RelinkState} (h : RelinkInv s) {id : ExecutionId}
    {x : ExecutionRow} (howner : ∃ row, s.db.users.lookup x.userId = some row)
    (hjob : ∃ job, s.jobs.lookup x.copyJobId = some job)
    (hrecent : ∀ row, s.db.users.lookup x.userId = some row → x.state.unresolved →
      x.isHyperliquid → row.networkStartedAt ≤ x.createdAt) :
    RelinkInv { s with executions := s.executions.insert id x } := by
  refine ⟨h.db, h.job_owner, ?_, ?_, ?_⟩
  · intro i y hy
    rcases Table.lookup_insert_cases hy with ⟨-, rfl⟩ | hy'
    · exact hjob
    · exact h.job i y hy'
  · intro i y hy
    rcases Table.lookup_insert_cases hy with ⟨-, rfl⟩ | hy'
    · exact howner
    · exact h.owner i y hy'
  · intro i y row hy hunresolved hhyper hrow
    rcases Table.lookup_insert_cases hy with ⟨-, rfl⟩ | hy'
    · exact hrecent row hrow hunresolved hhyper
    · exact h.recent i y row hy' hunresolved hhyper hrow

lemma RelinkInv.insertJob {s : RelinkState} (h : RelinkInv s) {j : JobId} {job : JobRow}
    (howner : ∃ row, s.db.users.lookup job.userId = some row) :
    RelinkInv { s with jobs := s.jobs.insert j job } := by
  refine ⟨h.db, ?_, ?_, h.owner, h.recent⟩
  · intro i job' hi
    rcases Table.lookup_insert_cases hi with ⟨-, rfl⟩ | hi'
    · exact howner
    · exact h.job_owner i job' hi'
  · intro id x hx
    obtain ⟨job', hjob'⟩ := h.job id x hx
    by_cases hxj : x.copyJobId = j
    · exact ⟨job, by rw [hxj]; exact AList.lookup_insert _⟩
    · exact ⟨job', by rw [AList.lookup_insert_ne hxj]; exact hjob'⟩

/-- **Step lemma.** -/
theorem RelinkInv.step {s s' : RelinkState} {a : RelinkAction} (h : RelinkInv s)
    (hresolved : RelinkResolved s a) (hstep : relinkStep s a = some s') : RelinkInv s' := by
  obtain ⟨now, op⟩ := a
  obtain ⟨hopened, hinserted⟩ := hresolved
  have hopens : ∀ u, opensEpochFor s now op = some u → hasUnresolvedExecution s u = false := by
    intro u hu
    simpa [hu] using hopened
  unfold relinkStep at hstep
  split_ifs at hstep with hclock
  obtain ⟨t, ht, rfl⟩ := Option.map_eq_some_iff.1 hstep
  dsimp only at hclock ht ⊢
  have hnow : s.clock ≤ now := hclock.le
  have hstay : RelinkInv { s with clock := now } := h.mono hnow
  have hall : ∀ v, ¬ (True : Prop) → hasUnresolvedExecution s v = false :=
    fun _ hfalse => absurd trivial hfalse
  have hmoved : ∀ {u}, hasUnresolvedExecution s u = false →
      ∀ v, ¬ v ≠ u → hasUnresolvedExecution s v = false := by
    intro u hu v hv
    rw [not_not.1 hv]
    exact hu
  cases op with
  | addUser u provider network startedAt =>
      simp only [applyRelinkOp] at ht
      split_ifs at ht with hcond
      obtain rfl := Option.some.inj ht
      exact hstay.addUser ⟨provider, network, startedAt, none⟩ hcond.1 rfl
  | link u account openManaged evidence bootstrapId epochId =>
      simp only [applyRelinkOp] at ht
      split_ifs at ht with hfresh
      split at ht
      · rename_i t' hlink
        obtain rfl := Option.some.inj ht
        obtain ⟨db', hdb', rfl⟩ := linkTradingAccount_eq_ok hlink
        obtain ⟨hinv, hkept⟩ :=
          relinkDestination_spec h.db hnow hfresh.1 hfresh.2.1 hfresh.2.2 hdb'
        exact h.withDb hinv hkept (hmoved (hopens u (by simp [opensEpochFor, hlink, Except.isOk,
          Except.toBool]))) _
      · obtain rfl := Option.some.inj ht
        exact hstay
  | unlink u openManaged =>
      simp only [applyRelinkOp] at ht
      split at ht
      · rename_i t' hunlink
        obtain rfl := Option.some.inj ht
        obtain ⟨db', hdb', rfl⟩ := unlinkTradingAccount_eq_ok hunlink
        obtain ⟨hinv, hkept, -⟩ := h.db.close hnow hdb'
        exact h.withDb hinv hkept hall _
      · obtain rfl := Option.some.inj ht
        exact hstay
  | setDestination u request evidence epochId =>
      simp only [applyRelinkOp] at ht
      split_ifs at ht with hfresh
      split at ht
      · rename_i db' d hset
        obtain rfl := Option.some.inj ht
        obtain ⟨row, hrow, rfl | ⟨hchanged, rfl⟩⟩ := setUserDestination_eq_ok hset
        · exact hstay
        · obtain ⟨hinv, hkept⟩ := h.db.openDestinationEpoch hrow request hfresh hnow
          exact h.withDb hinv hkept (hmoved (hopens u (by simp [opensEpochFor, hset, hrow, hchanged,
            Except.isOk, Except.toBool]))) _
      · obtain rfl := Option.some.inj ht
        exact hstay
  | closeEpoch u =>
      simp only [applyRelinkOp] at ht
      split at ht
      · rename_i db' hclose
        obtain rfl := Option.some.inj ht
        obtain ⟨hinv, hkept, -⟩ := h.db.close hnow hclose
        exact h.withDb hinv hkept hall _
      · obtain rfl := Option.some.inj ht
        exact hstay
  | networkState u epochId =>
      simp only [applyRelinkOp] at ht
      split_ifs at ht with hfresh
      split at ht
      · rename_i db' d hstate
        obtain rfl := Option.some.inj ht
        obtain ⟨hinv, hkept, -⟩ := h.db.networkState hfresh hnow hstate
        exact h.withDb hinv hkept hall _
      · obtain rfl := Option.some.inj ht
        exact hstay
  | addJob j u asset =>
      simp only [applyRelinkOp] at ht
      split_ifs at ht with hcond
      obtain rfl := Option.some.inj ht
      exact hstay.insertJob (Option.isSome_iff_exists.1 hcond.2)
  | jobTransition j state =>
      simp only [applyRelinkOp] at ht
      split at ht
      · cases ht
      · rename_i job hj
        obtain ⟨new, -, rfl⟩ := Option.map_eq_some_iff.1 ht
        exact hstay.insertJob (hstay.job_owner j job hj)
  | insertExecution id j provider createdAt =>
      simp only [applyRelinkOp] at ht
      split at ht
      · cases ht
      · rename_i job hj
        split_ifs at ht with hfresh
        obtain rfl := Option.some.inj ht
        refine hstay.insertExecution (h.job_owner j job hj) ⟨job, hj⟩ fun row hrow _ hhyper => ?_
        have hprovider : provider ≠ some .risex := by
          rintro rfl
          cases hhyper
        simpa [insertsBehindStart, hprovider, hj, hrow] using hinserted
  | executionTransition id state =>
      simp only [applyRelinkOp] at ht
      split at ht
      · cases ht
      · rename_i x hx
        obtain ⟨new, hnew, rfl⟩ := Option.map_eq_some_iff.1 ht
        refine hstay.insertExecution (h.owner id x hx) (h.job id x hx) ?_
        intro row hrow hunresolved hhyper
        exact h.recent id x row hx (ExecutionState.unresolved_of_assign hnew hunresolved) hhyper hrow

/-! ## Results about whole histories -/

lemma relinkInv_initial : RelinkInv .initial := by
  refine ⟨⟨epochInv_initial, ?_⟩, ?_, ?_, ?_, ?_⟩ <;> simp [RelinkState.initial]

/-- **Ambiguity survives a re-link**, in every history in which no epoch is opened under an
unresolved execution of its user. -/
theorem ambiguity_watched_of_relinkResolved {as : List RelinkAction} {s : RelinkState}
    (hmeets : RunMeets relinkStep RelinkResolved .initial as)
    (hrun : run relinkStep .initial as = some s) : AmbiguityWatched s :=
  (run_invariant_of_meets (fun _ _ _ h hG hstep => h.step hG hstep) relinkInv_initial hmeets
    hrun).watched

/-- Linking, an order left in `UNKNOWN`, its recovery, and only then a rotation. -/
def resolvedRotationRun : List RelinkAction :=
  [⟨1, .addUser 0 .hyperliquid .testnet 1⟩,
   ⟨10, .link 0 ⟨7, 1⟩ false ⟨.unreadable, [], []⟩ 100 101⟩,
   ⟨14, .addJob 0 0 5⟩,
   ⟨15, .insertExecution 0 0 (some .hyperliquid) 15⟩,
   ⟨16, .executionTransition 0 .unknown⟩,
   ⟨18, .executionTransition 0 .filled⟩,
   ⟨20, .link 0 ⟨7, 2⟩ false ⟨.unreadable, [], []⟩ 102 103⟩,
   ⟨25, .insertExecution 1 0 (some .hyperliquid) 25⟩]

theorem ambiguity_watched_resolvedRotationRun : ∃ s,
    run relinkStep .initial resolvedRotationRun = some s ∧ AmbiguityWatched s := by
  have hmeets : RunMeets relinkStep RelinkResolved .initial resolvedRotationRun := by
    decide +kernel
  exact ⟨_, rfl, ambiguity_watched_of_relinkResolved hmeets rfl⟩

/-- The same link and order, and a rotation while the order is still in `UNKNOWN`. -/
def rotationRun : List RelinkAction :=
  [⟨1, .addUser 0 .hyperliquid .testnet 1⟩,
   ⟨10, .link 0 ⟨7, 1⟩ false ⟨.unreadable, [], []⟩ 100 101⟩,
   ⟨14, .addJob 0 0 5⟩,
   ⟨15, .insertExecution 0 0 (some .hyperliquid) 15⟩,
   ⟨16, .executionTransition 0 .unknown⟩,
   ⟨20, .link 0 ⟨7, 2⟩ false ⟨.unreadable, [], []⟩ 102 103⟩]

/-- After the rotation the order is still of unknown fate and the account is linked, but its asset
is in no ambiguity set and the resolver skips it. -/
theorem relink_drops_unresolved_execution : ∃ s x d,
    run relinkStep .initial rotationRun = some s ∧ s.executions.lookup 0 = some x ∧
    x.state = .unknown ∧ x.isHyperliquid ∧ (s.accounts.lookup 0).isSome ∧
    userDestinationState s.db 0 = .ok d ∧ d.network = .testnet ∧
    liveAmbiguityAssets (unresolvedRows s 0 d.startedAt) = [] ∧
    terminalAmbiguityAssets (unresolvedRows s 0 d.startedAt) = [] ∧
    resolverSkips s x .testnet d = true ∧ ¬ AmbiguityWatched s := by
  refine ⟨_, _, _, rfl, rfl, rfl, rfl, rfl, rfl, rfl, rfl, rfl, rfl, ?_⟩
  intro h
  obtain ⟨db', d, hstate, hassets, -⟩ := h 0 _ rfl rfl rfl 30 104 rfl
  obtain ⟨-, rfl⟩ := Prod.mk.inj (Except.ok.inj hstate.symm)
  rcases hassets with hmem | hmem
  · exact absurd hmem (by decide)
  · exact absurd hmem (by decide)

end HyperCopy

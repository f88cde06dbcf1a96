import HyperCopy.Risex.FirstPost
import HyperCopy.Risex.WindowWorker

/-!
# Refused before the POST

`RISExAdapter.place_ioc` runs its gates after `claim_risex_first_post` has committed
`POST_IN_FLIGHT`.  `placeIoc` is the adapter up to the call of the transport's POST: it answers
`.ok ()` where the POST is invoked, and with what is raised where a gate refuses.  No caller
catches that: `process_risex_job` writes nothing, and neither does `_run_risex_copy_job`, so that
a refusal is the end of the attempt (`placeIocAction`).

`StaysInFlight` is what follows for the row.  An attempt that begins later finds the execution, is
given no submission, and at most settles what the provider reports, with the status it found; so
the execution is neither blocked nor claimed again in any later run.

What a gate that refuses does to the window is the business of the worker around it.
-/

namespace HyperCopy

open Transition Fallible

namespace PlaceIoc

/-! ## The gates -/

/-- `Gate3Mode`. -/
inductive Gate3Mode
  | shortLivedAttestation
  | continuousWindow
deriving DecidableEq, Repr

/-- What the adapter raises: `ProviderWriteDisabled` with the cause and the detail of its text, or
with the text of the final authorizer, or an exception of the commit or of the transport's reads. -/
inductive Refusal
  | writesDisabled (cause : ℕ) (detail : String)
  | authorizationChanged (text : String)
  | passedThrough (exception : String)
deriving DecidableEq, Repr

/-- `prepare_place_order_post`, with its freshness probe: a payload, a `SignedTestnetBlocked`, or
an exception of the probe. -/
inductive Preparation
  | prepared
  | blocked (text : String)
  | raises (exception : String)
deriving DecidableEq, Repr

/-- The `final_authorizer` of the worker. -/
inductive FinalAuthorizer
  | missing
  | passes
  | refuses (text : String)
  | raises (exception : String)
deriving DecidableEq, Repr

/-- The window at one of the two checks, and when it is checked. -/
structure WindowReading where
  now : ℕ
  window : OperationalWindow
deriving DecidableEq, Repr

/-- The continuous authorization.  The window is one object, read at the snapshot and again at the
final fence. -/
structure Authorization where
  snapshot : Option WindowReading
  accountAddress : Option String
  signerAddress : Option String
  contextFingerprint : Option String
  fence : WindowReading
  finalAuthorizer : FinalAuthorizer
deriving DecidableEq, Repr

/-- The identities a prepared request's permit was signed for. -/
structure Permit where
  accountAddress : String
  signerAddress : String
deriving DecidableEq, Repr

/-- All that `place_ioc` reads.  `destinationMatches` is `job_matches_active_destination`, with the
type of what it raised, and `commit` ends its transaction; `attestation` is
`assert_runtime_readiness_attested`, and `ambientAuth` the check of the client right before the
POST, each with the text of its `SignedTestnetBlocked`. -/
structure Reads where
  signedWritesEnabled : Bool
  hasSession : Bool
  job : Option RisexJob
  destinationMatches : Except String Bool
  commit : Except String Unit
  permit : Option Permit
  gate3Mode : Option Gate3Mode
  attestation : Except String Unit
  signedTransport : Bool
  preparation : Preparation
  authorization : Option Authorization
  ambientAuth : Except String Unit

/-- `RISExExecutionState`, as its text. -/
def stateText : ExecutionWindowState → String
  | .disabled => "DISABLED"
  | .arming => "ARMING"
  | .enabled => "ENABLED"
  | .paused => "PAUSED"
  | .locked => "LOCKED"

/-- A `SignedTestnetBlocked`, as the gate with the given cause reports it. -/
def blockedAs (cause : ℕ) (checked : Except String Unit) : Except Refusal Unit :=
  checked.mapError (.writesDisabled cause)

/-- `_continuous_snapshot`: the invalidation epoch and the context to compare with at the fence. -/
def continuousSnapshot (authorization : Option Authorization) (permit : Permit) :
    Except Refusal (Authorization × ℕ × String) := do
  let incomplete : Refusal :=
    .writesDisabled 3 "continuous gate 3 authorization material is unavailable or incomplete"
  let material ← expect authorization incomplete
  let reading ← expect material.snapshot incomplete
  let account ← expect material.accountAddress incomplete
  let signer ← expect material.signerAddress incomplete
  let fingerprint ← expect material.contextFingerprint incomplete
  let window := reading.window.expireIfNeeded reading.now
  Fallible.require (window.state = .enabled)
    (.writesDisabled 3 ("continuous operational window is " ++ stateText window.state))
  Fallible.require (window.contextFingerprint = some fingerprint)
    (.writesDisabled 3 "continuous authorization context mismatch")
  Fallible.require (sameAddress permit.accountAddress account)
    (.writesDisabled 3 "continuous permit account identity mismatch")
  Fallible.require (sameAddress permit.signerAddress signer)
    (.writesDisabled 3 "continuous permit signer identity mismatch")
  return (material, window.authorizationInvalidationEpoch, fingerprint)

/-- `_continuous_final_fence`.  The permit is the one of the snapshot, so that its identities, which
the fence compares again, cannot have changed. -/
def continuousFinalFence (material : Authorization) (epoch : ℕ) (fingerprint : String) :
    Except Refusal Unit := do
  let window := material.fence.window.expireIfNeeded material.fence.now
  Fallible.require (window.state = .enabled)
    (.writesDisabled 3 ("continuous operational window is " ++ stateText window.state))
  Fallible.require (window.authorizationInvalidationEpoch = epoch)
    (.writesDisabled 3 "continuous authorization invalidation epoch changed before submission")
  Fallible.require (window.contextFingerprint = some fingerprint)
    (.writesDisabled 3 "continuous authorization context changed before submission")
  match material.finalAuthorizer with
  | .missing | .passes => return ()
  | .refuses text => .error (.authorizationChanged text)
  | .raises exception =>
      .error (.writesDisabled 3
        ("final continuous authorization failed (" ++ exception ++ ")"))

/-- `prepare_place_order_post`, as `place_ioc` reports it. -/
def prepare (preparation : Preparation) : Except Refusal Unit :=
  match preparation with
  | .prepared => .ok ()
  | .blocked text => .error (.writesDisabled 4 text)
  | .raises exception => .error (.passedThrough exception)

/-- `place_ioc` up to the provider's POST. -/
def placeIoc (reads : Reads) : Except Refusal Unit := do
  Fallible.require reads.signedWritesEnabled
    (.writesDisabled 1 "RISEX_SIGNED_WRITES_ENABLED must be explicitly set to true")
  let unavailable : Refusal :=
    .writesDisabled 2 "active RISEx execution destination epoch is unavailable"
  Fallible.require reads.hasSession unavailable
  let job ← expect reads.job unavailable
  let destinationMatches ← reads.destinationMatches.mapError fun exception =>
    .writesDisabled 2 ("active RISEx execution destination epoch could not be verified (" ++
      exception ++ ")")
  Fallible.require destinationMatches
    (.writesDisabled 2 "order does not match the active execution destination epoch")
  reads.commit.mapError .passedThrough
  Fallible.require
    (job.executionProvider = some .risex && job.executionNetwork = some .testnet &&
      job.executionEpochId.isSome)
    (.writesDisabled 2 "active execution epoch must resolve to RISEx testnet")
  let permit ← expect reads.permit
    (.writesDisabled 3 "a typed prepared RISEx place-order request is required")
  let mode ← expect reads.gate3Mode
    (.writesDisabled 3 "an explicit gate 3 authorization mode is required")
  let noTransport : Refusal := .writesDisabled 4 "attested signed testnet transport is required"
  match mode with
  | .shortLivedAttestation =>
      blockedAs 3 reads.attestation
      Fallible.require reads.signedTransport noTransport
      prepare reads.preparation
  | .continuousWindow =>
      let (material, epoch, fingerprint) ← continuousSnapshot reads.authorization permit
      Fallible.require reads.signedTransport noTransport
      prepare reads.preparation
      continuousFinalFence material epoch fingerprint
  blockedAs 4 reads.ambientAuth

lemma prepare_eq_ok {preparation : Preparation} (h : prepare preparation = .ok ()) :
    preparation = .prepared := by
  cases preparation with
  | prepared => rfl
  | blocked text => cases h
  | raises exception => cases h

/-- The POST is invoked with the write switch on, for a job of the active destination, through the
signed transport and with a payload it has prepared. -/
lemma placeIoc_eq_ok {reads : Reads} (h : placeIoc reads = .ok ()) :
    reads.signedWritesEnabled = true ∧ reads.destinationMatches = .ok true ∧
      reads.signedTransport = true ∧ reads.preparation = .prepared := by
  obtain ⟨hswitch, h⟩ := require_bind_eq_ok.1 h
  obtain ⟨-, h⟩ := require_bind_eq_ok.1 h
  obtain ⟨job, -, h⟩ := bind_eq_ok.1 h
  obtain ⟨destinationMatches, hdestination, h⟩ := bind_eq_ok.1 h
  obtain ⟨hmatches, h⟩ := require_bind_eq_ok.1 h
  rw [mapError_eq_ok, hmatches] at hdestination
  obtain ⟨_, -, h⟩ := bind_eq_ok.1 h
  obtain ⟨-, h⟩ := require_bind_eq_ok.1 h
  obtain ⟨permit, -, h⟩ := bind_eq_ok.1 h
  obtain ⟨mode, -, h⟩ := bind_eq_ok.1 h
  cases mode with
  | shortLivedAttestation =>
      obtain ⟨-, -, h⟩ := bind_eq_ok.1 h
      obtain ⟨htransport, h⟩ := require_bind_eq_ok.1 h
      obtain ⟨_, hprepared, -⟩ := bind_eq_ok.1 h
      exact ⟨hswitch, hdestination, htransport, prepare_eq_ok hprepared⟩
  | continuousWindow =>
      obtain ⟨⟨material, epoch, fingerprint⟩, -, h⟩ := bind_eq_ok.1 h
      obtain ⟨htransport, h⟩ := require_bind_eq_ok.1 h
      obtain ⟨_, hprepared, -⟩ := bind_eq_ok.1 h
      exact ⟨hswitch, hdestination, htransport, prepare_eq_ok hprepared⟩

end PlaceIoc

open PlaceIoc (placeIoc)

/-- What becomes of a claimed attempt: the POST, or the end of the attempt with what was raised. -/
def placeIocAction (t : RisexTaskId) (reads : PlaceIoc.Reads) : RisexOp :=
  match placeIoc reads with
  | .ok () => .post t
  | .error _ => .fail t

/-! ## In flight for good -/

/-- The execution was blocked before its POST, or an attempt may still claim it. -/
def Resolvable (s : RisexState) (jobId : JobId) : Prop :=
  ∃ row, s.executions.lookup jobId = some row ∧
    (row.state = .canceled ∧ row.submissionStatus = .preSubmitBlocked ∨
      ∃ job fence submission claimed,
        claimRisexFirstPost job fence row submission = .ok (.claimed claimed))

/-- The job's execution is durably `POST_IN_FLIGHT`. -/
def InFlightRow (executions : RisexExecutions) (jobId : JobId) : Prop :=
  ∃ row, executions.lookup jobId = some row ∧ row.submissionStatus = .postInFlight

/-- An attempt without a signed order: it looks at the tables, or settles what the provider reports
and keeps the status. -/
def RisexPhase.Quiet : RisexPhase → Prop
  | .started | .prepared none => True
  | .settling seen _ => seen.submissionStatus = .postInFlight
  | _ => False

/-- The execution is in flight, every attempt on the job is quiet, but for the one that claimed and
is still at the gates, and no order of the job was posted beyond those of `events`. -/
structure StaysInFlight (claimer : Option RisexTaskId) (jobId : JobId) (events : List RisexEvent)
    (s : RisexState) : Prop where
  row : InFlightRow s.executions jobId
  tasks : ∀ t task, s.tasks.lookup t = some task → task.jobId = jobId →
    task.phase.Quiet ∨ claimer = some t ∧ task.phase.isClaimed = true
  posts : ∀ e order, .posted e jobId order ∈ s.events → .posted e jobId order ∈ events

section

variable {normalized : Symbol → Symbol} {s s' : RisexState} {op : RisexOp} {t : RisexTaskId}
  {task : RisexTask} {job : RisexJob} {jobId : JobId} {claimer : Option RisexTaskId}
  {events : List RisexEvent}

lemma InFlightRow.not_resolvable (h : InFlightRow s.executions jobId) : ¬Resolvable s jobId := by
  obtain ⟨row, hrow, hstatus⟩ := h
  rintro ⟨row', hrow', hblocked | ⟨job, fence, submission, claimed, hclaim⟩⟩
  · obtain rfl : row = row' := Option.some.inj (hrow.symm.trans hrow')
    rw [hstatus] at hblocked
    cases hblocked.2
  · obtain rfl : row = row' := Option.some.inj (hrow.symm.trans hrow')
    obtain ⟨-, hclaimable, -⟩ := claimRisexFirstPost_claimed hclaim
    rw [hstatus] at hclaimable
    cases hclaimable

/-- A flush to another row, or one that keeps the status. -/
lemma InFlightRow.modify {executions : RisexExecutions} (h : InFlightRow executions jobId)
    {changed : JobId} {f : RisexExecution → RisexExecution}
    (hf : changed = jobId → ∀ row, (f row).submissionStatus = .postInFlight) :
    InFlightRow (Table.modify executions changed f) jobId := by
  obtain ⟨row, hrow, hstatus⟩ := h
  by_cases hjob : changed = jobId
  · subst hjob
    exact ⟨f row, by rw [Table.lookup_modify_self, hrow]; rfl, hf rfl row⟩
  · exact ⟨row, by rw [Table.lookup_modify_of_ne _ _ (Ne.symm hjob), hrow], hstatus⟩

/-- The row that is in flight is the one an attempt on the job finds. -/
lemma InFlightRow.found {executions : RisexExecutions} (h : InFlightRow executions jobId)
    {row : RisexExecution} (hrow : executions.lookup jobId = some row) :
    row.submissionStatus = .postInFlight := by
  obtain ⟨row', hrow', hstatus⟩ := h
  obtain rfl : row' = row := Option.some.inj (hrow'.symm.trans hrow)
  exact hstatus

/-- What an action must leave alone: the row and the phases of the attempts on the job. -/
lemma StaysInFlight.frame (hs : StaysInFlight claimer jobId events s)
    (hrow : InFlightRow s'.executions jobId)
    (htasks : ∀ t task, s'.tasks.lookup t = some task → task.jobId = jobId →
      s.tasks.lookup t = some task ∨ task.phase.Quiet)
    (hposts : ∀ e order, .posted e jobId order ∈ s'.events → .posted e jobId order ∈ s.events) :
    StaysInFlight claimer jobId events s' := by
  refine ⟨hrow, fun t task htask hjob => ?_,
    fun e order hmem => hs.posts e order (hposts e order hmem)⟩
  rcases htasks t task htask hjob with hold | hquiet
  · exact hs.tasks t task hold hjob
  · exact Or.inl hquiet

/-- An attempt ends, with a flush to another row or one that keeps the status. -/
lemma StaysInFlight.ended (hs : StaysInFlight claimer jobId events s) {executions : RisexExecutions}
    (hrow : InFlightRow executions jobId) (t : RisexTaskId) (jobs : Table JobId RisexJob) :
    StaysInFlight claimer jobId events { s.endTask t jobs with executions := executions } :=
  hs.frame hrow (fun _ _ htask _ => Or.inl (Table.lookup_of_erase htask)) fun _ _ hmem => hmem

/-- An attempt begins or moves on: quietly, or on another job. -/
lemma StaysInFlight.moved (hs : StaysInFlight claimer jobId events s) (t : RisexTaskId)
    (htask : task.jobId = jobId → task.phase.Quiet) {executions : RisexExecutions}
    (hrow : InFlightRow executions jobId) {moved : List RisexEvent}
    (hposts : ∀ e order, .posted e jobId order ∈ moved → .posted e jobId order ∈ s.events) :
    StaysInFlight claimer jobId events
      { s with tasks := s.tasks.insert t task, executions := executions, events := moved } := by
  refine hs.frame hrow (fun t' task' htask' hjob => ?_) hposts
  rcases Table.lookup_insert_cases htask' with ⟨-, rfl⟩ | hold
  · exact Or.inr (htask hjob)
  · exact Or.inl hold

/-- An attempt that is neither quiet nor at the gates is on another job. -/
lemma StaysInFlight.elsewhere (hs : StaysInFlight claimer jobId events s)
    (htask : s.tasks.lookup t = some task) {phase : RisexPhase} (hphase : task.phase = phase)
    (hquiet : ¬phase.Quiet) (hclaimed : phase.isClaimed = false) : task.jobId ≠ jobId := by
  subst hphase
  intro hjob
  rcases hs.tasks t task htask hjob with h | ⟨-, h⟩
  · exact hquiet h
  · rw [hclaimed] at h
    cases h

/-! ## Steps -/

/-- What `recover_risex_case_a_job` settles is the row that is in flight. -/
lemma quiet_of_settling {executions : RisexExecutions} (h : InFlightRow executions jobId)
    {found : JobId} {row : RisexExecution} (hrow : executions.lookup found = some row)
    (outcome : RisexSubmissionOutcome) (hjob : found = jobId) :
    (RisexPhase.settling row outcome).Quiet := by
  subst hjob
  exact h.found hrow

lemma StaysInFlight.begin (hs : StaysInFlight claimer jobId events s) (t : RisexTaskId)
    (started : JobId) : StaysInFlight claimer jobId events (beginStep s t started) := by
  unfold beginStep
  split
  · exact hs.frame hs.row (fun _ _ htask _ => Or.inl htask) fun _ _ hmem => hmem
  · rename_i outcome row hrecovery hrow
    exact hs.moved t (quiet_of_settling hs.row hrow outcome) hs.row fun _ _ hmem => hmem
  · exact hs.moved t (by exact fun _ => trivial) hs.row fun _ _ hmem => hmem

lemma StaysInFlight.check (hs : StaysInFlight claimer jobId events s) :
    StaysInFlight claimer jobId events (checkStep s t task job) := by
  unfold checkStep
  split_ifs with hnetwork hrow hpeer
  · exact hs.ended hs.row t s.jobs
  · exact hs.moved t (by exact fun _ => trivial) hs.row fun _ _ hmem => hmem
  · exact hs.moved t (by exact fun _ => trivial) hs.row fun _ _ hmem => hmem
  · -- the attempt has found no execution, so it is on another job
    refine hs.moved t (fun hjob => ?_) hs.row fun _ _ hmem => hmem
    obtain ⟨row, hlookup, -⟩ := hs.row
    change task.jobId = jobId at hjob
    rw [hjob, hlookup] at hrow
    exact absurd rfl hrow

lemma StaysInFlight.persist (hs : StaysInFlight claimer jobId events s)
    (helsewhere : task.jobId ≠ jobId) (newId : ExecutionId) (intent : RisexOrderIntent)
    (plan : RisexIocPlan) (request : RisexRequest) :
    StaysInFlight claimer jobId events (persistStep s t task job newId intent plan request) := by
  unfold persistStep
  split
  · exact hs.ended hs.row t s.jobs
  · rename_i executions row hpersist
    have hrow : InFlightRow executions jobId := by
      rcases persist_eq_ok hpersist with ⟨-, rfl⟩ | ⟨-, rfl, -⟩
      · exact hs.row
      · obtain ⟨row', hlookup, hstatus⟩ := hs.row
        refine ⟨row', ?_, hstatus⟩
        rw [Table.lookup_insert_eq, if_neg (Ne.symm helsewhere)]
        exact hlookup
    dsimp only
    split
    · exact hs.ended hrow t s.jobs
    · exact hs.moved t (by exact fun hjob => absurd hjob helsewhere) hrow fun _ _ hmem => hmem

lemma StaysInFlight.load (hs : StaysInFlight claimer jobId events s)
    {submission : Option RisexSubmission}
    (helsewhere : submission ≠ none → task.jobId ≠ jobId) :
    StaysInFlight claimer jobId events (loadStep s t task job submission) := by
  unfold loadStep
  dsimp only
  split_ifs
  · exact hs.ended hs.row t _
  · split
    · exact hs.ended hs.row t _
    · rename_i outcome row hrecovery hrow
      exact hs.moved t (quiet_of_settling hs.row hrow outcome) hs.row fun _ _ hmem => hmem
    · split
      · exact hs.moved t
          (by exact fun hjob => absurd hjob (helsewhere (Option.some_ne_none _))) hs.row
          fun _ _ hmem => hmem
      · exact hs.ended hs.row t _
    · exact hs.ended hs.row t _

lemma StaysInFlight.claim (hs : StaysInFlight claimer jobId events s)
    (helsewhere : task.jobId ≠ jobId) (fence : FenceReads) (seen : RisexExecution)
    (submission : RisexSubmission) :
    StaysInFlight claimer jobId events (claimStep s t task job fence seen submission) := by
  unfold claimStep
  split_ifs
  · exact hs.ended hs.row t _
  · split
    · exact hs.ended hs.row t _
    · unfold refusedStep
      split_ifs
      · exact hs.ended hs.row t _
      · exact hs.ended hs.row t _
    · exact hs.ended (hs.row.modify fun hjob => absurd hjob helsewhere) t _
    · refine hs.moved t (by exact fun hjob => absurd hjob helsewhere)
        (hs.row.modify fun hjob => absurd hjob helsewhere) ?_
      intro e order hmem
      exact (List.mem_cons.1 hmem).resolve_left fun heq => by cases heq

lemma StaysInFlight.respond (hs : StaysInFlight claimer jobId events s)
    (helsewhere : task.jobId ≠ jobId) (seen : RisexExecution) (response : RisexResponse) :
    StaysInFlight claimer jobId events (respondStep s t task seen response) := by
  unfold respondStep
  dsimp only
  split_ifs
  · exact hs.moved t (by exact fun hjob => absurd hjob helsewhere)
      (hs.row.modify fun hjob => absurd hjob helsewhere) fun _ _ hmem => hmem
  · exact hs.ended (hs.row.modify fun hjob => absurd hjob helsewhere) t _

lemma StaysInFlight.settle (hs : StaysInFlight claimer jobId events s) {seen : RisexExecution}
    {outcome : RisexSubmissionOutcome}
    (hquiet : task.jobId = jobId → (RisexPhase.settling seen outcome).Quiet) (baseline : Bool) :
    StaysInFlight claimer jobId events (settleStep s t task seen outcome baseline) := by
  unfold settleStep
  dsimp only
  split_ifs
  · exact hs.ended hs.row t _
  · exact hs.ended hs.row t _
  · exact hs.ended hs.row t _
  · exact hs.ended hs.row t _
  · have hrow : InFlightRow (Table.modify s.executions task.jobId (writeSettled outcome seen))
        jobId := hs.row.modify fun hjob _ => hquiet hjob
    exact hs.ended hrow t _

/-- **Step lemma.**  Whatever is done but the claiming attempt's POST, the execution stays in
flight. -/
lemma StaysInFlight.step (hs : StaysInFlight claimer jobId events s)
    (hop : ∀ t, claimer = some t → op ≠ .post t) (h : risexStep normalized s op = some s') :
    StaysInFlight claimer jobId events s' := by
  cases op with
  | begin t started =>
      simp only [risexStep] at h
      split_ifs at h
      obtain rfl := Option.some.inj h
      exact hs.begin t started
  | resolve t resolved outcome =>
      simp only [risexStep] at h
      split at h
      · rename_i row hfree hrow
        split_ifs at h
        obtain rfl := Option.some.inj h
        exact hs.moved t (quiet_of_settling hs.row hrow outcome) hs.row fun _ _ hmem => hmem
      · cases h
  | check t =>
      obtain ⟨task, job, -, -, h⟩ := withTask_eq_some h
      split at h
      · obtain rfl := Option.some.inj h
        exact hs.check
      · cases h
  | sign t reads preparation nonceAnchor nonceBitmapIndex =>
      obtain ⟨task, job, htask, -, h⟩ := withTask_eq_some h
      split at h
      · rename_i hphase
        have helsewhere := hs.elsewhere htask hphase id rfl
        split at h
        · obtain rfl := Option.some.inj h
          exact hs.ended hs.row t s.jobs
        · obtain rfl := Option.some.inj h
          exact hs.moved t (by exact fun hjob => absurd hjob helsewhere) hs.row fun _ _ hmem => hmem
      · cases h
  | persist t newId =>
      obtain ⟨task, job, htask, -, h⟩ := withTask_eq_some h
      split at h
      · rename_i intent plan request hphase
        obtain rfl := Option.some.inj h
        exact hs.persist (hs.elsewhere htask hphase id rfl) _ _ _ _
      · cases h
  | load t =>
      obtain ⟨task, job, htask, -, h⟩ := withTask_eq_some h
      split at h
      · rename_i submission hphase
        obtain rfl := Option.some.inj h
        refine hs.load fun hsubmission => ?_
        obtain ⟨prepared, rfl⟩ := Option.ne_none_iff_exists'.1 hsubmission
        exact hs.elsewhere htask hphase id rfl
      · cases h
  | refuseStrategy t =>
      obtain ⟨task, job, -, -, h⟩ := withTask_eq_some h
      split at h
      · obtain rfl := Option.some.inj h
        exact hs.ended hs.row t _
      · cases h
  | claim t fence =>
      obtain ⟨task, job, htask, -, h⟩ := withTask_eq_some h
      split at h
      · rename_i seen submission hphase
        obtain rfl := Option.some.inj h
        exact hs.claim (hs.elsewhere htask hphase id rfl) _ _ _
      · cases h
  | post t =>
      obtain ⟨task, job, htask, -, h⟩ := withTask_eq_some h
      split at h
      · rename_i seen submission hphase
        obtain rfl := Option.some.inj h
        have helsewhere : task.jobId ≠ jobId := by
          intro hjob
          rcases hs.tasks t task htask hjob with hquiet | ⟨hclaimer, -⟩
          · rw [hphase] at hquiet
            exact hquiet
          · exact hop t hclaimer rfl
        refine hs.moved t (by exact fun hjob => absurd hjob helsewhere) hs.row
          fun e order hmem => ?_
        refine (List.mem_cons.1 hmem).resolve_left fun heq => ?_
        exact helsewhere (RisexEvent.posted.inj heq).2.1.symm
      · cases h
  | respond t response =>
      obtain ⟨task, job, htask, -, h⟩ := withTask_eq_some h
      split at h
      · rename_i seen submission hphase
        obtain rfl := Option.some.inj h
        exact hs.respond (hs.elsewhere htask hphase id rfl) _ _
      · cases h
  | settle t baseline =>
      obtain ⟨task, job, htask, -, h⟩ := withTask_eq_some h
      split at h
      · rename_i seen outcome hphase
        obtain rfl := Option.some.inj h
        refine hs.settle (fun hjob => ?_) baseline
        rcases hs.tasks t task htask hjob with hquiet | ⟨-, hclaimed⟩
        · rwa [hphase] at hquiet
        · rw [hphase] at hclaimed
          cases hclaimed
      · cases h
  | fail t =>
      obtain ⟨task, job, -, -, h⟩ := withTask_eq_some h
      obtain rfl := Option.some.inj h
      exact hs.ended hs.row t s.jobs

/-! ## From the claim to the refusal -/

/-- A claim that is committed leaves the row in flight and the attempt at the gates. -/
lemma claimed_of_claim {fence : FenceReads} (htask : s.tasks.lookup t = some task)
    (h : risexStep normalized s (.claim t fence) = some s') (hevents : s'.events ≠ s.events) :
    InFlightRow s'.executions task.jobId ∧
      ∃ seen submission,
        s'.tasks = s.tasks.insert t { task with phase := .claimed seen submission } ∧
        s'.events = .claimed submission.executionId task.jobId :: s.events ∧
        (s'.jobs.lookup task.jobId).isSome = true := by
  obtain ⟨task', job, htask', hjob, h⟩ := withTask_eq_some h
  obtain rfl : task = task' := Option.some.inj (htask.symm.trans htask')
  split at h
  · rename_i seen submission hphase
    obtain rfl := Option.some.inj h
    unfold claimStep at hevents ⊢
    split_ifs at hevents ⊢ with hrow
    · exact absurd rfl hevents
    · split at hevents
      · exact absurd rfl hevents
      · unfold refusedStep at hevents
        split_ifs at hevents
        · exact absurd rfl hevents
        · exact absurd rfl hevents
      · exact absurd rfl hevents
      · rename_i claimed hclaim
        obtain ⟨-, -, -, hclaimed⟩ := claimRisexFirstPost_claimed hclaim
        obtain ⟨row, hlookup, -⟩ := Option.map_eq_some_iff.1 (not_not.1 hrow)
        refine ⟨?_, claimed, submission, rfl, rfl, ?_⟩
        · refine ⟨writeResponse claimed row, ?_, ?_⟩
          · show (Table.modify s.executions task.jobId _).lookup task.jobId = _
            rw [Table.lookup_modify_self, hlookup]
            rfl
          · show claimed.submissionStatus = .postInFlight
            rw [hclaimed]
        · show (s.jobs.lookup task.jobId).isSome = true
          rw [hjob]
          rfl
  · cases h

/-- The attempt that claimed is gone, and with it the only one that could post. -/
lemma StaysInFlight.refused (hs : StaysInFlight (some t) jobId events s)
    (h : risexStep normalized s (.fail t) = some s') :
    StaysInFlight none jobId events s' := by
  obtain ⟨task, job, -, -, h⟩ := withTask_eq_some h
  obtain rfl := Option.some.inj h
  refine ⟨hs.row, fun t' task' htask' hjob => ?_, hs.posts⟩
  rcases hs.tasks t' task' (Table.lookup_of_erase htask') hjob with hquiet | ⟨hclaimer, -⟩
  · exact Or.inl hquiet
  · obtain rfl := Option.some.inj hclaimer
    have hgone : (s.tasks.erase t).lookup t = some task' := htask'
    rw [AList.lookup_erase] at hgone
    cases hgone

lemma placeIocAction_of_error {reads : PlaceIoc.Reads} {refusal : PlaceIoc.Refusal}
    (h : placeIoc reads = .error refusal) : placeIocAction t reads = .fail t := by
  rw [placeIocAction, h]

end

/-- No other attempt on the job is under way. -/
def Alone (s : RisexState) (t : RisexTaskId) (jobId : JobId) : Prop :=
  ∀ t' task, s.tasks.lookup t' = some task → task.jobId = jobId → t' = t

/-- **A refusal of `place_ioc` leaves the execution in flight.**  Whatever the gate and whatever it
raised: when the attempt ends, the execution its claim made `POST_IN_FLIGHT` still is, neither
blocked nor claimable, though nothing was posted.  And where the attempt was alone on its job, that
is so in every state of every run from the claim on in which it is refused before its POST. -/
theorem refused_post_stays_in_flight (normalized : Symbol → Symbol) {s s₁ : RisexState}
    {t : RisexTaskId} {task : RisexTask} {fence : FenceReads} {reads : PlaceIoc.Reads}
    {refusal : PlaceIoc.Refusal} (htask : s.tasks.lookup t = some task)
    (hclaim : risexStep normalized s (.claim t fence) = some s₁)
    (hclaimed : s₁.events ≠ s.events) (hrefused : placeIoc reads = .error refusal) :
    (∃ s₂, risexStep normalized s₁ (placeIocAction t reads) = some s₂ ∧
      InFlightRow s₂.executions task.jobId ∧ ¬Resolvable s₂ task.jobId ∧ s₂.posts = s.posts) ∧
    ∀ before after s₂, Alone s t task.jobId → .post t ∉ before →
      run (risexStep normalized) s₁ (before ++ placeIocAction t reads :: after) = some s₂ →
        InFlightRow s₂.executions task.jobId ∧ ¬Resolvable s₂ task.jobId ∧
          ∀ e order, .posted e task.jobId order ∈ s₂.events →
            .posted e task.jobId order ∈ s.events := by
  obtain ⟨hrow, seen, submission, htasks, hevents, hjob⟩ := claimed_of_claim htask hclaim hclaimed
  rw [placeIocAction_of_error hrefused]
  constructor
  · obtain ⟨job, hjob⟩ := Option.isSome_iff_exists.1 hjob
    have hlookup : s₁.tasks.lookup t = some { task with phase := .claimed seen submission } := by
      rw [htasks, AList.lookup_insert]
    refine ⟨s₁.endTask t s₁.jobs, ?_, hrow, hrow.not_resolvable, ?_⟩
    · simp only [risexStep, risexStep.withTask, hlookup, Option.bind_some, hjob]
    · show s₁.posts = s.posts
      rw [RisexState.posts, hevents]
      rfl
  · intro before after s₂ halone hbefore hrun
    have hstart : StaysInFlight (some t) task.jobId s.events s₁ := by
      refine ⟨hrow, fun t' task' htask' hsame => ?_, fun e order hmem => ?_⟩
      · rw [htasks] at htask'
        rcases Table.lookup_insert_cases htask' with ⟨rfl, rfl⟩ | hold
        · exact Or.inr ⟨rfl, rfl⟩
        · obtain rfl := halone t' task' hold hsame
          rw [AList.lookup_insert] at htask'
          obtain rfl := Option.some.inj htask'
          exact Or.inr ⟨rfl, rfl⟩
      · rw [hevents] at hmem
        exact (List.mem_cons.1 hmem).resolve_left fun heq => by cases heq
    obtain ⟨sGates, hgates, hrest⟩ := run_append_eq_some.1 hrun
    obtain ⟨sRefused, hrefuse, hafter⟩ := run_cons_eq_some.1 hrest
    -- up to the refusal the claiming attempt does not post
    have hno : ∀ op ∈ before, op ≠ .post t := by
      rintro op hop rfl
      exact hbefore hop
    have hatGates : StaysInFlight (some t) task.jobId s.events sGates := by
      refine run_invariant_of_meets ?_ hstart (RunMeets.of_forall (fun a ha _ => hno a ha) s₁) hgates
      intro s op s' hs hop hstep
      refine hs.step (fun t' ht' => ?_) hstep
      obtain rfl := Option.some.inj ht'
      exact hop
    -- and from then on there is no claiming attempt
    have hend : StaysInFlight none task.jobId s.events s₂ :=
      run_invariant (fun _ _ _ hs hstep => hs.step (fun t' ht' => by cases ht') hstep)
        (hatGates.refused hrefuse) hafter
    exact ⟨hend.row, hend.row.not_resolvable, hend.posts⟩

/-! ## The window closes before the snapshot -/

/-- The reads of an ordinary submission, but for the window, which reached its end. -/
def closedWindowReads : PlaceIoc.Reads where
  signedWritesEnabled := true
  hasSession := true
  job := some btcJob
  destinationMatches := .ok true
  commit := .ok ()
  permit := some ⟨"0xaccount", "0xsigner"⟩
  gate3Mode := some .continuousWindow
  attestation := .ok ()
  signedTransport := true
  preparation := .prepared
  authorization := some
    { snapshot := some ⟨200, ⟨.enabled, none, some 0, some 100, some "context", 0, 1, some 1, 0,
        "readiness PASS finalized into operational window"⟩⟩
      accountAddress := some "0xaccount"
      signerAddress := some "0xsigner"
      contextFingerprint := some "context"
      fence := ⟨200, .boot 0⟩
      finalAuthorizer := .passes }
  ambientAuth := .ok ()

lemma closedWindowReads_refused : placeIoc closedWindowReads =
    .error (.writesDisabled 3 "continuous operational window is DISABLED") := by
  decide +kernel

/-- The first attempt on the job, up to the load of its execution. -/
def loadedState : RisexState :=
  (run (risexStep asciiUpper) btcState
    (.begin 1 5 :: signActions 1 ++ [.persist 1 100, .load 1])).getD btcState

/-- What another attempt does after the refusal. -/
def retry : List RisexOp := [.begin 2 5, .check 2, .load 2]

/-- The refused attempt has a retry, and the execution is still in flight behind it. -/
theorem refused_post_stays_in_flight_retried :
    ∃ s, run (risexStep asciiUpper) loadedState
        (.claim 1 btcFence :: placeIocAction 1 closedWindowReads :: retry) = some s ∧
      InFlightRow s.executions 5 ∧ ¬Resolvable s 5 := by
  have htask : loadedState.tasks.lookup 1 =
      some ⟨5, .loaded (btcExecution .prePostCommitted) (btcSubmission 1), false⟩ := by
    decide +kernel
  have hevents : (risexStep asciiUpper loadedState (.claim 1 btcFence)).map (·.events) =
      some [.claimed 100 5] := by decide +kernel
  have hnone : loadedState.events = [] := by decide +kernel
  have halone : Alone loadedState 1 5 := by
    intro t' task' htask' _
    have hkeys : loadedState.tasks.keys = [1] := by decide +kernel
    have hmem : t' ∈ loadedState.tasks.keys := by
      refine AList.mem_keys.1 (AList.lookup_isSome.1 ?_)
      rw [htask']
      rfl
    rw [hkeys] at hmem
    exact List.mem_singleton.1 hmem
  obtain ⟨s₁, hclaim, hs₁⟩ := Option.map_eq_some_iff.1 hevents
  have hretried : (run (risexStep asciiUpper) loadedState
      (.claim 1 btcFence :: placeIocAction 1 closedWindowReads :: retry)).isSome = true := by
    decide +kernel
  obtain ⟨s, hrun⟩ := Option.isSome_iff_exists.1 hretried
  obtain ⟨s₁', hclaim', hrest⟩ := run_cons_eq_some.1 hrun
  obtain rfl : s₁ = s₁' := Option.some.inj (hclaim.symm.trans hclaim')
  obtain ⟨hrow, hstuck, -⟩ := (refused_post_stays_in_flight asciiUpper htask hclaim
    (by rw [hs₁, hnone]; exact List.cons_ne_nil _ _) closedWindowReads_refused).2 [] retry s halone
    List.not_mem_nil hrest
  exact ⟨s, hrun, hrow, hstuck⟩

/-- **Nothing was posted, and the execution is in flight.**  The window of the authorization is over
when `place_ioc` checks it; the attempt ends, and its retry finds an execution it may not touch. -/
theorem closed_window_leaves_in_flight :
    placeIoc closedWindowReads =
        .error (.writesDisabled 3 "continuous operational window is DISABLED") ∧
      ∃ s, run (risexStep asciiUpper) btcState
          (.begin 1 5 :: signActions 1 ++
            [.persist 1 100, .load 1, .claim 1 btcFence, placeIocAction 1 closedWindowReads] ++
            retry) = some s ∧
        s.posts = [] ∧ s.executions.lookup 5 = some (btcExecution .postInFlight) ∧
        ¬Resolvable s 5 := by
  have hend : (run (risexStep asciiUpper) btcState
      (.begin 1 5 :: signActions 1 ++
        [.persist 1 100, .load 1, .claim 1 btcFence, placeIocAction 1 closedWindowReads] ++
        retry)).map (fun s => (s.posts, s.executions.lookup 5)) =
      some ([], some (btcExecution .postInFlight)) := by decide +kernel
  obtain ⟨s, hrun, hs⟩ := Option.map_eq_some_iff.1 hend
  obtain ⟨hposts, hrow⟩ := Prod.mk.inj hs
  have hinFlight : InFlightRow s.executions 5 := ⟨_, hrow, rfl⟩
  exact ⟨closedWindowReads_refused, s, hrun, hposts, hrow, hinFlight.not_resolvable⟩

end HyperCopy

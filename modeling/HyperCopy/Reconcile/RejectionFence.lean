import HyperCopy.Library.Transition
import HyperCopy.Reconcile.Batch
import Mathlib.Data.List.Infix

/-!
# The terminal rejection fence

An order the exchange rejects for a reason that will not go away must not be sent again as it is.
`_finish_action_rejection` in `services/execution.py` classifies the reason and, whatever the
policy, records in the job's context the target and the position the rejected order was for;
`_terminal_action_rejection_blocks_unchanged_intent` in `services/reconcile.py` holds a new job
back while the newest job of the asset carries such a record, with policy `NONE`, and the target,
the position and the size of the order are the recorded ones.

The state here is the history of one market: its jobs, newest first, with what the fence reads of
them.  Anything can happen to it: passes of the reconciler, jobs of any origin, workers that
submit, settle, reject or finish, and a new destination epoch.  One turn of a pass is
`reconcileJobFor` of the batch with the two queries answered from the history.
-/

namespace HyperCopy

/-! ## The reason of a rejection -/

/-- `ActionErrorClass`. -/
inductive ActionErrorClass
  | terminal
  | liquidity
  | transient
  | unclassified
deriving DecidableEq, Repr

/-- `ActionRetryPolicy`. -/
inductive ActionRetryPolicy
  | none
  | reconcile
deriving DecidableEq, Repr

/-- The class of an error, with what is done about it. -/
structure ActionErrorDecision where
  errorClass : ActionErrorClass
  retryPolicy : ActionRetryPolicy
deriving DecidableEq, Repr

/-- `_LIQUIDITY_TOKENS`. -/
def liquidityTokens : List String :=
  ["order could not immediately match against any resting orders",
    "order could not immediately match",
    "no liquidity available for market order",
    "ioccancel",
    "ioc cancel",
    "ioccancelrejected",
    "marketordernoliquidity",
    "market order no liquidity",
    "marketordernoliquidityrejected"]

/-- `_TRANSIENT_TOKENS`. -/
def transientTokens : List String :=
  ["strategy intent canceled pre-submit",
    "mainnet single-writer fence blocked signed action",
    "open interest is capped",
    "open interest cap",
    "openinterestcap",
    "positionincreaseatopeninterestcap",
    "positionflipatopeninterestcap",
    "tooaggressiveatopeninterestcap",
    "openinterestincrease",
    "oracle issue",
    "oraclerejected",
    "rate limited",
    "user rate limit",
    "address rate limit",
    "rate limit exceeded",
    "user rate limit exceeded",
    "address rate limit exceeded"]

/-- `_TERMINAL_TOKENS`. -/
def terminalTokens : List String :=
  ["price must be divisible by tick size",
    "order must have minimum value",
    "insufficient margin to place order",
    "reduce only order would increase position",
    "invalid tp/sl price",
    "order has invalid size",
    "order has zero size",
    "perp max position",
    "insufficient spot balance",
    "tickrejected",
    "mintradentlrejected",
    "mintradespotntlrejected",
    "perpmarginrejected",
    "reduceonlyrejected",
    "badtriggerpxrejected",
    "insufficientspotbalancerejected",
    "perpmaxpositionrejected"]

/-- `_compact`. -/
def compact (value : String) : String :=
  String.ofList (value.toList.filter fun c => c ≠ '_' && c ≠ '-' && c ≠ ' ')

/-- `_matches`. -/
def matchesToken (normalized compacted : String) (tokens : List String) : Bool :=
  tokens.any fun token =>
    token.toList <:+: normalized.toList || (compact token).toList <:+: compacted.toList

/-- `classify_action_error`: the first list with a token in the reason decides. -/
def classifyActionError (reason : Option String) : ActionErrorDecision :=
  let normalized := (reason.getD "").trimAscii.toString.toLower
  let compacted := compact normalized
  if matchesToken normalized compacted liquidityTokens then ⟨.liquidity, .reconcile⟩
  else if matchesToken normalized compacted transientTokens then ⟨.transient, .reconcile⟩
  else if matchesToken normalized compacted terminalTokens then ⟨.terminal, .none⟩
  else ⟨.unclassified, .none⟩

/-! ## The jobs of a market -/

/-- The leg whose order was rejected. -/
inductive RejectedLeg
  | primary
  | reversalOpen
deriving DecidableEq, Repr

/-- `last_action_error`, the evidence a rejection leaves in the job's context. -/
structure ActionRejection where
  decision : ActionErrorDecision
  reason : Option String
  network : Network
  leg : RejectedLeg
  rejectedTarget : ℚ
  rejectedReal : ℚ
deriving DecidableEq, Repr

/-- An order of the job, as far as the fence reads it. -/
structure IntentExecution where
  state : ExecutionState
  requestedSize : LedgerDecimal
deriving DecidableEq

/-- The execution the fence reads: the newest one that was rejected or canceled. -/
def rejectedExecution (executions : List IntentExecution) : Option IntentExecution :=
  executions.find? fun e => e.state = .rejected || e.state = .canceled

/-- A job of the market, with its executions newest first.  Evidence of a rejection is recorded
with the rejected execution only. -/
structure IntentJob where
  origin : JobOrigin
  createdAt : ℕ
  state : JobState
  leverageSyncOnly : Bool
  lastActionError : Option ActionRejection
  executions : List IntentExecution
  evidenced : lastActionError.isSome → (rejectedExecution executions).isSome
deriving DecidableEq

/-- The jobs of one market, newest first, and the start of the active epoch. -/
structure IntentHistory where
  jobs : List IntentJob
  startedAt : ℕ
  clock : ℕ
  ordered : jobs.Pairwise fun newer older => older.createdAt < newer.createdAt
  created : ∀ job ∈ jobs, job.createdAt ≤ clock

/-! ## The executor's side -/

/-- What a worker does with a job it holds. -/
inductive WorkerAct
  | submit (requestedSize : LedgerDecimal)
  | settle (outcome : ExecutionState)
  | reject (network : Network) (leg : RejectedLeg) (reason : Option String)
      (rejectedTarget rejectedReal : ℚ)
  | move (state : JobState)
deriving DecidableEq

/-- `_finish_action_rejection`. -/
def finishActionRejection (job : IntentJob) (network : Network) (leg : RejectedLeg)
    (reason : Option String) (rejectedTarget rejectedReal : ℚ)
    (h : (rejectedExecution job.executions).isSome) : IntentJob :=
  { job with
    state := .skipped
    lastActionError :=
      some ⟨classifyActionError reason, reason, network, leg, rejectedTarget, rejectedReal⟩
    evidenced := fun _ => h }

lemma rejectedExecution_cons {e : IntentExecution} {executions : List IntentExecution}
    (h : (rejectedExecution executions).isSome) :
    (rejectedExecution (e :: executions)).isSome := by
  unfold rejectedExecution at h ⊢
  rw [List.find?_cons]
  cases (e.state = .rejected || e.state = .canceled : Bool) with
  | true => rfl
  | false => exact h

lemma rejectedExecution_of_unresolved {e e' : IntentExecution} {executions : List IntentExecution}
    (he : e.state.unresolved = true) (h : (rejectedExecution (e :: executions)).isSome) :
    (rejectedExecution (e' :: executions)).isSome := by
  apply rejectedExecution_cons
  have hopen : (decide (e.state = .rejected) || decide (e.state = .canceled)) = false := by
    cases hstate : e.state <;> rw [hstate] at he <;> first | rfl | cases he
  unfold rejectedExecution at h ⊢
  rwa [List.find?_cons, hopen] at h

/-- An order is submitted for the job. -/
def addExecution (job : IntentJob) (requestedSize : LedgerDecimal) : Option IntentJob :=
  if job.leverageSyncOnly then none
  else
    some { job with
      executions := ⟨.submitting, requestedSize⟩ :: job.executions
      evidenced := fun h => rejectedExecution_cons (job.evidenced h) }

/-- The newest execution settles, while it is open. -/
def settleExecution (job : IntentJob) (outcome : ExecutionState) : Option IntentJob :=
  match hopen : job.executions with
  | e :: rest =>
      if he : e.state.unresolved = true ∧ outcome ∈ e.state.transitions then
        some { job with
          executions := { e with state := outcome } :: rest
          evidenced := fun h =>
            rejectedExecution_of_unresolved he.1 (hopen ▸ job.evidenced h) }
      else none
  | [] => none

/-- The job ends with the rejection of an order it has. -/
def rejectJob (job : IntentJob) (network : Network) (leg : RejectedLeg)
    (reason : Option String) (rejectedTarget rejectedReal : ℚ) : Option IntentJob :=
  if h : (rejectedExecution job.executions).isSome then
    some (finishActionRejection job network leg reason rejectedTarget rejectedReal h)
  else none

/-- The state of the job changes as the state machine allows. -/
def moveJob (job : IntentJob) (state : JobState) : Option IntentJob :=
  (JobState.assign job.state state).map fun state => { job with state := state }

/-- The job after the act, or nothing where the act is not possible; a job that has ended is left
alone. -/
def workerStep (job : IntentJob) (act : WorkerAct) : Option IntentJob :=
  if job.state.active then
    match act with
    | .submit requestedSize => addExecution job requestedSize
    | .settle outcome => settleExecution job outcome
    | .reject network leg reason rejectedTarget rejectedReal =>
        rejectJob job network leg reason rejectedTarget rejectedReal
    | .move state => moveJob job state
  else none

/-! ## The reconciler's side -/

/-- The job the fence reads: the newest one of the strategy in the active epoch. -/
def latestIntent (s : IntentHistory) : Option IntentJob :=
  s.jobs.find? fun job => job.origin.isStrategy && s.startedAt ≤ job.createdAt

/-- The rejection the fence compares with. -/
def terminalRejection (s : IntentHistory) (network : Network) : Option TerminalRejection :=
  match latestIntent s with
  | none => none
  | some latest =>
      if latest.state = .skipped then
        match latest.lastActionError with
        | none => none
        | some error =>
            if error.decision.retryPolicy = .none ∧ error.network = network then
              some ⟨error.rejectedTarget, error.rejectedReal,
                (rejectedExecution latest.executions).map (·.requestedSize.value)⟩
            else none
      else none

/-- A job of the reconciler is under way. -/
def pendingReconcile (s : IntentHistory) : Bool :=
  s.jobs.any fun job => job.origin = .reconcile && s.startedAt ≤ job.createdAt &&
    (job.state = .queued || job.state = .processing || job.state = .retrying)

/-- One turn of a pass: the follower, the asset and the running totals. -/
structure FenceTurn where
  follower : ReconcileFollower
  asset : ReconcileAsset
  total : ℚ
  openPositions : ℤ

namespace FenceTurn

variable (t : FenceTurn)

/-- Where the turn's orders go. -/
def network : Network := (t.follower.scope t.asset.asset).executionNetwork

/-- The asset with the answers of the two queries. -/
def assetIn (s : IntentHistory) : ReconcileAsset :=
  { t.asset with
    pending := pendingReconcile s
    terminalRejection := terminalRejection s t.network }

/-- The target of the turn. -/
def desiredTarget : ℚ := batchDesiredTarget t.follower t.asset

/-- The size of the order the turn evaluates. -/
def plannedSize : Option ℚ :=
  (previewPlan t.follower t.asset t.total t.openPositions).2.map (·.submittedSize)

/-- The fence holds the turn back. -/
def heldBack (s : IntentHistory) : Bool :=
  rejectionBlocks t.follower (t.assetIn s) t.plannedSize

/-- The job of the turn. -/
def jobIn (s : IntentHistory) : Option BatchJob :=
  reconcileJobFor t.follower (t.assetIn s) t.total t.openPositions

end FenceTurn

/-! ## Histories -/

/-- A new job of the market. -/
def IntentHistory.enqueue (s : IntentHistory) (origin : JobOrigin) (leverageSyncOnly : Bool) :
    IntentHistory where
  jobs := ⟨origin, s.clock + 1, .queued, leverageSyncOnly, none, [], by simp⟩ :: s.jobs
  startedAt := s.startedAt
  clock := s.clock + 1
  ordered := List.pairwise_cons.2 ⟨fun job hjob => Nat.lt_succ_of_le (s.created job hjob), s.ordered⟩
  created := by
    intro job hjob
    rcases List.mem_cons.1 hjob with rfl | hold
    · exact le_rfl
    · exact Nat.le_succ_of_le (s.created job hold)

/-- A turn of the loop, a job of another origin, a step of a worker, or a new epoch. -/
inductive IntentAction
  | reconcile (t : FenceTurn)
  | enqueue (origin : JobOrigin) (leverageSyncOnly : Bool)
  | work (createdAt : ℕ) (act : WorkerAct)
  | startEpoch

/-- The job a worker holds, after its act. -/
def worked (createdAt : ℕ) (act : WorkerAct) (job : IntentJob) : IntentJob :=
  if job.createdAt = createdAt then (workerStep job act).getD job else job

/-- A worker changes neither the age nor the origin of a job. -/
lemma workerStep_same {job job' : IntentJob} {act : WorkerAct}
    (h : workerStep job act = some job') :
    job'.createdAt = job.createdAt ∧ job'.origin = job.origin := by
  unfold workerStep at h
  by_cases hactive : job.state.active
  · rw [if_pos hactive] at h
    cases act with
    | submit requestedSize =>
        unfold addExecution at h
        split_ifs at h
        obtain rfl := Option.some.inj h
        exact ⟨rfl, rfl⟩
    | settle outcome =>
        dsimp only [settleExecution] at h
        split at h
        · split_ifs at h
          obtain rfl := Option.some.inj h
          exact ⟨rfl, rfl⟩
        · cases h
    | reject network leg reason rejectedTarget rejectedReal =>
        dsimp only [rejectJob] at h
        split_ifs at h
        obtain rfl := Option.some.inj h
        exact ⟨rfl, rfl⟩
    | move state =>
        obtain ⟨state', -, rfl⟩ := Option.map_eq_some_iff.1 h
        exact ⟨rfl, rfl⟩
  · rw [if_neg hactive] at h
    cases h

lemma worked_same (createdAt : ℕ) (act : WorkerAct) (job : IntentJob) :
    (worked createdAt act job).createdAt = job.createdAt ∧
      (worked createdAt act job).origin = job.origin := by
  unfold worked
  by_cases hage : job.createdAt = createdAt
  · rw [if_pos hage]
    cases h : workerStep job act with
    | none => exact ⟨rfl, rfl⟩
    | some job' => exact workerStep_same h
  · rw [if_neg hage]
    exact ⟨rfl, rfl⟩

@[simp] lemma worked_createdAt (createdAt : ℕ) (act : WorkerAct) (job : IntentJob) :
    (worked createdAt act job).createdAt = job.createdAt :=
  (worked_same createdAt act job).1

@[simp] lemma worked_origin (createdAt : ℕ) (act : WorkerAct) (job : IntentJob) :
    (worked createdAt act job).origin = job.origin :=
  (worked_same createdAt act job).2

/-- A worker acts on one job. -/
def IntentHistory.work (s : IntentHistory) (createdAt : ℕ) (act : WorkerAct) : IntentHistory :=
  { s with
    jobs := s.jobs.map (worked createdAt act)
    ordered := by
      rw [List.pairwise_map]
      simpa using s.ordered
    created := by
      intro job hjob
      obtain ⟨old, hold, rfl⟩ := List.mem_map.1 hjob
      simpa using s.created old hold }

/-- A new epoch begins after everything that was there. -/
def IntentHistory.startEpoch (s : IntentHistory) : IntentHistory :=
  { s with
    startedAt := s.clock + 1
    clock := s.clock + 1
    created := fun job hjob => Nat.le_succ_of_le (s.created job hjob) }

/-- One step. -/
def intentStep (s : IntentHistory) : IntentAction → Option IntentHistory
  | .reconcile t =>
      match t.jobIn s with
      | none => some s
      | some job => some (s.enqueue .reconcile job.leverageSyncOnly)
  | .enqueue origin leverageSyncOnly => some (s.enqueue origin leverageSyncOnly)
  | .work createdAt act => some (s.work createdAt act)
  | .startEpoch => some s.startEpoch

end HyperCopy

import HyperCopy.Risex.CopyExecution
import HyperCopy.Library.Transition

/-!
# The RISEx writer: attempts, claims and settlements

`services/risex_worker_submission.py`, the `process_risex_job` of
`services/risex_copy_execution.py` and the two settlement routines, as a step function over the
tables and the attempts that are under way.  Each action is one database transaction of one
attempt, or one provider call; whatever the provider or another table answers is carried by the
action.  An attempt of any worker on any job may begin at any time, also while another attempt
on the job is under way, and ends without a trace where it crashes or raises (`fail`).

An attempt works on the `Execution` its session loaded.  `SessionLocal` keeps loaded instances
over a commit, and a later `SELECT … FOR UPDATE` without `populate_existing` returns the instance
as it was loaded: the phases `loaded` to `settling` therefore carry the row as the attempt saw
it, and what the attempt writes to the response column is computed from it.

The events are not a table: they record the claims that were committed and the orders that were
handed to the signed transport, newest first.
-/

namespace HyperCopy

open Fallible

/-- The handle of a worker's attempt. -/
abbrev RisexTaskId := ℕ

/-! ## State -/

/-- Where an attempt is. -/
inductive RisexPhase
  /-- Taken by a worker, before the checks of the preparation. -/
  | started
  /-- Past both checks; the provider is being read. -/
  | checked
  | signed (intent : RisexOrderIntent) (plan : RisexIocPlan) (request : RisexRequest)
  /-- `prepare_risex_worker_submission` has returned. -/
  | prepared (submission : Option RisexSubmission)
  /-- `process_risex_job` has loaded the execution. -/
  | loaded (seen : RisexExecution) (submission : RisexSubmission)
  /-- The claim is committed; the gates of `place_ioc` run. -/
  | claimed (seen : RisexExecution) (submission : RisexSubmission)
  /-- The signed transport has been called. -/
  | posted (seen : RisexExecution) (submission : RisexSubmission)
  | settling (seen : RisexExecution) (outcome : RisexSubmissionOutcome)
deriving DecidableEq, Repr

/-- An attempt.  `late` is no variable of the code: it records that the job's execution had been
claimed when the attempt began. -/
structure RisexTask where
  jobId : JobId
  phase : RisexPhase
  late : Bool
deriving DecidableEq, Repr

/-- What is recorded: an execution is claimed, an order is posted. -/
inductive RisexEvent
  | claimed (executionId : ExecutionId) (jobId : JobId)
  | posted (executionId : ExecutionId) (jobId : JobId) (order : RisexPlaceOrder)
deriving DecidableEq, Repr

/-- The jobs, the executions, the attempts, and what happened. -/
structure RisexState where
  jobs : Table JobId RisexJob
  executions : RisexExecutions
  tasks : Table RisexTaskId RisexTask
  events : List RisexEvent

namespace RisexState

/-- A claim of the job's execution has been committed. -/
def jobClaimed (s : RisexState) (jobId : JobId) : Bool :=
  s.events.any fun
    | .claimed _ j => j = jobId
    | .posted _ _ _ => false

/-- The attempt has returned or raised. -/
def endTask (s : RisexState) (t : RisexTaskId) (jobs : Table JobId RisexJob) : RisexState :=
  { s with jobs := jobs, tasks := s.tasks.erase t }

/-- The attempt comes to this point. -/
def toPhase (s : RisexState) (t : RisexTaskId) (task : RisexTask) (phase : RisexPhase) :
    RisexState :=
  { s with tasks := s.tasks.insert t { task with phase := phase } }

end RisexState

/-! ## Pieces of the job code -/

/-- `_defer_for_resolution`. -/
def deferForResolution (job : RisexJob) : RisexJob :=
  { job with state := .retrying, attemptCount := job.attemptCount - 1 }

/-- `_finish_case_a_job`. -/
def finishCaseAJob (state : ExecutionState) (job : RisexJob) : RisexJob :=
  { job with state := if state = .filled then .done else .skipped }

/-- The states a settlement may write. -/
def caseATerminal : ExecutionState → Bool
  | .filled | .rejected | .canceled => true
  | .submitting | .unknown | .quarantined => false

/-- `_terminal_outcome_from_execution`. -/
def terminalOutcomeFromExecution (row : RisexExecution) : Option RisexSubmissionOutcome :=
  row.terminalOutcome.bind fun outcome =>
    if !outcome.definitive || !caseATerminal outcome.executionState then none
    else if outcome.executionState = .filled ∧ ¬∃ q ∈ outcome.filledQuantity, 0 < q then none
    else some outcome

/-- What the recovery of an execution on file comes to. -/
inductive CaseARecovery
  | proceed
  | finish (state : ExecutionState)
  | settle (outcome : RisexSubmissionOutcome)
deriving DecidableEq, Repr

/-- `recover_risex_case_a_job`: a terminal execution finishes the job, durable terminal evidence
resumes at provider truth, and anything else is left to the caller.  A blocked and a quarantined
execution skip the job, as every other terminal state but `FILLED` does. -/
def recoverRisexCaseAJob : Option RisexExecution → CaseARecovery
  | none => .proceed
  | some row =>
      if row.state.terminal then .finish row.state
      else
        match terminalOutcomeFromExecution row with
        | none => .proceed
        | some outcome => .settle outcome

/-- `unresolved_same_asset`, and the peer check of the two settlement routines. -/
def unresolvedSameAsset (executions : RisexExecutions) (userId : UserId) (asset : Asset)
    (excluded : Option JobId) : Bool :=
  Table.any executions fun jobId row =>
    some jobId ≠ excluded && row.userId = userId && row.asset = asset && row.state.unresolved

/-- Plan, prepare and check an order, and sign it with the nonce the provider selected. -/
def signOrder (normalized : Symbol → Symbol) (job : RisexJob) (reads : RisexPlanningReads)
    (preparation : RisexPreparationReads) (nonceAnchor nonceBitmapIndex : ℕ) :
    Except RisexError (RisexOrderIntent × RisexIocPlan × RisexRequest) := do
  let intent ← planRisexOrderIntent normalized job.toRisexOrderJob reads job.clientOrderId
  let plan ← prepareRisexIocPlan normalized preparation intent
  assertRisexPlanMatchesIntent intent plan
  return (intent, plan, ⟨plan.order, nonceAnchor, nonceBitmapIndex⟩)

/-- The flush of an instance whose response was assigned. -/
def writeResponse (seen row : RisexExecution) : RisexExecution :=
  { row with
    submissionStatus := seen.submissionStatus
    terminalOutcome := seen.terminalOutcome }

/-- The flush of an instance that was blocked: its response and its state. -/
def writeBlocked (seen row : RisexExecution) : RisexExecution :=
  { writeResponse seen row with state := .canceled }

/-- The flush of `settle_risex_execution_under_accounting_lock`. -/
def writeSettled (outcome : RisexSubmissionOutcome) (seen row : RisexExecution) :
    RisexExecution :=
  { writeResponse seen row with
    state := outcome.executionState
    exchangeOid := outcome.providerOrderId
    filledSize := outcome.filledQuantity.getD 0 }

/-! ## Actions -/

/-- What the workers do. -/
inductive RisexOp
  /-- A worker takes the job. -/
  | begin (t : RisexTaskId) (jobId : JobId)
  /-- The two checks at the head of the preparation, in one transaction. -/
  | check (t : RisexTaskId)
  | sign (t : RisexTaskId) (reads : RisexPlanningReads) (preparation : RisexPreparationReads)
      (nonceAnchor nonceBitmapIndex : ℕ)
  | persist (t : RisexTaskId) (newId : ExecutionId)
  /-- `process_risex_job` starts: the recovery and the load of the execution. -/
  | load (t : RisexTaskId)
  /-- `StrategyIntentAuthorizationError`. -/
  | refuseStrategy (t : RisexTaskId)
  | claim (t : RisexTaskId) (fence : FenceReads)
  | post (t : RisexTaskId)
  | respond (t : RisexTaskId) (response : RisexResponse)
  /-- The resolver of ambiguous executions has evidence for a terminal outcome. -/
  | resolve (t : RisexTaskId) (jobId : JobId) (outcome : RisexSubmissionOutcome)
  /-- A settlement under the ledger lock; `baseline` is whether the ledger is still the one read
  before the provider. -/
  | settle (t : RisexTaskId) (baseline : Bool)
  /-- The process dies, or a call raises. -/
  | fail (t : RisexTaskId)

section Step

variable (normalized : Symbol → Symbol)

/-- `recover_risex_case_a_job` at the head of `_run_risex_copy_job`. -/
def beginStep (s : RisexState) (t : RisexTaskId) (jobId : JobId) : RisexState :=
  match recoverRisexCaseAJob (s.executions.lookup jobId), s.executions.lookup jobId with
  | .finish state, _ => { s with jobs := Table.modify s.jobs jobId (finishCaseAJob state) }
  | .settle outcome, some row =>
      { s with tasks := s.tasks.insert t ⟨jobId, .settling row outcome, s.jobClaimed jobId⟩ }
  | _, _ => { s with tasks := s.tasks.insert t ⟨jobId, .started, s.jobClaimed jobId⟩ }

/-- `prepare_risex_worker_submission` up to the commit before the provider reads. -/
def checkStep (s : RisexState) (t : RisexTaskId) (task : RisexTask) (job : RisexJob) :
    RisexState :=
  if job.executionNetwork ≠ some .testnet then s.endTask t s.jobs
  else if (s.executions.lookup task.jobId).isSome then s.toPhase t task (.prepared none)
  else if unresolvedSameAsset s.executions job.userId job.asset none then
    s.toPhase t task (.prepared none)
  else s.toPhase t task .checked

/-- Persist the row, verify it and return the submission. -/
def persistStep (s : RisexState) (t : RisexTaskId) (task : RisexTask) (job : RisexJob)
    (newId : ExecutionId) (intent : RisexOrderIntent) (plan : RisexIocPlan)
    (request : RisexRequest) : RisexState :=
  match persistRisexPrePostExecution s.executions newId task.jobId job intent plan request with
  | .error _ => s.endTask t s.jobs
  | .ok (executions, row) =>
      let s' := { s with executions := executions }
      match verifyPersisted job request row with
      | .error _ => s'.endTask t s.jobs
      | .ok () =>
          s'.toPhase t task
            (.prepared (some ⟨row.executionId, job.cloid, job.clientOrderId, intent, plan,
              request⟩))

/-- `process_risex_job` up to the strategy check. -/
def loadStep (s : RisexState) (t : RisexTaskId) (task : RisexTask) (job : RisexJob)
    (submission : Option RisexSubmission) : RisexState :=
  let deferred := s.endTask t (Table.modify s.jobs task.jobId deferForResolution)
  if job.executionProvider ≠ some .risex ∨ job.executionNetwork ≠ some .testnet then deferred
  else
    match recoverRisexCaseAJob (s.executions.lookup task.jobId),
      s.executions.lookup task.jobId with
    | .finish state, _ =>
        s.endTask t (Table.modify s.jobs task.jobId (finishCaseAJob state))
    | .settle outcome, some row => s.toPhase t task (.settling row outcome)
    | _, some row =>
        match submission with
        | some submission => s.toPhase t task (.loaded row submission)
        | none => deferred
    | _, none => deferred

/-- The job and its execution, read again, were blocked in front of the POST. -/
def preSubmitBlocked (job : RisexJob) (row : Option RisexExecution) : Bool :=
  job.state = .skipped && row.any fun row =>
    row.state = .canceled && row.submissionStatus = .preSubmitBlocked

/-- Behind a refused claim: its rollback expires the instances, so both rows are read anew, and a
job that was blocked stays skipped. -/
def refusedStep (s : RisexState) (t : RisexTaskId) (task : RisexTask) (job : RisexJob) :
    RisexState :=
  if preSubmitBlocked job (s.executions.lookup task.jobId) then s.endTask t s.jobs
  else s.endTask t (Table.modify s.jobs task.jobId deferForResolution)

/-- `claim_risex_first_post` and what `process_risex_job` does with its result.  The `WHERE` of
the locked read is evaluated by the database; its columns are those of the loaded instance. -/
def claimStep (s : RisexState) (t : RisexTaskId) (task : RisexTask) (job : RisexJob)
    (fence : FenceReads) (seen : RisexExecution) (submission : RisexSubmission) : RisexState :=
  if (s.executions.lookup task.jobId).map (·.executionId) ≠ some submission.executionId then
    s.endTask t s.jobs
  else
    match claimRisexFirstPost job fence seen submission with
    | .error _ => s.endTask t s.jobs
    | .ok .refused => refusedStep s t task job
    | .ok (.blocked row) =>
        { s.endTask t (Table.modify s.jobs task.jobId fun j => { j with state := .skipped }) with
          executions := Table.modify s.executions task.jobId (writeBlocked row) }
    | .ok (.claimed row) =>
        { s.toPhase t task (.claimed row submission) with
          executions := Table.modify s.executions task.jobId (writeResponse row)
          events := .claimed submission.executionId task.jobId :: s.events }

/-- `process_risex_job` after `place_ioc` has returned. -/
def respondStep (s : RisexState) (t : RisexTaskId) (task : RisexTask) (seen : RisexExecution)
    (response : RisexResponse) : RisexState :=
  let outcome := classifyRisexRuntimeResponse response seen.requestedSize
  if outcome.definitive then
    let answered :=
      { seen with
        submissionStatus := .terminalEvidencePersisted
        terminalOutcome := some outcome }
    { s.toPhase t task (.settling answered outcome) with
      executions := Table.modify s.executions task.jobId (writeResponse answered) }
  else
    let answered := { seen with submissionStatus := .acknowledged }
    { s.endTask t (Table.modify s.jobs task.jobId deferForResolution) with
      executions := Table.modify s.executions task.jobId (writeResponse answered) }

/-- The part of both settlement routines under the ledger lock. -/
def settleStep (s : RisexState) (t : RisexTaskId) (task : RisexTask) (seen : RisexExecution)
    (outcome : RisexSubmissionOutcome) (baseline : Bool) : RisexState :=
  let deferred := s.endTask t (Table.modify s.jobs task.jobId deferForResolution)
  if seen.state.terminal then
    s.endTask t (Table.modify s.jobs task.jobId (finishCaseAJob seen.state))
  else if !baseline then deferred
  else if unresolvedSameAsset s.executions seen.userId seen.asset (some task.jobId) then deferred
  else if !outcome.definitive || !caseATerminal outcome.executionState then deferred
  else
    { s.endTask t (Table.modify s.jobs task.jobId (finishCaseAJob outcome.executionState)) with
      executions := Table.modify s.executions task.jobId (writeSettled outcome seen) }

/-- One action of the writer; `none` when it is not enabled. -/
def risexStep (s : RisexState) (op : RisexOp) : Option RisexState :=
  match op with
  | .begin t jobId =>
      if (s.tasks.lookup t).isNone && (s.jobs.lookup jobId).isSome then
        some (beginStep s t jobId)
      else none
  | .resolve t jobId outcome =>
      match s.tasks.lookup t, s.executions.lookup jobId with
      | none, some row =>
          if (s.jobs.lookup jobId).isSome ∧ row.state.unresolved ∧ outcome.definitive ∧
              (outcome.executionState = .filled ∨ outcome.executionState = .canceled) then
            let task : RisexTask := ⟨jobId, .settling row outcome, s.jobClaimed jobId⟩
            some { s with tasks := s.tasks.insert t task }
          else none
      | _, _ => none
  | .check t => withTask t fun task job =>
      match task.phase with
      | .started => some (checkStep s t task job)
      | _ => none
  | .sign t reads preparation nonceAnchor nonceBitmapIndex => withTask t fun task job =>
      match task.phase with
      | .checked =>
          match signOrder normalized job reads preparation nonceAnchor nonceBitmapIndex with
          | .error _ => some (s.endTask t s.jobs)
          | .ok (intent, plan, request) => some (s.toPhase t task (.signed intent plan request))
      | _ => none
  | .persist t newId => withTask t fun task job =>
      match task.phase with
      | .signed intent plan request =>
          some (persistStep s t task job newId intent plan request)
      | _ => none
  | .load t => withTask t fun task job =>
      match task.phase with
      | .prepared submission => some (loadStep s t task job submission)
      | _ => none
  | .refuseStrategy t => withTask t fun task _ =>
      match task.phase with
      | .loaded _ _ =>
          some (s.endTask t (Table.modify s.jobs task.jobId fun j => { j with state := .skipped }))
      | _ => none
  | .claim t fence => withTask t fun task job =>
      match task.phase with
      | .loaded seen submission => some (claimStep s t task job fence seen submission)
      | _ => none
  | .post t => withTask t fun task _ =>
      match task.phase with
      | .claimed seen submission =>
          some { s.toPhase t task (.posted seen submission) with
            events := .posted submission.executionId task.jobId submission.request.order ::
              s.events }
      | _ => none
  | .respond t response => withTask t fun task _ =>
      match task.phase with
      | .posted seen _ => some (respondStep s t task seen response)
      | _ => none
  | .settle t baseline => withTask t fun task _ =>
      match task.phase with
      | .settling seen outcome => some (settleStep s t task seen outcome baseline)
      | _ => none
  | .fail t => withTask t fun _ _ => some (s.endTask t s.jobs)
where
  withTask (t : RisexTaskId) (f : RisexTask → RisexJob → Option RisexState) :
      Option RisexState :=
    (s.tasks.lookup t).bind fun task => (s.jobs.lookup task.jobId).bind fun job => f task job

end Step

end HyperCopy

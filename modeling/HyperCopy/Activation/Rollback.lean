import HyperCopy.Executor.State
import HyperCopy.Library.Transition
import HyperCopy.Risex.RiskPlanning

/-!
# Activating and rolling back

`POST /copy/resume` of `api/activation.py`.  The request commits the copy state ACTIVE first
(`COPY_ACTIVATION_STARTED`), then reconciles, repairs the stream and commits `COPY_RESUMED`, all on
the session of the request; an exception goes to `_rollback_activation`, which works on the same
session: it reads the unfinished jobs of the user created since the start, skips them, pauses the
user and commits.

A statement, flush or commit that fails leaves the session failed, and a failed session raises at
the next statement.  The handler inside `reconcile_observed_follower` commits what has been added
so far and raises on; where its commit fails too, the session is failed.  The commit of the start
can also take effect and be reported as failed, and nothing catches that.

The two providers differ in the check of pending jobs before the start, and in the end.  On RISEx
the whole activation runs inside `position_ledger_lock`, a transaction on a connection of its own,
which commits behind `COPY_RESUMED`, where no handler of the endpoint sees it fail.  On Hyperliquid
the lock is the one of `reconcile_user`, and a failure of its commit is an exception behind the
alignment like any other.

Around the request run the planners of other services (the watcher, the periodic reconciler),
which read the copy state and insert their job later, the workers, the stale-lease sweeper, and
everything that skips a waiting job.  A worker reads the user after its claim.  An advisory lock
and the renewal of a lease make a worker wait or give up, and are left out.
-/

namespace HyperCopy

/-- The handle of a pass that plans a job. -/
abbrev PlannerId := ℕ

/-! ## Orders -/

/-- A plan with a leg that is not reduce-only. -/
def SizingResult.addsExposure (p : SizingResult) : Bool :=
  !p.reduceOnly || p.secondary.any fun leg => !leg.reduceOnly

/-- What a worker plans an order with, beside the copy state it has read. -/
inductive OrderPlanning
  | hyperliquid (job : CopyJob) (current : ℚ) (reads : AttemptReads)
  | profitExit (job : CopyJob) (userActive : Bool) (reads : ProfitExitReads)
  | risex (job : RisexOrderJob) (reads : RisexPlanningReads) (clientOrderId : ℕ)

/-- Does the planned order add exposure?  `none` where no order is planned. -/
def OrderPlanning.addsExposure (normalized : Symbol → Symbol) (copyState : CopyState) :
    OrderPlanning → Option Bool
  | .hyperliquid job current reads =>
      let user := reads.user.map fun status => { status with copyState := copyState }
      match planAttempt job current { reads with user := user } with
      | .submit submission => some submission.plan.addsExposure
      | .stop _ | .profitExit => none
  | .profitExit job userActive reads =>
      match planProfitExit job ⟨userActive, copyState⟩ reads with
      | .submit order => some order.plan.addsExposure
      | _ => none
  | .risex job reads clientOrderId =>
      if copyState = .shadow then none
      else
        let runtime := { reads.runtime with userPaused := copyState = .paused }
        match planRisexOrderIntent normalized job { reads with runtime := runtime } clientOrderId with
        | .ok intent => some !intent.reduceOnly
        | .error _ => none

/-! ## State -/

/-- A `copy_jobs` row; `claimed` records that some worker has claimed it. -/
structure ActivationJob where
  userId : UserId
  executionEpochId : Option EpochId
  state : JobState
  createdAt : ℕ
  claimed : Bool
deriving DecidableEq, Repr

/-- A job as it is inserted. -/
def waitingJob (userId : UserId) (epochId : Option EpochId) (createdAt : ℕ) : ActivationJob :=
  ⟨userId, epochId, .queued, createdAt, false⟩

/-- A transaction of another service that has found the user active or in shadow mode.  Its start
is what `created_at` will be. -/
structure PlannerTask where
  userId : UserId
  startedAt : ℕ
deriving DecidableEq, Repr

/-- A worker on a claimed job, and the copy state once it has read it. -/
structure ClaimedJob where
  jobId : JobId
  userId : UserId
  copyState : Option CopyState
deriving DecidableEq, Repr

/-- How far the request has come. -/
inductive ActivationPhase
  | admitted
  /-- `COPY_ACTIVATION_STARTED` is committed; reconciling, with the jobs added to the session. -/
  | aligning (added : List (JobId × Option EpochId))
  | repairing
  | resuming
  /-- `COPY_RESUMED` is committed, and the position ledger still locked. -/
  | unlocking
  /-- An exception has arrived at the handler of the endpoint. -/
  | caught
  /-- `_rollback_activation` has read these jobs. -/
  | compensating (rows : List JobId)
deriving DecidableEq, Repr

/-- The request under way: its user and provider, when it started, and its phase. -/
structure ActivationRequest where
  userId : UserId
  provider : ExecutionProvider
  startedAt : ℕ
  sessionFailed : Bool
  phase : ActivationPhase
deriving DecidableEq, Repr

/-- An order that a worker has submitted. -/
structure SentOrder where
  jobId : JobId
  userId : UserId
  addsExposure : Bool
deriving DecidableEq, Repr

/-- `orders` and `failures` are histories, newest first: the orders that were sent, and the user
and the start of every activation that ended with an error. -/
structure ActivationState where
  copyStates : Table UserId CopyState
  jobs : Table JobId ActivationJob
  planners : Table PlannerId PlannerTask
  workers : Table WorkerId ClaimedJob
  request : Option ActivationRequest
  orders : List SentOrder
  failures : List (UserId × ℕ)
  clock : ℕ

/-! ## The request -/

/-- The pending jobs that block an activation: any of the user on Hyperliquid, those of the active
epoch on RISEx. -/
def pendingJobBlocks (jobs : Table JobId ActivationJob) (userId : UserId)
    (provider : ExecutionProvider) (epochId : EpochId) : Bool :=
  Table.any jobs fun _ job => job.userId = userId && job.state.active &&
    (provider = .hyperliquid || job.executionEpochId = some epochId)

/-- The request comes to its next phase. -/
def ActivationRequest.advance (r : ActivationRequest) (phase : ActivationPhase) :
    ActivationRequest :=
  { r with phase := phase }

/-- An exception reaches the handler; the session has to be rolled back before it is used. -/
def ActivationRequest.fail (r : ActivationRequest) : ActivationRequest :=
  { r with phase := .caught, sessionFailed := true }

/-- The request answers with an error. -/
def endWithError (s : ActivationState) (r : ActivationRequest) : ActivationState :=
  { s with request := none, failures := (r.userId, r.startedAt) :: s.failures }

/-- The jobs added to the session are committed; `createdAt` is the start of its transaction. -/
def insertJobs (jobs : Table JobId ActivationJob) (userId : UserId) (createdAt : ℕ) :
    List (JobId × Option EpochId) → Option (Table JobId ActivationJob)
  | [] => some jobs
  | (id, epochId) :: added =>
      if (jobs.lookup id).isSome then none
      else insertJobs (jobs.insert id (waitingJob userId epochId createdAt)) userId createdAt added

/-- The select of `_rollback_activation`. -/
def rollbackRows (jobs : Table JobId ActivationJob) (r : ActivationRequest) : List JobId :=
  (jobs.entries.filter fun e =>
    e.2.userId = r.userId && r.startedAt ≤ e.2.createdAt && e.2.state.active).map (·.1)

/-- The job is skipped. -/
def ActivationJob.skip (job : ActivationJob) : ActivationJob := { job with state := .skipped }

/-- Its updates, whatever the rows have become. -/
def skipRows (jobs : Table JobId ActivationJob) (rows : List JobId) : Table JobId ActivationJob :=
  rows.foldl (fun t id => Table.modify t id ActivationJob.skip) jobs

/-- `_rollback_activation` commits. -/
def rollbackActivation (s : ActivationState) (r : ActivationRequest) (rows : List JobId) :
    ActivationState :=
  endWithError
    { s with
      jobs := skipRows s.jobs rows
      copyStates := s.copyStates.insert r.userId .paused } r

/-- `COPY_RESUMED` is committed: on Hyperliquid the request is over, on RISEx it holds the lock. -/
def ActivationRequest.resumed (r : ActivationRequest) : Option ActivationRequest :=
  match r.provider with
  | .hyperliquid => none
  | .risex => some (r.advance .unlocking)

/-- What happens to the request. -/
inductive RequestOp
  | preflight (userId : UserId) (provider : ExecutionProvider) (epochId : EpochId)
  /-- Refused, or the process dies. -/
  | drop
  | start (startedAt : ℕ)
  /-- The commit of `COPY_ACTIVATION_STARTED` takes effect and is reported as failed. -/
  | startUnanswered (startedAt : ℕ)
  | planJob (id : JobId) (epochId : Option EpochId)
  | commitAlignment (createdAt : ℕ)
  /-- An exception inside the reconciliation, whose handler commits what was added. -/
  | alignmentRaises (createdAt : ℕ)
  | repairStream
  | raises
  | resume
  /-- A statement, flush or commit on the session of the request fails. -/
  | databaseError
  | readCompensation
  | commitCompensation
  /-- The transaction of the position ledger lock commits. -/
  | releaseLock
  | lockCommitFails

/-- One step of the request. -/
def applyRequestOp (s : ActivationState) (now : ℕ) (op : RequestOp) : Option ActivationState :=
  match s.request with
  | none =>
      match op with
      | .preflight userId provider epochId =>
          if (s.copyStates.lookup userId).isNone || pendingJobBlocks s.jobs userId provider epochId
          then none
          else
            let request : ActivationRequest := ⟨userId, provider, now, false, .admitted⟩
            some { s with request := some request }
      | _ => none
  | some r =>
      match r.phase, op with
      | _, .drop => some { s with request := none }
      | .admitted, .start startedAt =>
          if startedAt < r.startedAt || now < startedAt then none
          else
            let request : ActivationRequest := { r with startedAt := startedAt, phase := .aligning [] }
            some { s with
              copyStates := s.copyStates.insert r.userId .active
              request := some request }
      | .admitted, .startUnanswered startedAt =>
          if startedAt < r.startedAt || now < startedAt then none
          else
            let request : ActivationRequest := { r with startedAt := startedAt }
            some (endWithError
              { s with copyStates := s.copyStates.insert r.userId .active } request)
      | .aligning added, .planJob id epochId =>
          some { s with request := some (r.advance (.aligning (added ++ [(id, epochId)]))) }
      | .aligning added, .commitAlignment createdAt =>
          if createdAt < r.startedAt || now < createdAt then none
          else (insertJobs s.jobs r.userId createdAt added).map fun jobs =>
            { s with jobs := jobs, request := some (r.advance .repairing) }
      | .aligning added, .alignmentRaises createdAt =>
          if createdAt < r.startedAt || now < createdAt then none
          else (insertJobs s.jobs r.userId createdAt added).map fun jobs =>
            { s with jobs := jobs, request := some (r.advance .caught) }
      | .repairing, .repairStream => some { s with request := some (r.advance .resuming) }
      | .repairing, .raises | .resuming, .raises =>
          some { s with request := some (r.advance .caught) }
      | .resuming, .resume => some { s with request := r.resumed }
      | .unlocking, .releaseLock => some { s with request := none }
      | .unlocking, .lockCommitFails => some (endWithError s r)
      | .aligning _, .databaseError | .repairing, .databaseError | .resuming, .databaseError =>
          some { s with request := some r.fail }
      | .caught, .databaseError | .compensating _, .databaseError => some (endWithError s r)
      | .caught, .readCompensation =>
          if r.sessionFailed then some (endWithError s r)
          else some { s with request := some (r.advance (.compensating (rollbackRows s.jobs r))) }
      | .compensating rows, .commitCompensation => some (rollbackActivation s r rows)
      | _, _ => none

/-! ## The other services -/

/-- What planners and workers do meanwhile. -/
inductive ServiceOp
  | beginPlanner (planner : PlannerId) (userId : UserId) (startedAt : ℕ)
  | commitPlanner (planner : PlannerId) (id : JobId) (epochId : Option EpochId)
  | claim (worker : WorkerId) (id : JobId)
  | readUser (worker : WorkerId)
  | submit (worker : WorkerId) (planning : OrderPlanning)
  | finish (worker : WorkerId) (state : JobState)
  | crashWorker (worker : WorkerId)
  | releaseStale (id : JobId) (state : JobState)
  /-- Superseded, expired, or unable to be delivered. -/
  | skip (id : JobId)

/-- A worker takes the job. -/
def ActivationJob.claim (job : ActivationJob) : ActivationJob :=
  { job with state := .processing, claimed := true }

/-- The state alone is written. -/
def ActivationJob.setState (job : ActivationJob) (state : JobState) : ActivationJob :=
  { job with state := state }

/-- The states a worker or the sweeper leaves a job in. -/
def closesWith (state : JobState) : Bool := state ≠ .queued && state ≠ .processing

/-- One step of a planner or a worker. -/
def applyServiceOp (normalized : Symbol → Symbol) (s : ActivationState) (now : ℕ) :
    ServiceOp → Option ActivationState
  | .beginPlanner planner userId startedAt =>
      if (s.planners.lookup planner).isSome || now < startedAt ||
          (s.copyStates.lookup userId).all (· = .paused) then none
      else some { s with planners := s.planners.insert planner ⟨userId, startedAt⟩ }
  | .commitPlanner planner id epochId =>
      match s.planners.lookup planner with
      | none => none
      | some task =>
          if (s.jobs.lookup id).isSome then none
          else
            let job := waitingJob task.userId epochId task.startedAt
            some { s with jobs := s.jobs.insert id job, planners := s.planners.erase planner }
  | .claim worker id =>
      match s.jobs.lookup id with
      | none => none
      | some job =>
          if (s.workers.lookup worker).isNone && (job.state = .queued || job.state = .retrying) then
            some { s with
              jobs := s.jobs.insert id job.claim
              workers := s.workers.insert worker ⟨id, job.userId, none⟩ }
          else none
  | .readUser worker =>
      match s.workers.lookup worker with
      | none => none
      | some task =>
          let read : ClaimedJob := { task with copyState := s.copyStates.lookup task.userId }
          some { s with workers := s.workers.insert worker read }
  | .submit worker planning =>
      match s.workers.lookup worker with
      | none => none
      | some task =>
          (task.copyState.bind fun c => planning.addsExposure normalized c).map fun adds =>
            { s with orders := ⟨task.jobId, task.userId, adds⟩ :: s.orders }
  | .finish worker state =>
      match s.workers.lookup worker with
      | none => none
      | some task =>
          if closesWith state then
            some { s with
              jobs := Table.modify s.jobs task.jobId fun job => job.setState state
              workers := s.workers.erase worker }
          else none
  | .crashWorker worker => some { s with workers := s.workers.erase worker }
  | .releaseStale id state =>
      match s.jobs.lookup id with
      | none => none
      | some job =>
          if job.state = .processing && (state = .retrying || state = .dead) then
            some { s with jobs := s.jobs.insert id (job.setState state) }
          else none
  | .skip id =>
      match s.jobs.lookup id with
      | none => none
      | some job =>
          if job.state = .queued || job.state = .retrying then
            some { s with jobs := s.jobs.insert id job.skip }
          else none

/-! ## Steps -/

/-- A step of the request, or of the services beside it. -/
inductive ActivationOp
  | request (op : RequestOp)
  | service (op : ServiceOp)

/-- An operation at a time. -/
structure ActivationAction where
  now : ℕ
  op : ActivationOp

/-- One operation. -/
def applyActivationOp (normalized : Symbol → Symbol) (s : ActivationState) (now : ℕ) :
    ActivationOp → Option ActivationState
  | .request op => applyRequestOp s now op
  | .service op => applyServiceOp normalized s now op

/-- Time moves forward with every step. -/
def activationStep (normalized : Symbol → Symbol) (s : ActivationState) (a : ActivationAction) :
    Option ActivationState :=
  if s.clock < a.now then
    (applyActivationOp normalized s a.now a.op).map fun t => { t with clock := a.now }
  else none

/-- Any users and jobs, and nothing under way. -/
def ActivationState.initial (copyStates : Table UserId CopyState) (jobs : Table JobId ActivationJob) :
    ActivationState :=
  ⟨copyStates, jobs, ∅, ∅, none, [], [], 0⟩

end HyperCopy

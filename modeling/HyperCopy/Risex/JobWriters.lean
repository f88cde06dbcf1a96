import HyperCopy.Risex.FirstPost
import HyperCopy.Executor.State
import HyperCopy.Strategy.Intents

/-!
# Everybody who ends a RISEx job

Beside the RISEx writer, which finishes a job from its terminal execution, a job is ended by the
worker before it submits (`workers/execution_worker.py`), by the publisher and the maintenance of the
stream (`services/queue.py`, `services/strategy_intents.py`), by the release of stale leases
(`services/execution.py`) and by an activation that is rolled back.  Each is one transaction here,
interleaved with the attempts of the writer.

What these routines read in other tables (the destination of the user, the network topology, newer
intents) is carried by the action.
-/

namespace HyperCopy

open Transition

/-- The columns of a job that its other writers read. -/
structure RisexJobColumns where
  origin : JobOrigin
  createdAt : ℕ
  lockedUntil : Option ℕ
  nextAttemptAt : Option ℕ
deriving DecidableEq, Repr

/-- The submission writer with the columns of the jobs that it does not touch. -/
structure RisexJobSystem where
  clock : ℕ
  writer : RisexState
  columns : Table JobId RisexJobColumns

/-- `STRATEGY_JOB_MAX_AGE_SECONDS`. -/
def strategyJobMaxAge : ℕ := 600

/-! ## What a writer does to a job -/

/-- `_retry_or_dead`, and the release of a stale job. -/
def retryOrDead (job : RisexJob) : RisexJob :=
  { job with state := if maxJobRetries ≤ job.attemptCount then .dead else .retrying }

/-- `_defer_risex_window_unavailable`. -/
def deferWindowUnavailable (job : RisexJob) : RisexJob :=
  { job with state := .retrying, attemptCount := job.attemptCount - 1 }

/-- The job ends in this state. -/
def endJob (state : JobState) (job : RisexJob) : RisexJob :=
  { job with state }

namespace RisexJobSystem

/-- The row of the job is written. -/
def setJob (s : RisexJobSystem) (jobId : JobId) (f : RisexJob → RisexJob) : RisexJobSystem :=
  { s with writer := { s.writer with jobs := Table.modify s.writer.jobs jobId f } }

/-- The other columns of the job are written. -/
def setColumns (s : RisexJobSystem) (jobId : JobId) (f : RisexJobColumns → RisexJobColumns) :
    RisexJobSystem :=
  { s with columns := Table.modify s.columns jobId f }

/-- The job of an attempt and its phase. -/
def attempt (s : RisexJobSystem) (t : RisexTaskId) : Option RisexTask :=
  s.writer.tasks.lookup t

/-- The attempt is over. -/
def endAttempt (s : RisexJobSystem) (t : RisexTaskId) : RisexJobSystem :=
  { s with writer := { s.writer with tasks := s.writer.tasks.erase t } }

/-- The next attempt in `delay` seconds. -/
def retryIn (s : RisexJobSystem) (jobId : JobId) (delay : ℕ) : RisexJobSystem :=
  s.setColumns jobId fun columns => { columns with nextAttemptAt := some (s.clock + delay) }

/-- `unresolved_risex_execution`. -/
def unresolved (s : RisexJobSystem) (jobId : JobId) : Bool :=
  (s.writer.executions.lookup jobId).any fun row => row.state.unresolved

/-- The row of a job and its columns. -/
def row (s : RisexJobSystem) (jobId : JobId) : Option (RisexJob × RisexJobColumns) :=
  (s.writer.jobs.lookup jobId).bind fun job => (s.columns.lookup jobId).map fun columns =>
    (job, columns)

/-! ## The writers -/

/-- `claim_job`. -/
def claimJob (s : RisexJobSystem) (jobId : JobId) : Option RisexJobSystem :=
  (s.row jobId).bind fun (job, columns) =>
    if job.state.waiting ∧ columns.nextAttemptAt.all (· ≤ s.clock) then
      some ((s.setJob jobId fun job =>
          { job with state := .processing, attemptCount := job.attemptCount + 1 }).setColumns jobId
        fun columns => { columns with lockedUntil := some (s.clock + jobLeaseSeconds) })
    else none

/-- `release_stale_jobs`, of one job. -/
def releaseStaleJob (s : RisexJobSystem) (jobId : JobId) : Option RisexJobSystem :=
  (s.row jobId).bind fun (job, columns) =>
    if job.state = .processing ∧ columns.lockedUntil.any (· < s.clock) then
      some ((s.setJob jobId retryOrDead).retryIn jobId (min (2 ^ max job.attemptCount 1) 60))
    else none

/-- `expire_stale_strategy_jobs`, of one job. -/
def expireStaleStrategyJob (s : RisexJobSystem) (jobId : JobId) : Option RisexJobSystem :=
  (s.row jobId).bind fun (job, columns) =>
    if job.state.waiting ∧ columns.origin.isStrategy ∧
        columns.createdAt + strategyJobMaxAge ≤ s.clock ∧
        (job.executionProvider ≠ some .risex ∨ s.unresolved jobId = false) then
      some (s.setJob jobId (endJob .skipped))
    else none

/-- A writer that skips the jobs it applies to, without a look at their executions. -/
def skipJob (s : RisexJobSystem) (jobId : JobId) (applies : RisexJob → RisexJobColumns → Bool) :
    Option RisexJobSystem :=
  (s.row jobId).bind fun (job, columns) =>
    if applies job columns then some (s.setJob jobId (endJob .skipped)) else none

/-- `prepare_job_destination_for_execution` of a job that is not bound to the active destination. -/
def refuseDestination (s : RisexJobSystem) (jobId : JobId) : Option RisexJobSystem :=
  s.skipJob jobId fun job _ => job.state.active

/-- `handle_job_id` of a job of another network topology. -/
def refuseNetworks (s : RisexJobSystem) (jobId : JobId) : Option RisexJobSystem :=
  s.skipJob jobId fun job columns => job.state.active && columns.origin.isStrategy

/-- `publish_job` and `repair_stream` of a job of the master's own account. -/
def refuseMasterSource (s : RisexJobSystem) (jobId : JobId) : Option RisexJobSystem :=
  s.skipJob jobId fun job _ => job.state.waiting

/-- `_mark_superseded`. -/
def markSuperseded (s : RisexJobSystem) (jobId : JobId) : Option RisexJobSystem :=
  s.skipJob jobId fun job columns => job.state.waiting && columns.origin.isStrategy

/-- `_rollback_activation`, of one job. -/
def rollbackActivation (s : RisexJobSystem) (jobId : JobId) : Option RisexJobSystem :=
  s.skipJob jobId fun job _ => job.state.active

/-! ### The worker before it submits -/

/-- A write of `_run_risex_copy_job` that ends an attempt in one of the given phases. -/
def stopAttempt (s : RisexJobSystem) (t : RisexTaskId) (phases : RisexPhase → Bool)
    (f : RisexJob → RisexJob) : Option RisexJobSystem :=
  (s.attempt t).bind fun task =>
    if phases task.phase then some ((s.setJob task.jobId f).endAttempt t) else none

/-- Before the preparation. -/
def atStart : RisexPhase → Bool
  | .started => true
  | _ => false

/-- In the preparation. -/
def inPreparation : RisexPhase → Bool
  | .started | .checked | .signed _ _ _ => true
  | _ => false

/-- The window is not enabled. -/
def refuseWindow (s : RisexJobSystem) (t : RisexTaskId) : Option RisexJobSystem :=
  (s.attempt t).bind fun task =>
    (s.stopAttempt t atStart deferWindowUnavailable).map fun s => s.retryIn task.jobId 2

/-- The runtime context has changed, or the singleton is not established. -/
def refuseContext (s : RisexJobSystem) (t : RisexTaskId) : Option RisexJobSystem :=
  s.stopAttempt t atStart (endJob .dead)

/-- `RISExWorkerCredentialResolutionError`, with its job state. -/
def refuseCredential (s : RisexJobSystem) (t : RisexTaskId) (stale : Bool) :
    Option RisexJobSystem :=
  s.stopAttempt t atStart (endJob (if stale then .skipped else .dead))

/-- Another exception of the preparation. -/
def failPreparation (s : RisexJobSystem) (t : RisexTaskId) (delay : ℕ) : Option RisexJobSystem :=
  (s.attempt t).bind fun task =>
    (s.stopAttempt t inPreparation retryOrDead).map fun s => s.retryIn task.jobId delay

/-- The job whose preparation raises at a step of the writer. -/
def preparationRaises (normalized : Symbol → Symbol) (s : RisexState) (op : RisexOp) :
    Option JobId :=
  match op with
  | .check t => withTask t fun task job =>
      if job.executionNetwork ≠ some .testnet then some task.jobId else none
  | .sign t reads preparation nonceAnchor nonceBitmapIndex => withTask t fun task job =>
      match signOrder normalized job reads preparation nonceAnchor nonceBitmapIndex with
      | .error _ => some task.jobId
      | .ok _ => none
  | .persist t newId => withTask t fun task job =>
      match task.phase with
      | .signed intent plan request =>
          match persistRisexPrePostExecution s.executions newId task.jobId job intent plan request
            with
          | .error _ => some task.jobId
          | .ok (_, row) =>
              match verifyPersisted job request row with
              | .error _ => some task.jobId
              | .ok () => none
      | _ => none
  | _ => none
where
  withTask (t : RisexTaskId) (f : RisexTask → RisexJob → Option JobId) : Option JobId :=
    (s.tasks.lookup t).bind fun task => (s.jobs.lookup task.jobId).bind fun job => f task job

/-- A step of the writer; an exception of the preparation goes to `_retry_or_dead`. -/
def writerStep (normalized : Symbol → Symbol) (s : RisexJobSystem) (op : RisexOp) :
    Option RisexJobSystem :=
  (risexStep normalized s.writer op).map fun writer =>
    match preparationRaises normalized s.writer op with
    | none => { s with writer }
    | some jobId => setJob { s with writer } jobId retryOrDead

end RisexJobSystem

/-! ## The system -/

/-- The writers of a job. -/
inductive RisexJobOp
  | tick (clock : ℕ)
  | writer (op : RisexOp)
  | claimJob (jobId : JobId)
  | releaseStaleJob (jobId : JobId)
  | expireStaleStrategyJob (jobId : JobId)
  | refuseDestination (jobId : JobId)
  | refuseNetworks (jobId : JobId)
  | refuseMasterSource (jobId : JobId)
  | markSuperseded (jobId : JobId)
  | rollbackActivation (jobId : JobId)
  | refuseWindow (t : RisexTaskId)
  | refuseContext (t : RisexTaskId)
  | refuseCredential (t : RisexTaskId) (stale : Bool)
  | failPreparation (t : RisexTaskId) (delay : ℕ)

/-- One write. -/
def risexJobStep (normalized : Symbol → Symbol) (s : RisexJobSystem) :
    RisexJobOp → Option RisexJobSystem
  | .tick clock => if s.clock ≤ clock then some { s with clock } else none
  | .writer op => s.writerStep normalized op
  | .claimJob jobId => s.claimJob jobId
  | .releaseStaleJob jobId => s.releaseStaleJob jobId
  | .expireStaleStrategyJob jobId => s.expireStaleStrategyJob jobId
  | .refuseDestination jobId => s.refuseDestination jobId
  | .refuseNetworks jobId => s.refuseNetworks jobId
  | .refuseMasterSource jobId => s.refuseMasterSource jobId
  | .markSuperseded jobId => s.markSuperseded jobId
  | .rollbackActivation jobId => s.rollbackActivation jobId
  | .refuseWindow t => s.refuseWindow t
  | .refuseContext t => s.refuseContext t
  | .refuseCredential t stale => s.refuseCredential t stale
  | .failPreparation t delay => s.failPreparation t delay

end HyperCopy

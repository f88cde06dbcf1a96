import HyperCopy.Delivery.Queue
import HyperCopy.Library.Transition

/-!
# Workers, the stream and the database fallback

`workers/execution_worker.py` and `workers/resilient_execution_worker.py`: a worker takes a job id
from the stream, or from the database where the stream gives it none, loads the row, refuses or
claims it, and ends the attempt.  Every step is one transaction or one message.  A worker can lose
what it holds at any time, the group can be created again from the start of the stream, entries can
be trimmed away unread, and anybody else can end a job.

A message that has been given to a worker is never given again, acknowledged or not: no consumer
reads the pending entries.  Acknowledgement therefore does not appear.
-/

namespace HyperCopy

/-- How a claimed attempt ends. -/
inductive AttemptEnd
  /-- `_finish`, and the writers like it -/
  | finish (state : JobState)
  /-- `_retry_or_dead` and `_retry_admin_job` -/
  | retryOrDead (delay : ℕ)
  /-- `_defer_risex_window_unavailable` -/
  | windowUnavailable
  /-- `_defer_for_resolution` -/
  | deferForResolution
deriving DecidableEq, Repr

/-- A claim of the row by a worker whose session has read `raw`: the attempt is counted from what
the session has read. -/
def QueuedJob.claim (job raw : QueuedJob) (worker : WorkerId) (now : ℕ) : QueuedJob :=
  { job with
    state := .processing
    owner := some worker
    lockedUntil := some (now + jobLeaseSeconds)
    attemptCount := raw.attemptCount + 1 }

/-- The row as an attempt ends it that has claimed it as `claimed`. -/
def QueuedJob.endAttempt (job claimed : QueuedJob) (now : ℕ) : AttemptEnd → QueuedJob
  | .finish state => { job with state, owner := none, lockedUntil := none }
  | .retryOrDead delay =>
    if maxJobRetries ≤ claimed.attemptCount then
      { job with state := .dead, owner := none, lockedUntil := none }
    else
      { job with
        state := .retrying
        owner := none
        lockedUntil := none
        nextAttemptAt := some (now + delay)
        enqueuedAt := none }
  | .windowUnavailable =>
    { job with
      state := .retrying
      owner := none
      lockedUntil := none
      attemptCount := claimed.attemptCount - 1
      nextAttemptAt := some (now + 2)
      enqueuedAt := none }
  | .deferForResolution =>
    { job with
      state := .retrying
      owner := none
      lockedUntil := none
      attemptCount := claimed.attemptCount - 1
      enqueuedAt := none }

/-- The states an attempt can finish in. -/
def AttemptEnd.terminal : AttemptEnd → Bool
  | finish state => !state.active
  | retryOrDead _ | windowUnavailable | deferForResolution => true

/-- The checks of `handle_job_id` in front of the claim. -/
structure HandleReads where
  bound : Bool
  supported : Bool
  /-- `_job_matches_current_networks` -/
  networks : Bool
deriving DecidableEq, Repr

/-- The worker takes the job. -/
def HandleReads.accepts (reads : HandleReads) : Bool :=
  reads.bound && reads.supported && reads.networks

/-- What publishers, workers and the repair do. -/
inductive DeliveryOp
  | tick (clock : ℕ)
  | create (jobId : JobId) (job : QueuedJob)
  | publish (jobId : JobId) (reads : PublishReads)
  /-- the entry is in the stream, the transaction is lost -/
  | publishRaises (jobId : JobId)
  | repairStream (reads : PassReads)
  | repairStreamRaises (reads : PassReads) (n : ℕ)
  | expire (reads : PassReads)
  | releaseStale (jobId : JobId)
  | trim (n : ℕ)
  | regroup
  | missing (userId asset : String) (intentOrder : ℤ) (redisTime : ℚ)
  | read (worker : WorkerId)
  | takeFromDatabase (worker : WorkerId) (reads : PassReads)
  | load (worker : WorkerId)
  | rebind (worker : WorkerId)
  | refuse (worker : WorkerId) (reads : HandleReads)
  | claim (worker : WorkerId)
  | renew (worker : WorkerId)
  | rejectAction (worker : WorkerId)
  | finish (worker : WorkerId) (outcome : AttemptEnd)
  | leave (worker : WorkerId)
  | endJob (jobId : JobId) (state : JobState)

namespace DeliveryState

/-- The worker comes to this point. -/
def putWorker (s : DeliveryState) (worker : WorkerId) (phase : WorkerPhase) : DeliveryState :=
  { s with workers := s.workers.insert worker phase }

/-- The worker has no job any more. -/
def dropWorker (s : DeliveryState) (worker : WorkerId) : DeliveryState :=
  { s with workers := s.workers.erase worker }

/-- A new row, as the planners write it. -/
def create (s : DeliveryState) (jobId : JobId) (job : QueuedJob) : Option DeliveryState :=
  if (s.jobs.lookup jobId).isSome then none
  else
    let row : QueuedJob :=
      { job with
        state := .queued
        owner := none
        lockedUntil := none
        attemptCount := 0
        nextAttemptAt := none
        enqueuedAt := none
        createdAt := s.clock
        updatedAt := s.clock
        context := { job.context with repairPending := none, repairAccountedOrder := none } }
    some { s with jobs := s.jobs.insert jobId row }

/-- Repairs are published by `repair_stream` only. -/
def publish (names : JobText) (s : DeliveryState) (jobId : JobId) (reads : PublishReads) :
    Option DeliveryState :=
  (s.jobs.lookup jobId).bind fun job =>
    if job.origin = .copy .reconcile then none else some (s.publishJob names jobId job reads)

/-- The entry is in the stream, and the commit behind it fails. -/
def publishRaises (names : JobText) (s : DeliveryState) (jobId : JobId) : Option DeliveryState :=
  (s.jobs.lookup jobId).bind fun job =>
    if job.origin = .copy .reconcile then none else some (s.append (names.text jobId))

/-- `release_stale_jobs`, of one job. -/
def releaseStaleJob (s : DeliveryState) (jobId : JobId) : Option DeliveryState :=
  (s.jobs.lookup jobId).bind fun job =>
    if job.state = .processing && job.lockedUntil.any (· < s.clock) then
      some (s.setJob jobId fun job =>
        { job with
          state := if job.attemptCount < maxJobRetries then .retrying else .dead
          owner := none
          lockedUntil := none
          nextAttemptAt := some (s.clock + min (2 ^ max job.attemptCount 1) 60)
          enqueuedAt := none })
    else none

/-! ## Workers -/

/-- `XREADGROUP` with `>`; an id that is no job id is acknowledged. -/
def read (names : JobText) (s : DeliveryState) (worker : WorkerId) : Option DeliveryState :=
  if (s.workers.lookup worker).isSome then none
  else
    (s.markers.stream[s.cursor]?).map fun entry =>
      let s := { s with cursor := s.cursor + 1 }
      match names.parse entry with
      | none => s
      | some jobId => s.putWorker worker (.selected jobId)

/-- The jobs that `_next_database_job_id` can return. -/
def eligible (s : DeliveryState) (reads : PassReads) : List JobId :=
  s.select fun jobId job => job.claimable s.clock && !reads.locked jobId

/-- One round of the loop of `_next_database_job_id`: the oldest job is refused, or marked as a
pending repair and handed to the worker. -/
def takeFromDatabase (s : DeliveryState) (worker : WorkerId) (reads : PassReads) :
    Option DeliveryState :=
  match s.workers.lookup worker, Backlog.oldest s.createdAt 1 (s.eligible reads) with
  | none, jobId :: _ =>
    (s.jobs.lookup jobId).map fun job =>
      match s.prepareDelivery jobId job (reads.job jobId) with
      | (s, false) => s
      | (s, true) =>
        (s.setJob jobId fun job =>
          { job with context := markRepairPending job.origin job.context }).putWorker worker
            (.selected jobId)
  | _, _ => none

/-- `handle_job_id` reads the row. -/
def load (s : DeliveryState) (worker : WorkerId) : Option DeliveryState :=
  match s.workers.lookup worker with
  | some (.selected jobId) =>
    match s.jobs.lookup jobId with
    | none => some (s.dropWorker worker)
    | some raw =>
      if raw.state.active then some (s.putWorker worker (.loaded jobId raw))
      else some (s.dropWorker worker)
  | _ => none

/-- `bind_job_to_active_destination` writes the context that the session has read. -/
def rebind (s : DeliveryState) (worker : WorkerId) : Option DeliveryState :=
  match s.workers.lookup worker with
  | some (.loaded jobId raw) =>
    some (s.setJob jobId fun job => { job with context := raw.context })
  | _ => none

/-- A job the worker does not take is skipped. -/
def refuse (s : DeliveryState) (worker : WorkerId) (reads : HandleReads) : Option DeliveryState :=
  match s.workers.lookup worker with
  | some (.loaded jobId _) =>
    if reads.accepts then none else some ((s.setJob jobId .skip).dropWorker worker)
  | _ => none

/-- `claim_job`; a job that cannot be claimed is left alone. -/
def claim (s : DeliveryState) (worker : WorkerId) : Option DeliveryState :=
  match s.workers.lookup worker with
  | some (.loaded jobId raw) =>
    match s.jobs.lookup jobId with
    | none => some (s.dropWorker worker)
    | some job =>
      if job.claimable s.clock then
        let claimed := job.claim raw worker s.clock
        let s := (s.setJob jobId fun _ => claimed).putWorker worker (.running jobId claimed)
        some { s with claims := jobId :: s.claims }
      else some (s.dropWorker worker)
  | _ => none

/-- `_renew_job_lease_after_lock` of a worker that still owns the job. -/
def renew (s : DeliveryState) (worker : WorkerId) : Option DeliveryState :=
  match s.workers.lookup worker with
  | some (.running jobId claimed) =>
    (s.jobs.lookup jobId).bind fun job =>
      if job.state = .processing && job.owner = claimed.owner then
        let renewed : QueuedJob := { job with lockedUntil := some (s.clock + jobLeaseSeconds) }
        some ((s.setJob jobId fun _ => renewed).putWorker worker (.running jobId renewed))
      else none
  | _ => none

/-- A rejected action is noted in the context that the session holds. -/
def rejectAction (s : DeliveryState) (worker : WorkerId) : Option DeliveryState :=
  match s.workers.lookup worker with
  | some (.running jobId claimed) =>
    some (s.setJob jobId fun job => { job with context := claimed.context })
  | _ => none

/-- The attempt ends, and the job with the state it leaves. -/
def finish (s : DeliveryState) (worker : WorkerId) (outcome : AttemptEnd) :
    Option DeliveryState :=
  match s.workers.lookup worker with
  | some (.running jobId claimed) =>
    if outcome.terminal then
      some ((s.setJob jobId fun job => job.endAttempt claimed s.clock outcome).dropWorker worker)
    else none
  | _ => none

/-- Somebody else ends a job that has not ended. -/
def endJob (s : DeliveryState) (jobId : JobId) (state : JobState) : Option DeliveryState :=
  (s.jobs.lookup jobId).bind fun job =>
    if job.state.active && !state.active then
      some (s.setJob jobId fun job => { job with state, owner := none, lockedUntil := none })
    else none

end DeliveryState

/-- One step. -/
def deliveryStep (names : JobText) (s : DeliveryState) : DeliveryOp → Option DeliveryState
  | .tick clock => if s.clock ≤ clock then some { s with clock } else none
  | .create jobId job => s.create jobId job
  | .publish jobId reads => s.publish names jobId reads
  | .publishRaises jobId => s.publishRaises names jobId
  | .repairStream reads => some (s.repairStream names reads)
  | .repairStreamRaises reads n => some (s.repairStreamRaises names reads n)
  | .expire reads => some (s.expireStaleStrategyJobs reads)
  | .releaseStale jobId => s.releaseStaleJob jobId
  | .trim n =>
    if n ≤ s.markers.stream.length then
      some { s with trimmed := max s.trimmed n, cursor := max s.cursor n }
    else none
  | .regroup => some { s with cursor := s.trimmed }
  | .missing userId asset order redisTime =>
    some { s with
      markers := (recordMasterLeverageMissing s.markers userId asset order redisTime).1 }
  | .read worker => s.read names worker
  | .takeFromDatabase worker reads => s.takeFromDatabase worker reads
  | .load worker => s.load worker
  | .rebind worker => s.rebind worker
  | .refuse worker reads => s.refuse worker reads
  | .claim worker => s.claim worker
  | .renew worker => s.renew worker
  | .rejectAction worker => s.rejectAction worker
  | .finish worker outcome => s.finish worker outcome
  | .leave worker => some (s.dropWorker worker)
  | .endJob jobId state => s.endJob jobId state

/-- Nothing is queued yet. -/
def DeliveryState.initial : DeliveryState := ⟨0, ∅, .initial, 0, 0, ∅, []⟩

end HyperCopy

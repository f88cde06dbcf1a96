import HyperCopy.Delivery.Repair
import HyperCopy.Library.Backlog
import HyperCopy.Risex.JobWriters
import Mathlib.Data.Prod.Lex

/-!
# The delivery of copy jobs

`services/queue.py`: the rows of `copy_jobs` are the source of truth, and the stream is the fast way
to a worker.  `publish_job` appends a job to the stream, `repair_stream` publishes again what waits
without a recent message, and both end a job first that must not run any more.

What the routines read in other tables (the destination of the user, newer intents, unresolved
executions, who the master is) is an argument, and so are the rows that another transaction holds
a lock on.
-/

namespace HyperCopy

/-- The columns of a job that its delivery reads. -/
structure QueuedJob where
  userId : String
  asset : String
  origin : QueueOrigin
  state : JobState
  owner : Option WorkerId
  lockedUntil : Option ℕ
  attemptCount : ℕ
  nextAttemptAt : Option ℕ
  enqueuedAt : Option ℕ
  createdAt : ℕ
  updatedAt : ℕ
  context : RepairContext
deriving DecidableEq, Repr

namespace QueuedJob

/-- The order up to which the job repairs missing leverage. -/
def evidence (job : QueuedJob) : Option ℤ := reconcileJobRepairEvidence job.origin job.context

/-- The job comes from a strategy and goes out of date. -/
def isStrategy (job : QueuedJob) : Bool :=
  match job.origin with
  | .copy origin => origin.isStrategy
  | .adminReconcile | .adminLeverageSync => false

/-- `next_attempt_at` is null or has come. -/
def due (job : QueuedJob) (now : ℕ) : Bool := job.nextAttemptAt.all (· ≤ now)

/-- The job can be claimed. -/
def claimable (job : QueuedJob) (now : ℕ) : Bool := job.state.waiting && job.due now

/-- What every refusal writes. -/
def skip (job : QueuedJob) : QueuedJob :=
  { job with
    state := .skipped
    owner := none
    lockedUntil := none
    nextAttemptAt := none
    enqueuedAt := none }

end QueuedJob

/-- A worker that has a job in its hands. -/
inductive WorkerPhase
  /-- the id of the job, from a message or from the database -/
  | selected (jobId : JobId)
  /-- the row as the session has read it -/
  | loaded (jobId : JobId) (raw : QueuedJob)
  /-- the claimed job -/
  | running (jobId : JobId) (job : QueuedJob)
deriving DecidableEq, Repr

/-- `str(job.id)`, and the parser a worker reads it with. -/
structure JobText where
  text : JobId → String
  parse : String → Option JobId
  parse_text : ∀ jobId, parse (text jobId) = some jobId
  text_ne_empty : ∀ jobId, text jobId ≠ ""

/-- The jobs, the stream with its markers, and the workers. -/
structure DeliveryState where
  clock : ℕ
  jobs : Table JobId QueuedJob
  /-- The stream and the markers of missing leverage. -/
  markers : MarkerState
  /-- The entries at the start of the stream that are trimmed away. -/
  trimmed : ℕ
  /-- The entries the consumer group has been given. -/
  cursor : ℕ
  workers : Table WorkerId WorkerPhase
  /-- The claims so far, newest first. -/
  claims : List JobId

/-- What a publication reads in other tables. -/
structure PublishReads where
  /-- `is_master_source_user` -/
  masterSource : Bool
  /-- `bind_job_to_active_destination` -/
  bound : Bool
  /-- the provider of the job is enabled for writes -/
  supported : Bool
  /-- `prepare_strategy_job_for_publish`: the older intents it supersedes, unless it refuses -/
  intent : Option (List JobId)
deriving DecidableEq, Repr

/-- What a pass over the queue reads. -/
structure PassReads where
  job : JobId → PublishReads
  locked : JobId → Bool
  /-- the job has an unresolved RISEx execution -/
  unresolved : JobId → Bool
  sloSeconds : ℚ
  redisTime : ℚ

namespace DeliveryState

/-- The job at the key, or nothing is written; `updated_at` follows every write. -/
def setJob (s : DeliveryState) (jobId : JobId) (f : QueuedJob → QueuedJob) : DeliveryState :=
  { s with jobs := Table.modify s.jobs jobId fun job => { f job with updatedAt := s.clock } }

/-- The keys of the rows that satisfy a condition. -/
def select (s : DeliveryState) (p : JobId → QueuedJob → Bool) : List JobId :=
  s.jobs.keys.filter fun jobId => (s.jobs.lookup jobId).any (p jobId)

/-- `order_by(CopyJob.created_at)`. -/
def createdAt (s : DeliveryState) (jobId : JobId) : ℕ :=
  (s.jobs.lookup jobId).elim 0 QueuedJob.createdAt

/-- `order_by(CopyJob.updated_at, CopyJob.created_at)`. -/
def updatedAt (s : DeliveryState) (jobId : JobId) : ℕ ×ₗ ℕ :=
  toLex ((s.jobs.lookup jobId).elim 0 QueuedJob.updatedAt, s.createdAt jobId)

/-! ## Publication -/

/-- `prepare_job_destination_for_execution`. -/
def prepareJobDestination (s : DeliveryState) (jobId : JobId) (reads : PublishReads) :
    DeliveryState × Bool :=
  if reads.bound && reads.supported then (s, true) else (s.setJob jobId .skip, false)

/-- `_mark_superseded` of an older intent, if it still waits. -/
def markSuperseded (s : DeliveryState) (jobId : JobId) : DeliveryState :=
  if (s.jobs.lookup jobId).any fun job => job.state.waiting then s.setJob jobId .skip else s

/-- `prepare_strategy_job_for_publish`. -/
def prepareStrategyJob (s : DeliveryState) (jobId : JobId) (reads : PublishReads) :
    DeliveryState × Bool :=
  match reads.intent with
  | none => (s.setJob jobId .skip, false)
  | some older => (older.foldl markSuperseded s, true)

/-- The checks in front of both ways into delivery. -/
def prepareDelivery (s : DeliveryState) (jobId : JobId) (job : QueuedJob) (reads : PublishReads) :
    DeliveryState × Bool :=
  match s.prepareJobDestination jobId reads with
  | (s, false) => (s, false)
  | (s, true) => if job.isStrategy then s.prepareStrategyJob jobId reads else (s, true)

/-- `XADD`. -/
def append (s : DeliveryState) (entry : String) : DeliveryState :=
  { s with markers := { s.markers with stream := s.markers.stream ++ [entry] } }

/-- The job is in the stream since now. -/
def enqueued (s : DeliveryState) (jobId : JobId) : DeliveryState :=
  s.setJob jobId fun job => { job with enqueuedAt := some s.clock }

/-- `publish_job`. -/
def publishJob (names : JobText) (s : DeliveryState) (jobId : JobId) (job : QueuedJob)
    (reads : PublishReads) : DeliveryState :=
  if reads.masterSource then s.setJob jobId .skip
  else
    match s.prepareDelivery jobId job reads with
    | (s, false) => s
    | (s, true) => (s.append (names.text jobId)).enqueued jobId

/-! ## Repair of the stream -/

/-- A pass that a database query with a limit serves. -/
def passLimit : ℕ := 500

/-- The job is out of date. -/
def expired (s : DeliveryState) (job : QueuedJob) : Bool :=
  job.isStrategy && job.createdAt + strategyJobMaxAge ≤ s.clock

/-- `expire_stale_strategy_jobs`. -/
def expireStaleStrategyJobs (s : DeliveryState) (reads : PassReads) : DeliveryState :=
  (Backlog.oldest s.createdAt passLimit (s.select fun jobId job =>
    job.state.waiting && s.expired job && !reads.unresolved jobId && !reads.locked jobId)).foldl
      (fun s jobId => s.setJob jobId .skip) s

/-- A repair that ended without its account. -/
def owesAccount (job : QueuedJob) : Bool :=
  (job.state = .done || job.state = .skipped) && job.origin = .copy .reconcile &&
    job.context.pending

/-- The rows of `replay_completed_hf006_repairs`. -/
def replayRows (s : DeliveryState) (reads : PassReads) : List JobId :=
  Backlog.oldest s.updatedAt passLimit
    (s.select fun jobId job => owesAccount job && !reads.locked jobId)

/-- `stale_enqueue_cutoff`: there is no message of the job, or an old one. -/
def staleEnqueue (s : DeliveryState) (job : QueuedJob) : Bool :=
  job.enqueuedAt.all fun enqueuedAt => enqueuedAt + max jobLeaseSeconds 30 ≤ s.clock

/-- The rows that `repair_stream` publishes. -/
def staleRows (s : DeliveryState) (reads : PassReads) : List JobId :=
  Backlog.oldest s.createdAt passLimit (s.select fun jobId job =>
    job.claimable s.clock && s.staleEnqueue job && !reads.locked jobId)

/-- One row of `replay_completed_hf006_repairs`. -/
def replayRepair (s : DeliveryState) (jobId : JobId) (reads : PassReads) : DeliveryState :=
  match s.jobs.lookup jobId with
  | none => s
  | some job =>
    match job.evidence with
    | none => s
    | some order =>
      let markers := (recordMasterLeverageRepaired s.markers job.userId job.asset (some order)
        reads.sloSeconds reads.redisTime).1
      { s with markers }.setJob jobId fun job =>
        { job with context := markRepairAccounted job.context order }

/-- The publication of a repair with evidence.  Its arguments are never refused
(`publishMasterLeverageRepair_eq_ok`). -/
def publishRepairJob (names : JobText) (s : DeliveryState) (jobId : JobId) (job : QueuedJob)
    (order : ℤ) (reads : PassReads) : DeliveryState :=
  if (reads.job jobId).masterSource then s.setJob jobId .skip
  else
    match publishMasterLeverageRepair s.markers (names.text jobId) job.userId job.asset order
      100000 reads.sloSeconds reads.redisTime with
    | .error _ => s
    | .ok markers =>
      { s with markers }.setJob jobId fun job =>
        { job with
          context := if job.context.pending then markRepairAccounted job.context order
            else job.context
          enqueuedAt := some s.clock }

/-- One row of the loop of `repair_stream`. -/
def repairJob (names : JobText) (s : DeliveryState) (jobId : JobId) (reads : PassReads) :
    DeliveryState :=
  match s.jobs.lookup jobId with
  | none => s
  | some job =>
    match s.prepareDelivery jobId job (reads.job jobId) with
    | (s, false) => s
    | (s, true) =>
      match job.evidence with
      | none => s.publishJob names jobId job (reads.job jobId)
      | some order => s.publishRepairJob names jobId job order reads

/-- What a repair pass does for one job. -/
inductive RepairItem
  | replay (jobId : JobId)
  | publish (jobId : JobId)

/-- One of them. -/
def repairItem (names : JobText) (reads : PassReads) (s : DeliveryState) :
    RepairItem → DeliveryState
  | .replay jobId => s.replayRepair jobId reads
  | .publish jobId => s.repairJob names jobId reads

/-- The rows a pass works through, in order. -/
def repairItems (names : JobText) (s : DeliveryState) (reads : PassReads) : List RepairItem :=
  let s := s.expireStaleStrategyJobs reads
  let replays := (s.replayRows reads).map RepairItem.replay
  let s := replays.foldl (repairItem names reads) s
  replays ++ (s.staleRows reads).map RepairItem.publish

/-- `repair_stream`: one transaction. -/
def repairStream (names : JobText) (s : DeliveryState) (reads : PassReads) : DeliveryState :=
  (s.repairItems names reads).foldl (repairItem names reads) (s.expireStaleStrategyJobs reads)

/-- A pass that raises behind `n` rows: the database forgets it, Redis does not. -/
def repairStreamRaises (names : JobText) (s : DeliveryState) (reads : PassReads) (n : ℕ) :
    DeliveryState :=
  { s with
    markers := (((s.repairItems names reads).take n).foldl (repairItem names reads)
      (s.expireStaleStrategyJobs reads)).markers }

end DeliveryState

end HyperCopy

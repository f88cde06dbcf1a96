import HyperCopy.Destination.Epochs
import HyperCopy.ProfitExit.SourceCycle
import HyperCopy.Library.Table

/-!
# The state of the master watchers

Any number of watcher replicas share the lease row, the master events, the copy jobs they fan out
and the replay checkpoint.  A replica that leads runs sessions: a replay of the fills since the
checkpoint, then the fills of a websocket, one `process_fill` at a time.  What a replica holds in
memory (its token, its session, the write it is in the middle of) is lost with its process; a write
between the lease check and its commit holds a share lock on the lease row.

Four fields record history that no code reads: the tokens that were issued, the first checkpoint,
the fills a replay was given, and the fills a session has handled.
-/

namespace HyperCopy

/-- The handle of a watcher process. -/
abbrev ReplicaId := ℕ

/-- The name a watcher takes the lease under. -/
abbrev HolderName := ℕ

/-- The exchange's identifier of a fill. -/
abbrev ExchangeEventId := ℕ

/-- The settings a watcher reads. -/
structure WatcherSettings where
  masterNetwork : Network
  followerNetwork : Network
  leaseTtl : ℕ
  strategyJobMaxAge : ℕ
deriving DecidableEq, Repr

/-! ## Fills -/

/-- A fill of the master.  `eventId` is `fill_event_id` under the network's prefix; times are
milliseconds. -/
structure MasterFill where
  eventId : ExchangeEventId
  coin : Asset
  isBuy : Bool
  sz : ℚ
  startPosition : ℚ
  time : ℕ
deriving DecidableEq, Repr

/-- The change of the position that a fill makes. -/
def signedFillDelta (fill : MasterFill) : ℚ :=
  if fill.isBuy then fill.sz else -fill.sz

/-! ## Rows -/

/-- The row of the lease. -/
structure LeaseRow where
  holder : HolderName
  fencingToken : ℕ
  expiresAt : ℕ
deriving DecidableEq, Repr

/-- A `master_events` row: what the profit exits read of it, and the two columns of the watcher. -/
structure MasterEventRow extends MasterEvent where
  exchangeEventId : ExchangeEventId
  fencingToken : ℕ
deriving DecidableEq, Repr

/-- A row of the query for followers: its execution network as text. -/
structure EligibleUser where
  userId : UserId
  executionNetwork : ContextText Network
deriving DecidableEq, Repr

/-- An `EVENT` row of `copy_jobs`. -/
structure EventCopyJob where
  masterEventId : MasterEventId
  userId : UserId
  asset : Asset
  masterPosition : ℚ
  masterNetwork : Network
  followerNetwork : Network
  masterIntentOrder : Option ℤ
deriving DecidableEq, Repr

/-- The columns of `uq_job_master_user`. -/
def EventCopyJob.key (job : EventCopyJob) : MasterEventId × UserId :=
  (job.masterEventId, job.userId)

/-! ## Replicas -/

/-- How far a `process_fill` is.  From `fenced` to the commit its transaction is open; at `stored`
the event is committed and the checkpoint is not. -/
inductive WritePhase
  | opened
  | fenced
  | missing
  | flushed (event : MasterEventRow)
  | inserting (event : MasterEventRow) (jobs : List EventCopyJob) (rest : List EligibleUser)
  | stored
deriving DecidableEq

/-- A `process_fill` with the token it has read from the lease object. -/
structure FillWrite where
  fill : MasterFill
  token : ℕ
  createCopyJobs : Bool
  phase : WritePhase
deriving DecidableEq

/-- A session reads the checkpoint, replays what was missed, then follows the live fills. -/
inductive SessionPhase
  | reading
  | replaying
  | live
deriving DecidableEq, Repr

/-- One turn of `run_leader`.  `start` is the checkpoint its replay has read, zero when there is
none; `pending` the fills of the replay, or of the last websocket message, still to be handled. -/
structure WatchSession where
  start : ℕ
  cursor : ℕ
  phase : SessionPhase
  pending : List MasterFill
  write : Option FillWrite
  returned : List MasterFill
  handled : List MasterFill
deriving DecidableEq

/-- A watcher process: the token it holds, whether it lost the lease, and its session. -/
structure WatcherReplica where
  holder : HolderName
  token : Option ℕ
  lost : Bool
  session : Option WatchSession
deriving DecidableEq

/-- The transaction has read the lease row `FOR SHARE` and has not ended. -/
def WritePhase.holdsLeaseLock : WritePhase → Bool
  | opened | stored => false
  | fenced | missing | flushed _ | inserting _ _ _ => true

/-- The fill it is writing. -/
def WatcherReplica.write? (w : WatcherReplica) : Option FillWrite :=
  w.session.bind WatchSession.write

/-- Its transaction has locked the row of the lease. -/
def WatcherReplica.holdsLeaseLock (w : WatcherReplica) : Bool :=
  w.write?.any fun write => write.phase.holdsLeaseLock

/-- The tables, the fills of the exchange, the watchers, and the tokens that were issued. -/
structure WatcherState where
  lease : Option LeaseRow
  events : List MasterEventRow
  jobs : List EventCopyJob
  checkpoint : ℕ
  exchange : List MasterFill
  replicas : Table ReplicaId WatcherReplica
  issued : List (ℕ × ReplicaId)
  firstCheckpoint : ℕ

namespace WatcherState

/-- Some transaction holds the lease row: no replica can change it. -/
def leaseLocked (s : WatcherState) : Bool :=
  Table.any s.replicas fun _ w => w.holdsLeaseLock

/-- A `MasterEvent` exists for the fill. -/
def Stored (s : WatcherState) (fill : MasterFill) : Prop :=
  fill.eventId ∈ s.events.map MasterEventRow.exchangeEventId

instance (s : WatcherState) (fill : MasterFill) : Decidable (s.Stored fill) :=
  inferInstanceAs (Decidable (_ ∈ _))

/-- The watcher comes to this point. -/
def putReplica (s : WatcherState) (r : ReplicaId) (w : WatcherReplica) : WatcherState :=
  { s with replicas := s.replicas.insert r w }

end WatcherState

/-- A process that has just started. -/
def freshReplica (holder : HolderName) : WatcherReplica :=
  ⟨holder, none, false, none⟩

/-- Nothing has been acquired or written yet; the exchange may have a past. -/
structure WatcherInitial (s : WatcherState) : Prop where
  lease : s.lease = none
  events : s.events = []
  jobs : s.jobs = []
  checkpoint : s.checkpoint = 0
  issued : s.issued = []
  firstCheckpoint : s.firstCheckpoint = 0
  replicas : ∀ r w, s.replicas.lookup r = some w → w = freshReplica w.holder

end HyperCopy

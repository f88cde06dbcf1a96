import HyperCopy.Watcher.State
import HyperCopy.Library.Transition
import Mathlib.Data.List.Sort

/-!
# One step of a watcher

Every step is one statement or commit of `WatcherLease` (`db/lease.py`), of
`persist_master_fill_and_jobs` (`services/copy.py`) or of the watcher's loops
(`workers/watcher.py`), or an event of the environment: a fill at the exchange, a websocket
message, a crash.  `now` is the clock of whoever acts; the clocks of two replicas need not agree.
A replica acts on what it has in memory, so a step of a replica that lost the lease long ago is as
possible as one of its successor.
-/

namespace HyperCopy

/-- What the exchange and the watchers do. -/
inductive WatcherOp
  | trade (fill : MasterFill)
  | tryAcquire (r : ReplicaId) (reply : Bool)
  | renew (r : ReplicaId) (reply : Bool)
  | release (r : ReplicaId) (reply : Bool)
  | crash (r : ReplicaId)
  | readCheckpoint (r : ReplicaId)
  | fetch (r : ReplicaId) (returned : List MasterFill)
  | subscribe (r : ReplicaId)
  | message (r : ReplicaId) (fills : List MasterFill)
  | next (r : ReplicaId)
  | rotate (r : ReplicaId)
  | abort (r : ReplicaId)
  | checkLease (r : ReplicaId)
  | selectExisting (r : ReplicaId)
  | flush (r : ReplicaId) (id : MasterEventId) (causalOrder : Option ℤ)
  | selectEligible (r : ReplicaId) (eligible : List EligibleUser)
  | insertJob (r : ReplicaId)
  | commit (r : ReplicaId)
  | setCheckpoint (r : ReplicaId) (timeMs : ℕ)

/-- An operation at a time. -/
structure WatcherAction where
  now : ℕ
  op : WatcherOp

/-! ## The lease -/

/-- `INSERT … ON CONFLICT (name) DO UPDATE … WHERE`: the row after the statement, or `none` when
the lease is held by another. -/
def acquireRow (lease : Option LeaseRow) (holder : HolderName) (now ttl : ℕ) : Option LeaseRow :=
  match lease with
  | none => some ⟨holder, 1, now + ttl⟩
  | some row =>
      if row.expiresAt < now ∨ row.holder = holder then
        some ⟨holder, row.fencingToken + 1, now + ttl⟩
      else none

/-- The row is the replica's own, under its own token. -/
def LeaseRow.ownedBy (row : LeaseRow) (holder : HolderName) (token : ℕ) : Bool :=
  row.holder = holder && row.fencingToken = token

/-- The commit may be lost to a replica that does not get the reply: it keeps what it had. -/
def tryAcquire (cfg : WatcherSettings) (s : WatcherState) (r : ReplicaId) (now : ℕ) (reply : Bool) :
    Option WatcherState :=
  match s.replicas.lookup r with
  | none => none
  | some w =>
      if s.leaseLocked || w.session.isSome then none
      else match acquireRow s.lease w.holder now cfg.leaseTtl with
        | none => some s
        | some row =>
            some { s with
              lease := some row
              issued := (row.fencingToken, r) :: s.issued
              replicas := s.replicas.insert r
                (if reply then { w with token := some row.fencingToken, lost := false } else w) }

/-- `renew`: the expiry moves where the row still has the token, else the lease is lost. -/
def renewLease (cfg : WatcherSettings) (s : WatcherState) (r : ReplicaId) (now : ℕ) (reply : Bool) :
    Option WatcherState :=
  match s.replicas.lookup r with
  | none => none
  | some w =>
      match w.token with
      | none => some s
      | some token =>
          if s.leaseLocked then none
          else if s.lease.any fun row => row.ownedBy w.holder token then
            some { s with lease := s.lease.map fun row => { row with expiresAt := now + cfg.leaseTtl } }
          else some (s.putReplica r (if reply then { w with token := none, lost := true } else w))

/-- `release`: the lease ends now. -/
def releaseLease (s : WatcherState) (r : ReplicaId) (now : ℕ) (reply : Bool) :
    Option WatcherState :=
  match s.replicas.lookup r with
  | none => none
  | some w =>
      match w.token with
      | none => some s
      | some token =>
          if s.leaseLocked || w.session.isSome then none
          else some { s with
            lease := s.lease.map fun row =>
              { row with expiresAt := if row.ownedBy w.holder token then now else row.expiresAt }
            replicas := s.replicas.insert r (if reply then { w with token := none } else w) }

/-! ## The loops -/

/-- The process dies and a new one takes its place; an open transaction is rolled back. -/
def crashReplica (s : WatcherState) (r : ReplicaId) : Option WatcherState :=
  (s.replicas.lookup r).map fun w => s.putReplica r (freshReplica w.holder)

/-- Start of `replay`: `run_leader` is entered with a token, and left once the lease is lost. -/
def readCheckpoint (s : WatcherState) (r : ReplicaId) (now : ℕ) : Option WatcherState :=
  match s.replicas.lookup r with
  | none => none
  | some w =>
      if w.session.isSome || w.token.isNone || w.lost then none
      else
        let cursor := if s.checkpoint = 0 then now - 5 * 60 * 1000 else s.checkpoint
        some (s.putReplica r
          { w with session := some ⟨s.checkpoint, cursor, .reading, [], none, [], []⟩ })

/-- What the replay makes of a page: oldest first, nothing before the cursor. -/
def replayFills (cursor : ℕ) (fills : List MasterFill) : List MasterFill :=
  (fills.insertionSort fun f g => f.time ≤ g.time).filter fun f => cursor ≤ f.time

/-- `user_fills_by_time` gives every fill from the cursor on, in any order; less than a full page,
so that the loop of `replay` ends after it. -/
def fetchFills (s : WatcherState) (r : ReplicaId) (returned : List MasterFill) :
    Option WatcherState :=
  match s.replicas.lookup r with
  | none => none
  | some w =>
      match w.session with
      | none => none
      | some session =>
          if session.phase = .reading ∧ (∀ f ∈ returned, f ∈ s.exchange) ∧
              (∀ f ∈ s.exchange, session.cursor ≤ f.time → f ∈ returned) ∧
              returned.length < 2000 then
            some (s.putReplica r { w with
              session := some { session with
                phase := .replaying
                pending := replayFills session.cursor returned
                returned := returned } })
          else none

/-- A step of a session that is not in the middle of a write. -/
def betweenFills (s : WatcherState) (r : ReplicaId)
    (f : WatcherReplica → WatchSession → Option WatchSession) : Option WatcherState :=
  match s.replicas.lookup r with
  | none => none
  | some w =>
      match w.session with
      | none => none
      | some session =>
          if session.write.isSome then none
          else (f w session).map fun session' =>
            s.putReplica r { w with session := some session' }

/-- `replay` has returned, and `master_fills` subscribes. -/
def subscribe (s : WatcherState) (r : ReplicaId) : Option WatcherState :=
  betweenFills s r fun _ session =>
    if session.phase = .replaying ∧ session.pending = [] then some { session with phase := .live }
    else none

/-- A `userFills` message: fills of the master, repeated and ordered as the exchange likes. -/
def receiveMessage (s : WatcherState) (r : ReplicaId) (fills : List MasterFill) :
    Option WatcherState :=
  betweenFills s r fun _ session =>
    if session.phase = .live ∧ session.pending = [] ∧ ∀ f ∈ fills, f ∈ s.exchange then
      some { session with pending := fills }
    else none

/-- `process_fill` is called with the next fill and reads the token of the lease.  A live loop
stops instead once the lease is lost, and a replica without a token fails: both end the session
(`abort`). -/
def nextFill (s : WatcherState) (r : ReplicaId) : Option WatcherState :=
  betweenFills s r fun w session =>
    match session.pending, w.token with
    | fill :: rest, some token =>
        if session.phase = .live && w.lost then none
        else some { session with
          pending := rest
          write := some ⟨fill, token, session.phase = .live, .opened⟩ }
    | _, _ => none

/-- The session ends: the websocket rotates, a loop stops, or an exception is raised anywhere. -/
def endSession (s : WatcherState) (r : ReplicaId) : Option WatcherState :=
  match s.replicas.lookup r with
  | none => none
  | some w =>
      if w.session.isSome then some (s.putReplica r { w with session := none }) else none

/-! ## `process_fill` -/

/-- A step of the write a session is in the middle of: what the write becomes, and the fills that
have been handled by then. -/
def withWrite (s : WatcherState) (r : ReplicaId)
    (f : WatcherReplica → WatchSession → FillWrite → Option WatcherState) : Option WatcherState :=
  match s.replicas.lookup r with
  | none => none
  | some w =>
      match w.session with
      | none => none
      | some session =>
          match session.write with
          | none => none
          | some write => f w session write

/-- The write of the fill comes to this point. -/
def putPhase (s : WatcherState) (r : ReplicaId) (w : WatcherReplica) (session : WatchSession)
    (write : FillWrite) (phase : WritePhase) : WatcherState :=
  s.putReplica r
    { w with session := some { session with write := some { write with phase := phase } } }

/-- `process_fill` returns. -/
def endWrite (s : WatcherState) (r : ReplicaId) (w : WatcherReplica) (session : WatchSession)
    (write : FillWrite) : WatcherState :=
  s.putReplica r { w with
    session := some { session with write := none, handled := write.fill :: session.handled } }

/-- `SELECT … FOR SHARE` on the lease row.  A replica that is fenced out raises. -/
def checkLease (s : WatcherState) (r : ReplicaId) (now : ℕ) : Option WatcherState :=
  withWrite s r fun w session write =>
    if write.phase = .opened then
      if s.lease.any fun row => row.fencingToken = write.token && now < row.expiresAt then
        some (putPhase s r w session write .fenced)
      else endSession s r
    else none

/-- The lookup by `exchange_event_id`: `process_fill` returns when the event exists. -/
def selectExisting (s : WatcherState) (r : ReplicaId) : Option WatcherState :=
  withWrite s r fun w session write =>
    if write.phase = .fenced then
      if s.Stored write.fill then some (endWrite s r w session write)
      else some (putPhase s r w session write .missing)
    else none

/-- The row of a fill. -/
def masterEventOf (cfg : WatcherSettings) (write : FillWrite) (id : MasterEventId)
    (causalOrder : Option ℤ) : MasterEventRow where
  id := id
  asset := write.fill.coin
  network := some cfg.masterNetwork
  causalOrder := causalOrder
  eventTs := write.fill.time
  startPosition := write.fill.startPosition
  positionAfter := write.fill.startPosition + signedFillDelta write.fill
  exchangeEventId := write.fill.eventId
  fencingToken := write.token

/-- The insert of the event under a new `uuid`; it fails on the unique `exchange_event_id`. -/
def flushEvent (cfg : WatcherSettings) (s : WatcherState) (r : ReplicaId) (id : MasterEventId)
    (causalOrder : Option ℤ) : Option WatcherState :=
  withWrite s r fun w session write =>
    if write.phase = .missing ∧ id ∉ s.events.map (·.id) then
      if s.Stored write.fill then endSession s r
      else some (putPhase s r w session write (.flushed (masterEventOf cfg write id causalOrder)))
    else none

/-- A replayed or an old event makes no jobs; any other is fanned out to the followers. -/
def selectEligible (cfg : WatcherSettings) (s : WatcherState) (r : ReplicaId) (now : ℕ)
    (eligible : List EligibleUser) : Option WatcherState :=
  withWrite s r fun w session write =>
    match write.phase with
    | .flushed event =>
        let historical := decide (event.eventTs ≤ (now : ℤ) - cfg.strategyJobMaxAge)
        some (putPhase s r w session write
          (.inserting event [] (if !write.createCopyJobs || historical then [] else eligible)))
    | _ => none

/-- The network the user's job is for; none where its own is not a known one. -/
def followerNetwork (cfg : WatcherSettings) (user : EligibleUser) : Option Network :=
  match user.executionNetwork with
  | .absent => some cfg.followerNetwork
  | .known network => some network
  | .other => none

/-- The job of an event for one user. -/
def eventCopyJob (cfg : WatcherSettings) (event : MasterEventRow) (user : EligibleUser)
    (network : Network) : EventCopyJob where
  masterEventId := event.id
  userId := user.userId
  asset := event.asset
  masterPosition := event.positionAfter
  masterNetwork := cfg.masterNetwork
  followerNetwork := network
  masterIntentOrder := event.causalOrder

/-- `INSERT … ON CONFLICT ON CONSTRAINT uq_job_master_user DO NOTHING` for one follower. -/
def insertEventJob (cfg : WatcherSettings) (stored jobs : List EventCopyJob)
    (event : MasterEventRow) (user : EligibleUser) : List EventCopyJob :=
  match followerNetwork cfg user with
  | none => jobs
  | some network =>
      let job := eventCopyJob cfg event user network
      if job.key ∈ (stored ++ jobs).map EventCopyJob.key then jobs else jobs ++ [job]

/-- The job of the next user is added to the session. -/
def insertJob (cfg : WatcherSettings) (s : WatcherState) (r : ReplicaId) : Option WatcherState :=
  withWrite s r fun w session write =>
    match write.phase with
    | .inserting event jobs (user :: rest) =>
        some (putPhase s r w session write
          (.inserting event (insertEventJob cfg s.jobs jobs event user) rest))
    | _ => none

/-- The event and its jobs are committed. -/
def commitEvent (s : WatcherState) (r : ReplicaId) : Option WatcherState :=
  withWrite s r fun w session write =>
    match write.phase with
    | .inserting event jobs [] =>
        some { s with
          events := s.events ++ [event]
          jobs := s.jobs ++ jobs
          replicas := (putPhase s r w session write .stored).replicas }
    | _ => none

/-- `_set_checkpoint`.  The milliseconds come back from a float of seconds, which can be short of
the fill's own by one. -/
def setCheckpoint (s : WatcherState) (r : ReplicaId) (timeMs : ℕ) : Option WatcherState :=
  withWrite s r fun w session write =>
    if write.phase = .stored ∧ (timeMs = write.fill.time ∨ timeMs + 1 = write.fill.time) then
      some { s with
        checkpoint := if s.checkpoint ≤ timeMs then timeMs else s.checkpoint
        firstCheckpoint := if s.firstCheckpoint = 0 then timeMs else s.firstCheckpoint
        replicas := (endWrite s r w session write).replicas }
    else none

/-! ## The system -/

/-- A fill at the exchange: its time is not before that of the fills there are. -/
def tradeFill (s : WatcherState) (fill : MasterFill) : Option WatcherState :=
  if ∀ f ∈ s.exchange, f.time ≤ fill.time then some { s with exchange := fill :: s.exchange }
  else none

/-- One step. -/
def watcherStep (cfg : WatcherSettings) (s : WatcherState) (action : WatcherAction) :
    Option WatcherState :=
  match action.op with
  | .trade fill => tradeFill s fill
  | .tryAcquire r reply => tryAcquire cfg s r action.now reply
  | .renew r reply => renewLease cfg s r action.now reply
  | .release r reply => releaseLease s r action.now reply
  | .crash r => crashReplica s r
  | .readCheckpoint r => readCheckpoint s r action.now
  | .fetch r returned => fetchFills s r returned
  | .subscribe r => subscribe s r
  | .message r fills => receiveMessage s r fills
  | .next r => nextFill s r
  | .rotate r | .abort r => endSession s r
  | .checkLease r => checkLease s r action.now
  | .selectExisting r => selectExisting s r
  | .flush r id causalOrder => flushEvent cfg s r id causalOrder
  | .selectEligible r eligible => selectEligible cfg s r action.now eligible
  | .insertJob r => insertJob cfg s r
  | .commit r => commitEvent s r
  | .setCheckpoint r timeMs => setCheckpoint s r timeMs

end HyperCopy

import HyperCopy.Executor.OrderAnswers
import HyperCopy.Executor.Step
import HyperCopy.Destination.Epochs

/-!
# A pass of the resolver

`resolve_ambiguous_executions` of `services/execution_resolution.py`, execution by execution.  The
executor's model has the resolver as two steps with a verdict; here is where the verdict comes
from.  A `Visit` is what one candidate is answered: the order status, the fill history (up to twice)
and the account snapshot (up to twice), each of which may fail, and the times at which the pass
looks at the clock.

A visit holds the user's `position_ledger_lock`, so nobody else writes executions or the ledger of
that user meanwhile.  Jobs are written without that lock: `jobWrites` is what the other writers make
of the execution's job during the visit, and `jobRefreshed` says whether the second read of the job
goes to the database or is answered by the session.
-/

namespace HyperCopy

/-- The primary key of an incident. -/
abbrev IncidentId := ℕ

/-- `UNKNOWN_EXECUTION_SLA_SECONDS`. -/
def unknownExecutionSlaSeconds : ℕ := 600

/-- An execution row with the columns only the resolver reads or writes.  `incident` is
`response.hf001.incident_id`. -/
structure AmbiguousExecution extends Execution where
  jobId : JobId
  exchangeOid : Option Oid
  avgPrice : Option ℚ
  reason : Option OutcomeReason
  incident : Option IncidentId
deriving DecidableEq

/-- A ledger row, with the columns a resolution keeps. -/
structure ManagedLedger extends LedgerRow where
  targetSize : ℚ
  managed : Bool
  markPrice : ℚ
deriving DecidableEq

/-- The incident of an execution that needs a person. -/
structure ExecutionIncident where
  quarantined : Bool
  resolvedAt : Option ℕ
deriving DecidableEq, Repr

/-- The tables a pass reads and writes. -/
structure ResolverState where
  executions : Table Cloid AmbiguousExecution
  jobs : Table JobId JobState
  ledger : Table Market ManagedLedger
  incidents : Table IncidentId ExecutionIncident

/-- A row of the account snapshot. -/
structure AssetPosition where
  coin : Asset
  szi : Option ℚ
deriving DecidableEq, Repr

/-- What a candidate of the pass is answered.  `none` is a read that fails. -/
structure Visit where
  cloid : Cloid
  accountExists : Bool
  network : Network
  networkStartedAt : ℕ
  status : StatusAnswer
  fills : Option (List FillRow)
  fillsAgain : Option (List FillRow)
  snapshot : Option (List AssetPosition)
  snapshotAgain : Option (List AssetPosition)
  verifiedAt : ℕ
  resolvedAt : ℕ
  agedAt : ℕ
  incidentId : IncidentId
  verifiedAgainAt : ℕ
  quarantinedAt : ℕ
  jobWrites : List JobState
  jobRefreshed : Bool

/-- How the visit of a candidate ends. -/
inductive VisitEnd
  | passed
  | waiting
  | alerted
  | resolved
  | quarantined
deriving DecidableEq, Repr

/-! ## Pieces -/

/-- The position that the snapshot lists for the asset. -/
def positionSize (positions : List AssetPosition) (asset : Asset) : ℚ :=
  match positions.find? fun row => row.coin = asset with
  | some row => row.szi.getD 0
  | none => 0

/-- A write of a job by one of its other writers.  Every one of them starts from an active state:
the table would let a dead job be queued again, and nothing does. -/
def JobState.written (old new : JobState) : JobState :=
  if old.active ∧ new ∈ old.transitions then new else old

/-- `_sync_asset_ledger_from_exchange_state`. -/
def syncAssetLedger (s : ResolverState) (cloid : Cloid) (market : Market)
    (positions : List AssetPosition) (verifiedAt : ℕ) (markPrice : Option ℚ) : ResolverState :=
  let position := positionSize positions market.asset
  let synced : ManagedLedger :=
    match s.ledger.lookup market with
    | none => ⟨⟨persistedLedgerDecimal position, some cloid, some verifiedAt⟩, position, true,
        markPrice.getD 0⟩
    | some ledger =>
      { ledger with
        toLedgerRow := syncedLedger ledger.toLedgerRow cloid position verifiedAt
        managed := true
        markPrice := markPrice.getD ledger.markPrice }
  { s with ledger := s.ledger.insert market synced }

/-- `_ensure_aged_incident`: the incident of the execution, created where there is none. -/
def ensureAgedIncident (s : ResolverState) (v : Visit) (row : AmbiguousExecution) :
    ResolverState × IncidentId :=
  match row.incident with
  | some id => (s, id)
  | none =>
    ({ s with
        incidents := s.incidents.insert v.incidentId ⟨false, none⟩
        executions := s.executions.insert v.cloid { row with incident := some v.incidentId } },
      v.incidentId)

/-- `_resolve_incident`. -/
def resolveIncident (s : ResolverState) (id : Option IncidentId) (now : ℕ) : ResolverState :=
  match id with
  | none => s
  | some id =>
    { s with incidents := s.incidents.modify id fun incident =>
        if incident.resolvedAt.isNone then { incident with resolvedAt := some now } else incident }

/-- `_persist_outcome` on the whole row; the evidence of the incident is kept. -/
def AmbiguousExecution.record (row : AmbiguousExecution) (o : ReadOutcome) (now : ℕ) :
    Option AmbiguousExecution :=
  (persistOutcome row.toExecution o.toOutcome now).map fun base =>
    { row with
      toExecution := base
      exchangeOid := o.oid
      avgPrice := o.avgPrice
      reason := o.reason }

/-- What the answers say of the order. -/
def readOrder (v : Visit) (row : AmbiguousExecution) : List FillRow × ReadOutcome :=
  let looked := resolveCloid v.status
  let fills := if (evidenceOid looked row.exchangeOid).isSome then v.fills.getD [] else []
  (fills, withFillEvidence row.requestedSize row.exchangeOid fills looked)

/-- A fill is not recorded without a position to write to the ledger. -/
def settleable (v : Visit) (o : ReadOutcome) : ReadOutcome :=
  if o.state = .filled ∧ v.snapshot.isNone then
    { o with state := .unknown, reason := some .snapshotUnavailable }
  else o

/-- Record a terminal outcome, a fill together with the position of the account. -/
def recordResolved (s : ResolverState) (v : Visit) (row : AmbiguousExecution) (o : ReadOutcome) :
    ResolverState :=
  let synced :=
    match o.state, v.snapshot with
    | .filled, some positions =>
      syncAssetLedger s v.cloid row.market positions v.verifiedAt o.avgPrice
    | _, _ => s
  match row.record o v.resolvedAt with
  | none => s
  | some row' =>
    resolveIncident { synced with executions := synced.executions.insert v.cloid row' } row.incident
      v.resolvedAt

/-- Quarantine an execution, together with the position of the account. -/
def recordQuarantine (s : ResolverState) (v : Visit) (row : AmbiguousExecution)
    (id : IncidentId) (positions : List AssetPosition) (markPrice : Option ℚ) : ResolverState :=
  let synced := syncAssetLedger s v.cloid row.market positions v.verifiedAgainAt markPrice
  match persistOutcome row.toExecution ⟨.quarantined, row.filledSize⟩ v.quarantinedAt with
  | none => s
  | some base =>
    { synced with
      executions := synced.executions.insert v.cloid
        { row with
          toExecution := base
          incident := some id }
      incidents := synced.incidents.modify id fun incident =>
        { incident with quarantined := true } }

/-! ## The visit -/

/-- The part for executions whose order is still unknown.  `jobNow` is the second look at the job;
the rollback takes back the incident that is not committed yet. -/
def visitUnknown (s : ResolverState) (v : Visit) (row : AmbiguousExecution) (job jobNow : JobState)
    (fills : List FillRow) (o : ReadOutcome) : ResolverState × VisitEnd :=
  if v.agedAt - row.createdAt < unknownExecutionSlaSeconds then (s, .waiting)
  else
    let aged := ensureAgedIncident s v row
    -- a live retry owner still controls the intent
    if job.active then (aged.1, .alerted)
    else
      match v.snapshotAgain with
      | none => (aged.1, .alerted)
      | some positions =>
        let fills := if fills.isEmpty then v.fillsAgain.getD [] else fills
        let evidence := matchingFillSummary fills (evidenceOid o row.exchangeOid)
        if jobNow.active then (s, .alerted)
        else (recordQuarantine aged.1 v row aged.2 positions evidence.avgPrice, .quarantined)

/-- One candidate of the pass. -/
def visitExecution (network : Network) (s : ResolverState) (v : Visit) :
    ResolverState × VisitEnd :=
  match s.executions.lookup v.cloid with
  | none => (s, .passed)
  | some row =>
    if row.state.terminal then (s, .passed)
    else
      match s.jobs.lookup row.jobId with
      | none => (s, .passed)
      | some job =>
        if !v.accountExists || v.network ≠ network || row.createdAt < v.networkStartedAt then
          (s, .passed)
        else
          let jobNow := v.jobWrites.foldl JobState.written job
          let s := { s with jobs := s.jobs.insert row.jobId jobNow }
          let read := readOrder v row
          let o := settleable v read.2
          if o.state ≠ .unknown then (recordResolved s v row o, .resolved)
          else visitUnknown s v row job (if v.jobRefreshed then jobNow else job) read.1 o

/-! ## The pass -/

/-- The counters a pass returns. -/
structure ResolverCounts where
  checked : ℕ
  resolved : ℕ
  quarantined : ℕ
  aged : ℕ
deriving DecidableEq, Repr

/-- A visit counts. -/
def ResolverCounts.count (c : ResolverCounts) : VisitEnd → ResolverCounts
  | .passed => c
  | .waiting => { c with checked := c.checked + 1 }
  | .resolved => { c with checked := c.checked + 1, resolved := c.resolved + 1 }
  | .alerted => { c with checked := c.checked + 1, aged := c.aged + 1 }
  | .quarantined =>
    { c with checked := c.checked + 1, aged := c.aged + 1, quarantined := c.quarantined + 1 }

/-- `resolve_ambiguous_executions`, its candidates in order. -/
def resolvePass (network : Network) (s : ResolverState) (visits : List Visit) :
    ResolverState × ResolverCounts :=
  visits.foldl
    (fun done v =>
      let visited := visitExecution network done.1 v
      (visited.1, done.2.count visited.2))
    (s, ⟨0, 0, 0, 0⟩)

end HyperCopy

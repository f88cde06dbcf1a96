import HyperCopy.Library.Fallible
import HyperCopy.Executor.Planning
import HyperCopy.Risex.Submission

/-!
# Settlement of a RISEx execution

An execution whose outcome is known is settled with the provider's absolute position: the ledger
row takes the position, the execution becomes terminal, which releases its reservation, and the job
is finished.  `persist_risex_provider_truth` in `services/risex_provider_truth.py` does it for the
worker that posted the order, `_settle_candidate` in `services/risex_execution_resolution.py` for
an execution that was left open; both end in `settle_risex_execution_under_accounting_lock`, which
commits the ledger and the execution together.

Both observe the provider without a lock, so they remember the ledger row of before (`baseline`)
and compare it under the ledger lock of the user.  Other sessions commit in between: anything
before the lock, and everything but the ledger row under it (`Interference`).  The two routines do
not hold the same copy of the execution.  The resolver loads it anew under the lock, the worker's
session still has the instance it came with.

What a routine commits is a list of row writes, applied to the tables at the moment of its commit.
-/

namespace HyperCopy

open Fallible

/-! ## Rows -/

/-- A ledger row, with the columns of `RISExLedgerBaseline`; the leverage columns are written
together with `exchange_verified_at` only. -/
structure RisexLedger where
  ledgerId : ℕ
  size : LedgerDecimal
  targetSize : LedgerDecimal
  markPrice : LedgerDecimal
  managed : Bool
  lastExecutionId : Option ExecutionId
  exchangeVerifiedAt : Option ℕ
deriving DecidableEq

/-- `RISExProviderTruthSnapshot`. -/
structure ProviderTruthSnapshot where
  marketId : ℕ
  positionSize : ℚ
  markPrice : ℚ
  verifiedAt : ℕ
deriving DecidableEq, Repr

/-- `response['risex_4c']`. -/
structure Risex4CResolution where
  nonceBlockNumber : ℕ
  txHash : Option String
  orderBlockNumber : Option ℕ
  status : Option String
  source : Option String
deriving DecidableEq, Repr

/-- A row of `executions`.  Of a row of the other provider the routines read the market and the
state. -/
structure SettlementExecution extends RisexExecution where
  executionProvider : Option ExecutionProvider
  executionNetwork : Network
  /-- The reason beside `terminalOutcome`. -/
  terminalReason : Option String
  avgPrice : Option ℚ
  rejectReason : Option String
  resolvedAt : Option ℕ
  providerTruth : Option ProviderTruthSnapshot
  resolution : Option Risex4CResolution
  /-- `response['risex_4b_ter_a']`. -/
  settlementSerialized : Bool
deriving DecidableEq, Repr

/-- A job, with the columns a settlement writes. -/
structure SettlementJob extends RisexJob where
  lastError : Option String
  owner : Option ℕ
  lockedUntil : Option ℕ
  nextAttemptAt : Option ℕ
deriving DecidableEq, Repr

/-- The tables a settlement reads and writes. -/
structure SettlementDb where
  executions : Table ExecutionId SettlementExecution
  jobs : Table JobId SettlementJob
  epochs : Table EpochId ExecutionEpoch
  ledgers : Table (UserId × Asset) RisexLedger

/-- A write of the session to one row. -/
inductive RowWrite
  | ledger (market : UserId × Asset) (row : RisexLedger)
  | execution (executionId : ExecutionId) (f : SettlementExecution → SettlementExecution)
  | job (jobId : JobId) (f : SettlementJob → SettlementJob)

/-- The write takes effect. -/
def RowWrite.apply : RowWrite → SettlementDb → SettlementDb
  | .ledger market row, db => { db with ledgers := db.ledgers.insert market row }
  | .execution executionId f, db =>
      { db with executions := Table.modify db.executions executionId f }
  | .job jobId f, db => { db with jobs := Table.modify db.jobs jobId f }

/-- The writes of a transaction, in their order. -/
def applyWrites (writes : List RowWrite) (db : SettlementDb) : SettlementDb :=
  writes.foldl (fun db write => write.apply db) db

/-! ## The settlement of the execution -/

/-- `RISExSubmissionOutcome` with its reason. -/
structure SettledOutcome extends RisexSubmissionOutcome where
  reason : Option String
deriving DecidableEq, Repr

/-- The reasons for which a settlement raises. -/
inductive SettlementError
  | evidenceUnavailable
  | epochInvalid
  | snapshotUnavailable
  | notDefinitive
  | notFound
  | noReservation
  | callbackMissing
  | database
deriving DecidableEq, Repr

/-- The texts of the errors the routines raise themselves; reads and writes that fail bring their
own. -/
def SettlementError.message : SettlementError → Option String
  | evidenceUnavailable => some "RISEx terminal evidence is unavailable"
  | epochInvalid => some "RISEx terminal settlement execution epoch is invalid"
  | notDefinitive => some "RISEx settlement requires a definitive terminal outcome"
  | notFound => some "RISEx settlement execution was not found"
  | noReservation => some "RISEx settlement requires an active reservation"
  | callbackMissing => some "RISEx provider truth callback is required before reservation release"
  | snapshotUnavailable | database => none

/-- What a provider truth callback has pending, and the instance as it leaves it. -/
abbrev TruthWrites := List RowWrite × SettlementExecution

/-- The ledger row behind the provider's truth; an old row keeps its identity and target. -/
def settledLedger (newLedgerId : ℕ) (executionId : ExecutionId) (snapshot : ProviderTruthSnapshot)
    (stored : Option RisexLedger) : RisexLedger where
  ledgerId := (stored.map (·.ledgerId)).getD newLedgerId
  size := persistedLedgerDecimal snapshot.positionSize
  targetSize := (stored.map (·.targetSize)).getD (persistedLedgerDecimal snapshot.positionSize)
  markPrice := persistedLedgerDecimal snapshot.markPrice
  managed := true
  lastExecutionId := some executionId
  exchangeVerifiedAt := some snapshot.verifiedAt

/-- `_apply_snapshot_under_settlement_lock`. -/
def applySnapshot (db : SettlementDb) (newLedgerId : ℕ) (snapshot : ProviderTruthSnapshot)
    (seen : SettlementExecution) (fails : Bool) : Except SettlementError TruthWrites := do
  Fallible.require (!fails) .database
  return ([.ledger (seen.userId, seen.asset)
      (settledLedger newLedgerId seen.executionId snapshot
        (db.ledgers.lookup (seen.userId, seen.asset)))],
    { seen with providerTruth := some snapshot })

/-- The columns the settlement assigns on its instance, flushed to the row. -/
def settledRow (outcome : SettledOutcome) (seen : SettlementExecution) (now : ℕ)
    (row : SettlementExecution) : SettlementExecution :=
  { row with
    toRisexExecution :=
      writeSettled outcome.toRisexSubmissionOutcome seen.toRisexExecution row.toRisexExecution
    terminalReason := seen.terminalReason
    providerTruth := seen.providerTruth
    resolution := seen.resolution
    settlementSerialized := true
    rejectReason := outcome.reason
    resolvedAt := some now }

/-- The provider truth of a settlement: a rejection needs none, every other outcome calls back. -/
def settlementTruth (outcome : SettledOutcome) (seen : SettlementExecution)
    (callback : Option (Except SettlementError TruthWrites)) : Except SettlementError TruthWrites :=
  if outcome.executionState = .rejected then .ok ([], seen)
  else callback.getD (.error .callbackMissing)

/-- `settle_risex_execution_under_accounting_lock`: what it commits, with the writes its
transaction has pending already; an error rolls them back. -/
def settleUnderAccountingLock (db : SettlementDb) (outcome : SettledOutcome)
    (seen : SettlementExecution) (pending : List RowWrite)
    (callback : Option (Except SettlementError TruthWrites)) (now : ℕ) (commitFails : Bool) :
    Except SettlementError (List RowWrite) := do
  Fallible.require (outcome.definitive && caseATerminal outcome.executionState) .notDefinitive
  let _ ← expect (db.executions.lookup seen.executionId) .notFound
  Fallible.require seen.state.unresolved .noReservation
  let truth ← settlementTruth outcome seen callback
  Fallible.require (!commitFails) .database
  return pending ++ truth.1 ++ [.execution seen.executionId (settledRow outcome truth.2 now)]

/-! ## Runs -/

/-- What other sessions commit while a settlement runs: before it holds the ledger lock of the
user, under the lock, and after its commit. -/
structure Interference (market : UserId × Asset) where
  beforeLock : SettlementDb → SettlementDb
  underLock : SettlementDb → SettlementDb
  afterCommit : SettlementDb → SettlementDb
  keepsLedger : ∀ db, (underLock db).ledgers.lookup market = db.ledgers.lookup market

/-- How a call ends. -/
inductive SettlementOutcome
  | settled
  | notSettled
  | raised (error : SettlementError)
deriving DecidableEq, Repr

/-- How a routine ended, what it committed, and the tables with and without its writes. -/
structure SettlementRun where
  outcome : SettlementOutcome
  writes : List RowWrite
  db : SettlementDb
  undisturbed : SettlementDb

/-- A routine that ends without a write. -/
def endedAt (outcome : SettlementOutcome) (db : SettlementDb) : SettlementRun :=
  ⟨outcome, [], db, db⟩

/-- Another open execution of the market, among the providers of the query. -/
def SettlementDb.openPeer (db : SettlementDb) (market : UserId × Asset)
    (executionId : ExecutionId) (among : Option ExecutionProvider → Bool) : Bool :=
  Table.any db.executions fun otherId row =>
    row.userId = market.1 && row.asset = market.2 && otherId ≠ executionId &&
      among row.executionProvider && row.state.unresolved

/-- `other_unresolved` of `persist_risex_provider_truth`: of any provider. -/
def SettlementDb.otherUnresolved (db : SettlementDb) (market : UserId × Asset)
    (executionId : ExecutionId) : Bool :=
  db.openPeer market executionId fun _ => true

/-- `peer` of `_settle_candidate`: of RISEx. -/
def SettlementDb.peer (db : SettlementDb) (market : UserId × Asset) (executionId : ExecutionId) :
    Bool :=
  db.openPeer market executionId fun provider => provider = some .risex

/-! ## `persist_risex_provider_truth` -/

/-- `_terminal_outcome`. -/
def terminalOutcome (row : SettlementExecution) : Option SettledOutcome :=
  row.terminalOutcome.bind fun raw =>
    if !raw.definitive || !caseATerminal raw.executionState then none
    else if raw.executionState = .filled ∧ ¬∃ q ∈ raw.filledQuantity, 0 < q then none
    else
      let filled := if raw.executionState = .canceled then some (raw.filledQuantity.getD 0)
        else raw.filledQuantity
      some ⟨{ raw with filledQuantity := filled }, row.terminalReason⟩

/-- A call of the routine: the instance of the caller's session, and what it meets. -/
structure PersistCall where
  seen : SettlementExecution
  interference : Interference (seen.userId, seen.asset)
  /-- `none` where the provider cannot be read or its snapshot is malformed. -/
  snapshot : Option ProviderTruthSnapshot
  newLedgerId : ℕ
  now : ℕ
  truthFails : Bool
  commitFails : Bool

namespace PersistCall

variable (c : PersistCall)

/-- The market of the execution. -/
def market : UserId × Asset := (c.seen.userId, c.seen.asset)

/-- The epoch of the execution is one of the user's, on the provider and network, with an
account. -/
def epochValid (db : SettlementDb) : Bool :=
  (db.epochs.lookup c.seen.executionEpochId).any fun epoch =>
    epoch.userId = c.seen.userId && epoch.provider = .risex && epoch.network = .testnet &&
      epoch.accountAddress.isSome

/-- The settlement under the lock.  A rejection takes the snapshot first, the other outcomes
inside the settlement. -/
def settle (db : SettlementDb) (outcome : SettledOutcome) (snapshot : ProviderTruthSnapshot) :
    Except SettlementError (List RowWrite) :=
  let truth := applySnapshot db c.newLedgerId snapshot c.seen c.truthFails
  if outcome.executionState = .rejected then do
    let (pending, seen') ← truth
    settleUnderAccountingLock db outcome seen' pending none c.now c.commitFails
  else settleUnderAccountingLock db outcome c.seen [] (some truth) c.now c.commitFails

/-- The part of the routine under the ledger lock. -/
def persistUnderLock (baseline : Option RisexLedger) (outcome : SettledOutcome)
    (snapshot : ProviderTruthSnapshot) (db : SettlementDb) : SettlementRun :=
  if c.seen.state.terminal then
    endedAt (if caseATerminal c.seen.state then .settled else .notSettled) db
  else if db.ledgers.lookup c.market ≠ baseline then endedAt .notSettled db
  else if db.otherUnresolved c.market c.seen.executionId then endedAt .notSettled db
  else
    let locked := c.interference.underLock db
    match c.settle locked outcome snapshot with
    | .error e => endedAt (.raised e) locked
    | .ok writes => ⟨.settled, writes, applyWrites writes locked, locked⟩

/-- `persist_risex_provider_truth`. -/
def persistRisexProviderTruth (db : SettlementDb) : SettlementRun :=
  match terminalOutcome c.seen with
  | none => endedAt (.raised .evidenceUnavailable) db
  | some outcome =>
      if !c.epochValid db then endedAt (.raised .epochInvalid) db
      else
        let observed := c.interference.beforeLock db
        match c.snapshot with
        | none => endedAt (.raised .snapshotUnavailable) observed
        | some snapshot =>
            c.persistUnderLock (db.ledgers.lookup c.market) outcome snapshot observed

end PersistCall

/-! ## `_settle_candidate` -/

/-- `_RISEx4CCandidate`. -/
structure Risex4CCandidate where
  executionId : ExecutionId
  jobId : JobId
  userId : UserId
  executionEpochId : EpochId
  asset : Asset
  accountAddress : AccountAddress
  clientOrderId : ℕ
  nonceAnchor : ℕ
  nonceBitmapIndex : ℕ
  baseline : Option RisexLedger
deriving DecidableEq

/-- The evidence of an order found at the provider; a field is `none` where it has another type. -/
structure Risex4CEvidence where
  executionState : Option ExecutionState
  filledSize : Option ℚ
  providerOrderId : Option ℕ
  nonceBlockNumber : Option ℕ
  reason : Option String
  avgPrice : Option ℚ
  txHash : Option String
  orderBlockNumber : Option ℕ
  status : Option String
  source : Option String
deriving DecidableEq, Repr

/-- What one call for a candidate is given, and what happens around it. -/
structure CandidateCall where
  candidate : Risex4CCandidate
  evidence : Risex4CEvidence
  snapshot : ProviderTruthSnapshot
  interference : Interference (candidate.userId, candidate.asset)
  newLedgerId : ℕ
  now : ℕ
  truthFails : Bool
  commitFails : Bool
  finishFails : Bool

namespace CandidateCall

variable (c : CandidateCall)

/-- The market of the candidate. -/
def market : UserId × Asset := (c.candidate.userId, c.candidate.asset)

/-- `_candidate_identity_matches`. -/
def identityMatches (execution : SettlementExecution) (job : SettlementJob)
    (epoch : ExecutionEpoch) : Bool :=
  execution.executionId = c.candidate.executionId && execution.state.unresolved &&
    execution.executionProvider = some .risex && execution.executionNetwork = .testnet &&
    execution.executionEpochId = c.candidate.executionEpochId &&
    execution.userId = c.candidate.userId && execution.asset = c.candidate.asset &&
    execution.clientOrderId = c.candidate.clientOrderId &&
    execution.nonceAnchor = c.candidate.nonceAnchor &&
    execution.nonceBitmapIndex = c.candidate.nonceBitmapIndex &&
    job.userId = c.candidate.userId &&
    job.executionEpochId = some c.candidate.executionEpochId &&
    job.executionProvider = some .risex && job.executionNetwork = some .testnet &&
    epoch.userId = c.candidate.userId && epoch.provider = .risex && epoch.network = .testnet &&
    epoch.accountAddress = some c.candidate.accountAddress

/-- The execution, loaded anew, where it is still the candidate's. -/
def currentExecution (db : SettlementDb) : Option SettlementExecution :=
  match db.executions.lookup c.candidate.executionId, db.jobs.lookup c.candidate.jobId,
    db.epochs.lookup c.candidate.executionEpochId with
  | some execution, some job, some epoch =>
      if c.identityMatches execution job epoch then some execution else none
  | _, _, _ => none

/-- The outcome and the columns the evidence supports. -/
def settledEvidence : Option (SettledOutcome × Risex4CResolution) :=
  match c.evidence.executionState, c.evidence.filledSize, c.evidence.providerOrderId,
    c.evidence.nonceBlockNumber with
  | some state, some filled, some orderId, some block =>
      if (state = .filled ∨ state = .canceled) ∧ 0 ≤ filled then
        some (⟨⟨true, state, some orderId, some filled⟩, c.evidence.reason⟩,
          ⟨block, c.evidence.txHash, c.evidence.orderBlockNumber, c.evidence.status,
            c.evidence.source⟩)
      else none
  | _, _, _, _ => none

/-- The checks under the ledger lock: the execution, the outcome and the evidence to settle with. -/
def admission (db : SettlementDb) :
    Option (SettlementExecution × SettledOutcome × Risex4CResolution) :=
  match c.currentExecution db with
  | none => none
  | some seen =>
      if db.ledgers.lookup c.market ≠ c.candidate.baseline then none
      else if db.peer c.market c.candidate.executionId then none
      else c.settledEvidence.map fun found => (seen, found)

/-- `persist_snapshot` of the resolver: the snapshot, and the evidence on the instance. -/
def persistSnapshot (db : SettlementDb) (seen : SettlementExecution)
    (resolution : Risex4CResolution) : Except SettlementError TruthWrites := do
  let (writes, seen') ← applySnapshot db c.newLedgerId c.snapshot seen c.truthFails
  return (writes ++
      [.execution seen.executionId fun row => { row with avgPrice := c.evidence.avgPrice }],
    { seen' with resolution := some resolution })

/-- What the settlement of the admitted execution commits. -/
def settle (db : SettlementDb) (seen : SettlementExecution) (outcome : SettledOutcome)
    (resolution : Risex4CResolution) : Except SettlementError (List RowWrite) :=
  settleUnderAccountingLock db outcome seen [] (some (c.persistSnapshot db seen resolution)) c.now
    c.commitFails

/-- `_finish_case_a_job`. -/
def finishedJob (outcome : SettledOutcome) (job : SettlementJob) : SettlementJob :=
  { job with
    toRisexJob := finishCaseAJob outcome.executionState job.toRisexJob
    lastError := outcome.reason
    owner := none
    lockedUntil := none
    nextAttemptAt := none }

/-- Behind the commit of the settlement: the job is read again and finished. -/
def finish (outcome : SettledOutcome) (writes : List RowWrite) (db undisturbed : SettlementDb) :
    SettlementRun :=
  match db.jobs.lookup c.candidate.jobId with
  | none => ⟨.notSettled, writes, db, undisturbed⟩
  | some job =>
      if !job.state.active then ⟨.notSettled, writes, db, undisturbed⟩
      else if c.finishFails then ⟨.raised .database, writes, db, undisturbed⟩
      else
        let write := RowWrite.job c.candidate.jobId (finishedJob outcome)
        ⟨.settled, writes ++ [write], write.apply db, undisturbed⟩

/-- `_settle_candidate` behind its checks. -/
def settleAdmitted (locked : SettlementDb) (seen : SettlementExecution) (outcome : SettledOutcome)
    (resolution : Risex4CResolution) : SettlementRun :=
  match c.settle locked seen outcome resolution with
  | .error e => endedAt (.raised e) locked
  | .ok writes =>
      c.finish outcome writes (c.interference.afterCommit (applyWrites writes locked))
        (c.interference.afterCommit locked)

/-- `_settle_candidate`. -/
def settleCandidate (db : SettlementDb) : SettlementRun :=
  let observed := c.interference.beforeLock db
  match c.admission observed with
  | none => endedAt .notSettled observed
  | some (seen, outcome, resolution) =>
      c.settleAdmitted (c.interference.underLock observed) seen outcome resolution

end CandidateCall

end HyperCopy

import HyperCopy.Destination.RiskEvidence
import HyperCopy.Library.Table
import HyperCopy.Library.UnitOfWork
import HyperCopy.Reconcile.Batch
import HyperCopy.Reconcile.PlannerAgreement

/-!
# A reconciliation that fails

`reconcile_observed_follower` in `services/reconcile.py` flushes a `ReconciliationRun` row and then
works through one session: it creates or updates the risk row, writes the ledger row of every asset
and queues the jobs, and commits at the end.  Almost every step reads something and can raise.
The handler marks the run `FAILED` and commits the same session, so whatever the pass had changed
before it raised is written with the failed run; `reconcile_active_users` rolls back afterwards,
when there is nothing left to forget (`UnitOfWork.rollback_commitEither`).

The session is a `FollowerDb`, the pass an `EStateM` program over it, in the order of the source.
Where it may raise is an input: `raisesAt` names the reads that do, and the observation has the two
failures the pass detects itself, an indeterminate margin and a malformed mark.  Two things are left
out: `updated_at` of the risk row, which nothing reads, and that an SQL statement which fails aborts
the transaction, so that the commit of the handler has nothing to write.
-/

namespace HyperCopy

open UnitOfWork

/-! ## Rows -/

/-- A `position_ledger` row as the reconciler writes it. -/
structure ReconciledLedger where
  size : LedgerDecimal
  targetSize : LedgerDecimal
  markPrice : LedgerDecimal
  managed : Bool
  masterLeverage : Option ℤ
  masterIsCross : Option Bool
  followerLeverage : Option ℤ
  followerIsCross : Option Bool
  exchangeVerifiedAt : Option ℕ
deriving DecidableEq

/-- The text a halt leaves in the risk row: the loss, to two places, and the limit it reached. -/
structure HaltReason where
  halt : RiskHalt
  lossPct : ℚ
  limitPct : ℚ
deriving DecidableEq, Repr

/-- The row of `risk_state`, as far as a pass writes it. -/
structure RiskStateRow where
  state : RiskHalt
  reason : Option HaltReason
  peakEquity : Option LedgerDecimal
  dayStartEquity : Option LedgerDecimal
  dayKey : Option ℕ
  nearLiquidation : Bool
  liquidationDistancePct : Option LedgerDecimal
deriving DecidableEq

/-- The `ai:execution_influence` flag, with the last policy it accepted. -/
structure AiModeFlag where
  enabled : Bool
  lastValidFactor : Option ℚ
  lastValidBufferPct : Option ℚ
deriving DecidableEq, Repr

/-- The reads in front of the asset loop that can raise. -/
inductive PassRead
  | ledgerRows
  | riskState
  | riskProfile
  | entitlement
  | aiPolicy
  | unresolvedExecutions
deriving DecidableEq, Repr

/-- The reads of one turn of the loop that can raise: two marks and four queries. -/
inductive TurnRead
  | followerMark
  | masterMark
  | protectedTarget
  | pendingJob
  | terminalRejection
  | liquidityBackoff
deriving DecidableEq, Repr

/-- What a pass raises. -/
inductive ReconcileFailure
  /-- `RISEx unmanaged position marginUsed is indeterminate for`: the assets. -/
  | marginIndeterminate (assets : List Asset)
  | pass (r : PassRead)
  | malformedMark
  | turn (asset : Asset) (r : TurnRead)
deriving DecidableEq, Repr

/-- The status of a `reconciliation_runs` row. -/
inductive RunStatus
  | running
  | ok
  | failed (error : ReconcileFailure)
deriving DecidableEq, Repr

/-- The rows of one follower, and the clock: no ledger row was verified after it. -/
structure FollowerDb where
  ledger : Table Asset ReconciledLedger
  riskState : Option RiskStateRow
  aiMode : Option AiModeFlag
  jobs : List BatchJob
  equitySnapshots : List EquitySnapshot
  runs : List RunStatus
  clock : ℕ
  stamped : ∀ asset row t, ledger.lookup asset = some row → row.exchangeVerifiedAt = some t →
    t ≤ clock

/-! ## What a pass is called with -/

/-- An asset of the loop.  Its `ledger` is read from the session when its turn comes. -/
structure ObservedAsset extends ReconcileAsset where
  /-- How long after the previous turn the turn reads the clock. -/
  elapsed : ℕ
  raisesAt : TurnRead → Bool

/-- A liquidation price of the observation and the mark beside it, where both can be read. -/
structure LiquidationPrice where
  liquidation : Option ℚ
  mark : Option ℚ
deriving DecidableEq, Repr

/-- What one pass over a follower has read before it writes. -/
structure ReconcileCall where
  follower : ReconcileFollower
  /-- `none` where the provider's margin could not be determined. -/
  unmanagedMargin : Option ℚ
  liquidationPrices : List LiquidationPrice
  thresholds : RiskThresholds
  /-- The capital policy is in force, so its factor is kept as the last valid one. -/
  aiEffective : Bool
  today : ℕ
  createJobs : Bool
  assets : List ObservedAsset
  raisesAt : PassRead → Bool

/-! ## The checks and writes in front of the loop -/

namespace ReconcileCall

variable (c : ReconcileCall)

/-- Assets with a position that is not managed. -/
def unmanagedAssets (db : FollowerDb) : List Asset :=
  (c.assets.filter fun a =>
    decide (a.real ≠ (0 : ℚ)) &&
      (match db.ledger.lookup a.asset with
      | some row => !row.managed
      | none => decide (a.masterPosition = (0 : ℚ)))).map (·.asset)

/-- The margin of a position that the ledger does not manage is unknown. -/
def marginIndeterminate (db : FollowerDb) : Bool :=
  c.unmanagedMargin.isNone && !(c.unmanagedAssets db).isEmpty

/-- `distances` and their minimum. -/
def minLiquidationDistance : Option ℚ :=
  (c.liquidationPrices.filterMap fun p =>
    match p.liquidation, p.mark with
    | some liquidation, some mark =>
        if 0 < mark then some (|mark - liquidation| / mark * 100) else none
    | _, _ => none).min?

/-- The risk row of a follower that has none. -/
def newRiskState : RiskStateRow where
  state := .normal
  reason := none
  peakEquity := some (persistedLedgerDecimal c.follower.equity)
  dayStartEquity := some (persistedLedgerDecimal c.follower.equity)
  dayKey := some c.today
  nearLiquidation := false
  liquidationDistancePct := none

/-- The risk row is there from here on. -/
def ensureRiskState (db : FollowerDb) : FollowerDb :=
  { db with riskState := some (db.riskState.getD c.newRiskState) }

/-- `read_ai_execution_policy` keeps the accepted policy as the fallback. -/
def alignedFlag (flag : AiModeFlag) : AiModeFlag :=
  let factor := c.follower.aiFactor
  if flag.enabled && c.aiEffective &&
      (boundedFactor flag.lastValidFactor ≠ factor ||
        max 0 (min (flag.lastValidBufferPct.getD 0) (3 / 10)) ≠ 1 - factor) then
    { flag with lastValidFactor := some factor, lastValidBufferPct := some (1 - factor) }
  else flag

/-- The flag of the AI mode follows the policy in force. -/
def alignAiMode (db : FollowerDb) : FollowerDb :=
  { db with aiMode := db.aiMode.map c.alignedFlag }

/-- The highest equity seen, this one included. -/
def peakEquity (row : RiskStateRow) : ℚ :=
  match row.peakEquity with
  | some stored => max stored.value c.follower.equity
  | none => c.follower.equity

/-- The equity the day started from; a new day starts from this one. -/
def dayStartEquity (row : RiskStateRow) : Option ℚ :=
  if row.dayKey = some c.today then row.dayStartEquity.map (·.value) else some c.follower.equity

/-- The loss since the peak, in percent. -/
def drawdownPct (row : RiskStateRow) : ℚ := lossPct (c.peakEquity row) c.follower.equity

/-- The loss since the day started, in percent. -/
def dailyLossPct (row : RiskStateRow) : ℚ :=
  ((c.dayStartEquity row).map fun start => lossPct start c.follower.equity).getD 0

/-- A halt and its text, where the loss has reached the limit. -/
def haltAt (halt : RiskHalt) (loss limit : ℚ) : Option HaltReason :=
  if limit ≤ loss then some ⟨halt, Quantize.halfEvenTo (1 / 100) loss, limit⟩ else none

/-- The halt of this pass: the daily loss is checked last. -/
def halt (row : RiskStateRow) : Option HaltReason :=
  (haltAt .dailyLossHalt (c.dailyLossPct row) c.thresholds.maxDailyLossPct).orElse fun _ =>
    haltAt .drawdownHalt (c.drawdownPct row) c.thresholds.maxDrawdownPct

/-- The risk row after the pass; equity and halts are only followed for a user with a profile. -/
def updatedRiskState (row : RiskStateRow) : RiskStateRow :=
  let near : RiskStateRow :=
    { row with
      liquidationDistancePct := c.minLiquidationDistance.map persistedLedgerDecimal
      nearLiquidation := c.minLiquidationDistance.any (· < 15) }
  if c.follower.risk.isSome then
    { near with
      peakEquity := some (persistedLedgerDecimal (c.peakEquity row))
      dayStartEquity := (c.dayStartEquity row).map persistedLedgerDecimal
      dayKey := some c.today
      state := ((c.halt row).map (·.halt)).getD row.state
      reason := (c.halt row).orElse fun _ => row.reason }
  else near

/-- The halts of the pass, written into the risk row. -/
def updateRiskState (db : FollowerDb) : FollowerDb :=
  { db with riskState := db.riskState.map c.updatedRiskState }

/-- The follower the loop works for: the margin of the observation, the halts of the risk row. -/
def observedFollower (db : FollowerDb) : ReconcileFollower :=
  { c.follower with
    unmanagedMargin := c.unmanagedMargin.getD 0
    drawdownHalt := db.riskState.any (·.state = .drawdownHalt)
    dailyLossHalt := db.riskState.any (·.state = .dailyLossHalt)
    nearLiquidation := db.riskState.any (·.nearLiquidation) }

end ReconcileCall

/-! ## One turn of the loop -/

namespace ObservedAsset

variable (a : ObservedAsset)

/-- The asset with its row of the session. -/
def withLedger (db : FollowerDb) : ReconcileAsset :=
  { a.toReconcileAsset with
    ledger := (db.ledger.lookup a.asset).map fun row => ⟨row.targetSize.value, row.managed⟩
    raises := false }

/-- The row after the first writes of the turn. -/
def observedRow (now : ℕ) (stored : Option ReconciledLedger) : ReconciledLedger :=
  { targetSize := (stored.map (·.targetSize)).getD (persistedLedgerDecimal 0)
    managed := (stored.map (·.managed)).getD a.listedByMaster || a.masterPosition ≠ 0
    masterLeverage := stored.bind (·.masterLeverage)
    masterIsCross := stored.bind (·.masterIsCross)
    followerLeverage := stored.bind (·.followerLeverage)
    followerIsCross := stored.bind (·.followerIsCross)
    size := persistedLedgerDecimal a.real
    markPrice := persistedLedgerDecimal a.followerMark
    exchangeVerifiedAt := some now }

/-- The row with its target and the leverages on both sides. -/
def targetedRow (f : ReconcileFollower) (row : ReconciledLedger) : ReconciledLedger :=
  let master := if a.masterPosition ≠ 0 then a.masterConfig else none
  let follower := if a.real ≠ 0 then a.followerConfig else none
  { row with
    targetSize := persistedLedgerDecimal (batchDesiredTarget f a.toReconcileAsset)
    masterLeverage := master.map (·.leverage)
    masterIsCross := master.map (·.isCross)
    followerLeverage := follower.map (·.leverage)
    followerIsCross := follower.map (·.isCross) }

/-- `protected_reconcile_target` reads nothing for a target of zero or another provider. -/
def readsProfitExits (f : ReconcileFollower) : Bool :=
  batchBaseTarget f a.toReconcileAsset * f.aiFactor ≠ 0 &&
    (f.scope a.asset).executionProvider = .hyperliquid

end ObservedAsset

namespace FollowerDb

variable (db : FollowerDb)

/-- Read the clock and write what was observed of the asset. -/
def observe (a : ObservedAsset) : FollowerDb :=
  let now := db.clock + 1 + a.elapsed
  { db with
    ledger := db.ledger.insert a.asset (a.observedRow now (db.ledger.lookup a.asset))
    clock := now
    stamped := by
      intro asset row t hrow ht
      rcases Table.lookup_insert_cases hrow with ⟨-, rfl⟩ | hold
      · exact (Option.some.inj ht).ge
      · have hle := db.stamped asset row t hold ht
        omega }

/-- Write the target of the asset. -/
def retarget (f : ReconcileFollower) (a : ObservedAsset) : FollowerDb :=
  { db with
    ledger := Table.modify db.ledger a.asset (a.targetedRow f)
    stamped := by
      intro asset row t hrow ht
      rcases Table.lookup_modify_eq_some.1 hrow with ⟨-, hold⟩ | ⟨-, old, hold, rfl⟩
      · exact db.stamped asset row t hold ht
      · exact db.stamped _ old t hold ht }

/-- A job is added to the session. -/
def addJob (job : BatchJob) : FollowerDb := { db with jobs := db.jobs ++ [job] }

/-- An equity snapshot is added to the session. -/
def addSnapshot (snapshot : EquitySnapshot) : FollowerDb :=
  { db with equitySnapshots := db.equitySnapshots ++ [snapshot] }

/-- The run row is added as `RUNNING`. -/
def openRun : FollowerDb := { db with runs := db.runs ++ [.running] }

/-- The run row gets its final status. -/
def closeRun (status : RunStatus) : FollowerDb :=
  { db with runs := db.runs.dropLast ++ [status] }

end FollowerDb

/-- The running totals of the batch. -/
structure BatchTotals where
  exposure : ℚ
  openPositions : ℤ
deriving DecidableEq, Repr

section Turn

variable (f : ReconcileFollower) (a : ReconcileAsset) (t : BatchTotals)

/-- The turn comes to the query for a pending job. -/
def reachesPendingJob : Bool := reachesPlan f { a with pending := false }

/-- The turn comes to the query for a rejected job. -/
def reachesTerminalRejection : Bool :=
  let preview := previewPlan f a t.exposure t.openPositions
  reachesPlan f a && f.minNotional ≤ driftNotional f a &&
    !(f.copyState = .active && f.risk.isSome && (increasingExposure f a || reversal f a) &&
      preview.1 && preview.2.isNone)

/-- The turn comes to the query for rejections for lack of liquidity. -/
def reachesLiquidityBackoff : Bool :=
  let preview := previewPlan f a t.exposure t.openPositions
  reachesTerminalRejection f a t && !rejectionBlocks f a (preview.2.map (·.submittedSize)) &&
    f.copyState = .active && increasingExposure f a

end Turn

/-- A pass changes the session's rows until it returns or raises. -/
abbrev ReconcileM := EStateM ReconcileFailure FollowerDb

/-- A read of a turn, which raises where the environment says so. -/
def turnRead (a : ObservedAsset) (r : TurnRead) (reached : Bool) : ReconcileM Unit :=
  raiseIf (reached && a.raisesAt r) (.turn a.asset r)

/-- What a turn does once the row of its asset is written: the queries in front of a job, and the
job. -/
def queueTurn (f : ReconcileFollower) (a : ObservedAsset) (asset : ReconcileAsset)
    (createJobs : Bool) (t : BatchTotals) : ReconcileM BatchTotals := do
  turnRead a .pendingJob (reachesPendingJob f asset)
  turnRead a .terminalRejection (reachesTerminalRejection f asset t)
  turnRead a .liquidityBackoff (reachesLiquidityBackoff f asset t)
  match reconcileJobFor f asset t.exposure t.openPositions with
  | none => pure t
  | some job =>
      if createJobs then modify (·.addJob job)
      pure ⟨job.reservedTotalExposure, job.reservedOpenPositions⟩

/-- A turn behind the follower's mark. -/
def markedTurn (f : ReconcileFollower) (a : ObservedAsset) (createJobs : Bool) (t : BatchTotals) :
    ReconcileM BatchTotals := do
  let db ← get
  modify (·.observe a)
  turnRead a .masterMark true
  turnRead a .protectedTarget (a.readsProfitExits f)
  modify (·.retarget f a)
  queueTurn f a (a.withLedger db) createJobs t

/-- One asset of the loop; its follower mark is read first. -/
def assetTurn (f : ReconcileFollower) (a : ObservedAsset) (createJobs : Bool) (t : BatchTotals) :
    ReconcileM BatchTotals := do
  turnRead a .followerMark true
  markedTurn f a createJobs t

/-- The loop over the assets, with the running totals. -/
def assetLoop (f : ReconcileFollower) (createJobs : Bool) :
    BatchTotals → List ObservedAsset → ReconcileM Unit
  | _, [] => pure ()
  | t, a :: rest => do
      let t' ← assetTurn f a createJobs t
      assetLoop f createJobs t' rest

/-! ## The pass -/

namespace ReconcileCall

variable (c : ReconcileCall)

/-- A read of the pass outside the loop. -/
def passRead (r : PassRead) : ReconcileM Unit := raiseIf (c.raisesAt r) (.pass r)

/-- The assets with their rows, as the sums in front of the loop read them. -/
def batchAssets (db : FollowerDb) : List ReconcileAsset := c.assets.map (·.withLedger db)

/-- The mark of a managed asset cannot be parsed. -/
def managedMarkMalformed (db : FollowerDb) : Bool :=
  c.assets.any fun a => (a.withLedger db).managed && a.raisesAt .followerMark

/-- The totals the loop starts from. -/
def startingTotals (db : FollowerDb) : BatchTotals :=
  ⟨startingExposure (c.batchAssets db), startingOpenPositions (c.batchAssets db)⟩

/-- The pass behind the update of the risk row. -/
def reconcileAssets : ReconcileM Unit := do
  c.passRead .unresolvedExecutions
  let db ← get
  raiseIf (c.managedMarkMalformed db) .malformedMark
  assetLoop (c.observedFollower db) c.createJobs (c.startingTotals db) c.assets

/-- The pass behind the creation of the risk row. -/
def reconcileWithRiskState : ReconcileM Unit := do
  c.passRead .riskProfile
  c.passRead .entitlement
  c.passRead .aiPolicy
  modify c.alignAiMode
  modify c.updateRiskState
  c.reconcileAssets

/-- The body of the `try`. -/
def reconcileBody : ReconcileM Unit := do
  c.passRead .ledgerRows
  let db ← get
  raiseIf (c.marginIndeterminate db) (.marginIndeterminate (c.unmanagedAssets db))
  c.passRead .riskState
  modify c.ensureRiskState
  c.reconcileWithRiskState
  modify fun db => (db.addSnapshot
    ⟨c.follower.equity, c.follower.freeMargin, c.unmanagedMargin.getD 0, db.clock⟩).closeRun .ok

/-- `reconcile_observed_follower` behind the check of the destination: flush the run row, run the
body, mark the run where it raises, and commit. -/
def reconcileObservedFollower (s : UnitOfWork FollowerDb) :
    UnitOfWork FollowerDb × Option ReconcileFailure :=
  commitEither c.reconcileBody (fun e db => db.closeRun (.failed e))
    { s with pending := s.pending.openRun }

end ReconcileCall

end HyperCopy

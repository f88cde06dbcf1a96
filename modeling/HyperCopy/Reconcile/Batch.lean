import HyperCopy.Reconcile.PlannerAgreement

/-!
# One reconciliation batch

The asset loop of `reconcile_observed_follower` in `services/reconcile.py`: for every asset of the
master, the follower or the ledger, compare the target with the position and queue a job where
they differ.  The jobs of a batch share the follower's capacity, so the loop threads two running
totals, the reserved exposure and the reserved open positions, and every job that was previewed by
the risk engine (`riskLimitedReconcilePlan`) adds its reservation to them.

`reconcileJobFor` is one turn of the loop: `none` where the source says `continue`.
-/

namespace HyperCopy

/-! ## What a batch reads -/

/-- The leverage of a market and whether its margin is shared. -/
structure MarginConfig where
  leverage : ℤ
  isCross : Bool
deriving DecidableEq, Repr

/-- What the loop reads of the ledger row. -/
structure LedgerTarget where
  targetSize : ℚ
  managed : Bool
deriving DecidableEq, Repr

/-- The last job of the asset, when it ended in a rejection that is not retried, and the size of
its rejected order. -/
structure TerminalRejection where
  rejectedTarget : ℚ
  rejectedReal : ℚ
  requestedSize : Option ℚ
deriving DecidableEq, Repr

/-- What one turn of the loop reads.  A market specification is `none` where its resolver raises;
the second read is the one in front of the plan. -/
structure ReconcileAsset where
  asset : Asset
  /-- The master's account lists the asset, with a position or without. -/
  listedByMaster : Bool
  masterPosition : ℚ
  real : ℚ
  followerMark : ℚ
  masterMark : ℚ
  ledger : Option LedgerTarget
  evidence : ProfitExitEvidence
  masterConfig : Option MarginConfig
  followerConfig : Option MarginConfig
  liveAmbiguity : Bool
  terminalAmbiguity : Bool
  spec : Option AssetSpec
  specAgain : Option AssetSpec
  planRaises : Bool
  pending : Bool
  terminalRejection : Option TerminalRejection
  liquidityWait : ℕ
  /-- Some other read of the turn raises. -/
  raises : Bool

/-- What a pass reads of its follower and holds for all assets. -/
structure ReconcileFollower where
  scope : Asset → ProfitExitScope
  masterNetwork : Network
  snapshotStartedOrder : Option ℤ
  copyState : CopyState
  strictManualTrades : Bool
  risk : Option CopyRiskProfile
  limits : PlanLimits
  aiFactor : ℚ
  masterEquity : ℚ
  equity : ℚ
  unmanagedMargin : ℚ
  freeMargin : ℚ
  drawdownHalt : Bool
  dailyLossHalt : Bool
  nearLiquidation : Bool

namespace ReconcileFollower

variable (f : ReconcileFollower)

/-- The profile under the plan's limits; `none` without a profile. -/
def effectiveRisk : Option EffectiveRisk :=
  f.risk.map fun risk => resolveEffectiveRisk risk.toRiskProfile f.limits none

/-- The multiplier of the profile, one without a profile. -/
def multiplier : ℚ := (f.effectiveRisk.map (·.multiplier)).getD 1

/-- The smallest order, never below that of the exchange. -/
def minNotional : ℚ :=
  max ((f.risk.map (·.minNotional)).getD exchangeMinNotional) exchangeMinNotional

/-- May the follower trade the asset? -/
def allowedAsset (asset : Asset) : Bool := f.risk.any fun risk => assetAllowed risk asset

end ReconcileFollower

/-! ## Targets -/

section Turn

variable (f : ReconcileFollower) (a : ReconcileAsset)

/-- The master's exposure in the market of the turn. -/
def batchMaster : MasterExposure := ⟨a.asset, a.masterPosition, a.masterMark, f.masterEquity⟩

/-- The follower's state in the market of the turn. -/
def batchFollower : FollowerState := ⟨f.equity, f.unmanagedMargin, a.real, f.multiplier⟩

/-- The target of the turn before the AI factor. -/
def batchBaseTarget : ℚ := baseTarget (batchMaster f a) (batchFollower f a) a.followerMark

/-- The target of the turn. -/
def batchDesiredTarget : ℚ :=
  protectedTarget a.evidence (f.scope a.asset) f.masterNetwork f.snapshotStartedOrder
    (batchMaster f a) (batchFollower f a) a.followerMark f.aiFactor

/-- Only orders of finished jobs are unresolved, and the target reduces the position. -/
def ambiguitySafe : Bool :=
  !a.liveAmbiguity && a.terminalAmbiguity && safeAmbiguityReduction a.real (batchDesiredTarget f a)

/-- `_reconciliation_basis`. -/
def reconciliationBasis : ℚ :=
  if f.copyState = .shadow then (a.ledger.map (·.targetSize)).getD 0 else a.real

/-- The distance between the basis and the target, in the follower's mark. -/
def driftNotional : ℚ :=
  if 0 < a.followerMark then |batchDesiredTarget f a - reconciliationBasis f a| * a.followerMark
  else 0

/-- The target opens a position or adds to one. -/
def increasingExposure : Bool :=
  (a.real = 0 && batchDesiredTarget f a ≠ 0) ||
    (0 < a.real * batchDesiredTarget f a && |a.real| < |batchDesiredTarget f a|)

/-- The target is on the other side of the position. -/
def reversal : Bool :=
  a.real ≠ 0 && batchDesiredTarget f a ≠ 0 && a.real * batchDesiredTarget f a < 0

/-! ## Leverage -/

/-- The leverage the follower's market should have. -/
structure LeverageCheck where
  desiredLeverage : ℤ
  desiredIsCross : Bool
  mismatch : Bool
deriving DecidableEq, Repr

/-- The leverage the market should have, under the limits of the profile and the market. -/
def checkLeverage (risk : CopyRiskProfile) (master : MarginConfig) (spec : AssetSpec) :
    LeverageCheck :=
  let limits := resolveEffectiveRisk risk.toRiskProfile f.limits (some (spec.maxLeverage : ℚ))
  let leverage := max 1 (min master.leverage (truncate limits.maxLeverage))
  let isCross := master.isCross && !spec.onlyIsolated
  { desiredLeverage := leverage
    desiredIsCross := isCross
    mismatch := a.real ≠ 0 && !a.followerConfig.any fun c => c.leverage = leverage && c.isCross = isCross }

/-- The specification read for the leverage check, and the check; nothing where the market has no
leverage to follow. -/
def leverageRead : Option AssetSpec × Option LeverageCheck :=
  match f.risk, a.masterConfig with
  | some risk, some master =>
      if f.copyState = .active ∧ a.masterPosition ≠ 0 ∧ f.allowedAsset a.asset then
        (a.spec, a.spec.map (checkLeverage f a risk master))
      else (none, none)
  | _, _ => (none, none)

/-- The leverage of the market is to be changed. -/
def leverageMismatch : Bool :=
  !ambiguitySafe f a && (leverageRead f a).2.any (·.mismatch)

/-! ## The preview of the risk engine -/

/-- The executable size, and the capacity it takes. -/
structure ReconcilePlan where
  submittedSize : ℚ
  additionalExposure : ℚ
  opensNewMarket : Bool
deriving DecidableEq, Repr

/-- The context a previewed plan is evaluated in; the user's switches are those of an active
account. -/
def reconcileRiskContext (risk : CopyRiskProfile) (limits : EffectiveRisk) (total : ℚ)
    (openPositions : ℤ) : RiskContext where
  userActive := true
  entitlementActive := true
  credentialActive := true
  userPaused := false
  globalPause := false
  emergencyStop := false
  closeOnly := risk.closeOnly
  assetAllowed := f.allowedAsset a.asset
  drawdownHalt := f.drawdownHalt
  dailyLossHalt := f.dailyLossHalt
  nearLiquidation := f.nearLiquidation
  dataStale := false
  currentTotalExposure := total
  currentAssetExposure := |a.real| * a.followerMark
  freeMargin := max f.freeMargin 0
  accountEquity := max f.equity 0
  currentLeverage := if 0 < f.equity then total / f.equity else 999
  openPositions := openPositions
  isNewMarket := a.real = 0
  maxNotionalPerTrade := limits.maxNotionalPerTrade
  maxTotalExposure := limits.maxTotalExposure
  maxAssetExposure := limits.maxAssetExposure
  maxLeverage := limits.maxLeverage
  maxPositions := limits.maxPositions
  minimumExecutableNotional := exchangeMinNotional

/-- The capacity a decision of the engine takes. -/
def reservationOf (spec : AssetSpec) (p : SizingResult) : ReconcilePlan :=
  let submitted := roundSize p.orderSize spec.szDecimals
  match p.secondary.filter (·.actionable) with
  | some leg =>
      { submittedSize := submitted
        additionalExposure :=
          max (roundSize leg.orderSize spec.szDecimals * a.followerMark - |a.real| * a.followerMark) 0
        opensNewMarket := false }
  | none =>
      if p.reduceOnly then ⟨submitted, 0, false⟩
      else ⟨submitted, submitted * a.followerMark, a.real = 0⟩

/-- `_risk_limited_reconcile_plan`. -/
def riskLimitedReconcilePlan (risk : CopyRiskProfile) (spec : AssetSpec) (total : ℚ)
    (openPositions : ℤ) : Option ReconcilePlan :=
  if f.masterEquity ≤ 0 ∨ a.masterMark ≤ 0 ∨ a.followerMark ≤ 0 then none
  else
    let limits := resolveEffectiveRisk risk.toRiskProfile f.limits (some (spec.maxLeverage : ℚ))
    let sizing := plan ⟨a.asset, a.masterPosition * f.aiFactor, a.masterMark, f.masterEquity⟩
      ⟨f.equity, f.unmanagedMargin, a.real, f.multiplier⟩ spec risk.minNotional a.followerMark
    let decision := evaluate sizing (reconcileRiskContext f a risk limits total openPositions)
    if decision.action.passes && decision.plan.actionable then
      some (reservationOf a spec decision.plan)
    else none

/-- The specification the plan is made with. -/
def planSpec : Option AssetSpec := (leverageRead f a).1.orElse fun _ => a.specAgain

/-- The specification or the evaluation of the plan raises. -/
def planFails : Bool := (planSpec f a).isNone || a.planRaises

/-- Was the plan evaluated, and its outcome. -/
def previewPlan (total : ℚ) (openPositions : ℤ) : Bool × Option ReconcilePlan :=
  match f.risk, planSpec f a with
  | some risk, some spec =>
      if f.minNotional ≤ driftNotional f a ∧ a.planRaises = false then
        (true, riskLimitedReconcilePlan f a risk spec total openPositions)
      else (false, none)
  | _, _ => (false, none)

/-! ## One turn -/

/-- `_terminal_action_rejection_blocks_unchanged_intent`, over the rejection it finds. -/
def rejectionBlocks (submittedSize : Option ℚ) : Bool :=
  a.terminalRejection.any fun rejection =>
    persistedLedgerDecimal rejection.rejectedTarget = persistedLedgerDecimal (batchDesiredTarget f a) &&
      persistedLedgerDecimal rejection.rejectedReal = persistedLedgerDecimal a.real &&
      match rejection.requestedSize, submittedSize with
      | some requested, some submitted =>
          persistedLedgerDecimal requested = persistedLedgerDecimal submitted
      | _, _ => true

/-- A planned job: what its context records, and how it came about. -/
structure BatchJob where
  asset : Asset
  desiredTarget : ℚ
  increasing : Bool
  reversal : Bool
  leverageSyncOnly : Bool
  ambiguitySafeReduction : Bool
  evaluated : Bool
  plan : Option ReconcilePlan
  reservedAdditionalExposure : ℚ
  reservedTotalExposure : ℚ
  reservedOpenPositions : ℤ
deriving DecidableEq, Repr

/-- The checks of a turn in front of the plan. -/
def reachesPlan : Bool :=
  f.copyState ≠ .paused &&
    !(a.liveAmbiguity || (a.terminalAmbiguity && !ambiguitySafe f a)) &&
    (f.minNotional ≤ driftNotional f a || leverageMismatch f a) &&
    !(a.masterPosition = 0 && a.real ≠ 0 && !((a.ledger.map (·.managed)).getD a.listedByMaster) &&
      !f.strictManualTrades) &&
    !a.pending

/-- The checks of a turn behind the plan. -/
def refusedByPlan (evaluated : Bool) (p : Option ReconcilePlan) : Bool :=
  f.minNotional ≤ driftNotional f a &&
    ((f.copyState = .active && f.risk.isSome && (increasingExposure f a || reversal f a) &&
        evaluated && p.isNone) ||
      rejectionBlocks f a (p.map (·.submittedSize)) ||
      (f.copyState = .active && increasingExposure f a && 0 < a.liquidityWait))

/-- One turn of the loop over the running totals. -/
def reconcileJobFor (total : ℚ) (openPositions : ℤ) : Option BatchJob :=
  let preview := previewPlan f a total openPositions
  if !reachesPlan f a || refusedByPlan f a preview.1 preview.2 then none
  else
    let additional := (preview.2.map (·.additionalExposure)).getD 0
    some
      { asset := a.asset
        desiredTarget := batchDesiredTarget f a
        increasing := increasingExposure f a
        reversal := reversal f a
        leverageSyncOnly := (leverageRead f a).2.isSome && leverageMismatch f a &&
          driftNotional f a < f.minNotional && !ambiguitySafe f a
        ambiguitySafeReduction := ambiguitySafe f a
        evaluated := preview.1
        plan := preview.2
        reservedAdditionalExposure := additional
        reservedTotalExposure := total + additional
        reservedOpenPositions :=
          openPositions + if preview.2.any (·.opensNewMarket) then 1 else 0 }

end Turn

/-! ## The batch -/

/-- Is the asset managed when the batch starts? -/
def ReconcileAsset.managed (a : ReconcileAsset) : Bool :=
  a.ledger.any (·.managed) || a.masterPosition ≠ 0

/-- The exposure of the managed positions before the loop. -/
def startingExposure (assets : List ReconcileAsset) : ℚ :=
  ((assets.filter (·.managed)).map fun a => |a.real| * max a.followerMark 0).sum

/-- The number of managed positions before the loop. -/
def startingOpenPositions (assets : List ReconcileAsset) : ℤ :=
  (assets.filter fun a => a.managed && a.real ≠ 0).length

/-- The jobs of the loop, over the running totals.  A turn that raises ends the batch; what was
planned before it is committed with the failed run. -/
def reconcileBatch (f : ReconcileFollower) (total : ℚ) (openPositions : ℤ) :
    List ReconcileAsset → List BatchJob
  | [] => []
  | a :: rest =>
      if a.raises then []
      else
        match reconcileJobFor f a total openPositions with
        | none => reconcileBatch f total openPositions rest
        | some job =>
            job :: reconcileBatch f job.reservedTotalExposure job.reservedOpenPositions rest

/-- The jobs one reconciliation of a follower plans. -/
def reconcileObservedFollower (f : ReconcileFollower) (assets : List ReconcileAsset) :
    List BatchJob :=
  reconcileBatch f (startingExposure assets) (startingOpenPositions assets) assets

end HyperCopy

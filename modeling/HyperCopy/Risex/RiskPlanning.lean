import HyperCopy.Risex.Market

/-!
# RISEx risk planning

`services/risex_risk_planning.py`: from two provider payloads and the user's limits to the order
intent the risk engine authorised.  The planner is the sizing planner and the risk engine of
`Engine` over the RISEx readings, with three denials of its own in front of the engine (a market
that only reduces, a provider risk alarm, a position limit that might bind), each of which
leaves a reversal its closing leg.

`readRisexSizing` is the part of `plan_risex_order_intent` up to the sizing, `assessRisexOrder` the
part up to the risk decision, and the market it returns is the one the decision was computed for.
`planRisexOrderIntent_eq_ok` says what an intent takes over from that decision.

Decimals are exact rationals, with one exception: `round_size` quantises, and a size of more than
28 digits is a signal of the decimal context that nobody handles (`sizesFit`).
-/

namespace HyperCopy

open Fallible Quantize

/-! ## Portfolio -/

/-- A position of the portfolio payload, before it is parsed. -/
structure RawPosition where
  marketId : RawNumber ℤ
  size : RawNumber ℚ
  markPrice : RawNumber ℚ
  /-- The empty text counts as missing. -/
  liquidationPrice : RawNumber ℚ
deriving DecidableEq, Repr

/-- The summary of the portfolio payload, before it is parsed. -/
structure RawSummary where
  inLiquidation : RawFlag
  riskLevel : Option Symbol
  usdcBalance : RawNumber ℚ
  totalAccountValue : RawNumber ℚ
  totalNotional : RawNumber ℚ
  freeCollateral : RawNumber ℚ
deriving DecidableEq, Repr

/-- `/v1/portfolio/details`; a part that is missing or of another type is `none`. -/
inductive PortfolioPayload
  | malformedEnvelope
  | details (summary : Option RawSummary) (positions : Option (List (Option RawPosition)))
deriving DecidableEq, Repr

/-- `RisexPortfolioPosition`. -/
structure RisexPortfolioPosition where
  marketId : ℤ
  size : ℚ
  markPrice : ℚ
  liquidationPrice : Option ℚ
deriving DecidableEq, Repr

/-- `RisexPortfolioSnapshot`. -/
structure RisexPortfolioSnapshot where
  usdcBalance : ℚ
  totalAccountValue : ℚ
  totalNotional : ℚ
  freeCollateral : Option ℚ
  inLiquidation : Bool
  riskLevel : Symbol
  positions : List RisexPortfolioPosition
deriving DecidableEq, Repr

/-- One row of the positions; the first field that does not read decides the error. -/
def readPosition : Option RawPosition → Except RisexError RisexPortfolioPosition
  | none => .error (.planningDenied "RISEx portfolio position is malformed")
  | some raw => do
      let marketId ← riskPositiveInt "position market_id" raw.marketId
      let size ← riskDecimal "position size" true true raw.size
      let markPrice ← riskDecimal "position mark_price" false false raw.markPrice
      let liquidationPrice ←
        match raw.liquidationPrice with
        | .absent => pure none
        | liquidation => some <$> riskDecimal "position liquidation_price" true false liquidation
      return ⟨marketId, size, markPrice, liquidationPrice⟩

section Planning

variable (normalized : Symbol → Symbol)

/-- `parse_risex_portfolio_details`. -/
def parseRisexPortfolioDetails (payload : PortfolioPayload) :
    Except RisexError RisexPortfolioSnapshot :=
  match payload with
  | .malformedEnvelope => .error (.planningDenied "RISEx portfolio data envelope is malformed")
  | .details rawSummary rawPositions => do
      let summary ← expect rawSummary (.planningDenied "RISEx portfolio summary is missing")
      let inLiquidation ←
        riskFlag "RISEx in_liquidation is indeterminate" summary.inLiquidation
      let level ← expect summary.riskLevel (.planningDenied "RISEx risk_level is indeterminate")
      Fallible.require (normalized level ≠ [])
        (.planningDenied "RISEx risk_level is indeterminate")
      let raws ← expect rawPositions (.planningDenied "RISEx portfolio positions are missing")
      let positions ← raws.mapM readPosition
      let usdcBalance ← riskDecimal "usdc_balance" true false summary.usdcBalance
      let totalAccountValue ←
        riskDecimal "total_account_value" true false summary.totalAccountValue
      let totalNotional ← riskDecimal "total_notional" true false summary.totalNotional
      return {
        usdcBalance := usdcBalance
        totalAccountValue := totalAccountValue
        totalNotional := totalNotional
        freeCollateral := optionalNonnegativeDecimal "free_collateral" summary.freeCollateral
        inLiquidation := inLiquidation
        riskLevel := normalized level
        positions := positions }

/-- `_position_for_market`. -/
def positionForMarket (portfolio : RisexPortfolioSnapshot) (marketId : ℤ) :
    Except RisexError (Option RisexPortfolioPosition) :=
  match portfolio.positions.filter (·.marketId = marketId) with
  | [] => .ok none
  | [position] => .ok (some position)
  | _ => .error (.planningDenied "RISEx portfolio has duplicate market positions")

/-! ## Risk context -/

/-- `RisexRuntimeRiskFlags`. -/
structure RisexRuntimeRiskFlags where
  userActive : Bool
  entitlementActive : Bool
  credentialActive : Bool
  userPaused : Bool
  globalPause : Bool
  emergencyStop : Bool
  drawdownHalt : Bool
  dailyLossHalt : Bool
  nearLiquidation : Bool
  assetAllowed : Bool
  dataStale : Bool
deriving DecidableEq, Repr

/-- The user's limits, with the two columns only the RISEx planner reads. -/
structure RisexRiskProfile extends RiskProfile where
  closeOnly : Bool
  maxSlippageBps : ℤ
deriving DecidableEq, Repr

/-- The entitlement data; a missing `entitled` counts as entitled. -/
structure RisexEntitlement where
  entitled : Option Bool
  limits : PlanLimits
deriving DecidableEq, Repr

/-- The text of `RiskLevel.NORMAL`. -/
def normalLevel : Symbol := ['N', 'O', 'R', 'M', 'A', 'L']

/-- The provider is liquidating the account, or calls its risk other than normal. -/
def providerRiskAlarm (portfolio : RisexPortfolioSnapshot) : Bool :=
  portfolio.inLiquidation || portfolio.riskLevel ≠ normalLevel

/-- `build_risex_risk_context`. -/
def buildRisexRiskContext (portfolio : RisexPortfolioSnapshot) (market : RisexMarketMetadata)
    (effective : EffectiveRisk) (runtime : RisexRuntimeRiskFlags) (closeOnly reducing : Bool) :
    Except RisexError RiskContext := do
  Fallible.require market.maxLeverage.isSome
    (.planningDenied "RISEx market risk metadata is incomplete")
  let markPrice ← expect market.markPrice
    (.planningDenied "RISEx market risk metadata is incomplete")
  let current ← positionForMarket portfolio market.marketId
  Fallible.require (portfolio.freeCollateral.isSome || reducing)
    (.planningDenied "RISEx free_collateral/free margin is indeterminate")
  let equity := portfolio.totalAccountValue
  return {
    userActive := runtime.userActive
    entitlementActive := runtime.entitlementActive
    credentialActive := runtime.credentialActive
    userPaused := runtime.userPaused
    globalPause := runtime.globalPause
    emergencyStop := runtime.emergencyStop
    closeOnly := closeOnly
    assetAllowed := runtime.assetAllowed
    drawdownHalt := runtime.drawdownHalt
    dailyLossHalt := runtime.dailyLossHalt
    nearLiquidation := runtime.nearLiquidation || providerRiskAlarm portfolio
    dataStale := runtime.dataStale
    currentTotalExposure := portfolio.totalNotional
    currentAssetExposure := (current.map fun p => |p.size| * p.markPrice).getD 0
    -- a reduction does not look at the margin; zero is a sentinel, not a reading
    freeMargin := portfolio.freeCollateral.getD 0
    accountEquity := equity
    currentLeverage := if 0 < equity then portfolio.totalNotional / equity else 999
    openPositions := (portfolio.positions.filter (·.size ≠ 0)).length
    isNewMarket := (current.map (·.size)).getD 0 = 0
    maxNotionalPerTrade := effective.maxNotionalPerTrade
    maxTotalExposure := effective.maxTotalExposure
    maxAssetExposure := effective.maxAssetExposure
    maxLeverage := effective.maxLeverage
    maxPositions := effective.maxPositions
    minimumExecutableNotional := market.minOrderSize * markPrice }

/-! ## Sizes -/

/-- `floor_to_step`. -/
def floorToStep (size stepSize : ℚ) : Except RisexError ℚ := do
  Fallible.require (0 < size && 0 < stepSize)
    (.planningDenied "RISEx size and step_size must be positive")
  return floorTo stepSize size

/-- `finalize_risex_authorized_size`. -/
def finalizeRisexAuthorizedSize (size : ℚ) (market : RisexMarketMetadata) :
    Except RisexError ℚ := do
  let floored ← floorToStep size market.stepSize
  Fallible.require (0 < floored) (.planningDenied "RISEx authorized size floors to zero")
  Fallible.require (market.minOrderSize ≤ floored)
    (.planningDenied
      "RISEx risk-authorized size is below min_order_size; upward rounding is forbidden")
  return floored

/-- `_size_decimals`: the decimals a step is written with once trailing zeros are dropped.  A
step of `d` decimals has at least `2 ^ d` as its denominator. -/
def sizeDecimals (stepSize : ℚ) : ℕ :=
  ((List.range (stepSize.den.log2 + 1)).find? fun d => (stepSize * 10 ^ d).den = 1).getD 0

/-- `RisexProviderPositionLimitAssessment`. -/
structure RisexProviderPositionLimitAssessment where
  providerLimitBaseConservative : Option ℚ
  riskMaxPositionBase : ℚ
  nonBinding : Bool
deriving DecidableEq, Repr

/-- `provider_position_limit_non_binding_under_risk_caps`. -/
def providerPositionLimitNonBinding (market : RisexMarketMetadata) (accountEquity : ℚ)
    (effective : EffectiveRisk) : Except RisexError RisexProviderPositionLimitAssessment := do
  let markPrice ← expect market.markPrice
    (.planningDenied "RISEx market mark price is indeterminate")
  Fallible.require (0 < markPrice) (.planningDenied "RISEx market mark price is indeterminate")
  let absoluteRiskNotional :=
    min effective.maxAssetExposure <|
    min effective.maxTotalExposure (max accountEquity 0 * effective.maxLeverage)
  let riskMaxPositionBase := absoluteRiskNotional / markPrice
  let providerLimit := market.maxPositionSizeRaw.map (· * market.stepSize)
  return {
    providerLimitBaseConservative := providerLimit
    riskMaxPositionBase := riskMaxPositionBase
    nonBinding := providerLimit.any (riskMaxPositionBase < ·) }

/-- `_is_exposure_increasing`. -/
def isExposureIncreasing (sizing : SizingResult) : Bool :=
  sizing.intent = .open || (sizing.intent = .reverse && sizing.secondary.isSome)

/-- `_suppress_reopen`. -/
def suppressReopen (sizing : SizingResult) : SizingResult :=
  if sizing.intent = .reverse && sizing.secondary.isSome then { sizing with secondary := none }
  else sizing

/-- One of the planner's own denials: where it applies to an order that adds exposure, a
reversal loses its second leg and any other order is refused. -/
def denyIncrease (applies : Bool) (error : RisexError) (sizing : SizingResult) :
    Except RisexError SizingResult :=
  if applies && isExposureIncreasing sizing then
    if sizing.intent = .reverse then .ok (suppressReopen sizing) else .error error
  else .ok sizing

/-! ## The planner -/

/-- The columns and the context of a RISEx job that the planner reads.  `symbol` is the text of
the asset, which the market lookup compares. -/
structure RisexOrderJob where
  asset : Asset
  symbol : Symbol
  context : Option (RawNumber ℚ × RawNumber ℚ × RawNumber ℚ)
deriving DecidableEq, Repr

/-- `_job_decimal`. -/
def jobDecimal (field : String) (allowNegative positive : Bool) (raw : RawNumber ℚ) :
    Except RisexError ℚ := do
  let value ← riskDecimal ("CopyJob " ++ field) (!positive) allowNegative raw
  Fallible.require (!positive || 0 < value)
    (.planningDenied ("CopyJob " ++ field ++ " must be positive"))
  return value

/-- What the planner reads beside the job: the payloads, the user's limits and entitlement and
the runtime flags. -/
structure RisexPlanningReads where
  portfolioPayload : PortfolioPayload
  marketsPayload : MarketsPayload
  risk : RisexRiskProfile
  entitlement : RisexEntitlement
  runtime : RisexRuntimeRiskFlags
deriving DecidableEq, Repr

/-- The limits a decision on the market is held to. -/
def plannedLimits (reads : RisexPlanningReads) (market : RisexMarketMetadata) : EffectiveRisk :=
  resolveEffectiveRisk reads.risk.toRiskProfile reads.entitlement.limits market.maxLeverage

/-- What the planner has read when it comes to the sizing. -/
structure RisexSizingReads where
  market : RisexMarketMetadata
  markPrice : ℚ
  portfolio : RisexPortfolioSnapshot
  current : Option RisexPortfolioPosition
  masterPosition : ℚ
  masterEquity : ℚ
  masterMark : ℚ
deriving DecidableEq, Repr

namespace RisexSizingReads

/-- The master's position in the market. -/
def master (r : RisexSizingReads) (asset : Asset) : MasterExposure :=
  ⟨asset, r.masterPosition, r.masterMark, r.masterEquity⟩

/-- The follower's account; all of its margin is managed. -/
def follower (r : RisexSizingReads) (effective : EffectiveRisk) : FollowerState :=
  ⟨r.portfolio.totalAccountValue, 0, (r.current.map (·.size)).getD 0, effective.multiplier⟩

/-- The market as the sizing engine sees it. -/
def spec (r : RisexSizingReads) (effective : EffectiveRisk) : AssetSpec :=
  { szDecimals := sizeDecimals r.market.stepSize
    maxLeverage := max 1 ⌊effective.maxLeverage⌋.toNat
    onlyIsolated := false
    minNotional := r.market.minOrderSize * r.markPrice }

/-- Every size that `plan` rounds has at most the 28 digits that `quantize` keeps.  The sizes that
are rounded after these, in `plan` and in the trim of the risk engine, are smaller. -/
def sizesFit (r : RisexSizingReads) (asset : Asset) (effective : EffectiveRisk) : Bool :=
  let target := computeTarget (r.master asset) (r.follower effective) r.markPrice
  let current := (r.follower effective).currentSize
  let fits := fun (size : ℚ) => ⌊|size| / lot (r.spec effective).szDecimals⌋ < 10 ^ 28
  match classify target current with
  | .none => true
  | .reverse => fits current && fits target
  | _ => fits (target - current)

end RisexSizingReads

/-- `plan_risex_order_intent` up to the sizing. -/
def readRisexSizing (job : RisexOrderJob) (reads : RisexPlanningReads) :
    Except RisexError RisexSizingReads := do
  let symbol := normalized job.symbol
  Fallible.require (symbol ≠ []) (.planningDenied "CopyJob asset is missing")
  let (rawPosition, rawEquity, rawMark) ←
    expect job.context (.planningDenied "CopyJob context is missing")
  let market ← parseRisexRiskMarket normalized reads.marketsPayload symbol
  Fallible.require market.active (.planningDenied "RISEx market is inactive")
  Fallible.require market.unlocked (.planningDenied "RISEx market is locked")
  Fallible.require market.maxLeverage.isSome
    (.planningDenied "RISEx market risk metadata is incomplete")
  let markPrice ← expect market.markPrice
    (.planningDenied "RISEx market risk metadata is incomplete")
  let portfolio ← parseRisexPortfolioDetails normalized reads.portfolioPayload
  let current ← positionForMarket portfolio market.marketId
  let masterPosition ← jobDecimal "master_position" true false rawPosition
  let masterEquity ← jobDecimal "master_equity" false true rawEquity
  let masterMark ← jobDecimal "master_mark_price" false true rawMark
  return ⟨market, markPrice, portfolio, current, masterPosition, masterEquity, masterMark⟩

/-- `plan_risex_order_intent` up to the risk decision: the market and the decision computed for
it. -/
def assessRisexOrder (job : RisexOrderJob) (reads : RisexPlanningReads) :
    Except RisexError (RisexMarketMetadata × RiskDecision) := do
  let r ← readRisexSizing normalized job reads
  let market := r.market
  let portfolio := r.portfolio
  let effective := plannedLimits reads market
  Fallible.require (r.sizesFit job.asset effective) .invalidOperation
  let sizing :=
    plan (r.master job.asset) (r.follower effective) (r.spec effective) reads.risk.minNotional
      r.markPrice
  Fallible.require sizing.toSizingLeg.actionable (.sizingNotActionable sizing.reason)
  let sizing ← denyIncrease market.reduceOnly
    (.planningDenied "RISEx market is reduce-only; exposure-increasing intent denied") sizing
  let sizing ← denyIncrease (providerRiskAlarm portfolio)
    (if portfolio.inLiquidation then
      .planningDenied "RISEx provider risk: in_liquidation=true"
    else .riskLevelNotNormal portfolio.riskLevel) sizing
  let limit ← providerPositionLimitNonBinding market portfolio.totalAccountValue effective
  let sizing ← denyIncrease (!limit.nonBinding)
    (.planningDenied
      ("RISEx max_position_size unit is unverified and the conservative position limit could " ++
        "bind the Risk Engine")) sizing
  let context ← buildRisexRiskContext portfolio market effective
    { reads.runtime with entitlementActive := reads.entitlement.entitled.getD true }
    reads.risk.closeOnly sizing.reducing
  return (market, evaluate sizing context)

/-- `RISExOrderIntent`. -/
structure RisexOrderIntent where
  symbol : Symbol
  isBuy : Bool
  requestedSize : ℚ
  reduceOnly : Bool
  slippageBps : ℤ
  clientOrderId : ℕ
deriving DecidableEq, Repr

/-- The intent a decision is turned into. -/
def intentOfDecision (symbol : Symbol) (risk : RisexRiskProfile) (clientOrderId : ℕ)
    (market : RisexMarketMetadata) (decision : RiskDecision) :
    Except RisexError RisexOrderIntent := do
  Fallible.require decision.action.passes (.riskRefused decision.action decision.reason)
  let authorizedSize ← finalizeRisexAuthorizedSize decision.plan.orderSize market
  Fallible.require (authorizedSize ≤ decision.plan.orderSize)
    (.planningDenied "RISEx authorized size may never round upward")
  Fallible.require (0 < clientOrderId && clientOrderId < 2 ^ 64)
    (.planningDenied "RISEx client_order_id must be a non-zero uint64")
  return {
    symbol := symbol
    isBuy := decision.plan.isBuy
    requestedSize := authorizedSize
    reduceOnly := decision.plan.reduceOnly
    slippageBps := risk.maxSlippageBps
    clientOrderId := clientOrderId }

/-- `plan_risex_order_intent`. -/
def planRisexOrderIntent (job : RisexOrderJob) (reads : RisexPlanningReads)
    (clientOrderId : ℕ) : Except RisexError RisexOrderIntent := do
  let (market, decision) ← assessRisexOrder normalized job reads
  intentOfDecision (normalized job.symbol) reads.risk clientOrderId market decision

/-! ## What the planner lets through -/

variable {normalized}

/-- A size made executable is the size it was made from, floored to the market's step. -/
lemma finalizeRisexAuthorizedSize_eq_ok {size authorized : ℚ} {market : RisexMarketMetadata}
    (h : finalizeRisexAuthorizedSize size market = .ok authorized) :
    authorized = floorTo market.stepSize size ∧ 0 < market.stepSize ∧
      market.minOrderSize ≤ authorized := by
  obtain ⟨floored, hfloor, h⟩ := bind_eq_ok.1 h
  obtain ⟨hpos, hfloored⟩ := require_bind_eq_ok.1 hfloor
  obtain rfl := Except.ok.inj hfloored
  obtain ⟨-, h⟩ := require_bind_eq_ok.1 h
  obtain ⟨hmin, h⟩ := require_bind_eq_ok.1 h
  obtain rfl := Except.ok.inj h
  simp only [Bool.and_eq_true, decide_eq_true_eq] at hpos
  exact ⟨rfl, hpos.2, of_decide_eq_true hmin⟩

/-- An intent is the decision it was made from: its side, its reduce-only flag, and its size
floored to the step of the market the decision was computed for. -/
lemma planRisexOrderIntent_eq_ok {job : RisexOrderJob} {reads : RisexPlanningReads}
    {clientOrderId : ℕ} {intent : RisexOrderIntent}
    (h : planRisexOrderIntent normalized job reads clientOrderId = .ok intent) :
    ∃ market decision, assessRisexOrder normalized job reads = .ok (market, decision) ∧
      decision.action.passes = true ∧ intent.symbol = normalized job.symbol ∧
      intent.isBuy = decision.plan.isBuy ∧ intent.reduceOnly = decision.plan.reduceOnly ∧
      intent.requestedSize = floorTo market.stepSize decision.plan.orderSize ∧
      intent.requestedSize ≤ decision.plan.orderSize ∧ intent.clientOrderId = clientOrderId := by
  obtain ⟨⟨market, decision⟩, hassess, h⟩ := bind_eq_ok.1 h
  obtain ⟨hpasses, h⟩ := require_bind_eq_ok.1 h
  obtain ⟨authorized, hauthorized, h⟩ := bind_eq_ok.1 h
  obtain ⟨hle, h⟩ := require_bind_eq_ok.1 h
  obtain ⟨-, h⟩ := require_bind_eq_ok.1 h
  obtain rfl := Except.ok.inj h
  exact ⟨market, decision, hassess, hpasses, rfl, rfl, rfl,
    (finalizeRisexAuthorizedSize_eq_ok hauthorized).1, of_decide_eq_true hle, rfl⟩

/-- What one of the planner's denials leaves of a plan: the same order, perhaps without a second
leg, and where it adds exposure on its own the denial does not apply. -/
structure Screened (applies : Bool) (p q : SizingResult) : Prop where
  leg : q.toSizingLeg = p.toSizingLeg
  secondary : q.secondary = p.secondary ∨ q.secondary = none
  increase : p.intent = .open → applies = false ∧ q = p

lemma denyIncrease_screened {applies : Bool} {error : RisexError} {p q : SizingResult}
    (h : denyIncrease applies error p = .ok q) : Screened applies p q := by
  unfold denyIncrease at h
  split_ifs at h with hincrease hreverse
  · obtain rfl := Except.ok.inj h
    refine ⟨?_, ?_, fun hopen => ?_⟩
    · unfold suppressReopen
      split_ifs <;> rfl
    · unfold suppressReopen
      split_ifs
      · exact Or.inr rfl
      · exact Or.inl rfl
    · rw [hopen] at hreverse
      cases hreverse
  · obtain rfl := Except.ok.inj h
    refine ⟨rfl, Or.inl rfl, fun hopen => ⟨?_, rfl⟩⟩
    simpa [isExposureIncreasing, hopen] using hincrease

lemma Screened.trans {a b : Bool} {p q r : SizingResult} (hpq : Screened a p q)
    (hqr : Screened b q r) : Screened (a || b) p r := by
  refine ⟨hqr.leg.trans hpq.leg, ?_, fun hopen => ?_⟩
  · rcases hqr.secondary with hsame | hnone
    · rw [hsame]
      exact hpq.secondary
    · exact Or.inr hnone
  · obtain ⟨rfl, rfl⟩ := hpq.increase hopen
    exact hqr.increase hopen

/-- The size of the position in the market, zero where there is none. -/
def heldSize (current : Option RisexPortfolioPosition) : ℚ := (current.map (·.size)).getD 0

/-- The exposure of the position, at its own mark. -/
def heldExposure (current : Option RisexPortfolioPosition) : ℚ :=
  (current.map fun p => |p.size| * p.markPrice).getD 0

/-- The readings of a risk context. -/
structure ContextOf (portfolio : RisexPortfolioSnapshot)
    (current : Option RisexPortfolioPosition) (effective : EffectiveRisk)
    (runtime : RisexRuntimeRiskFlags) (ctx : RiskContext) : Prop where
  userPaused : ctx.userPaused = runtime.userPaused
  total : ctx.currentTotalExposure = portfolio.totalNotional
  asset : ctx.currentAssetExposure = heldExposure current
  equity : ctx.accountEquity = portfolio.totalAccountValue
  maxNotionalPerTrade : ctx.maxNotionalPerTrade = effective.maxNotionalPerTrade
  maxTotalExposure : ctx.maxTotalExposure = effective.maxTotalExposure
  maxAssetExposure : ctx.maxAssetExposure = effective.maxAssetExposure
  maxLeverage : ctx.maxLeverage = effective.maxLeverage

/-- A context is built from the payload's readings, and for an order that adds exposure only with
the free collateral known. -/
lemma buildRisexRiskContext_eq_ok {portfolio : RisexPortfolioSnapshot}
    {market : RisexMarketMetadata} {effective : EffectiveRisk} {runtime : RisexRuntimeRiskFlags}
    {closeOnly reducing : Bool} {current : Option RisexPortfolioPosition} {ctx : RiskContext}
    (hcurrent : positionForMarket portfolio market.marketId = .ok current)
    (h : buildRisexRiskContext portfolio market effective runtime closeOnly reducing = .ok ctx) :
    ContextOf portfolio current effective runtime ctx ∧
      (reducing = false → portfolio.freeCollateral.isSome = true) := by
  obtain ⟨-, h⟩ := require_bind_eq_ok.1 h
  obtain ⟨markPrice, -, h⟩ := bind_eq_ok.1 h
  obtain ⟨current', hcurrent', h⟩ := bind_eq_ok.1 h
  obtain ⟨hcollateral, h⟩ := require_bind_eq_ok.1 h
  obtain rfl := Except.ok.inj (hcurrent.symm.trans hcurrent')
  obtain rfl := Except.ok.inj h
  refine ⟨⟨rfl, rfl, rfl, rfl, rfl, rfl, rfl, rfl⟩, fun hadds => ?_⟩
  rwa [hadds, Bool.or_false] at hcollateral

/-- How the planner came to a decision: what it read, what it planned, what its own denials left
of the plan, and the context the engine decided it in. -/
structure Assessed (normalized : Symbol → Symbol) (job : RisexOrderJob)
    (reads : RisexPlanningReads) (market : RisexMarketMetadata)
    (portfolio : RisexPortfolioSnapshot) (current : Option RisexPortfolioPosition)
    (planned sizing : SizingResult) (ctx : RiskContext) : Prop where
  parsesMarket : parseRisexRiskMarket normalized reads.marketsPayload (normalized job.symbol) =
    .ok market
  active : market.active = true
  unlocked : market.unlocked = true
  parsesPortfolio : parseRisexPortfolioDetails normalized reads.portfolioPayload = .ok portfolio
  holds : positionForMarket portfolio market.marketId = .ok current
  plans : ∃ master follower spec markPrice, market.markPrice = some markPrice ∧
    follower.currentSize = heldSize current ∧
    planned = plan master follower spec reads.risk.minNotional markPrice
  actionable : planned.toSizingLeg.actionable = true
  screened : ∃ limit,
    providerPositionLimitNonBinding market portfolio.totalAccountValue
        (plannedLimits reads market) = .ok limit ∧
      Screened (market.reduceOnly || providerRiskAlarm portfolio || !limit.nonBinding)
        planned sizing
  context : ContextOf portfolio current (plannedLimits reads market) reads.runtime ctx
  collateral : sizing.reducing = false → portfolio.freeCollateral.isSome = true

/-- Everything the planner reads before the sizing is in order, and the market is active and
unlocked. -/
structure SizingReadsOf (normalized : Symbol → Symbol) (job : RisexOrderJob)
    (reads : RisexPlanningReads) (r : RisexSizingReads) : Prop where
  parsesMarket : parseRisexRiskMarket normalized reads.marketsPayload (normalized job.symbol) =
    .ok r.market
  active : r.market.active = true
  unlocked : r.market.unlocked = true
  markPrice : r.market.markPrice = some r.markPrice
  parsesPortfolio : parseRisexPortfolioDetails normalized reads.portfolioPayload = .ok r.portfolio
  holds : positionForMarket r.portfolio r.market.marketId = .ok r.current

lemma readRisexSizing_eq_ok {job : RisexOrderJob} {reads : RisexPlanningReads}
    {r : RisexSizingReads} (h : readRisexSizing normalized job reads = .ok r) :
    SizingReadsOf normalized job reads r := by
  obtain ⟨-, h⟩ := require_bind_eq_ok.1 h
  obtain ⟨⟨rawPosition, rawEquity, rawMark⟩, -, h⟩ := bind_eq_ok.1 h
  obtain ⟨market, hparse, h⟩ := bind_eq_ok.1 h
  obtain ⟨hactive, h⟩ := require_bind_eq_ok.1 h
  obtain ⟨hunlocked, h⟩ := require_bind_eq_ok.1 h
  obtain ⟨-, h⟩ := require_bind_eq_ok.1 h
  obtain ⟨markPrice, hmark, h⟩ := bind_eq_ok.1 h
  obtain ⟨portfolio, hportfolio, h⟩ := bind_eq_ok.1 h
  obtain ⟨current, hcurrent, h⟩ := bind_eq_ok.1 h
  obtain ⟨masterPosition, -, h⟩ := bind_eq_ok.1 h
  obtain ⟨masterEquity, -, h⟩ := bind_eq_ok.1 h
  obtain ⟨masterMark, -, h⟩ := bind_eq_ok.1 h
  obtain rfl := Except.ok.inj h
  exact ⟨hparse, hactive, hunlocked, expect_eq_ok.1 hmark, hportfolio, hcurrent⟩

lemma assessRisexOrder_eq_ok {job : RisexOrderJob} {reads : RisexPlanningReads}
    {market : RisexMarketMetadata} {decision : RiskDecision}
    (h : assessRisexOrder normalized job reads = .ok (market, decision)) :
    ∃ portfolio current planned sizing ctx,
      Assessed normalized job reads market portfolio current planned sizing ctx ∧
        decision = evaluate sizing ctx := by
  obtain ⟨r, hr, h⟩ := bind_eq_ok.1 h
  obtain ⟨-, h⟩ := require_bind_eq_ok.1 h
  obtain ⟨hactionable, h⟩ := require_bind_eq_ok.1 h
  obtain ⟨afterReduceOnly, hfirst, h⟩ := bind_eq_ok.1 h
  obtain ⟨afterAlarm, hsecond, h⟩ := bind_eq_ok.1 h
  obtain ⟨limit, hlimit, h⟩ := bind_eq_ok.1 h
  obtain ⟨sizing, hthird, h⟩ := bind_eq_ok.1 h
  obtain ⟨ctx, hctx, h⟩ := bind_eq_ok.1 h
  obtain ⟨rfl, rfl⟩ := Prod.mk.inj (Except.ok.inj h)
  have hreads := readRisexSizing_eq_ok hr
  obtain ⟨hcontext, hcollateral⟩ := buildRisexRiskContext_eq_ok hreads.holds hctx
  have hscreened := ((denyIncrease_screened hfirst).trans
    (denyIncrease_screened hsecond)).trans (denyIncrease_screened hthird)
  have hassessed : Assessed normalized job reads r.market r.portfolio r.current _ sizing ctx :=
    { parsesMarket := hreads.parsesMarket
      active := hreads.active
      unlocked := hreads.unlocked
      parsesPortfolio := hreads.parsesPortfolio
      holds := hreads.holds
      plans := ⟨_, _, _, r.markPrice, hreads.markPrice, rfl, rfl⟩
      actionable := hactionable
      screened := ⟨limit, hlimit, hscreened⟩
      context := ⟨hcontext.userPaused, hcontext.total, hcontext.asset, hcontext.equity,
        hcontext.maxNotionalPerTrade, hcontext.maxTotalExposure, hcontext.maxAssetExposure,
        hcontext.maxLeverage⟩
      collateral := hcollateral }
  exact ⟨r.portfolio, r.current, _, sizing, ctx, hassessed, rfl⟩

/-- The market of a decision is the one the planner's parser returned, active and unlocked. -/
lemma assessRisexOrder_market {job : RisexOrderJob} {reads : RisexPlanningReads}
    {market : RisexMarketMetadata} {decision : RiskDecision}
    (h : assessRisexOrder normalized job reads = .ok (market, decision)) :
    parseRisexRiskMarket normalized reads.marketsPayload (normalized job.symbol) = .ok market ∧
      market.active = true ∧ market.unlocked = true := by
  obtain ⟨portfolio, current, planned, sizing, ctx, hassessed, -⟩ := assessRisexOrder_eq_ok h
  exact ⟨hassessed.parsesMarket, hassessed.active, hassessed.unlocked⟩

/-- The intent of a paused user's job only reduces. -/
lemma planRisexOrderIntent_of_paused {job : RisexOrderJob} {reads : RisexPlanningReads}
    {clientOrderId : ℕ} {intent : RisexOrderIntent} (hpaused : reads.runtime.userPaused = true)
    (h : planRisexOrderIntent normalized job reads clientOrderId = .ok intent) :
    intent.reduceOnly = true := by
  obtain ⟨market, decision, hassess, hpasses, -, -, hintent, -, -⟩ := planRisexOrderIntent_eq_ok h
  obtain ⟨portfolio, current, planned, sizing, ctx, hassessed, rfl⟩ :=
    assessRisexOrder_eq_ok hassess
  obtain ⟨master, follower, spec, markPrice, -, -, rfl⟩ := hassessed.plans
  obtain ⟨limit, -, hscreened⟩ := hassessed.screened
  have hctx : ctx.userPaused = true := hassessed.context.userPaused.trans hpaused
  obtain ⟨hreducing, hplan, -⟩ := evaluate_of_paused hctx hpasses
  rw [hintent]
  show (evaluate sizing ctx).plan.toSizingLeg.reduceOnly = true
  rw [hscreened.leg] at hreducing
  rw [hplan, hscreened.leg]
  exact (plan_legs _ _ _ _ _).1 hreducing

end Planning

end HyperCopy

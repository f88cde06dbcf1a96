import HyperCopy.Risex.Binding
import HyperCopy.Risex.OrderCodec

/-!
# The authorized size is the encoded size

The planner floors the size the risk engine approved to the step of the market and refuses what
falls below its minimum.  The preparation takes that size, raises it to the minimum of the market
it resolved itself, and rounds up to whole steps.  Where both saw one description of the market
(`SameDescription`), the raising and the rounding do nothing: a whole number of steps is encoded as
that number.  The limit price is rounded to the more marketable tick.

`authorized_size_encoded` is the result, for every intent of the planner.  One payload read twice
is one description (`sameDescription_of_same_payload`), and an order that was prepared passes the
validation of the codec (`validateOrder_of_prepared`).
-/

namespace HyperCopy

open Fallible Quantize

/-! ## Steps and ticks -/

lemma sizeToSteps_eq_ok {size stepSize minOrderSize : ℚ} {steps : ℤ}
    (h : sizeToSteps size stepSize minOrderSize = .ok steps) :
    steps = ⌈max size minOrderSize / stepSize⌉ ∧ 0 < steps ∧ steps < 2 ^ 32 := by
  obtain ⟨-, h⟩ := require_bind_eq_ok.1 h
  obtain ⟨hrange, h⟩ := require_bind_eq_ok.1 h
  obtain rfl := Except.ok.inj h
  simp only [Bool.and_eq_true, decide_eq_true_eq] at hrange
  exact ⟨rfl, hrange.1, hrange.2⟩

/-- The price an order may slip to: through the ask of a buy, or the bid of a sell. -/
def slippageTarget (isBuy : Bool) (book : RisexTopOfBook) (slippageBps : ℤ) : ℚ :=
  if isBuy then book.bestAsk * (1 + slippageBps / 10000)
  else book.bestBid * (1 - slippageBps / 10000)

/-- The limit is on the marketable side of the target, and less than a tick from it. -/
def MarketableLimit (isBuy : Bool) (target tick limit : ℚ) : Prop :=
  if isBuy then target ≤ limit ∧ limit < target + tick
  else limit ≤ target ∧ target < limit + tick

lemma marketablePriceToTicks_eq_ok {isBuy : Bool} {book : RisexTopOfBook} {stepPrice : ℚ}
    {slippageBps ticks : ℤ}
    (h : marketablePriceToTicks isBuy book stepPrice slippageBps = .ok ticks) :
    MarketableLimit isBuy (slippageTarget isBuy book slippageBps) stepPrice (ticks * stepPrice) ∧
      0 < ticks ∧ ticks < 2 ^ 24 := by
  obtain ⟨-, h⟩ := require_bind_eq_ok.1 h
  obtain ⟨hpositive, h⟩ := require_bind_eq_ok.1 h
  obtain ⟨-, h⟩ := require_bind_eq_ok.1 h
  obtain ⟨-, h⟩ := require_bind_eq_ok.1 h
  obtain ⟨hrange, h⟩ := require_bind_eq_ok.1 h
  obtain rfl := Except.ok.inj h
  simp only [Bool.and_eq_true, decide_eq_true_eq] at hpositive hrange
  have htick : 0 < stepPrice := hpositive.2
  refine ⟨?_, hrange.1, hrange.2⟩
  cases isBuy with
  | true => exact ⟨le_ceilTo htick _, ceilTo_lt_add htick _⟩
  | false => exact ⟨floorTo_le htick _, lt_floorTo_add htick _⟩

/-! ## The prepared order -/

/-- The steps of a preparation that returned, with the book its limit was set from. -/
lemma prepareRisexIocPlan_eq_ok {normalized : Symbol → Symbol} {reads : RisexPreparationReads}
    {intent : RisexOrderIntent} {plan : RisexIocPlan}
    (h : prepareRisexIocPlan normalized reads intent = .ok plan) :
    ∃ book, loadTopOfBook (reads.orderbook plan.market.marketId) = .ok book ∧
      sizeToSteps intent.requestedSize plan.market.stepSize plan.market.minOrderSize =
        .ok plan.order.sizeSteps ∧
      marketablePriceToTicks intent.isBuy book plan.market.stepPrice intent.slippageBps =
        .ok plan.order.priceTicks ∧
      (0 < intent.clientOrderId ∧ intent.clientOrderId < 2 ^ 64) ∧
      plan.order = ⟨plan.market.marketId, plan.order.sizeSteps, plan.order.priceTicks,
        sideCode intent.isBuy, false, intent.reduceOnly, 0, 1, 3, intent.clientOrderId, 0⟩ ∧
      plan.requestedSize = plan.order.sizeSteps * plan.market.stepSize := by
  obtain ⟨market, -, h⟩ := bind_eq_ok.1 h
  obtain ⟨book, hbook, h⟩ := bind_eq_ok.1 h
  obtain ⟨sizeSteps, hsize, h⟩ := bind_eq_ok.1 h
  obtain ⟨priceTicks, hprice, h⟩ := bind_eq_ok.1 h
  obtain ⟨hclient, h⟩ := require_bind_eq_ok.1 h
  obtain rfl := Except.ok.inj h
  simp only [Bool.and_eq_true, decide_eq_true_eq] at hclient
  exact ⟨book, hbook, hsize, hprice, hclient, rfl, rfl⟩

/-! ## One description read twice -/

/-- The two descriptions of a market agree in its step, its tick and its minimum. -/
structure SameDescription (market market' : RisexMarketMetadata) : Prop where
  stepSize : market.stepSize = market'.stepSize
  stepPrice : market.stepPrice = market'.stepPrice
  minOrderSize : market.minOrderSize = market'.minOrderSize

/-- Two descriptions read off one row agree. -/
lemma ReadsOff.sameDescription {row : MarketRow} {config : MarketConfig}
    {market market' : RisexMarketMetadata} (h : ReadsOff row config market)
    (h' : ReadsOff row config market') : SameDescription market market' :=
  ⟨RawNumber.value.inj (h.stepSize.symm.trans h'.stepSize),
    RawNumber.value.inj (h.stepPrice.symm.trans h'.stepPrice),
    RawNumber.value.inj (h.minOrderSize.symm.trans h'.minOrderSize)⟩

section Lookup

variable {normalized : Symbol → Symbol}

/-- A payload that the planner found an active and unlocked market in, read twice, gives one
description of that market. -/
lemma sameDescription_of_same_payload {payload : MarketsPayload} {symbol : Symbol}
    {market signed : RisexMarketMetadata}
    (hplanned : parseRisexRiskMarket normalized payload symbol = .ok market)
    (hactive : market.active = true) (hunlocked : market.unlocked = true)
    (hprepared : resolveMarketMetadata normalized payload symbol = .ok signed) :
    SameDescription signed market := by
  obtain ⟨rows, row, config, rfl, hfirst, hconfig, hplannedRow⟩ :=
    parseRisexRiskMarket_row hplanned
  obtain ⟨row', config', htradable', hconfig', hmetadata⟩ := resolveRows_row hprepared
  have htradable : namesTradable normalized row symbol = true := by
    simp [namesTradable, firstMatch_symbolMatches hfirst, hplannedRow.active, hactive, hconfig,
      hplannedRow.unlocked, hunlocked]
  rw [firstTradable_of_firstMatch hfirst htradable] at htradable'
  obtain rfl := Option.some.inj htradable'
  rw [hconfig] at hconfig'
  obtain rfl := Option.some.inj hconfig'
  exact (marketMetadata_eq_ok hmetadata).1.sameDescription hplannedRow.toReadsOff

/-- An order that was prepared passes the validation of the codec. -/
lemma validateOrder_of_prepared {reads : RisexPreparationReads} {intent : RisexOrderIntent}
    {plan : RisexIocPlan} (h : prepareRisexIocPlan normalized reads intent = .ok plan) :
    validateOrder plan.order = .ok () := by
  obtain ⟨book, -, hsize, hprice, hclient, horder, -⟩ := prepareRisexIocPlan_eq_ok h
  obtain ⟨-, hsteps⟩ := sizeToSteps_eq_ok hsize
  obtain ⟨-, hticks⟩ := marketablePriceToTicks_eq_ok hprice
  have hmarket : 0 < plan.market.marketId ∧ plan.market.marketId < 2 ^ 16 := by
    have hresolve := (prepareRisexIocPlan_market h).1
    cases hpayload : reads.marketsPayload with
    | malformedEnvelope =>
        rw [hpayload] at hresolve
        cases hresolve
    | noMarkets =>
        rw [hpayload] at hresolve
        cases hresolve
    | markets rows =>
        rw [hpayload] at hresolve
        obtain ⟨row, config, -, -, hmetadata⟩ := resolveRows_row hresolve
        exact (marketMetadata_eq_ok hmetadata).2
  have hside : sideCode intent.isBuy < 2 := by
    cases intent.isBuy <;> decide
  have hone : 1 ≤ plan.order.sizeSteps := by omega
  rw [validateOrder_eq_ok, horder]
  exact ⟨⟨hmarket.1.le, hmarket.2⟩, ⟨hone, hsteps.2⟩, ⟨hticks.1.le, hticks.2⟩, hside,
    show 0 < 2 ^ 2 by decide, show 1 < 2 ^ 1 by decide, show 3 < 2 ^ 2 by decide, hclient.2,
    show 0 < 2 ^ 16 by decide⟩

end Lookup

/-! ## The encoded size -/

/-- A whole number of steps above the minimum is encoded as that number. -/
lemma encoded_size_eq {approved stepSize minOrderSize : ℚ} {steps : ℤ}
    (hstep : 0 < stepSize) (hmin : minOrderSize ≤ floorTo stepSize approved)
    (h : sizeToSteps (floorTo stepSize approved) stepSize minOrderSize = .ok steps) :
    steps * stepSize = floorTo stepSize approved := by
  rw [(sizeToSteps_eq_ok h).1, max_eq_left hmin, ceil_floorTo_div hstep]
  rfl

/-- The bounds of an intent's size. -/
lemma planRisexOrderIntent_size {normalized : Symbol → Symbol} {job : RisexOrderJob}
    {reads : RisexPlanningReads} {clientOrderId : ℕ} {intent : RisexOrderIntent}
    {market : RisexMarketMetadata} {decision : RiskDecision}
    (hassess : assessRisexOrder normalized job reads = .ok (market, decision))
    (h : planRisexOrderIntent normalized job reads clientOrderId = .ok intent) :
    0 < market.stepSize ∧ intent.requestedSize = floorTo market.stepSize decision.plan.orderSize ∧
      market.minOrderSize ≤ intent.requestedSize := by
  obtain ⟨⟨market', decision'⟩, hassess', h⟩ := bind_eq_ok.1 h
  rw [hassess] at hassess'
  obtain ⟨rfl, rfl⟩ := Prod.mk.inj (Except.ok.inj hassess')
  obtain ⟨-, h⟩ := require_bind_eq_ok.1 h
  obtain ⟨authorized, hauthorized, h⟩ := bind_eq_ok.1 h
  obtain ⟨-, h⟩ := require_bind_eq_ok.1 h
  obtain ⟨-, h⟩ := require_bind_eq_ok.1 h
  obtain rfl := Except.ok.inj h
  obtain ⟨hfloor, hstep, hmin⟩ := finalizeRisexAuthorizedSize_eq_ok hauthorized
  exact ⟨hstep, hfloor, hmin⟩

/-- The authorized size is the encoded size.  For an intent of the planner and the same description
of the market, a preparation that returns passes the check against the intent, encodes exactly the
authorized size, which is at most what the risk engine approved and at least the minimum, and
limits the price on the marketable side of the slippage target, within a tick. -/
theorem authorized_size_encoded {normalized : Symbol → Symbol} {job : RisexOrderJob}
    {reads : RisexPlanningReads} (clientOrderId : ℕ) (intent : RisexOrderIntent)
    (preparation : RisexPreparationReads) (plan : RisexIocPlan)
    {market : RisexMarketMetadata} {decision : RiskDecision}
    (hassess : assessRisexOrder normalized job reads = .ok (market, decision))
    (hintent : planRisexOrderIntent normalized job reads clientOrderId = .ok intent)
    (hsame : SameDescription plan.market market)
    (hplan : prepareRisexIocPlan normalized preparation intent = .ok plan) :
    assertRisexPlanMatchesIntent intent plan = .ok () ∧
      plan.order.sizeSteps * plan.market.stepSize = intent.requestedSize ∧
      intent.requestedSize ≤ decision.plan.orderSize ∧
      market.minOrderSize ≤ intent.requestedSize ∧
      ∃ book, loadTopOfBook (preparation.orderbook plan.market.marketId) = .ok book ∧
        MarketableLimit intent.isBuy (slippageTarget intent.isBuy book intent.slippageBps)
          plan.market.stepPrice (plan.order.priceTicks * plan.market.stepPrice) := by
  obtain ⟨hstep, hsize, hmin⟩ := planRisexOrderIntent_size hassess hintent
  obtain ⟨book, hbook, hsteps, hticks, -, horder, hrequested⟩ := prepareRisexIocPlan_eq_ok hplan
  have hencoded : plan.order.sizeSteps * plan.market.stepSize = intent.requestedSize := by
    rw [hsame.stepSize, hsame.minOrderSize, hsize] at hsteps
    rw [hsame.stepSize, hsize]
    exact encoded_size_eq hstep (hsize ▸ hmin) hsteps
  refine ⟨assertRisexPlanMatchesIntent_eq_ok.2 ?_, hencoded, ?_, hmin, book, hbook,
    (marketablePriceToTicks_eq_ok hticks).1⟩
  · refine ⟨hrequested.trans hencoded, hencoded, ?_, ?_, ?_⟩ <;> rw [horder]
  · rw [hsize]
    exact floorTo_le hstep _

theorem authorized_size_encoded_btc :
    ∃ market decision, assessRisexOrder asciiUpper btcJob.toRisexOrderJob btcReads =
        .ok (market, decision) ∧
      assertRisexPlanMatchesIntent btcIntent (btcPlan 1) = .ok () ∧
      ((btcPlan 1).order.sizeSteps : ℚ) * (btcPlan 1).market.stepSize = btcIntent.requestedSize ∧
      btcIntent.requestedSize ≤ decision.plan.orderSize := by
  cases hassess : assessRisexOrder asciiUpper btcJob.toRisexOrderJob btcReads with
  | error e =>
      have hok : (assessRisexOrder asciiUpper btcJob.toRisexOrderJob btcReads).isOk = true := by
        decide +kernel
      rw [hassess] at hok
      cases hok
  | ok result =>
      obtain ⟨market, decision⟩ := result
      have hmarket : (assessRisexOrder asciiUpper btcJob.toRisexOrderJob btcReads).map Prod.fst =
          .ok (btcPlan 1).market := by decide +kernel
      rw [hassess] at hmarket
      obtain rfl : market = (btcPlan 1).market := Except.ok.inj hmarket
      obtain ⟨hmatches, hsize, hle, -⟩ := authorized_size_encoded 12 btcIntent
        (btcPreparation true) (btcPlan 1) hassess (by decide +kernel) ⟨rfl, rfl, rfl⟩
        (by decide +kernel)
      exact ⟨_, decision, rfl, hmatches, hsize, hle⟩

end HyperCopy

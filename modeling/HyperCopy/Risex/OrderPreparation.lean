import HyperCopy.Risex.RiskPlanning

/-!
# RISEx order preparation

`services/risex_order_preparation.py`: from an intent and two further provider reads to the typed
order that is signed, and the check that binds the one to the other.  The market is resolved
again, from a payload of its own, and so is its order book; sizes become whole steps and prices
whole ticks of that market.

`assertRisexPlanMatchesIntent` compares the size, the side, the reduce-only flag and the client
order id.  The intent has no market id, so there is none to compare.
-/

namespace HyperCopy

open Fallible

/-- `/v1/orderbook`: the price fields of the levels on either side.  A side that is not a list is
`none`, and so is a level that is not an object. -/
inductive OrderbookPayload
  | malformedEnvelope
  | levels (bids asks : Option (List (Option (RawNumber ℚ))))
deriving DecidableEq, Repr

/-- The best prices of the book. -/
structure RisexTopOfBook where
  bestBid : ℚ
  bestAsk : ℚ
deriving DecidableEq, Repr

/-- The first level of a side. -/
def firstLevel (side : Option (List (Option (RawNumber ℚ)))) :
    Except RisexError (Option (RawNumber ℚ)) :=
  match side with
  | some (level :: _) => .ok level
  | _ => .error (.providerDataMalformed "RISEx orderbook has no usable best bid/ask")

/-- `load_top_of_book`. -/
def loadTopOfBook (payload : OrderbookPayload) : Except RisexError RisexTopOfBook :=
  match payload with
  | .malformedEnvelope =>
      .error (.providerDataMalformed "RISEx orderbook data envelope is not an object")
  | .levels bids asks => do
      let bidLevel ← firstLevel bids
      let askLevel ← firstLevel asks
      let rawBid ← expect bidLevel
        (.providerDataMalformed "RISEx orderbook top levels are malformed")
      let rawAsk ← expect askLevel
        (.providerDataMalformed "RISEx orderbook top levels are malformed")
      let bestBid ← positiveDecimal "best bid price" rawBid
      let bestAsk ← positiveDecimal "best ask price" rawAsk
      Fallible.require (bestBid ≤ bestAsk) (.providerDataMalformed "RISEx orderbook is crossed")
      return ⟨bestBid, bestAsk⟩

/-! ## Steps and ticks -/

/-- `size_to_steps`: a quantity in whole steps, rounded up, within uint32. -/
def sizeToSteps (size stepSize minOrderSize : ℚ) : Except RisexError ℤ := do
  Fallible.require (0 < size && 0 < stepSize && 0 < minOrderSize)
    (.signedTestnetBlocked "RISEx size and market sizing metadata must be positive")
  let steps := ⌈max size minOrderSize / stepSize⌉
  Fallible.require (0 < steps && steps < 2 ^ 32)
    (.signedTestnetBlocked "RISEx size_steps is outside uint32 range")
  return steps

/-- `marketable_price_to_ticks`: a limit through the book, rounded to the more marketable tick,
within uint24. -/
def marketablePriceToTicks (isBuy : Bool) (book : RisexTopOfBook) (stepPrice : ℚ)
    (slippageBps : ℤ) : Except RisexError ℤ := do
  Fallible.require (0 ≤ slippageBps && slippageBps < 10000)
    (.signedTestnetBlocked "RISEx slippage_bps must be an integer in [0, 9999]")
  Fallible.require (0 < book.bestBid && 0 < book.bestAsk && 0 < stepPrice)
    (.signedTestnetBlocked "RISEx orderbook prices and step_price must be positive")
  Fallible.require (book.bestBid ≤ book.bestAsk)
    (.signedTestnetBlocked "RISEx orderbook is crossed")
  let slippage : ℚ := slippageBps / 10000
  let target := if isBuy then book.bestAsk * (1 + slippage) else book.bestBid * (1 - slippage)
  Fallible.require (0 < target)
    (.signedTestnetBlocked "RISEx marketable limit must remain positive")
  let ticks := if isBuy then ⌈target / stepPrice⌉ else ⌊target / stepPrice⌋
  Fallible.require (0 < ticks && ticks < 2 ^ 24)
    (.signedTestnetBlocked "RISEx price_ticks is outside uint24 range")
  return ticks

/-! ## The plan -/

/-- `RISExPlaceOrder`. -/
structure RisexPlaceOrder where
  marketId : ℤ
  sizeSteps : ℤ
  priceTicks : ℤ
  side : ℕ
  postOnly : Bool
  reduceOnly : Bool
  stpMode : ℕ
  orderType : ℕ
  timeInForce : ℕ
  clientOrderId : ℕ
  ttlUnits : ℕ
deriving DecidableEq, Repr

/-- `RISExIOCPlan`. -/
structure RisexIocPlan where
  order : RisexPlaceOrder
  requestedSize : ℚ
  limitPrice : ℚ
  market : RisexMarketMetadata
deriving DecidableEq, Repr

/-- The two provider reads of the preparation.  The book is read for the market id the first
one resolved. -/
structure RisexPreparationReads where
  marketsPayload : MarketsPayload
  orderbook : ℤ → OrderbookPayload

/-- The `side` field of an order. -/
def sideCode (isBuy : Bool) : ℕ := if isBuy then 0 else 1

/-- `prepare_risex_ioc_plan`. -/
def prepareRisexIocPlan (normalized : Symbol → Symbol) (reads : RisexPreparationReads)
    (intent : RisexOrderIntent) : Except RisexError RisexIocPlan := do
  let market ← resolveMarketMetadata normalized reads.marketsPayload intent.symbol
  let book ← loadTopOfBook (reads.orderbook market.marketId)
  let sizeSteps ← sizeToSteps intent.requestedSize market.stepSize market.minOrderSize
  let priceTicks ←
    marketablePriceToTicks intent.isBuy book market.stepPrice intent.slippageBps
  Fallible.require (0 < intent.clientOrderId && intent.clientOrderId < 2 ^ 64)
    (.signedTestnetBlocked "RISEx client_order_id must be a non-zero uint64 integer")
  return {
    order :=
      { marketId := market.marketId
        sizeSteps := sizeSteps
        priceTicks := priceTicks
        side := sideCode intent.isBuy
        postOnly := false
        reduceOnly := intent.reduceOnly
        stpMode := 0
        orderType := 1
        timeInForce := 3
        clientOrderId := intent.clientOrderId
        ttlUnits := 0 }
    requestedSize := sizeSteps * market.stepSize
    limitPrice := priceTicks * market.stepPrice
    market := market }

/-- `assert_risex_plan_matches_intent`. -/
def assertRisexPlanMatchesIntent (intent : RisexOrderIntent) (plan : RisexIocPlan) :
    Except RisexError Unit :=
  Fallible.require
    (plan.requestedSize = intent.requestedSize &&
      plan.order.sizeSteps * plan.market.stepSize = intent.requestedSize &&
      plan.order.clientOrderId = intent.clientOrderId &&
      plan.order.reduceOnly = intent.reduceOnly &&
      plan.order.side = sideCode intent.isBuy)
    (.signedTestnetBlocked "RISEx executable plan does not match the risk-authorized intent")

/-- What the check establishes. -/
structure PlanMatches (intent : RisexOrderIntent) (plan : RisexIocPlan) : Prop where
  requestedSize : plan.requestedSize = intent.requestedSize
  encodedSize : plan.order.sizeSteps * plan.market.stepSize = intent.requestedSize
  clientOrderId : plan.order.clientOrderId = intent.clientOrderId
  reduceOnly : plan.order.reduceOnly = intent.reduceOnly
  side : plan.order.side = sideCode intent.isBuy

lemma assertRisexPlanMatchesIntent_eq_ok {intent : RisexOrderIntent} {plan : RisexIocPlan} :
    assertRisexPlanMatchesIntent intent plan = .ok () ↔ PlanMatches intent plan := by
  rw [assertRisexPlanMatchesIntent, require_eq_ok]
  simp only [Bool.and_eq_true, decide_eq_true_eq]
  constructor
  · rintro ⟨⟨⟨⟨hsize, hencoded⟩, hid⟩, hreduce⟩, hside⟩
    exact ⟨hsize, hencoded, hid, hreduce, hside⟩
  · rintro ⟨hsize, hencoded, hid, hreduce, hside⟩
    exact ⟨⟨⟨⟨hsize, hencoded⟩, hid⟩, hreduce⟩, hside⟩

/-- The preparation signs for the market it resolved itself, and counts its limit price in that
market's ticks. -/
lemma prepareRisexIocPlan_market {normalized : Symbol → Symbol} {reads : RisexPreparationReads}
    {intent : RisexOrderIntent} {plan : RisexIocPlan}
    (h : prepareRisexIocPlan normalized reads intent = .ok plan) :
    resolveMarketMetadata normalized reads.marketsPayload intent.symbol = .ok plan.market ∧
      plan.order.marketId = plan.market.marketId ∧
      plan.limitPrice = plan.order.priceTicks * plan.market.stepPrice := by
  obtain ⟨market, hmarket, h⟩ := bind_eq_ok.1 h
  obtain ⟨book, -, h⟩ := bind_eq_ok.1 h
  obtain ⟨sizeSteps, -, h⟩ := bind_eq_ok.1 h
  obtain ⟨priceTicks, -, h⟩ := bind_eq_ok.1 h
  obtain ⟨-, h⟩ := require_bind_eq_ok.1 h
  obtain rfl := Except.ok.inj h
  exact ⟨hmarket, rfl, rfl⟩

end HyperCopy

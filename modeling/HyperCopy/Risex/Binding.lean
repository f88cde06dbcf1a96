import HyperCopy.Risex.CopyExecution

/-!
# What is signed and what was approved

The risk decision is computed for the market of one `/v1/markets` payload, and the order is
signed for the market of another.  `assert_risex_plan_matches_intent` and the identity checks of
`claim_risex_first_post` bind everything an intent says; it does not say which market it is
about, and the identity checks do not compare the side of the row they accept.

`signedAsApproved_iff` is the exact condition under which nothing is lost: the first row that
names the symbol in the first payload and the first tradable one in the second carry the same
market id (`LookupsAgree`), and the job had no execution of the other side when this one was
persisted (`NoOppositeRow`).  One payload read twice is such a case
(`lookupsAgree_of_same_payload`), so what it takes is a row that changes its flags between the
two reads (`delisted_market_is_signed_elsewhere`).
-/

namespace HyperCopy

open Fallible Quantize

/-! ## The property -/

/-- The order and its row are the decision: the market, side, reduce-only flag and client order
id it was computed for, its size floored to that market's step, and a row that records the
order's side, size, limit price and reduce-only flag.  `signed` is the market the order was
encoded for, whose step and tick its size and limit are counted in. -/
structure SignedAsApproved (market : RisexMarketMetadata) (decision : RiskDecision)
    (clientOrderId : ℕ) (signed : RisexMarketMetadata) (order : RisexPlaceOrder)
    (row : RisexExecution) : Prop where
  marketId : order.marketId = market.marketId
  side : order.side = sideCode decision.plan.isBuy
  reduceOnly : order.reduceOnly = decision.plan.reduceOnly
  clientOrderId : order.clientOrderId = clientOrderId
  size : order.sizeSteps * signed.stepSize = floorTo market.stepSize decision.plan.orderSize
  rowSide : order.side = sideCode row.isBuy
  rowSize : row.requestedSize = order.sizeSteps * signed.stepSize
  rowLimit : row.limitPx = order.priceTicks * signed.stepPrice
  rowReduceOnly : row.reduceOnly = order.reduceOnly

/-- The rows of a payload that can be read. -/
def MarketsPayload.rows : MarketsPayload → MarketRows
  | .markets rows => rows
  | .malformedEnvelope | .noMarkets => []

/-- The two lookups land on rows with the same market id. -/
def LookupsAgree (normalized : Symbol → Symbol) (planned prepared : MarketsPayload)
    (symbol : Symbol) : Prop :=
  (firstMatch normalized symbol planned.rows).map (·.marketId) =
    (firstTradable normalized symbol prepared.rows).map (·.marketId)

instance (normalized : Symbol → Symbol) (planned prepared : MarketsPayload) (symbol : Symbol) :
    Decidable (LookupsAgree normalized planned prepared symbol) :=
  inferInstanceAs (Decidable (_ = _))

/-- The job has no execution of the other side. -/
def NoOppositeRow (executions : RisexExecutions) (jobId : JobId) (isBuy : Bool) : Prop :=
  ∀ row, executions.lookup jobId = some row → row.isBuy = isBuy

/-! ## The lookups -/

section

variable {normalized : Symbol → Symbol}

lemma firstMatch_symbolMatches {symbol : Symbol} {rows : MarketRows} {row : MarketRow}
    (h : firstMatch normalized symbol rows = some row) :
    symbolMatches normalized row symbol = true := by
  induction rows with
  | nil => cases h
  | cons head rows ih =>
      cases head with
      | none => exact ih h
      | some first =>
          simp only [firstMatch] at h
          split_ifs at h with hmatch
          · obtain rfl := Option.some.inj h
            exact hmatch
          · exact ih h

/-- A payload that the planner found an active and unlocked market in, read twice, resolves to
that market. -/
lemma lookupsAgree_of_same_payload {payload : MarketsPayload} {symbol : Symbol}
    {market : RisexMarketMetadata}
    (h : parseRisexRiskMarket normalized payload symbol = .ok market)
    (hactive : market.active = true) (hunlocked : market.unlocked = true) :
    LookupsAgree normalized payload payload symbol := by
  obtain ⟨rows, row, config, rfl, hfirst, hconfig, hreads⟩ := parseRisexRiskMarket_row h
  have hrowActive := hreads.active
  have hrowUnlocked := hreads.unlocked
  rw [hactive] at hrowActive
  rw [hunlocked] at hrowUnlocked
  have htradable : namesTradable normalized row symbol = true := by
    simp [namesTradable, firstMatch_symbolMatches hfirst, hrowActive, hconfig, hrowUnlocked]
  show (firstMatch normalized symbol rows).map _ = (firstTradable normalized symbol rows).map _
  rw [hfirst, firstTradable_of_firstMatch hfirst htradable]

/-- Where both parsers return a market, the lookups agree exactly when the markets do. -/
lemma lookupsAgree_iff_marketId {planned prepared : MarketsPayload} {symbol : Symbol}
    {market signed : RisexMarketMetadata}
    (hplanned : parseRisexRiskMarket normalized planned symbol = .ok market)
    (hprepared : resolveMarketMetadata normalized prepared symbol = .ok signed) :
    LookupsAgree normalized planned prepared symbol ↔ signed.marketId = market.marketId := by
  obtain ⟨rows, row, config, rfl, hfirst, -, hplannedRow⟩ := parseRisexRiskMarket_row hplanned
  have hid := hplannedRow.marketId
  cases prepared with
  | malformedEnvelope => cases hprepared
  | noMarkets => cases hprepared
  | markets rows' =>
      obtain ⟨row', config', htradable, -, hmetadata⟩ := resolveRows_row hprepared
      have hid' := (marketMetadata_eq_ok hmetadata).1.marketId
      simp only [LookupsAgree, MarketsPayload.rows, hfirst, htradable, Option.map_some, hid, hid',
        Option.some.injEq, RawNumber.value.injEq]
      exact eq_comm

end

/-! ## The result -/

lemma sideCode_inj {a b : Bool} : sideCode a = sideCode b ↔ a = b := by
  cases a <;> cases b <;> simp [sideCode]

/-- The row of an identity check that was passed, and the order behind it. -/
lemma identityMatches_eq_true {row : RisexExecution} {submission : RisexSubmission}
    (h : identityMatches row submission = true) :
    submission.request.order = submission.plan.order ∧
      row.reduceOnly = submission.request.order.reduceOnly ∧
      row.requestedSize = submission.plan.requestedSize ∧
      row.limitPx = submission.plan.limitPrice := by
  simp only [identityMatches, Bool.and_eq_true, decide_eq_true_eq] at h
  obtain ⟨⟨⟨⟨⟨⟨⟨-, horder⟩, -⟩, -⟩, -⟩, -⟩, hreduce⟩, hsize⟩ := h.1
  exact ⟨horder, hreduce, hsize, h.2⟩

/-- The side the row of a persisted submission records. -/
lemma persisted_side {executions executions' : RisexExecutions} {newId : ExecutionId}
    {jobId : JobId} {job : RisexJob} {intent : RisexOrderIntent} {plan : RisexIocPlan}
    {request : RisexRequest} {row : RisexExecution}
    (h : persistRisexPrePostExecution executions newId jobId job intent plan request =
      .ok (executions', row)) :
    row.isBuy = intent.isBuy ↔ NoOppositeRow executions jobId intent.isBuy := by
  rcases persist_eq_ok h with ⟨hexisting, -⟩ | ⟨hnone, -, -, -, -, -, hside, -⟩
  · constructor
    · intro hrow existing hlookup
      obtain rfl : row = existing := Option.some.inj (hexisting.symm.trans hlookup)
      exact hrow
    · intro hno
      exact hno row hexisting
  · constructor
    · intro _ existing hlookup
      rw [hnone] at hlookup
      cases hlookup
    · intro _
      exact hside

/-- **RISEx signs what risk approved, exactly when its two lookups agree.**  For every job, every
pair of provider reads and every table of executions: once the plan check and the identity checks
of the fence have accepted, the order that is posted and its row are the risk decision if and
only if the two market lookups land on rows with one market id and the job had no execution of
the other side. -/
theorem signedAsApproved_iff (normalized : Symbol → Symbol) (job : RisexJob) (jobId : JobId)
    (reads : RisexPlanningReads) (preparation : RisexPreparationReads)
    (executions executions' : RisexExecutions) (newId : ExecutionId) (fence : FenceReads)
    (intent : RisexOrderIntent) (plan : RisexIocPlan) (request : RisexRequest)
    (row claimed : RisexExecution)
    (hplan : planRisexOrderIntent normalized job.toRisexOrderJob reads job.clientOrderId =
      .ok intent)
    (hprepare : prepareRisexIocPlan normalized preparation intent = .ok plan)
    (hassert : assertRisexPlanMatchesIntent intent plan = .ok ())
    (hpersist : persistRisexPrePostExecution executions newId jobId job intent plan request =
      .ok (executions', row))
    (hclaim : claimRisexFirstPost job fence row
      ⟨row.executionId, job.cloid, job.clientOrderId, intent, plan, request⟩ =
        .ok (.claimed claimed)) :
    ∃ market decision, assessRisexOrder normalized job.toRisexOrderJob reads =
        .ok (market, decision) ∧
      (SignedAsApproved market decision job.clientOrderId plan.market request.order claimed ↔
        LookupsAgree normalized reads.marketsPayload preparation.marketsPayload
            (normalized job.symbol) ∧
          NoOppositeRow executions jobId intent.isBuy) := by
  obtain ⟨market, decision, hassess, -, hsymbol, hbuy, hreduce, hsize, -, hid⟩ :=
    planRisexOrderIntent_eq_ok hplan
  obtain ⟨hmarket, -, -⟩ := assessRisexOrder_market hassess
  obtain ⟨hsigned, horderId, hlimit⟩ := prepareRisexIocPlan_market hprepare
  have hmatches := assertRisexPlanMatchesIntent_eq_ok.1 hassert
  obtain ⟨-, -, hidentity, rfl⟩ := claimRisexFirstPost_claimed hclaim
  obtain ⟨horder, hrowReduce, hrowSize, hrowLimit⟩ := identityMatches_eq_true hidentity
  dsimp only at horder hrowReduce hrowSize hrowLimit
  rw [hsymbol] at hsigned
  have hlookups := lookupsAgree_iff_marketId hmarket hsigned
  have hside := persisted_side hpersist
  refine ⟨market, decision, hassess, ?_⟩
  constructor
  · intro happroved
    have hmarketId : plan.market.marketId = market.marketId := by
      rw [← horderId, ← horder]
      exact happroved.marketId
    have hrowSide : row.isBuy = intent.isBuy := by
      have h := happroved.rowSide
      rw [horder, hmatches.side, sideCode_inj] at h
      exact h.symm
    exact ⟨hlookups.2 hmarketId, hside.1 hrowSide⟩
  · rintro ⟨hagree, hno⟩
    have hplanSize : plan.requestedSize = plan.order.sizeSteps * plan.market.stepSize := by
      rw [hmatches.requestedSize, hmatches.encodedSize]
    exact
      { marketId := by rw [horder, horderId]; exact hlookups.1 hagree
        side := by rw [horder, hmatches.side, hbuy]
        reduceOnly := by rw [horder, hmatches.reduceOnly, hreduce]
        clientOrderId := by rw [horder, hmatches.clientOrderId, hid]
        size := by rw [horder, hmatches.encodedSize, hsize]
        rowSide := by rw [horder, hmatches.side, hside.2 hno]
        rowSize := by rw [horder, ← hplanSize]; exact hrowSize
        rowLimit := by rw [horder, hrowLimit, hlimit]
        rowReduceOnly := hrowReduce }

/-! ## A market that is delisted between the two reads

Two rows name BTC.  The planner reads both as listed and decides for the first; the preparation
reads the first as inactive. -/

/-- `str.strip().upper()` on a text of ASCII characters without blanks. -/
def asciiUpper (text : Symbol) : Symbol := text.map Char.toUpper

/-- The symbol of the runs below. -/
def btc : Symbol := ['B', 'T', 'C']

/-- A market row for BTC. -/
def btcRow (marketId : ℤ) (active : Bool) : MarketRow where
  baseAssetSymbol := some btc
  displayBaseAssetSymbol := none
  displayName := some ['B', 'T', 'C', '/', 'U', 'S', 'D', 'C']
  underlying := none
  active := .flag active
  reduceOnly := .flag false
  marketId := .value marketId
  maxPositionSize := .value 1000000
  markPrice := .value 50000
  config := some
    { name := none
      unlocked := .flag true
      stepSize := .value (1 / 1000)
      stepPrice := .value (1 / 10)
      minOrderSize := .value (1 / 1000)
      maxLeverage := .value 20 }

/-- Two rows of one symbol; the first may be delisted. -/
def btcMarkets (listed : Bool) : MarketsPayload :=
  .markets [some (btcRow 1 listed), some (btcRow 7 true)]

/-- A portfolio without positions. -/
def flatPortfolio : PortfolioPayload :=
  .details
    (some
      { inLiquidation := .flag false
        riskLevel := some normalLevel
        usdcBalance := .value 10000
        totalAccountValue := .value 10000
        totalNotional := .value 0
        freeCollateral := .value 10000 })
    (some [])

/-- A profile that lets the order through. -/
def btcRisk : RisexRiskProfile where
  multiplier := 1
  maxNotionalPerTrade := 10000
  maxTotalExposure := 50000
  maxAssetExposure := 50000
  maxLeverage := 5
  maxPositions := 5
  minNotional := 10
  closeOnly := false
  maxSlippageBps := 50

/-- What the planner reads. -/
def btcReads : RisexPlanningReads where
  portfolioPayload := flatPortfolio
  marketsPayload := btcMarkets true
  risk := btcRisk
  entitlement := ⟨some true, ⟨none, none, none⟩⟩
  runtime := ⟨true, true, true, false, false, false, false, false, false, true, false⟩

/-- What the preparation reads. -/
def btcPreparation (listed : Bool) : RisexPreparationReads where
  marketsPayload := btcMarkets listed
  orderbook := fun _ => .levels (some [some (.value 49990)]) (some [some (.value 50010)])

/-- The job of the order. -/
def btcJob : RisexJob where
  asset := 1
  symbol := btc
  context := some (.value 1, .value 100000, .value 50000)
  userId := 1
  executionEpochId := some 3
  executionProvider := some .risex
  executionNetwork := some .testnet
  cloid := 11
  clientOrderId := 12
  state := .processing
  attemptCount := 1

/-- The intent both payloads lead to. -/
def btcIntent : RisexOrderIntent := ⟨btc, true, 1 / 10, false, 50, 12⟩

/-- The order for the market with the given id. -/
def btcPlan (marketId : ℤ) : RisexIocPlan where
  order := ⟨marketId, 100, 502601, 0, false, false, 0, 1, 3, 12, 0⟩
  requestedSize := 1 / 10
  limitPrice := 502601 / 10
  market := ⟨marketId, 1 / 1000, 1 / 10, 1 / 1000, some 20, true, false, true, some 1000000,
    some 50000⟩

/-- The signed request for the order. -/
def btcRequest (marketId : ℤ) : RisexRequest := ⟨(btcPlan marketId).order, 1, 0⟩

/-- The submission of the request. -/
def btcSubmission (marketId : ℤ) : RisexSubmission :=
  ⟨100, 11, 12, btcIntent, btcPlan marketId, btcRequest marketId⟩

/-- The row of the order, before and after the claim. -/
def btcExecution (submissionStatus : SubmissionStatus) : RisexExecution :=
  ⟨100, 1, 1, 3, 11, 12, 1, 0, .submitting, true, 1 / 10, false, 502601 / 10, none, 0,
    submissionStatus, none⟩

/-- What the fence reads of the destination. -/
def btcFence : FenceReads where
  user := some (some 3)
  epoch := some ⟨1, .risex, .testnet, some 9, some 2, 0, none, 0⟩
  binding := some (9, 2)

/-- One payload for both reads: the property holds. -/
theorem signedAsApproved_listed :
    ∃ market decision, assessRisexOrder asciiUpper btcJob.toRisexOrderJob btcReads =
        .ok (market, decision) ∧
      SignedAsApproved market decision 12 (btcPlan 1).market (btcPlan 1).order
        (btcExecution .postInFlight) := by
  have hrow : (persistRisexPrePostExecution ∅ 100 5 btcJob btcIntent (btcPlan 1)
      (btcRequest 1)).map Prod.snd = .ok (btcExecution .prePostCommitted) := by decide +kernel
  cases hpersist : persistRisexPrePostExecution ∅ 100 5 btcJob btcIntent (btcPlan 1)
      (btcRequest 1) with
  | error e =>
      rw [hpersist] at hrow
      cases hrow
  | ok persisted =>
      obtain ⟨executions, row⟩ := persisted
      rw [hpersist] at hrow
      obtain rfl : row = btcExecution .prePostCommitted := Except.ok.inj hrow
      obtain ⟨market, decision, hassess, hiff⟩ :=
        signedAsApproved_iff asciiUpper btcJob 5 btcReads (btcPreparation true) ∅ executions 100
          btcFence btcIntent (btcPlan 1) (btcRequest 1) (btcExecution .prePostCommitted)
          (btcExecution .postInFlight) (by decide +kernel) (by decide +kernel)
          (by decide +kernel) hpersist (by decide +kernel)
      have hagree : LookupsAgree asciiUpper btcReads.marketsPayload
          (btcPreparation true).marketsPayload (asciiUpper btcJob.symbol) := by decide +kernel
      exact ⟨market, decision, hassess, hiff.2 ⟨hagree, fun row hrow => by cases hrow⟩⟩

/-- Every check accepts, the decision is for market 1, and the order is signed for market 7. -/
theorem delisted_market_is_signed_elsewhere :
    planRisexOrderIntent asciiUpper btcJob.toRisexOrderJob btcReads 12 = .ok btcIntent ∧
      prepareRisexIocPlan asciiUpper (btcPreparation false) btcIntent = .ok (btcPlan 7) ∧
      assertRisexPlanMatchesIntent btcIntent (btcPlan 7) = .ok () ∧
      (persistRisexPrePostExecution ∅ 100 5 btcJob btcIntent (btcPlan 7) (btcRequest 7)).map
          Prod.snd = .ok (btcExecution .prePostCommitted) ∧
      claimRisexFirstPost btcJob btcFence (btcExecution .prePostCommitted) (btcSubmission 7) =
        .ok (.claimed (btcExecution .postInFlight)) ∧
      (assessRisexOrder asciiUpper btcJob.toRisexOrderJob btcReads).map (·.1.marketId) = .ok 1 ∧
      ∀ market decision,
        assessRisexOrder asciiUpper btcJob.toRisexOrderJob btcReads = .ok (market, decision) →
        ¬SignedAsApproved market decision 12 (btcPlan 7).market (btcSubmission 7).request.order
          (btcExecution .postInFlight) := by
  have hmarket : (assessRisexOrder asciiUpper btcJob.toRisexOrderJob btcReads).map
      (·.1.marketId) = .ok 1 := by decide +kernel
  refine ⟨by decide +kernel, by decide +kernel, by decide +kernel, by decide +kernel,
    by decide +kernel, hmarket, ?_⟩
  intro market decision hassess happroved
  rw [hassess] at hmarket
  have hone : market.marketId = 1 := Except.ok.inj hmarket
  have hseven : (7 : ℤ) = market.marketId := happroved.marketId
  omega

end HyperCopy

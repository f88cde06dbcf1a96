import HyperCopy.Executor.Planning
import HyperCopy.ProfitExit.Economics

/-!
# Submitting a profit exit

`_process_ai_profit_exit_locked` from the durable decision to the signed order.  The size and the
price are fixed from one observation, the adapter derives its price again from the mark and the
slippage, and just before the order is sent everything is read once more and compared.  The two
sets of reads, `ProfitExitReads` and `RevalidationReads`, are independent of each other: whatever
can change between planning and submission may have changed.

`profit_exit_realizes_profit` follows the numbers through the three places.
-/

namespace HyperCopy

/-- The mode of the feature. -/
inductive ProfitExitFeatureMode
  | off
  | shadow
  | on
deriving DecidableEq, Repr

/-- A decision with the columns its execution reads.  After the insert only `intentState` and
`copyJobId` are ever written. -/
structure ProfitExitIntent extends ProfitExitDecision where
  copyJobId : Option JobId
  side : PositionSide
  expiresAt : ℕ
  netPnl : Option ℚ
  pnlComplete : Bool
  followerPositionSize : ℚ
deriving DecidableEq, Repr

/-- The execution row of an earlier attempt. -/
structure ExistingExecution where
  state : ExecutionState
  isBuy : Bool
  requestedSize : ℚ
  limitPx : ℚ
  reduceOnly : Bool
deriving DecidableEq, Repr

/-- What the checks read of the ledger row. -/
structure LedgerView where
  size : LedgerDecimal
  managed : Bool
deriving DecidableEq

/-- What the attempt reads, on top of what every attempt reads.  `decisionId` is the identity in
the job's context. -/
structure ProfitExitReads extends AttemptReads where
  jobId : JobId
  decisionId : Option DecisionId
  decision : Option ProfitExitIntent
  existing : Option ExistingExecution
  ledger : Option LedgerView
  mode : ProfitExitFeatureMode
  openEventKnown : Bool
  collector : CollectorReads

/-- The reasons for which an exit is not submitted. -/
inductive ProfitExitReason
  | providerNotHyperliquid
  | networkStale
  | decisionIdentityMissing
  | decisionUnavailable
  | bindingMismatch
  | notCloseProfit
  | notExecutable
  | accountMissingForResolution
  | executionNotReduceOnly
  | ambiguousWithoutExecution
  | copyStateInactive
  | modeNotOn
  | decisionExpired
  | durableEconomics
  | accountRiskOrLedger
  | credentialUnavailable
  | openEventUnavailable
  | observationIncomplete (failure : CollectFailure)
  | observationNotProfitable
  | sideChanged
  | ledgerNotSynchronized
  | closePlan
  | equityUnavailable
  | riskBlocked (reason : Option RiskReason)
  | riskPlanInvalid
  | liveGateClosed
deriving DecidableEq, Repr

/-- The order an exit has planned, with the price and the size the revalidation compares with. -/
structure ProfitExitOrder where
  plan : SizingResult
  mark : ℚ
  slippageBps : ℕ
  expectedLimitPx : ℚ
  plannedSize : ℚ
deriving DecidableEq, Repr

/-- How an attempt at a profit exit goes on.  `settle` and `retryOrDead` end it, with the state
the decision is moved to if it is moved; `recover` replays an existing execution row. -/
inductive ProfitExitPlan
  | settle (intent : Option ProfitExitIntentState) (state : JobState) (reason : ProfitExitReason)
  | retryOrDead (intent : Option ProfitExitIntentState) (reason : ProfitExitReason)
  | recover (intent : Option ProfitExitIntentState) (existing : ExistingExecution)
      (current : ℚ)
  | submit (order : ProfitExitOrder)
deriving DecidableEq, Repr

/-! ## Guards -/

/-- The first guard that fails decides. -/
def require (holds : Bool) (reason : ProfitExitReason) : Except ProfitExitReason Unit :=
  if holds then .ok () else .error reason

/-- A missing value ends the checks. -/
def requireSome {α : Type} (value : Option α) (reason : ProfitExitReason) :
    Except ProfitExitReason α :=
  match value with
  | some a => .ok a
  | none => .error reason

@[simp] lemma require_bind_ok {α : Type} {holds : Bool} {reason : ProfitExitReason}
    {k : Unit → Except ProfitExitReason α} {a : α} :
    (require holds reason >>= k) = .ok a ↔ holds = true ∧ k () = .ok a := by
  cases holds with
  | false => exact ⟨fun h => (by cases h), fun h => (by cases h.1)⟩
  | true => exact ⟨fun h => ⟨rfl, h⟩, fun h => h.2⟩

@[simp] lemma requireSome_bind_ok {α β : Type} {value : Option α} {reason : ProfitExitReason}
    {k : α → Except ProfitExitReason β} {b : β} :
    (requireSome value reason >>= k) = .ok b ↔ ∃ a, value = some a ∧ k a = .ok b := by
  cases value with
  | none => exact ⟨fun h => (by cases h), fun ⟨_, h, _⟩ => (by cases h)⟩
  | some a => exact ⟨fun h => ⟨a, rfl, h⟩, fun ⟨_, rfl, h⟩ => h⟩

/-! ## Planning -/

/-- Execution is admissible only for complete accounting and a strictly positive result. -/
def profitExitEconomicallyAdmissible (netPnl : Option ℚ) (pnlComplete : Bool) : Bool :=
  pnlComplete && netPnl.any fun net => 0 < net

/-- The only order shape a profit exit may submit. -/
def buildProfitExitClosePlan (asset : Asset) (currentPosition markPrice : ℚ) (szDecimals : ℕ) :
    Option SizingResult :=
  let orderSize := roundSize currentPosition szDecimals
  if currentPosition = 0 ∨ markPrice ≤ 0 ∨ orderSize ≤ 0 then none
  else some
    { asset := asset
      intent := .close
      targetSize := 0
      currentSize := currentPosition
      delta := -currentPosition
      orderSize := orderSize
      sizeDecimals := szDecimals
      isBuy := currentPosition < 0
      reduceOnly := true
      notional := orderSize * markPrice
      reason := none
      secondary := none }

/-- The observation of a collector that is complete and strictly profitable. -/
def profitableObservation (asset : Asset) (reads : CollectorReads) (slippageBps szDecimals : ℕ) :
    Except ProfitExitReason ProfitExitObservation :=
  match collectProfitExitEconomics asset reads slippageBps szDecimals with
  | .error failure => .error (.observationIncomplete failure)
  | .ok o =>
    if profitExitEconomicallyAdmissible (some o.economics.netPnl) true then .ok o
    else .error .observationNotProfitable

/-- The context of an exit: that of an attempt, for a market that is there and with the credential
checked before. -/
def profitExitRiskContext (job : CopyJob) (risk : CopyRiskProfile) (equity : EquitySnapshot)
    (o : ProfitExitObservation) (plan : SizingResult) (status : UserStatus) (r : ProfitExitReads) :
    RiskContext :=
  let effective := resolveEffectiveRisk risk.toRiskProfile r.limits (some (r.spec.maxLeverage : ℚ))
  { attemptRiskContext job o.currentPosition ⟨risk, equity, o.markPrice, effective, none, plan⟩
      status r.toAttemptReads with
    credentialActive := true
    isNewMarket := false }

/-- No order has been sent for the job yet, so mode, expiry and fresh economics decide. -/
def planFreshProfitExit (job : CopyJob) (d : ProfitExitIntent) (status : UserStatus)
    (r : ProfitExitReads) : Except ProfitExitReason ProfitExitOrder := do
  require (status.copyState = .active) .copyStateInactive
  require (r.mode = .on) .modeNotOn
  require (r.now < d.expiresAt) .decisionExpired
  require (profitExitEconomicallyAdmissible d.netPnl d.pnlComplete) .durableEconomics
  require (r.accountFound && r.ledger.any (·.managed)) .accountRiskOrLedger
  let risk ← requireSome r.risk .accountRiskOrLedger
  let ledger ← requireSome r.ledger .accountRiskOrLedger
  require (r.credential = some true) .credentialUnavailable
  require r.openEventKnown .openEventUnavailable
  let o ← profitableObservation job.market.asset r.collector risk.maxSlippageBps r.spec.szDecimals
  require (sideOf o.currentPosition = d.side) .sideChanged
  require (ledger.size = persistedLedgerDecimal o.currentPosition) .ledgerNotSynchronized
  let plan ← requireSome
    (buildProfitExitClosePlan job.market.asset o.currentPosition o.markPrice r.spec.szDecimals)
    .closePlan
  let equity ← requireSome r.equity .equityUnavailable
  let decision := evaluate plan (profitExitRiskContext job risk equity o plan status r)
  require (decision.action.passes && decision.plan.toSizingLeg.actionable)
    (.riskBlocked decision.reason)
  require (decision.plan.reduceOnly && decision.plan.targetSize = 0 &&
    decision.plan.secondary.isNone) .riskPlanInvalid
  require r.liveTradingAllowed .liveGateClosed
  return { plan := decision.plan
           mark := o.markPrice
           slippageBps := risk.maxSlippageBps
           expectedLimitPx := o.executableExitPrice
           plannedSize := decision.plan.orderSize }

/-- The job and the decision name each other. -/
def bindingOk (job : CopyJob) (d : ProfitExitIntent) (r : ProfitExitReads) : Bool :=
  d.scope.userId = job.market.userId && d.copyJobId = some r.jobId &&
    some d.scope.executionEpochId = job.executionEpochId &&
    d.scope.executionProvider = .hyperliquid && d.scope.executionNetwork = r.network &&
    d.scope.asset = job.market.asset

/-- Once an execution row exists, the only safe action is to reconcile it. -/
def recoverProfitExit (d : ProfitExitIntent) (existing : ExistingExecution) (r : ProfitExitReads) :
    ProfitExitPlan :=
  if !r.accountFound then
    .retryOrDead (if d.intentState = some .pending then some .ambiguous else none)
      .accountMissingForResolution
  else if !existing.reduceOnly then .settle (some .ambiguous) .dead .executionNotReduceOnly
  else
    .recover (if existing.state.terminal then none else some .ambiguous) existing
      (match r.ledger with
        | some ledger => ledger.size.value
        | none => d.followerPositionSize)

/-- `_process_ai_profit_exit_locked` up to the order. -/
def planProfitExit (job : CopyJob) (status : UserStatus) (r : ProfitExitReads) : ProfitExitPlan :=
  if job.executionProvider ≠ some .hyperliquid then
    .settle none .skipped .providerNotHyperliquid
  else if job.executionNetwork ≠ some r.network ∨ r.adapterNetwork ≠ r.network then
    .settle none .skipped .networkStale
  else if r.decisionId.isNone then .settle none .skipped .decisionIdentityMissing
  else
    match r.decision with
    | none => .settle none .skipped .decisionUnavailable
    | some d =>
      if !bindingOk job d r then .settle (some .failed) .skipped .bindingMismatch
      else if d.action ≠ .closeProfit then .settle (some .failed) .skipped .notCloseProfit
      else if d.intentState ≠ some .pending ∧ d.intentState ≠ some .ambiguous then
        .settle none .skipped .notExecutable
      else
        match r.existing with
        | some existing => recoverProfitExit d existing r
        | none =>
          if d.intentState = some .ambiguous then
            .settle (some .failed) .skipped .ambiguousWithoutExecution
          else
            match planFreshProfitExit job d status r with
            | .error reason => .settle (some .failed) .skipped reason
            | .ok order => .submit order

/-! ## The adapter and the last revalidation -/

/-- What is read again after the execution row is committed and the signer lock is held.  Of the
decision, `intentState` and `copyJobId` are the columns that can have changed. -/
structure RevalidationReads where
  now : ℕ
  mode : ProfitExitFeatureMode
  destinationMatches : Bool
  executionProvider : Option ExecutionProvider
  executionNetwork : Option Network
  intentState : Option ProfitExitIntentState
  copyJobId : Option JobId
  masterEvents : List MasterEvent
  snapshotStartedOrder : Option ℤ
  masterPosition : ℚ
  collector : CollectorReads
  writerAuthorized : Bool

/-- The reasons for which the revalidation in front of the order fails. -/
inductive RevalidationFailure
  | modeChanged
  | epochChanged
  | destinationChanged
  | notPending
  | expired
  | sourceCycleChanged
  | notProfitable
  | sideChanged
  | sizeChanged
  | priceChanged
deriving DecidableEq, Repr

/-- The order the exchange is sent. -/
structure SignedOrder where
  isBuy : Bool
  size : ℚ
  limitPx : ℚ
  reduceOnly : Bool
deriving DecidableEq, Repr

/-- `_revalidate_profit_exit`: `none` when everything still holds. -/
def revalidateProfitExit (job : CopyJob) (d : ProfitExitIntent) (r : ProfitExitReads)
    (order : ProfitExitOrder) (fresh : RevalidationReads) : Option RevalidationFailure :=
  if fresh.mode ≠ .on then some .modeChanged
  else if !fresh.destinationMatches then some .epochChanged
  else if fresh.executionProvider ≠ some .hyperliquid ∨ fresh.executionNetwork ≠ some r.network then
    some .destinationChanged
  else if fresh.copyJobId ≠ some r.jobId ∨ fresh.intentState ≠ some .pending then some .notPending
  else if d.expiresAt ≤ fresh.now then some .expired
  else if (readCurrentSourceCycle fresh.masterEvents job.market.asset r.masterNetwork
      fresh.snapshotStartedOrder fresh.masterPosition).map (·.sourceCycleId) ≠
        some d.sourceCycleId then some .sourceCycleChanged
  else
    match profitableObservation job.market.asset fresh.collector order.slippageBps
      r.spec.szDecimals with
    | .error _ => some .notProfitable
    | .ok o =>
      if sideOf o.currentPosition ≠ d.side then some .sideChanged
      else if roundSize o.currentPosition r.spec.szDecimals ≠ order.plannedSize then
        some .sizeChanged
      else if o.executableExitPrice ≠ order.expectedLimitPx then some .priceChanged
      else none

/-- `_execute_leg` and `place_ioc`: the adapter derives its own limit price, and the exchange is
called only after the revalidation and the writer fence. -/
def placeProfitExit (job : CopyJob) (d : ProfitExitIntent) (r : ProfitExitReads)
    (order : ProfitExitOrder) (fresh : RevalidationReads) : Option SignedOrder :=
  match roundPrice (aggressivePrice order.plan.isBuy order.mark order.slippageBps)
    r.spec.szDecimals with
  | .error _ => none
  | .ok px =>
    if (revalidateProfitExit job d r order fresh).isSome || !fresh.writerAuthorized then none
    else some
      { isBuy := order.plan.isBuy
        size := roundSize order.plan.orderSize r.spec.szDecimals
        limitPx := px
        reduceOnly := order.plan.reduceOnly }

/-- The order the exchange is called with for a profit-exit job, if it is called. -/
def profitExitExchangeOrder (job : CopyJob) (current : ℚ) (r : ProfitExitReads)
    (fresh : RevalidationReads) : Option SignedOrder :=
  match planAttempt job current r.toAttemptReads, r.user, r.decision with
  | .profitExit, some status, some d =>
    match planProfitExit job status r with
    | .submit order => placeProfitExit job d r order fresh
    | _ => none
  | _, _, _ => none

/-! ## From the observation to the signed order -/

section Order

variable {job : CopyJob} {d : ProfitExitIntent} {status : UserStatus} {r : ProfitExitReads}
  {order : ProfitExitOrder} {fresh : RevalidationReads}

lemma profitableObservation_ok {asset : Asset} {reads : CollectorReads} {slippageBps szDecimals : ℕ}
    {o : ProfitExitObservation}
    (h : profitableObservation asset reads slippageBps szDecimals = .ok o) :
    collectProfitExitEconomics asset reads slippageBps szDecimals = .ok o ∧
      0 < o.economics.netPnl := by
  unfold profitableObservation at h
  split at h
  · cases h
  · rename_i o' ho
    split_ifs at h with hnet
    obtain rfl := Except.ok.inj h
    exact ⟨ho, by simpa [profitExitEconomicallyAdmissible] using hnet⟩

/-- A planned exit closes the whole lots of the observed position, and expects the exit price of
the observed mark. -/
structure ClosesObserved (d : ProfitExitIntent) (n : ℕ) (order : ProfitExitOrder)
    (o : ProfitExitObservation) : Prop where
  side : sideOf o.currentPosition = d.side
  nonflat : o.currentPosition ≠ 0
  mark : order.mark = o.markPrice
  expected : order.expectedLimitPx = o.executableExitPrice
  isBuy : order.plan.isBuy = decide (o.currentPosition < 0)
  reduceOnly : order.plan.reduceOnly = true
  size : order.plan.orderSize = roundSize o.currentPosition n
  size_pos : 0 < order.plan.orderSize
  planned : order.plannedSize = order.plan.orderSize
  intent : order.plan.intent = .close
  single : order.plan.secondary = none
  current : order.plan.currentSize = o.currentPosition

lemma buildProfitExitClosePlan_eq_some {asset : Asset} {position mark : ℚ} {n : ℕ}
    {p : SizingResult} (h : buildProfitExitClosePlan asset position mark n = some p) :
    position ≠ 0 ∧ 0 < roundSize position n ∧ p.isBuy = decide (position < 0) ∧
      p.reduceOnly = true ∧ p.orderSize = roundSize position n ∧ p.intent = .close ∧
      p.secondary = none ∧ p.currentSize = position := by
  simp only [buildProfitExitClosePlan] at h
  split_ifs at h with hbad
  push Not at hbad
  obtain rfl := Option.some.inj h
  exact ⟨hbad.1, hbad.2.2, rfl, rfl, rfl, rfl, rfl, rfl⟩

/-- The live gate is the last thing an exit is planned behind. -/
lemma planFreshProfitExit_live (h : planFreshProfitExit job d status r = .ok order) :
    r.liveTradingAllowed = true := by
  simp only [planFreshProfitExit, require_bind_ok, requireSome_bind_ok] at h
  obtain ⟨-, -, -, -, -, risk, -, ledger, -, -, -, h⟩ := h
  cases ho : profitableObservation job.market.asset r.collector risk.maxSlippageBps
      r.spec.szDecimals with
  | error reason =>
      rw [ho] at h
      cases h
  | ok o =>
      rw [ho] at h
      change (require _ _ >>= _) = _ at h
      simp only [require_bind_ok, requireSome_bind_ok] at h
      obtain ⟨-, -, plan, -, equity, -, -, -, hlive, -⟩ := h
      exact hlive

lemma planFreshProfitExit_ok (h : planFreshProfitExit job d status r = .ok order) :
    (∃ risk, r.risk = some risk ∧ order.slippageBps = risk.maxSlippageBps) ∧
      (∃ ledger, r.ledger = some ledger ∧
        ledger.size = persistedLedgerDecimal order.plan.currentSize) ∧
      ∃ o, collectProfitExitEconomics job.market.asset r.collector order.slippageBps
        r.spec.szDecimals = .ok o ∧ ClosesObserved d r.spec.szDecimals order o := by
  simp only [planFreshProfitExit, require_bind_ok, requireSome_bind_ok, decide_eq_true_eq] at h
  obtain ⟨-, -, -, -, -, risk, hrisk, ledger, hledger, -, -, h⟩ := h
  cases ho : profitableObservation job.market.asset r.collector risk.maxSlippageBps
      r.spec.szDecimals with
  | error reason =>
      rw [ho] at h
      cases h
  | ok o =>
      rw [ho] at h
      change (require _ _ >>= _) = _ at h
      simp only [require_bind_ok, requireSome_bind_ok, decide_eq_true_eq] at h
      obtain ⟨hside, hsync, plan, hplan, equity, -, -, -, -, h⟩ := h
      obtain ⟨hflat, hpos, hbuy, hreduce, hsize, hintent, hsingle, hcurrent⟩ :=
        buildProfitExitClosePlan_eq_some hplan
      have hkept : (evaluate plan (profitExitRiskContext job risk equity o plan status r)).plan
          = plan :=
        evaluate_plan_of_reducing (by simp [SizingLeg.reducing, hintent]) (by simp [hintent])
      obtain rfl := Except.ok.inj h
      refine ⟨⟨risk, hrisk, rfl⟩, ⟨ledger, hledger, ?_⟩, o, (profitableObservation_ok ho).1, ?_⟩
      · dsimp only
        rw [hkept, hcurrent]
        exact hsync
      exact
        { side := hside
          nonflat := hflat
          mark := rfl
          expected := rfl
          isBuy := by rw [hkept]; exact hbuy
          reduceOnly := by rw [hkept]; exact hreduce
          size := by rw [hkept]; exact hsize
          size_pos := by rw [hkept, hsize]; exact hpos
          planned := rfl
          intent := by rw [hkept]; exact hintent
          single := by rw [hkept]; exact hsingle
          current := by rw [hkept]; exact hcurrent }

/-- What the last revalidation found is a profitable close of the same side, size and price. -/
lemma revalidateProfitExit_eq_none (h : revalidateProfitExit job d r order fresh = none) :
    ∃ o, collectProfitExitEconomics job.market.asset fresh.collector order.slippageBps
        r.spec.szDecimals = .ok o ∧ 0 < o.economics.netPnl ∧ sideOf o.currentPosition = d.side ∧
      roundSize o.currentPosition r.spec.szDecimals = order.plannedSize ∧
      o.executableExitPrice = order.expectedLimitPx := by
  unfold revalidateProfitExit at h
  split at h
  · cases h
  split at h
  · cases h
  split at h
  · cases h
  split at h
  · cases h
  split at h
  · cases h
  split at h
  · cases h
  split at h
  · cases h
  rename_i o ho
  obtain ⟨hcollect, hnet⟩ := profitableObservation_ok ho
  split_ifs at h with hside hsize hprice
  exact ⟨o, hcollect, hnet, not_not.1 hside, not_not.1 hsize, not_not.1 hprice⟩

/-- The price the adapter derives for the planned side is the observed exit price. -/
lemma adapter_price_eq {n : ℕ} {o : ProfitExitObservation} (hclose : ClosesObserved d n order o)
    (hcollect : roundPrice (aggressivePrice (!(0 < o.currentPosition)) o.markPrice
      order.slippageBps) n = .ok o.executableExitPrice) :
    roundPrice (aggressivePrice order.plan.isBuy order.mark order.slippageBps) n =
      .ok order.expectedLimitPx := by
  have hside : order.plan.isBuy = !(decide (0 < o.currentPosition)) := by
    rw [hclose.isBuy]
    rcases lt_or_gt_of_ne hclose.nonflat with hneg | hpos
    · simp [hneg, hneg.not_gt]
    · simp [hpos, hpos.not_gt]
  rw [hside, hclose.mark, hclose.expected]
  exact hcollect

/-- An order that reduces one side reduces any position on that side. -/
lemma reducesSide_of_sideOf_eq {p q : ℚ} (hp : p ≠ 0) (hq : q ≠ 0) (h : sideOf p = sideOf q) :
    ReducesSide q (decide (p < 0)) := by
  unfold sideOf at h
  rcases lt_or_gt_of_ne hp with hneg | hpos
  · rw [if_neg hneg.not_gt] at h
    split_ifs at h with hq'
    simpa [ReducesSide, hneg] using lt_of_le_of_ne (not_lt.1 hq') hq
  · rw [if_pos hpos] at h
    split_ifs at h with hq'
    simpa [ReducesSide, hpos.not_gt] using hq'

/-- What the exchange is called with is what both the plan and the last revalidation saw. -/
lemma placeProfitExit_eq_some {signed : SignedOrder}
    (hplan : planFreshProfitExit job d status r = .ok order)
    (hplace : placeProfitExit job d r order fresh = some signed) :
    signed.reduceOnly = true ∧ ∃ o, collectProfitExitEconomics job.market.asset fresh.collector
        order.slippageBps r.spec.szDecimals = .ok o ∧ 0 < o.economics.netPnl ∧
      signed.limitPx = o.executableExitPrice ∧ ReducesSide o.currentPosition signed.isBuy ∧
      0 < signed.size ∧ signed.size ≤ |o.currentPosition| := by
  obtain ⟨-, -, seen, hseen, hclose⟩ := planFreshProfitExit_ok hplan
  obtain ⟨-, hprice, -⟩ := collectProfitExitEconomics_ok hseen
  unfold placeProfitExit at hplace
  rw [adapter_price_eq hclose hprice] at hplace
  dsimp only at hplace
  split_ifs at hplace with hchecks
  obtain rfl := Option.some.inj hplace
  simp only [Bool.or_eq_true, Option.isSome_iff_ne_none, not_or, not_not] at hchecks
  obtain ⟨o, hcollect, hnet, hside, hsize, hlimit⟩ := revalidateProfitExit_eq_none hchecks.1
  obtain ⟨-, -, fills, funding, heconomics⟩ := collectProfitExitEconomics_ok hcollect
  have hflat := (evaluateProfitExitEconomics_ok heconomics).1
  refine ⟨hclose.reduceOnly, o, hcollect, hnet, hlimit.symm, ?_, ?_, ?_⟩
  · rw [hclose.isBuy]
    exact reducesSide_of_sideOf_eq hclose.nonflat hflat (hclose.side.trans hside.symm)
  · dsimp only
    rw [hclose.size, roundSize_roundSize, ← hclose.size]
    exact hclose.size_pos
  · dsimp only
    rw [← hclose.planned, ← hsize, roundSize_roundSize]
    exact roundSize_le_abs _ _

/-- What a profit exit still goes on with is bound to its execution row: it is planned afresh only
while there is none, and otherwise it replays the one it has found. -/
lemma planProfitExit_goesOn :
    (∀ order, planProfitExit job status r = .submit order → r.existing = none ∧
      ∃ d, r.decision = some d ∧ planFreshProfitExit job d status r = .ok order) ∧
    ∀ intent existing current, planProfitExit job status r = .recover intent existing current →
      r.existing = some existing := by
  unfold planProfitExit
  split
  · simp
  split
  · simp
  split
  · simp
  split
  · simp
  rename_i d hdecision
  split
  · simp
  split
  · simp
  split
  · simp
  split
  · rename_i existing hexisting
    unfold recoverProfitExit
    split
    · simp
    split
    · simp
    · refine ⟨by simp, fun intent existing' current h => ?_⟩
      obtain ⟨-, rfl, -⟩ := ProfitExitPlan.recover.inj h
      exact hexisting
  · rename_i hexisting
    split
    · simp
    split
    · simp
    · rename_i hok
      refine ⟨fun order h => ?_, by simp⟩
      obtain rfl := ProfitExitPlan.submit.inj h
      exact ⟨hexisting, d, hdecision, hok⟩

end Order

/-- **A profit exit can only realize a profit.**  Whatever changes between the planning reads and
the submission, an order sent for a profit-exit job is reduce-only, closes the side of the position
the last revalidation found and no more than it, and is signed at the executable exit price for
which that revalidation found complete economics with a strictly positive result.  So every fill
of it at the limit or better, charged at most the taker rate that was read, nets strictly more
than zero. -/
theorem profit_exit_realizes_profit (job : CopyJob) (current : ℚ) (r : ProfitExitReads)
    (fresh : RevalidationReads) (signed : SignedOrder)
    (h : profitExitExchangeOrder job current r fresh = some signed) :
    signed.reduceOnly = true ∧ ∃ risk o, r.risk = some risk ∧
      collectProfitExitEconomics job.market.asset fresh.collector risk.maxSlippageBps
        r.spec.szDecimals = .ok o ∧
      0 < o.economics.netPnl ∧ signed.limitPx = o.executableExitPrice ∧
      ReducesSide o.currentPosition signed.isBuy ∧ signed.size ≤ |o.currentPosition| ∧
      (o.takerFeeRate < 1 → ∀ size price rate : ℚ, 0 < size → size ≤ signed.size →
        AtLimitOrBetter o.currentPosition signed.limitPx price → rate ≤ o.takerFeeRate →
        0 < realizedPnl o.currentPosition o.entryPrice o.economics size price rate) := by
  unfold profitExitExchangeOrder at h
  split at h
  · rename_i status d hattempt huser hdecision
    split at h
    · rename_i order hplan
      obtain ⟨-, d', hdecision', hfresh⟩ := planProfitExit_goesOn.1 _ hplan
      obtain rfl := Option.some.inj (hdecision.symm.trans hdecision')
      obtain ⟨hreduce, o, hcollect, hnet, hlimit, hside, -, hsize⟩ :=
        placeProfitExit_eq_some hfresh h
      obtain ⟨⟨risk, hrisk, hslippage⟩, -, -⟩ := planFreshProfitExit_ok hfresh
      rw [hslippage] at hcollect
      refine ⟨hreduce, risk, o, hrisk, hcollect, hnet, hlimit, hside, hsize, ?_⟩
      intro htaker size price rate hpos _ hprice hrate
      obtain ⟨-, -, fills, funding, heconomics⟩ := collectProfitExitEconomics_ok hcollect
      rw [hlimit] at hprice
      exact realizedPnl_pos heconomics hnet htaker hpos hprice hrate
    · cases h
  · cases h

/-! ## A long closed in profit -/

/-- Two units bought at 100 and marked at `mark`. -/
def longAt (mark : ℚ) : CollectorReads where
  position := some ⟨some 2, some 100⟩
  mark := some mark
  specAvailable := true
  fills := some [⟨0, some 3, some 0, .b, some 2, some (1 / 10)⟩]
  funding := some []
  userCrossRate := some (45 / 100000)

/-- An exit job of the first user and market. -/
def longJob : CopyJob where
  market := ⟨0, 0⟩
  origin := .aiProfitExit
  context := ⟨some .mainnet, 0, 0, 0, none, none, none, none, none, none, false, false⟩
  executionEpochId := some 0
  executionProvider := some .hyperliquid
  executionNetwork := some .mainnet

/-- What it reads: a long position in profit. -/
def longReads : ProfitExitReads where
  now := 20
  user := some ⟨true, .active⟩
  destinationMatches := true
  network := .mainnet
  adapterNetwork := .mainnet
  masterNetwork := .mainnet
  accountFound := true
  risk := some ⟨⟨1, 1000, 5000, 2500, 3, 5, 10⟩, false, [], [], 50⟩
  drawdownHalt := false
  dailyLossHalt := false
  nearLiquidation := false
  credential := some true
  entitled := true
  limits := ⟨none, none, none⟩
  equity := some ⟨1000, 1000, 0, 15⟩
  followerMark := none
  spec := ⟨2, 10, false, 10⟩
  evidence := ⟨[], []⟩
  managedLedgers := [⟨2, 120⟩]
  globalPause := false
  emergencyStop := false
  liveTradingAllowed := true
  leverageUpdated := true
  jobId := 1
  decisionId := some 1
  decision := some
    { id := 1
      scope := ⟨0, 0, .hyperliquid, .mainnet, 0⟩
      action := .closeProfit
      intentState := some .pending
      sourceCycleId := ⟨.mainnet, 0, 1⟩
      decidedAt := 18
      createdAt := 18
      copyJobId := some 1
      side := .long
      expiresAt := 60
      netPnl := some 38
      pnlComplete := true
      followerPositionSize := 2 }
  existing := none
  ledger := some ⟨persistedLedgerDecimal 2, true⟩
  mode := .on
  openEventKnown := true
  collector := longAt 120

/-- The last look finds the same price, and the master still in the cycle of event 1. -/
def longRevalidation : RevalidationReads where
  now := 21
  mode := .on
  destinationMatches := true
  executionProvider := some .hyperliquid
  executionNetwork := some .mainnet
  intentState := some .pending
  copyJobId := some 1
  masterEvents := [⟨1, 0, some .mainnet, some 3, 3, 0, 5⟩]
  snapshotStartedOrder := some 10
  masterPosition := 5
  collector := longAt 120
  writerAuthorized := true

lemma longReads_order :
    profitExitExchangeOrder longJob 2 longReads longRevalidation =
      some ⟨false, 2, 597 / 5, true⟩ := by
  decide +kernel

/-- The long is sold for at least 119.4, and its fills net a profit. -/
theorem profit_exit_realizes_profit_long :
    ∃ o, collectProfitExitEconomics 0 (longAt 120) 50 2 = .ok o ∧ 0 < o.economics.netPnl ∧
      o.executableExitPrice = 597 / 5 := by
  obtain ⟨-, risk, o, hrisk, hcollect, hnet, hlimit, -⟩ :=
    profit_exit_realizes_profit longJob 2 longReads longRevalidation _ longReads_order
  obtain rfl := Option.some.inj hrisk
  exact ⟨o, hcollect, hnet, hlimit.symm⟩

end HyperCopy

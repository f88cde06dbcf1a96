import HyperCopy.Engine.Sizing
import Mathlib.Data.List.Sort
import Mathlib.Tactic.FieldSimp

/-!
# Economics of a profit exit

`services/ai_profit_exit_economics.py` and the collector that feeds it.  The fill and funding
history of a market is replayed from flat; the costs of what has already been realized leave the
pool in proportion, a reversal starts a fresh one, and any gap or contradiction fails closed.
What remains is the net result of closing the whole residual at the executable exit price, the
worst price an immediate-or-cancel order may get.

`realizedPnl_pos` carries that one number over to what actually happens at the exchange: if the
full close at the limit is strictly profitable then so is every fill, of any part of the residual,
at the limit or better.
-/

namespace HyperCopy

/-- The side of a fill, `A` or `B`; any other text is refused where it is read. -/
inductive FillSide
  | a
  | b
  | other
deriving DecidableEq, Repr

/-- A fill of the follower's account, with the position it started from. -/
structure ProfitExitFill where
  timeMs : ℤ
  startPosition : ℚ
  side : FillSide
  size : ℚ
  fee : ℚ
deriving DecidableEq, Repr

/-- A funding payment, with the position it was charged on. -/
structure ProfitExitFunding where
  timeMs : ℤ
  positionSize : ℚ
  usdc : ℚ
deriving DecidableEq, Repr

/-- What an evaluation is made from. -/
structure ProfitExitEconomicsInput where
  currentPosition : ℚ
  entryPrice : ℚ
  executableExitPrice : ℚ
  takerFeeRate : ℚ
  fills : List ProfitExitFill
  funding : List ProfitExitFunding
deriving DecidableEq, Repr

/-- The reasons for which an evaluation is incomplete. -/
inductive IncompleteReason
  | positionFlat
  | entryPriceInvalid
  | exitPriceInvalid
  | takerRateInvalid
  | fillsUnavailable
  | fillInvalid
  | fundingInvalid
  | orderingAmbiguous
  | fundingMismatch
  | fundingWhileFlat
  | fillDiscontinuity
  | unsupportedSide
  | noSizeChange
  | reversalAllocation
  | positionMismatch
deriving DecidableEq, Repr

/-- A complete evaluation. -/
structure ProfitExitEconomics where
  grossPricePnl : ℚ
  residualEntryFees : ℚ
  residualFunding : ℚ
  estimatedExitFee : ℚ
  netPnl : ℚ
deriving DecidableEq, Repr

/-- A close is profitable when something is left after all costs. -/
def ProfitExitEconomics.eligible (e : ProfitExitEconomics) : Bool := 0 < e.netPnl

/-! ## Replaying the history -/

/-- The signed change of the position that a fill makes. -/
def fillDelta (fill : ProfitExitFill) : Option ℚ :=
  match fill.side with
  | .b => some fill.size
  | .a => some (-fill.size)
  | .other => none

/-- The checks of one fill before the replay. -/
def validFill (fill : ProfitExitFill) : Bool :=
  0 ≤ fill.timeMs && 0 < fill.size && 0 ≤ fill.fee && (fillDelta fill).isSome

/-- The check of one funding payment before the replay. -/
def validFunding (item : ProfitExitFunding) : Bool := 0 ≤ item.timeMs

/-- The residual position and the costs that still belong to it. -/
structure Residual where
  position : ℚ
  entryFees : ℚ
  funding : ℚ
deriving DecidableEq, Repr

/-- An entry of the merged history. -/
inductive HistoryEvent
  | fill (fill : ProfitExitFill)
  | funding (item : ProfitExitFunding)
deriving DecidableEq, Repr

/-- The sort key: at equal times fills come first. -/
def HistoryEvent.key : HistoryEvent → ℤ × ℕ
  | fill f => (f.timeMs, 0)
  | funding i => (i.timeMs, 1)

/-- The order of the history: by the key. -/
def HistoryEvent.notLater (e e' : HistoryEvent) : Bool :=
  e.key.1 < e'.key.1 || (e.key.1 = e'.key.1 && e.key.2 ≤ e'.key.2)

/-- A payment counts when it was charged on the position that the replay has. -/
def replayFunding (s : Residual) (item : ProfitExitFunding) : Except IncompleteReason Residual :=
  if item.positionSize ≠ s.position then .error .fundingMismatch
  else if s.position = 0 then
    if item.usdc ≠ 0 then .error .fundingWhileFlat else .ok s
  else .ok { s with funding := s.funding + item.usdc }

/-- The residual a fill leaves behind when it moves the position to `updated`. -/
def residualAfter (s : Residual) (fill : ProfitExitFill) (updated : ℚ) :
    Except IncompleteReason Residual :=
  if s.position = 0 then .ok ⟨updated, fill.fee, 0⟩
  else if updated = 0 then .ok ⟨updated, 0, 0⟩
  else if 0 < s.position * updated then
    if |s.position| < |updated| then .ok ⟨updated, s.entryFees + fill.fee, s.funding⟩
    else if |updated| < |s.position| then
      -- only the share of the surviving residual remains relevant
      .ok ⟨updated, s.entryFees * (|updated| / |s.position|),
        s.funding * (|updated| / |s.position|)⟩
    else .error .noSizeChange
  else if |updated| ≤ 0 ∨ fill.size ≤ |updated| then .error .reversalAllocation
  else .ok ⟨updated, fill.fee * |updated| / fill.size, 0⟩

/-- A fill continues the position that the replay has. -/
def replayFill (s : Residual) (fill : ProfitExitFill) : Except IncompleteReason Residual :=
  if fill.startPosition ≠ s.position then .error .fillDiscontinuity
  else
    match fillDelta fill with
    | none => .error .unsupportedSide
    | some delta => residualAfter s fill (s.position + delta)

/-- One event of the history. -/
def replayEvent (s : Residual) : HistoryEvent → Except IncompleteReason Residual
  | .fill f => replayFill s f
  | .funding i => replayFunding s i

/-- The events in order, until one of them does not fit. -/
def replay (s : Residual) : List HistoryEvent → Except IncompleteReason Residual
  | [] => .ok s
  | e :: es =>
    match replayEvent s e with
    | .error reason => .error reason
    | .ok s' => replay s' es

/-- Fills and funding in time order. -/
def historyEvents (data : ProfitExitEconomicsInput) : List HistoryEvent :=
  ((data.fills.insertionSort fun f f' => f.timeMs ≤ f'.timeMs).map HistoryEvent.fill ++
      (data.funding.insertionSort fun i i' => i.timeMs ≤ i'.timeMs).map HistoryEvent.funding).insertionSort
    fun e e' => e.notLater e'

/-- What stands in the way of a replay, if anything does. -/
def inputFault (data : ProfitExitEconomicsInput) : Option IncompleteReason :=
  if data.currentPosition = 0 then some .positionFlat
  else if data.entryPrice ≤ 0 then some .entryPriceInvalid
  else if data.executableExitPrice ≤ 0 then some .exitPriceInvalid
  else if data.takerFeeRate < 0 then some .takerRateInvalid
  else if data.fills.isEmpty then some .fillsUnavailable
  else if data.fills.any fun f => !validFill f then some .fillInvalid
  else if data.funding.any fun i => !validFunding i then some .fundingInvalid
  else if data.funding.any fun i => data.fills.any fun f => f.timeMs = i.timeMs then
    some .orderingAmbiguous
  else none

/-- The price result of closing `size` of a position at `price`. -/
def grossPnl (position entryPrice price size : ℚ) : ℚ :=
  if 0 < position then (price - entryPrice) * size else (entryPrice - price) * size

/-- `evaluate_profit_exit_economics`. -/
def evaluateProfitExitEconomics (data : ProfitExitEconomicsInput) :
    Except IncompleteReason ProfitExitEconomics :=
  match inputFault data with
  | some reason => .error reason
  | none =>
    match replay ⟨0, 0, 0⟩ (historyEvents data) with
    | .error reason => .error reason
    | .ok residual =>
      if residual.position ≠ data.currentPosition then .error .positionMismatch
      else
        let size := |data.currentPosition|
        let gross := grossPnl data.currentPosition data.entryPrice data.executableExitPrice size
        let exitFee := size * data.executableExitPrice * data.takerFeeRate
        .ok
          { grossPricePnl := gross
            residualEntryFees := residual.entryFees
            residualFunding := residual.funding
            estimatedExitFee := exitFee
            netPnl := gross - residual.entryFees + residual.funding - exitFee }

/-! ## What a complete evaluation says -/

/-- A complete evaluation is about a real position and positive prices, and its net result is the
full close at the executable exit price. -/
lemma evaluateProfitExitEconomics_ok {data : ProfitExitEconomicsInput} {e : ProfitExitEconomics}
    (h : evaluateProfitExitEconomics data = .ok e) :
    data.currentPosition ≠ 0 ∧ 0 < data.executableExitPrice ∧ 0 ≤ data.takerFeeRate ∧
      e.netPnl =
        grossPnl data.currentPosition data.entryPrice data.executableExitPrice |data.currentPosition|
          - e.residualEntryFees + e.residualFunding
          - |data.currentPosition| * data.executableExitPrice * data.takerFeeRate := by
  unfold evaluateProfitExitEconomics at h
  cases hfault : inputFault data with
  | some reason => simp [hfault] at h
  | none =>
      have hvalid : data.currentPosition ≠ 0 ∧ 0 < data.executableExitPrice ∧
          0 ≤ data.takerFeeRate := by
        unfold inputFault at hfault
        split_ifs at hfault with hflat _ hexit hrate
        exact ⟨hflat, not_le.1 hexit, not_lt.1 hrate⟩
      rw [hfault] at h
      dsimp only at h
      split at h
      · cases h
      · split_ifs at h
        obtain rfl := Except.ok.inj h
        exact ⟨hvalid.1, hvalid.2.1, hvalid.2.2, rfl⟩

/-! ## What a fill realizes -/

/-- The net result of a fill of `size` at `price`, charged `rate`, with its share of the residual
entry fees and funding of the position it reduces. -/
def realizedPnl (position entryPrice : ℚ) (e : ProfitExitEconomics) (size price rate : ℚ) : ℚ :=
  grossPnl position entryPrice price size - e.residualEntryFees * (size / |position|)
    + e.residualFunding * (size / |position|) - size * price * rate

/-- At the limit or better for the side that closes `position`. -/
def AtLimitOrBetter (position limit price : ℚ) : Prop :=
  if 0 < position then limit ≤ price else 0 < price ∧ price ≤ limit

/-- Per unit closed, a better price and a lower rate leave at least what the limit leaves. -/
lemma unit_proceeds_le {position entryPrice limit price taker rate : ℚ} (hlimit : 0 < limit)
    (htaker : taker < 1) (htaker0 : 0 ≤ taker) (hrate : rate ≤ taker)
    (hprice : AtLimitOrBetter position limit price) :
    grossPnl position entryPrice limit 1 - limit * taker ≤
      grossPnl position entryPrice price 1 - price * rate := by
  unfold AtLimitOrBetter at hprice
  unfold grossPnl
  split_ifs at hprice ⊢ with hlong
  · have h1 : limit * (1 - taker) ≤ price * (1 - taker) :=
      mul_le_mul_of_nonneg_right hprice (by linarith)
    have h2 : price * rate ≤ price * taker :=
      mul_le_mul_of_nonneg_left hrate (hlimit.le.trans hprice)
    linarith
  · obtain ⟨hpos, hle⟩ := hprice
    have h1 : price * (1 + taker) ≤ limit * (1 + taker) :=
      mul_le_mul_of_nonneg_right hle (by linarith)
    have h2 : price * rate ≤ price * taker := mul_le_mul_of_nonneg_left hrate hpos.le
    linarith

/-- **Every fill of a profitable exit is profitable.**  If closing the whole position at the limit
nets a strictly positive result, so does any part of it at the limit or better. -/
theorem realizedPnl_pos {data : ProfitExitEconomicsInput} {e : ProfitExitEconomics}
    (h : evaluateProfitExitEconomics data = .ok e) (hnet : 0 < e.netPnl)
    (htaker : data.takerFeeRate < 1) {size price rate : ℚ} (hsize : 0 < size)
    (hprice : AtLimitOrBetter data.currentPosition data.executableExitPrice price)
    (hrate : rate ≤ data.takerFeeRate) :
    0 < realizedPnl data.currentPosition data.entryPrice e size price rate := by
  obtain ⟨hflat, hlimit, htaker0, hnetEq⟩ := evaluateProfitExitEconomics_ok h
  have hposition : 0 < |data.currentPosition| := abs_pos.2 hflat
  have hgross : ∀ p s, grossPnl data.currentPosition data.entryPrice p s =
      grossPnl data.currentPosition data.entryPrice p 1 * s := by
    intro p s
    unfold grossPnl
    split_ifs <;> ring
  have hunit : grossPnl data.currentPosition data.entryPrice data.executableExitPrice 1 -
        data.executableExitPrice * data.takerFeeRate ≤
      grossPnl data.currentPosition data.entryPrice price 1 - price * rate :=
    unit_proceeds_le hlimit htaker htaker0 hrate hprice
  -- the share of the fill in the full close at the limit
  have hshare : 0 < size / |data.currentPosition| * e.netPnl := by positivity
  have hscaled : size / |data.currentPosition| * e.netPnl =
      (grossPnl data.currentPosition data.entryPrice data.executableExitPrice 1
        - data.executableExitPrice * data.takerFeeRate) * size
        - e.residualEntryFees * (size / |data.currentPosition|)
        + e.residualFunding * (size / |data.currentPosition|) := by
    rw [hnetEq, hgross data.executableExitPrice |data.currentPosition|]
    field_simp
    ring
  have hbetter : (grossPnl data.currentPosition data.entryPrice data.executableExitPrice 1
      - data.executableExitPrice * data.takerFeeRate) * size ≤
      (grossPnl data.currentPosition data.entryPrice price 1 - price * rate) * size :=
    mul_le_mul_of_nonneg_right hunit hsize.le
  have hrealized : realizedPnl data.currentPosition data.entryPrice e size price rate =
      (grossPnl data.currentPosition data.entryPrice price 1 - price * rate) * size
        - e.residualEntryFees * (size / |data.currentPosition|)
        + e.residualFunding * (size / |data.currentPosition|) := by
    rw [realizedPnl, hgross price size]
    ring
  linarith

/-! ## The collector

`services/ai_profit_exit_collector.py`: one fail-closed snapshot of everything the economics need.
A reading that failed or came back malformed is `none`. -/

/-- The row of the clearinghouse state; a figure that does not parse is `none`. -/
structure PositionRow where
  szi : Option ℚ
  entryPx : Option ℚ
deriving DecidableEq, Repr

/-- A row of the fill history, any market. -/
structure RawFill where
  coin : Asset
  time : Option ℤ
  startPosition : Option ℚ
  side : FillSide
  sz : Option ℚ
  fee : Option ℚ
deriving DecidableEq, Repr

/-- A row of the funding history, before it is parsed. -/
structure RawFunding where
  coin : Asset
  time : Option ℤ
  szi : Option ℚ
  usdc : Option ℚ
deriving DecidableEq, Repr

/-- What the exchange answers: the account's position row of the market, the mid price, the two
histories and the taker rate. -/
structure CollectorReads where
  position : Option PositionRow
  mark : Option ℚ
  specAvailable : Bool
  fills : Option (List RawFill)
  funding : Option (List RawFunding)
  userCrossRate : Option ℚ
deriving DecidableEq, Repr

/-- What a collection returns: the prices it read and the evaluation. -/
structure ProfitExitObservation where
  currentPosition : ℚ
  entryPrice : ℚ
  markPrice : ℚ
  executableExitPrice : ℚ
  takerFeeRate : ℚ
  economics : ProfitExitEconomics
deriving DecidableEq, Repr

/-- The reasons for which a collection fails. -/
inductive CollectFailure
  | invalidSlippage
  | positionUnavailable
  | entryPriceUnavailable
  | markUnavailable
  | specUnavailable
  | exitPriceUnavailable (error : PriceError)
  | fillHistoryUnavailable
  | fillHistoryTruncated
  | fundingHistoryUnavailable
  | fundingHistoryTruncated
  | feeScheduleUnavailable
  | fillHistoryIncomplete
  | fundingHistoryIncomplete
  | economicsIncomplete (reason : IncompleteReason)
deriving DecidableEq, Repr

/-- `_MAX_FILLS_BY_TIME`; an answer of that length may be cut off. -/
def maxFillsByTime : ℕ := 2000

/-- `_MAX_TIME_RANGE_ROWS`, likewise for the funding history. -/
def maxTimeRangeRows : ℕ := 500

/-- A row of the fills that has all its figures. -/
def parseFill (row : RawFill) : Option ProfitExitFill :=
  match row.time, row.startPosition, row.sz, row.fee with
  | some time, some start, some size, some fee =>
    if time < 0 ∨ size ≤ 0 ∨ fee < 0 ∨ row.side = .other then none
    else some ⟨time, start, row.side, size, fee⟩
  | _, _, _, _ => none

/-- A row of the funding history that has all its figures. -/
def parseFunding (row : RawFunding) : Option ProfitExitFunding :=
  match row.time, row.szi, row.usdc with
  | some time, some position, some usdc => if time < 0 then none else some ⟨time, position, usdc⟩
  | _, _, _ => none

/-- The worst price an immediate-or-cancel order on the given side may get. -/
def aggressivePrice (isBuy : Bool) (mark : ℚ) (slippageBps : ℕ) : ℚ :=
  mark * (if isBuy then 1 + (slippageBps : ℚ) / 10000 else 1 - (slippageBps : ℚ) / 10000)

/-- The usable position row, mark and exit price, or why there is none. -/
def collectPrices (reads : CollectorReads) (slippageBps szDecimals : ℕ) :
    Except CollectFailure (ℚ × ℚ × ℚ × ℚ) :=
  if 10000 ≤ slippageBps then .error .invalidSlippage
  else
    match reads.position.bind fun row => row.szi.map fun szi => (szi, row.entryPx) with
    | none => .error .positionUnavailable
    | some (current, entryPx) =>
      if current = 0 then .error .positionUnavailable
      else
        match entryPx.filter fun entry => 0 < entry with
        | none => .error .entryPriceUnavailable
        | some entry =>
          match reads.mark.filter fun mark => 0 < mark with
          | none => .error .markUnavailable
          | some mark =>
            if !reads.specAvailable then .error .specUnavailable
            else
              match roundPrice (aggressivePrice (!(0 < current)) mark slippageBps) szDecimals with
              | .error e => .error (.exitPriceUnavailable e)
              | .ok exitPrice => .ok (current, entry, mark, exitPrice)

/-- A page of rows, unless it may be cut off. -/
def fetchRows {ρ : Type} (rows : Option (List ρ)) (limit : ℕ)
    (unavailable truncated : CollectFailure) : Except CollectFailure (List ρ) :=
  match rows with
  | none => .error unavailable
  | some rows => if limit ≤ rows.length then .error truncated else .ok rows

/-- The rows of one market; a single unreadable one spoils them all. -/
def parseRows {ρ α : Type} (coin : ρ → Asset) (asset : Asset) (parse : ρ → Option α)
    (rows : List ρ) : Option (List α) :=
  (rows.filter fun row => coin row = asset).mapM parse

/-- The two histories and the taker rate, in the order they are asked for. -/
def collectHistory (asset : Asset) (reads : CollectorReads) :
    Except CollectFailure (List ProfitExitFill × List ProfitExitFunding × ℚ) := do
  let rawFills ← fetchRows reads.fills maxFillsByTime .fillHistoryUnavailable .fillHistoryTruncated
  let rawFunding ← fetchRows reads.funding maxTimeRangeRows .fundingHistoryUnavailable
    .fundingHistoryTruncated
  match reads.userCrossRate.filter fun rate => 0 ≤ rate with
  | none => .error .feeScheduleUnavailable
  | some rate =>
    match parseRows RawFill.coin asset parseFill rawFills,
      parseRows RawFunding.coin asset parseFunding rawFunding with
    | none, _ => .error .fillHistoryIncomplete
    | some _, none => .error .fundingHistoryIncomplete
    | some fills, some funding => .ok (fills, funding, rate)

/-- `collect_profit_exit_economics`: prices, history, and the evaluation of both. -/
def collectProfitExitEconomics (asset : Asset) (reads : CollectorReads)
    (slippageBps szDecimals : ℕ) : Except CollectFailure ProfitExitObservation :=
  match collectPrices reads slippageBps szDecimals with
  | .error e => .error e
  | .ok (current, entry, mark, exitPrice) =>
    match collectHistory asset reads with
    | .error e => .error e
    | .ok (fills, funding, rate) =>
      match evaluateProfitExitEconomics ⟨current, entry, exitPrice, rate, fills, funding⟩ with
      | .error reason => .error (.economicsIncomplete reason)
      | .ok economics => .ok ⟨current, entry, mark, exitPrice, rate, economics⟩

lemma collectPrices_ok {reads : CollectorReads} {slippageBps szDecimals : ℕ}
    {current entry mark exitPrice : ℚ}
    (h : collectPrices reads slippageBps szDecimals = .ok (current, entry, mark, exitPrice)) :
    0 < mark ∧ roundPrice (aggressivePrice (!(0 < current)) mark slippageBps) szDecimals =
      .ok exitPrice := by
  unfold collectPrices at h
  split at h
  · cases h
  split at h
  · cases h
  split at h
  · cases h
  split at h
  · cases h
  split at h
  · cases h
  rename_i mark' hmark
  split at h
  · cases h
  split at h
  · cases h
  rename_i hexit
  simp only [Except.ok.injEq, Prod.mk.injEq] at h
  obtain ⟨rfl, -, rfl, rfl⟩ := h
  exact ⟨by simpa using (Option.filter_eq_some_iff.1 hmark).2, hexit⟩

/-- A complete observation quotes the executable price of its own mark, for the side that closes
its position, and its economics are those of that price. -/
lemma collectProfitExitEconomics_ok {asset : Asset} {reads : CollectorReads}
    {slippageBps szDecimals : ℕ} {o : ProfitExitObservation}
    (h : collectProfitExitEconomics asset reads slippageBps szDecimals = .ok o) :
    0 < o.markPrice ∧
      roundPrice (aggressivePrice (!(0 < o.currentPosition)) o.markPrice slippageBps) szDecimals =
        .ok o.executableExitPrice ∧
      ∃ fills funding, evaluateProfitExitEconomics ⟨o.currentPosition, o.entryPrice,
        o.executableExitPrice, o.takerFeeRate, fills, funding⟩ = .ok o.economics := by
  unfold collectProfitExitEconomics at h
  split at h
  · cases h
  · rename_i current entry mark exitPrice hprices
    split at h
    · cases h
    · rename_i fills funding rate _
      split at h
      · cases h
      · rename_i economics heconomics
        obtain rfl := Except.ok.inj h
        obtain ⟨hmark, hexit⟩ := collectPrices_ok hprices
        exact ⟨hmark, hexit, fills, funding, heconomics⟩

end HyperCopy

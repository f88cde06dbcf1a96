import HyperCopy.Engine.States
import HyperCopy.Library.Quantize
import Mathlib.Data.Int.Log
import Mathlib.Data.Rat.Floor

/-!
# Position targeting

`engine/sizing.py`: from the master's exposure and the follower's state to an executable order
plan.  Decimals are exact rationals, so the rounding to the market's lot (`roundSize`) and to its
price grid (`roundPrice`) is the only rounding there is.  A plan carries, next to its order size,
the number of decimals that size was rounded to: the risk engine reads it off the decimal.

`plan_spec` collects what the executor relies on: a plan that can be executed either reduces the
current side and asks for no more than the position, or adds to a side the position is not
against, and only a reversal has a second leg.
-/

namespace HyperCopy

open Quantize

/-- Compatibility default for the exchange's minimum order value. -/
def exchangeMinNotional : ℚ := 10

/-- `MAX_PRICE_SIG_FIGS`. -/
def maxPriceSigFigs : ℕ := 5

/-- `PERP_MAX_PRICE_DECIMALS`. -/
def perpMaxPriceDecimals : ℕ := 6

/-- `OrderIntent`. -/
inductive OrderIntent
  | open
  | reduce
  | close
  | reverse
  | none
deriving DecidableEq, Repr

/-- `AssetSpec`: the precision and limits of a market. -/
structure AssetSpec where
  szDecimals : ℕ
  maxLeverage : ℕ
  onlyIsolated : Bool
  minNotional : ℚ
deriving DecidableEq, Repr

/-- `MasterExposure`: the master's position in a market. -/
structure MasterExposure where
  asset : Asset
  positionSize : ℚ
  markPrice : ℚ
  eligibleEquity : ℚ
deriving DecidableEq, Repr

/-- The value of the position. -/
def MasterExposure.notional (m : MasterExposure) : ℚ := |m.positionSize| * m.markPrice

/-- Signed fraction of master equity committed to this asset. -/
def MasterExposure.exposureRatio (m : MasterExposure) : ℚ :=
  if m.eligibleEquity ≤ 0 then 0
  else (if 0 ≤ m.positionSize then 1 else -1) * m.notional / m.eligibleEquity

/-- `FollowerState`: the follower's account and its position in the market. -/
structure FollowerState where
  accountValue : ℚ
  marginUsedUnmanaged : ℚ
  currentSize : ℚ
  multiplier : ℚ
deriving DecidableEq, Repr

/-- The equity that copied positions may use. -/
def FollowerState.eligibleEquity (f : FollowerState) : ℚ :=
  max (f.accountValue - f.marginUsedUnmanaged) 0

/-- The reasons for which nothing is traded. -/
inductive SizingReason
  | alreadyOnTarget
  | roundsToZero (szDecimals : ℕ)
  | underMinimum (notional floor : ℚ)
deriving DecidableEq, Repr

/-- One order of a plan.  `sizeDecimals` is the number of decimals `orderSize` is written with. -/
structure SizingLeg where
  asset : Asset
  intent : OrderIntent
  targetSize : ℚ
  currentSize : ℚ
  delta : ℚ
  orderSize : ℚ
  sizeDecimals : ℕ
  isBuy : Bool
  reduceOnly : Bool
  notional : ℚ
  reason : Option SizingReason
deriving DecidableEq, Repr

/-- There is something to trade. -/
def SizingLeg.actionable (p : SizingLeg) : Bool := 0 < p.orderSize && p.intent ≠ .none

lemma SizingLeg.orderSize_pos_of_actionable {p : SizingLeg} (h : p.actionable) :
    0 < p.orderSize := by
  simp only [SizingLeg.actionable, Bool.and_eq_true, decide_eq_true_eq] at h
  exact h.1

/-- A plan: one order, and for a reversal the order that reopens on the other side.  The second
leg never has a second leg of its own. -/
structure SizingResult extends SizingLeg where
  secondary : Option SizingLeg
deriving DecidableEq, Repr

/-! ## Rounding -/

/-- The smallest size step of a market. -/
def lot (szDecimals : ℕ) : ℚ := (10 ^ szDecimals)⁻¹

/-- Truncate toward zero, so a close never overshoots into opposite exposure. -/
def roundSize (size : ℚ) (szDecimals : ℕ) : ℚ := floorTo (lot szDecimals) |size|

/-- `Decimal.adjusted`: the exponent of the leading digit of a positive value. -/
def adjusted (price : ℚ) : ℤ := Int.log 10 price

/-- The reasons for which a price cannot be rounded. -/
inductive PriceError
  | notPositive
  | roundsToZero
deriving DecidableEq, Repr

/-- The nearest strictly positive price the exchange accepts: at most five significant figures
and `6 - szDecimals` places, or an integer where that is closer. -/
def roundPrice (price : ℚ) (szDecimals : ℕ) : Except PriceError ℚ :=
  if price ≤ 0 then .error .notPositive
  else
    let placeQuantum : ℚ := lot (perpMaxPriceDecimals - szDecimals)
    let sigQuantum : ℚ := 10 ^ (adjusted price - (maxPriceSigFigs - 1 : ℕ))
    let sigCandidate := halfUpTo placeQuantum (halfUpTo sigQuantum price)
    let integerCandidate := halfUpTo 1 price
    let rounded :=
      if 0 < integerCandidate ∧ |price - integerCandidate| < |price - sigCandidate| then
        integerCandidate
      else sigCandidate
    if rounded ≤ 0 then .error .roundsToZero else .ok rounded

lemma lot_pos (n : ℕ) : 0 < lot n := by
  unfold lot
  positivity

lemma roundSize_nonneg (x : ℚ) (n : ℕ) : 0 ≤ roundSize x n :=
  floorTo_nonneg (lot_pos n) (abs_nonneg x)

lemma roundSize_le_abs (x : ℚ) (n : ℕ) : roundSize x n ≤ |x| := floorTo_le (lot_pos n) |x|

lemma abs_lt_roundSize_add (x : ℚ) (n : ℕ) : |x| < roundSize x n + lot n :=
  lt_floorTo_add (lot_pos n) |x|

/-- A size that does not round to zero is at least one lot. -/
lemma lot_le_abs_of_roundSize_pos {x : ℚ} {n : ℕ} (h : 0 < roundSize x n) : lot n ≤ |x| :=
  le_of_floorTo_pos (lot_pos n) h

@[simp] lemma roundSize_abs (x : ℚ) (n : ℕ) : roundSize |x| n = roundSize x n := by
  simp [roundSize]

/-- Rounding twice is rounding once. -/
@[simp] lemma roundSize_roundSize (x : ℚ) (n : ℕ) : roundSize (roundSize x n) n = roundSize x n := by
  have h : |roundSize x n| = roundSize x n := abs_of_nonneg (roundSize_nonneg x n)
  rw [roundSize, h]
  exact floorTo_floorTo (lot_pos n) |x|

lemma roundPrice_pos {price rounded : ℚ} {n : ℕ} (h : roundPrice price n = .ok rounded) :
    0 < rounded := by
  simp only [roundPrice] at h
  split_ifs at h with hprice hinteger hrounded hrounded
  · obtain rfl := Except.ok.inj h
    exact not_le.1 hrounded
  · obtain rfl := Except.ok.inj h
    exact not_le.1 hrounded

/-! ## Targets and plans -/

/-- Signed follower size that reproduces the master's exposure ratio. -/
def computeTarget (master : MasterExposure) (follower : FollowerState) (followerMark : ℚ) : ℚ :=
  if master.markPrice ≤ 0 ∨ followerMark ≤ 0 ∨ follower.eligibleEquity ≤ 0 then 0
  else master.exposureRatio * follower.eligibleEquity * follower.multiplier / followerMark

/-- `classify`: what moving the position to the target comes to. -/
def classify (target current : ℚ) : OrderIntent :=
  if target = current then .none
  else if current = 0 then .open
  else if target = 0 then .close
  else if (0 < target) ≠ (0 < current) then .reverse
  else if |current| < |target| then .open
  else .reduce

/-- Split a sign change into close-then-open. -/
def planReversal (asset : Asset) (spec : AssetSpec) (target current minNotional price : ℚ) :
    SizingResult :=
  let closeSize := roundSize current spec.szDecimals
  let openSize := roundSize target spec.szDecimals
  let floor := max minNotional spec.minNotional
  { asset := asset
    intent := .reverse
    targetSize := target
    currentSize := current
    delta := target - current
    orderSize := closeSize
    sizeDecimals := spec.szDecimals
    isBuy := current < 0
    reduceOnly := true
    notional := closeSize * price
    reason := none
    secondary :=
      if 0 < openSize ∧ floor ≤ openSize * price then
        some
          { asset := asset
            intent := .open
            targetSize := target
            currentSize := 0
            delta := target
            orderSize := openSize
            sizeDecimals := spec.szDecimals
            isBuy := 0 < target
            reduceOnly := false
            notional := openSize * price
            reason := none }
      else none }

/-- An order for part of the way to the target, on one side of zero. -/
def planSameSide (asset : Asset) (spec : AssetSpec) (intent : OrderIntent)
    (target current minNotional price : ℚ) : SizingResult :=
  let delta := target - current
  let reduceOnly : Bool := intent = .reduce || intent = .close
  let rounded := roundSize delta spec.szDecimals
  let orderSize :=
    if reduceOnly && |current| < rounded then roundSize current spec.szDecimals else rounded
  let notional := orderSize * price
  let floor := max minNotional spec.minNotional
  let base : SizingResult :=
    { asset := asset
      intent := intent
      targetSize := target
      currentSize := current
      delta := delta
      orderSize := orderSize
      sizeDecimals := spec.szDecimals
      isBuy := 0 < delta
      reduceOnly := reduceOnly
      notional := notional
      reason := none
      secondary := none }
  if orderSize ≤ 0 then
    { base with
      intent := .none
      orderSize := 0
      sizeDecimals := 0
      notional := 0
      reason := some (.roundsToZero spec.szDecimals) }
  else if notional < floor then
    { base with
      intent := .none
      orderSize := 0
      sizeDecimals := 0
      reason := some (.underMinimum notional floor) }
  else base

/-- Turn master exposure and follower state into an executable order plan. -/
def plan (master : MasterExposure) (follower : FollowerState) (spec : AssetSpec)
    (minNotional followerMark : ℚ) : SizingResult :=
  let target := computeTarget master follower followerMark
  let current := follower.currentSize
  match classify target current with
  | .none =>
    { asset := master.asset
      intent := .none
      targetSize := target
      currentSize := current
      delta := 0
      orderSize := 0
      sizeDecimals := 0
      isBuy := false
      reduceOnly := false
      notional := 0
      reason := some .alreadyOnTarget
      secondary := none }
  | .reverse => planReversal master.asset spec target current minNotional followerMark
  | intent => planSameSide master.asset spec intent target current minNotional followerMark

/-! ## What a plan can be -/

@[simp] lemma plan_targetSize (m : MasterExposure) (f : FollowerState) (spec : AssetSpec)
    (minNotional mark : ℚ) :
    (plan m f spec minNotional mark).targetSize = computeTarget m f mark := by
  simp only [plan]
  split
  · rfl
  · rfl
  · simp only [planSameSide]
    split_ifs <;> rfl

@[simp] lemma plan_currentSize (m : MasterExposure) (f : FollowerState) (spec : AssetSpec)
    (minNotional mark : ℚ) :
    (plan m f spec minNotional mark).currentSize = f.currentSize := by
  simp only [plan]
  split
  · rfl
  · rfl
  · simp only [planSameSide]
    split_ifs <;> rfl

/-- A follower that is on target has nothing to do. -/
lemma plan_not_actionable_of_onTarget {m : MasterExposure} {f : FollowerState} {spec : AssetSpec}
    {minNotional mark : ℚ} (h : computeTarget m f mark = f.currentSize) :
    (plan m f spec minNotional mark).toSizingLeg.actionable = false := by
  simp [plan, classify, h, SizingLeg.actionable]

/-- The side of an order that adds exposure is not against the position. -/
def AddsTo (current : ℚ) (isBuy : Bool) : Prop :=
  if isBuy then 0 ≤ current else current ≤ 0

/-- The side of an order that reduces the position. -/
def ReducesSide (current : ℚ) (isBuy : Bool) : Prop :=
  if isBuy then current < 0 else 0 < current

/-- The shape of an executable plan for a position of `current` on a market with `n` decimals. -/
structure PlanShape (p : SizingResult) (current : ℚ) (n : ℕ) : Prop where
  current_eq : p.currentSize = current
  pos : 0 < p.orderSize
  decimals : p.sizeDecimals = n
  rounded : roundSize p.orderSize n = p.orderSize
  reduces : p.reduceOnly = true → ReducesSide current p.isBuy ∧ p.orderSize ≤ |current|
  adds : p.reduceOnly = false → AddsTo current p.isBuy
  reverse_size : p.intent = .reverse → p.reduceOnly = true ∧ p.orderSize = roundSize current n
  secondary_reverse : ∀ leg, p.secondary = some leg → p.intent = .reverse ∧
    leg.reduceOnly = false ∧ 0 < leg.orderSize ∧ roundSize leg.orderSize n = leg.orderSize ∧
    leg.sizeDecimals = n ∧ leg.currentSize = 0

lemma planReversal_shape {asset : Asset} {spec : AssetSpec} {target current minNotional price : ℚ}
    (hcurrent : current ≠ 0)
    (hpos : 0 < (planReversal asset spec target current minNotional price).orderSize) :
    PlanShape (planReversal asset spec target current minNotional price) current
      spec.szDecimals := by
  refine ⟨rfl, hpos, rfl, by simp [planReversal], ?_, ?_, ?_, ?_⟩
  · intro _
    refine ⟨?_, roundSize_le_abs _ _⟩
    rcases lt_or_gt_of_ne hcurrent with hneg | hgt
    · simp [ReducesSide, planReversal, hneg]
    · simp [ReducesSide, planReversal, hgt, hgt.le]
  · intro h
    cases h
  · intro _
    exact ⟨rfl, rfl⟩
  · intro leg hleg
    simp only [planReversal] at hleg
    split_ifs at hleg with hsize
    obtain rfl := Option.some.inj hleg
    exact ⟨rfl, rfl, hsize.1, by simp, rfl, rfl⟩

/-- What the intents of a same-side plan say about target and position. -/
lemma classify_cases {target current : ℚ} {intent : OrderIntent}
    (h : classify target current = intent) :
    match intent with
    | .none => target = current
    | .open => target ≠ current ∧
        (current = 0 ∨ ((0 < target) = (0 < current) ∧ current ≠ 0 ∧ target ≠ 0 ∧
          |current| < |target|))
    | .close => target = 0 ∧ current ≠ 0
    | .reduce => target ≠ 0 ∧ current ≠ 0 ∧ (0 < target) = (0 < current) ∧ |target| ≤ |current| ∧
        target ≠ current
    | .reverse => current ≠ 0 ∧ target ≠ 0 ∧ (0 < target) ≠ (0 < current) := by
  unfold classify at h
  split_ifs at h with h1 h2 h3 h4 h5
  · subst h; exact h1
  · subst h; exact ⟨h1, Or.inl h2⟩
  · subst h; exact ⟨h3, h2⟩
  · subst h; exact ⟨h2, h3, h4⟩
  · subst h; exact ⟨h1, Or.inr ⟨not_not.1 h4, h2, h3, h5⟩⟩
  · subst h; exact ⟨h3, h2, not_not.1 h4, not_lt.1 h5, h1⟩

/-- The sign of a move along one side of zero. -/
lemma side_of_classify {target current : ℚ} {intent : OrderIntent}
    (h : classify target current = intent) :
    (intent = .open → AddsTo current (0 < target - current)) ∧
      (intent = .reduce ∨ intent = .close → ReducesSide current (0 < target - current)) := by
  have hcase := classify_cases h
  constructor
  · rintro rfl
    obtain ⟨-, rfl | ⟨hside, hcurrent, htarget, habs⟩⟩ := hcase
    · simp [AddsTo]
    · rcases lt_or_gt_of_ne hcurrent with hneg | hgt
      · have htarget' : ¬ 0 < target := by rw [hside]; exact hneg.not_gt
        rw [abs_of_neg hneg, abs_of_neg (lt_of_le_of_ne (not_lt.1 htarget') htarget)] at habs
        have : ¬ 0 < target - current := by linarith
        simp [AddsTo, this, hneg.le]
      · have htarget' : 0 < target := by rw [hside]; exact hgt
        rw [abs_of_pos hgt, abs_of_pos htarget'] at habs
        have : 0 < target - current := by linarith
        simp [AddsTo, this, hgt.le]
  · rintro (rfl | rfl)
    · obtain ⟨htarget, hcurrent, hside, habs, hne⟩ := hcase
      rcases lt_or_gt_of_ne hcurrent with hneg | hgt
      · have htarget' : ¬ 0 < target := by rw [hside]; exact hneg.not_gt
        rw [abs_of_neg hneg, abs_of_neg (lt_of_le_of_ne (not_lt.1 htarget') htarget)] at habs
        have : 0 < target - current := sub_pos.2 (lt_of_le_of_ne (by linarith) (Ne.symm hne))
        simp [ReducesSide, this, hneg]
      · have htarget' : 0 < target := by rw [hside]; exact hgt
        rw [abs_of_pos hgt, abs_of_pos htarget'] at habs
        have : ¬ 0 < target - current := by linarith
        simp [ReducesSide, this, hgt]
    · obtain ⟨rfl, hcurrent⟩ := hcase
      rcases lt_or_gt_of_ne hcurrent with hneg | hgt
      · have : (0 : ℚ) < 0 - current := by linarith
        simp [ReducesSide, hneg]
      · simp [ReducesSide, hgt, hgt.le]

lemma planSameSide_shape {asset : Asset} {spec : AssetSpec} {intent : OrderIntent}
    {target current minNotional price : ℚ} (hintent : classify target current = intent)
    (hnone : intent ≠ .none) (hreverse : intent ≠ .reverse)
    (hactionable :
      (planSameSide asset spec intent target current minNotional price).toSizingLeg.actionable) :
    PlanShape (planSameSide asset spec intent target current minNotional price) current
      spec.szDecimals := by
  have hpos := SizingLeg.orderSize_pos_of_actionable hactionable
  obtain ⟨hadds, hreduces⟩ := side_of_classify hintent
  simp only [planSameSide] at hactionable hpos ⊢
  split_ifs at hactionable hpos ⊢ with hcap hzero hfloor hzero' hfloor'
  · exact absurd hpos (lt_irrefl 0)
  · exact absurd hpos (lt_irrefl 0)
  · -- a reduction capped by the position
    have hred : intent = .reduce ∨ intent = .close := by
      simpa using (Bool.and_eq_true_iff.1 hcap).1
    refine ⟨rfl, hpos, rfl, by simp, fun _ => ⟨hreduces hred, roundSize_le_abs _ _⟩, ?_, ?_, ?_⟩
    · intro h
      have hkept : ¬ (intent = .reduce ∨ intent = .close) := by simpa using h
      exact absurd hred hkept
    · intro h
      exact absurd h hreverse
    · intro leg hleg
      cases hleg
  · exact absurd hpos (lt_irrefl 0)
  · exact absurd hpos (lt_irrefl 0)
  · refine ⟨rfl, hpos, rfl, by simp, ?_, ?_, ?_, ?_⟩
    · intro h
      have hred : intent = .reduce ∨ intent = .close := by simpa using h
      refine ⟨hreduces hred, ?_⟩
      by_contra hlt
      exact hcap (Bool.and_eq_true_iff.2 ⟨h, decide_eq_true (not_le.1 hlt)⟩)
    · intro h
      have hkept : ¬ (intent = .reduce ∨ intent = .close) := by simpa using h
      refine hadds ?_
      cases intent with
      | «open» => rfl
      | reduce => exact absurd (Or.inl rfl) hkept
      | close => exact absurd (Or.inr rfl) hkept
      | reverse => exact absurd rfl hreverse
      | none => exact absurd rfl hnone
    · intro h
      exact absurd h hreverse
    · intro leg hleg
      cases hleg

/-- **Plans are well shaped.**  Every plan that can be executed has the shape the executor relies
on: it reduces the current side by at most the position, or adds to a side the position is not
against, and only a reversal, whose first leg closes the whole position, has a second leg. -/
theorem plan_shape {m : MasterExposure} {f : FollowerState} {spec : AssetSpec}
    {minNotional mark : ℚ}
    (hactionable : (plan m f spec minNotional mark).toSizingLeg.actionable) :
    PlanShape (plan m f spec minNotional mark) f.currentSize spec.szDecimals := by
  have hpos := SizingLeg.orderSize_pos_of_actionable hactionable
  revert hactionable hpos
  simp only [plan]
  cases hclass : classify (computeTarget m f mark) f.currentSize with
  | none =>
      intro hactionable
      simp [SizingLeg.actionable] at hactionable
  | reverse =>
      intro _ hpos
      have hcase := classify_cases hclass
      exact planReversal_shape hcase.1 hpos
  | «open» | reduce | close =>
      intro hactionable _
      exact planSameSide_shape hclass (by simp) (by simp) hactionable

/-- Every order of a plan is valued at the follower's mark; a reduction is reduce-only, and a
second leg adds exposure. -/
structure PlanPriced (p : SizingResult) (price : ℚ) : Prop where
  notional : p.notional = p.orderSize * price
  reduces : p.intent = .reduce ∨ p.intent = .close → p.reduceOnly = true
  secondary : ∀ leg, p.secondary = some leg →
    leg.notional = leg.orderSize * price ∧ leg.intent = .open ∧ leg.reduceOnly = false

lemma plan_priced {m : MasterExposure} {f : FollowerState} {spec : AssetSpec}
    {minNotional mark : ℚ}
    (hactionable : (plan m f spec minNotional mark).toSizingLeg.actionable) :
    PlanPriced (plan m f spec minNotional mark) mark := by
  have hpos := SizingLeg.orderSize_pos_of_actionable hactionable
  revert hpos
  simp only [plan]
  cases hclass : classify (computeTarget m f mark) f.currentSize with
  | none =>
      intro hpos
      exact absurd hpos (lt_irrefl 0)
  | reverse =>
      intro _
      refine ⟨rfl, fun _ => rfl, fun leg hleg => ?_⟩
      simp only [planReversal] at hleg
      split_ifs at hleg
      obtain rfl := Option.some.inj hleg
      exact ⟨rfl, rfl, rfl⟩
  | «open» | reduce | close =>
      intro hpos
      simp only [planSameSide] at hpos ⊢
      split_ifs at hpos ⊢
      all_goals first
        | exact absurd hpos (lt_irrefl 0)
        | exact ⟨rfl, by simp, fun leg hleg => by cases hleg⟩

end HyperCopy

import HyperCopy.Engine.Sizing

/-!
# Sizing converges

What `engine/sizing.py` promises of position targeting: applying a plan a second time does nothing.
The orders of a plan (`SizingResult.legs`) are filled whole, one after the other, and the plan is
made again from the position they leave.

On one side of zero an order is a move towards the target by whole lots (`Quantize.stepTo`), so the
position stays between where it was and the target and ends within a lot of it, which the next plan
rounds to nothing.  A reversal goes through zero: its close leg takes a position of whole lots to
zero exactly, and an opening leg that was held back for its value is held back again.
-/

namespace HyperCopy

open Quantize

/-- The position after the order is filled whole. -/
def SizingLeg.fill (p : SizingLeg) (position : ℚ) : ℚ :=
  if p.isBuy then position + p.orderSize else position - p.orderSize

/-- The orders that applying the plan sends. -/
def SizingResult.legs (p : SizingResult) : List SizingLeg :=
  if p.toSizingLeg.actionable then p.toSizingLeg :: p.secondary.toList else []

/-- The position after all of the orders are filled. -/
def fillAll (position : ℚ) : List SizingLeg → ℚ
  | [] => position
  | leg :: legs => fillAll (leg.fill position) legs

/-- Something holds of every order and the position it is filled from. -/
def EachLeg (P : ℚ → SizingLeg → Prop) (position : ℚ) : List SizingLeg → Prop
  | [] => True
  | leg :: legs => P position leg ∧ EachLeg P (leg.fill position) legs

lemma legs_of_not_actionable {p : SizingResult} (h : p.toSizingLeg.actionable = false) :
    p.legs = [] := by
  simp [SizingResult.legs, h]

lemma legs_of_actionable {p : SizingResult} (h : p.toSizingLeg.actionable = true) :
    p.legs = p.toSizingLeg :: p.secondary.toList := by
  simp [SizingResult.legs, h]

/-! ## One side of zero -/

section

variable {asset : Asset} {spec : AssetSpec} {intent : OrderIntent}
  {target current minNotional price : ℚ}

/-- A reduction does not reach the cap by the position: the difference is at most the position. -/
lemma not_capped (n : ℕ) (h : intent = .reduce ∨ intent = .close → |target - current| ≤ |current|) :
    ¬ ((decide (intent = .reduce) || decide (intent = .close)) &&
      decide (|current| < roundSize (target - current) n)) = true := by
  rw [Bool.and_eq_true, Bool.or_eq_true, decide_eq_true_eq, decide_eq_true_eq, decide_eq_true_eq]
  rintro ⟨hreduces, hlt⟩
  have hle := roundSize_le_abs (target - current) n
  have := h hreduces
  linarith

/-- What a plan on one side of zero sends: the difference in whole lots, if that is worth the
minimum. -/
lemma planSameSide_sends (hintent : intent ≠ .none)
    (hcap : intent = .reduce ∨ intent = .close → |target - current| ≤ |current|) :
    let p := planSameSide asset spec intent target current minNotional price
    (p.toSizingLeg.actionable = true ↔ 0 < roundSize (target - current) spec.szDecimals ∧
        max minNotional spec.minNotional ≤ roundSize (target - current) spec.szDecimals * price) ∧
      (p.toSizingLeg.actionable = true →
        p.orderSize = roundSize (target - current) spec.szDecimals) := by
  have huncapped := not_capped spec.szDecimals hcap
  simp only [planSameSide, if_neg huncapped]
  by_cases hzero : roundSize (target - current) spec.szDecimals ≤ 0
  · simp [SizingLeg.actionable, hzero, hzero.not_gt]
  · by_cases hfloor :
        roundSize (target - current) spec.szDecimals * price < max minNotional spec.minNotional
    · have hunder := hfloor.not_ge
      rw [if_neg hzero, if_pos hfloor]
      simp only [SizingLeg.actionable, hunder, and_false]
      simp
    · have hsends := And.intro (not_le.1 hzero) (not_lt.1 hfloor)
      rw [if_neg hzero, if_neg hfloor]
      simp only [SizingLeg.actionable, hsends, and_self, iff_true]
      simp [hintent]

/-- An order towards the target is a step of whole lots. -/
lemma fill_planSameSide (hintent : intent ≠ .none)
    (hcap : intent = .reduce ∨ intent = .close → |target - current| ≤ |current|)
    (hactionable : (planSameSide asset spec intent target current minNotional
      price).toSizingLeg.actionable = true) :
    (planSameSide asset spec intent target current minNotional price).toSizingLeg.fill current =
      stepTo (lot spec.szDecimals) target current := by
  have hsize := (planSameSide_sends hintent hcap).2 hactionable
  have hside : (planSameSide asset spec intent target current minNotional price).isBuy =
      decide (0 < target - current) := by
    simp only [planSameSide]
    split_ifs <;> rfl
  simp only [SizingLeg.fill, stepTo, hside, hsize, roundSize, sub_pos, decide_eq_true_eq]

/-- A difference of less than a lot is not sent. -/
lemma planSameSide_idle_of_near (hintent : intent ≠ .none)
    (hcap : intent = .reduce ∨ intent = .close → |target - current| ≤ |current|)
    (h : |target - current| < lot spec.szDecimals) :
    (planSameSide asset spec intent target current minNotional price).toSizingLeg.actionable =
      false := by
  have hzero : roundSize (target - current) spec.szDecimals = 0 := floorTo_of_lt (abs_nonneg _) h
  rw [← Bool.not_eq_true, (planSameSide_sends hintent hcap).1, hzero]
  exact fun hsends => lt_irrefl 0 hsends.1

end

/-- The difference of a reduction is at most the position. -/
lemma abs_sub_le_of_classify {target current : ℚ} {intent : OrderIntent}
    (h : classify target current = intent) (hreduces : intent = .reduce ∨ intent = .close) :
    |target - current| ≤ |current| := by
  have hcase := classify_cases h
  obtain rfl | rfl := hreduces
  · obtain ⟨htarget, hcurrent, hside, habs, -⟩ := hcase
    rcases lt_or_gt_of_ne hcurrent with hneg | hpos
    · have htarget' : ¬ 0 < target := by rw [hside]; exact hneg.not_gt
      rw [abs_of_neg hneg, abs_of_nonpos (not_lt.1 htarget')] at habs
      rw [abs_of_neg hneg, abs_le]
      constructor <;> linarith [not_lt.1 htarget']
    · have htarget' : 0 < target := by rw [hside]; exact hpos
      rw [abs_of_pos hpos, abs_of_pos htarget'] at habs
      rw [abs_of_pos hpos, abs_le]
      constructor <;> linarith
  · rw [hcase.1, zero_sub, abs_neg]

lemma classify_reverse_iff (target current : ℚ) :
    classify target current = .reverse ↔ target * current < 0 := by
  constructor
  · intro h
    obtain ⟨hcurrent, htarget, hside⟩ := classify_cases h
    rcases lt_or_gt_of_ne hcurrent with hneg | hpos
    · have : 0 < target := by
        by_contra hle
        exact hside (propext (iff_of_false hle hneg.not_gt))
      exact mul_neg_of_pos_of_neg this hneg
    · have : target < 0 := by
        refine lt_of_le_of_ne (not_lt.1 fun htarget' => ?_) htarget
        exact hside (propext (iff_of_true htarget' hpos))
      exact mul_neg_of_neg_of_pos this hpos
  · intro h
    have hcurrent : current ≠ 0 := by rintro rfl; simp at h
    have htarget : target ≠ 0 := by rintro rfl; simp at h
    have hne : target ≠ current := by
      rintro rfl
      exact absurd (mul_self_nonneg target) h.not_ge
    have hside : (0 < target) ≠ (0 < current) := by
      intro heq
      rcases mul_neg_iff.1 h with ⟨hpos, hneg⟩ | ⟨hneg, hpos⟩
      · exact hneg.not_gt (heq ▸ hpos)
      · exact hneg.not_gt (heq.symm ▸ hpos)
    rw [classify, if_neg hne, if_neg hcurrent, if_neg htarget, if_pos hside]

/-- On the way to a target on its own side a position keeps its side. -/
lemma same_side_of_mem_uIcc {target current x : ℚ} (h : 0 ≤ target * current)
    (hx : x ∈ Set.uIcc current target) : 0 ≤ target * x ∧ 0 ≤ current * x := by
  have hself := mul_self_nonneg target
  have hself' := mul_self_nonneg current
  rw [Set.mem_uIcc] at hx
  constructor
  · rcases le_total 0 target with hsign | hsign <;> obtain ⟨hlo, hhi⟩ | ⟨hlo, hhi⟩ := hx
    · exact h.trans (mul_le_mul_of_nonneg_left hlo hsign)
    · exact hself.trans (mul_le_mul_of_nonneg_left hlo hsign)
    · exact hself.trans (mul_le_mul_of_nonpos_left hhi hsign)
    · exact h.trans (mul_le_mul_of_nonpos_left hhi hsign)
  · rw [mul_comm] at h
    rcases le_total 0 current with hsign | hsign <;> obtain ⟨hlo, hhi⟩ | ⟨hlo, hhi⟩ := hx
    · exact hself'.trans (mul_le_mul_of_nonneg_left hlo hsign)
    · exact h.trans (mul_le_mul_of_nonneg_left hlo hsign)
    · exact h.trans (mul_le_mul_of_nonpos_left hhi hsign)
    · exact hself'.trans (mul_le_mul_of_nonpos_left hhi hsign)

/-! ## Planning again -/

section

variable (m : MasterExposure) (f : FollowerState) (spec : AssetSpec) (minNotional mark : ℚ)

/-- The follower with another position: its target stays. -/
def FollowerState.at (f : FollowerState) (position : ℚ) : FollowerState :=
  { f with currentSize := position }

@[simp] lemma computeTarget_at (position : ℚ) :
    computeTarget m (f.at position) mark = computeTarget m f mark := rfl

variable {m f spec minNotional mark}

/-- The orders on one side of zero are planned by `planSameSide`. -/
lemma plan_of_same_side (h : 0 ≤ computeTarget m f mark * f.currentSize)
    (hactionable : (plan m f spec minNotional mark).toSizingLeg.actionable = true) :
    ∃ intent, classify (computeTarget m f mark) f.currentSize = intent ∧ intent ≠ .none ∧
      intent ≠ .reverse ∧ plan m f spec minNotional mark =
        planSameSide m.asset spec intent (computeTarget m f mark) f.currentSize minNotional mark := by
  have hsame : classify (computeTarget m f mark) f.currentSize ≠ .reverse := by
    rw [Ne, classify_reverse_iff]
    exact h.not_gt
  cases hclass : classify (computeTarget m f mark) f.currentSize with
  | none =>
      rw [plan_not_actionable_of_onTarget (classify_cases hclass)] at hactionable
      cases hactionable
  | reverse => exact absurd hclass hsame
  | «open» | reduce | close =>
      refine ⟨_, rfl, by simp, by simp, ?_⟩
      simp only [plan, hclass]

/-- A position within a lot of its target, on the same side of zero, is left alone. -/
lemma plan_idle_of_near (hside : 0 ≤ computeTarget m f mark * f.currentSize)
    (h : |computeTarget m f mark - f.currentSize| < lot spec.szDecimals) :
    (plan m f spec minNotional mark).toSizingLeg.actionable = false := by
  by_contra hactionable
  rw [Bool.not_eq_false] at hactionable
  obtain ⟨intent, hclass, hnone, -, hplan⟩ := plan_of_same_side hside hactionable
  rw [hplan, planSameSide_idle_of_near hnone (abs_sub_le_of_classify hclass) h] at hactionable
  cases hactionable

/-! ## What each order does -/

/-- One order of a plan: it moves the position towards the target without jumping across zero, and
only the second leg of a reversal puts it on the other side. -/
structure Advances (target current : ℚ) (p : SizingResult) (position : ℚ) (leg : SizingLeg) :
    Prop where
  towards : leg.fill position ∈ Set.uIcc position target
  same_side : 0 ≤ position * leg.fill position
  crosses : current * leg.fill position < 0 → p.intent = .reverse ∧ p.secondary = some leg
  reduces : leg.reduceOnly = true → leg.orderSize ≤ |current| ∧ ReducesSide current leg.isBuy

lemma sameSide_converges {p : SizingResult} (hp : plan m f spec minNotional mark = p)
    (hside : 0 ≤ computeTarget m f mark * f.currentSize)
    (hactionable : p.toSizingLeg.actionable = true) :
    (plan m (f.at (fillAll f.currentSize p.legs)) spec minNotional
        mark).toSizingLeg.actionable = false ∧
      EachLeg (Advances (computeTarget m f mark) f.currentSize p) f.currentSize p.legs := by
  subst hp
  obtain ⟨intent, hclass, hnone, hreverse, hplan⟩ := plan_of_same_side hside hactionable
  have hfill : (plan m f spec minNotional mark).toSizingLeg.fill f.currentSize =
      stepTo (lot spec.szDecimals) (computeTarget m f mark) f.currentSize := by
    rw [hplan] at hactionable ⊢
    exact fill_planSameSide hnone (abs_sub_le_of_classify hclass) hactionable
  have hlegs : (plan m f spec minNotional mark).legs =
      [(plan m f spec minNotional mark).toSizingLeg] := by
    have hsecondary : (plan m f spec minNotional mark).secondary = none := by
      rw [hplan, planSameSide]
      split_ifs <;> rfl
    rw [legs_of_actionable hactionable, hsecondary, Option.toList_none]
  have hstep := stepTo_mem_uIcc (lot_pos spec.szDecimals) (computeTarget m f mark) f.currentSize
  have hnear := abs_sub_stepTo_lt (lot_pos spec.szDecimals) (computeTarget m f mark) f.currentSize
  obtain ⟨htarget, hcurrent⟩ := same_side_of_mem_uIcc hside hstep
  rw [hlegs]
  simp only [fillAll, EachLeg, and_true, hfill]
  refine ⟨plan_idle_of_near htarget hnear, ⟨?_, ?_, ?_, ?_⟩⟩
  · rw [hfill]
    exact hstep
  · rw [hfill]
    exact hcurrent
  · rw [hfill]
    exact fun hcross => absurd hcurrent hcross.not_ge
  · intro hreduceOnly
    exact ((plan_shape hactionable).reduces hreduceOnly).symm

/-- The close leg of a reversal takes a position of whole lots to zero. -/
lemma fill_planReversal {asset : Asset} {target current price : ℚ}
    (haligned : IsMultiple (lot spec.szDecimals) current) :
    (planReversal asset spec target current minNotional price).toSizingLeg.fill current = 0 := by
  have hsize : roundSize current spec.szDecimals = |current| := by
    refine floorTo_of_isMultiple (lot_pos _) ?_
    rcases abs_choice current with habs | habs <;> rw [habs]
    · exact haligned
    · exact haligned.neg
  simp only [SizingLeg.fill, planReversal, hsize, decide_eq_true_eq]
  split_ifs with hneg
  · rw [abs_of_neg hneg, add_neg_cancel]
  · rw [abs_of_nonneg (not_lt.1 hneg), sub_self]

/-- A reversal whose opening leg was held back for its value holds it back again. -/
lemma plan_idle_of_held (h : ¬ (0 < roundSize (computeTarget m f mark) spec.szDecimals ∧
    max minNotional spec.minNotional ≤
      roundSize (computeTarget m f mark) spec.szDecimals * mark)) :
    (plan m (f.at 0) spec minNotional mark).toSizingLeg.actionable = false := by
  by_contra hagain
  rw [Bool.not_eq_false] at hagain
  have hzero : 0 ≤ computeTarget m (f.at 0) mark * (f.at 0).currentSize := (mul_zero _).ge
  obtain ⟨intent, hopen, hnone, -, hreplan⟩ := plan_of_same_side hzero hagain
  rw [hreplan] at hagain
  have hsends := (planSameSide_sends hnone (abs_sub_le_of_classify hopen)).1.1 hagain
  simp only [FollowerState.at, sub_zero] at hsends
  exact h hsends

lemma reversal_converges {p : SizingResult} (hp : plan m f spec minNotional mark = p)
    (haligned : IsMultiple (lot spec.szDecimals) f.currentSize)
    (hside : computeTarget m f mark * f.currentSize < 0)
    (hactionable : p.toSizingLeg.actionable = true) :
    (plan m (f.at (fillAll f.currentSize p.legs)) spec minNotional
        mark).toSizingLeg.actionable = false ∧
      EachLeg (Advances (computeTarget m f mark) f.currentSize p) f.currentSize p.legs := by
  have hshape : PlanShape p f.currentSize spec.szDecimals := by
    rw [← hp] at hactionable ⊢
    exact plan_shape hactionable
  have hplan : p = planReversal m.asset spec (computeTarget m f mark) f.currentSize minNotional
      mark := by
    rw [← hp, plan]
    simp only [(classify_reverse_iff _ _).2 hside]
  have hreverse : p.intent = .reverse := by
    rw [hplan]
    rfl
  have hclose : p.toSizingLeg.fill f.currentSize = 0 := by
    rw [hplan]
    exact fill_planReversal haligned
  have hfirst : Advances (computeTarget m f mark) f.currentSize p f.currentSize p.toSizingLeg := by
    refine ⟨?_, ?_, ?_, fun hreduceOnly => (hshape.reduces hreduceOnly).symm⟩
    · rw [hclose, Set.mem_uIcc]
      rcases mul_neg_iff.1 hside with ⟨hpos, hneg⟩ | ⟨hneg, hpos⟩
      · exact Or.inl ⟨hneg.le, hpos.le⟩
      · exact Or.inr ⟨hneg.le, hpos.le⟩
    · rw [hclose, mul_zero]
    · rw [hclose, mul_zero]
      exact fun hcross => absurd hcross (lt_irrefl 0)
  have hsecond : p.secondary = (planReversal m.asset spec (computeTarget m f mark) f.currentSize
      minNotional mark).secondary := by
    rw [hplan]
  rw [legs_of_actionable hactionable]
  simp only [planReversal] at hsecond
  split_ifs at hsecond with hkept
  · -- both legs
    have hstep := stepTo_mem_uIcc (lot_pos spec.szDecimals) (computeTarget m f mark) 0
    have hnear := abs_sub_stepTo_lt (lot_pos spec.szDecimals) (computeTarget m f mark) 0
    have hside' := (same_side_of_mem_uIcc (mul_zero (computeTarget m f mark)).ge hstep).1
    cases hsecondary : p.secondary with
    | none => rw [hsecondary] at hsecond; cases hsecond
    | some leg =>
        have hopen : leg.fill 0 = stepTo (lot spec.szDecimals) (computeTarget m f mark) 0 := by
          rw [hsecondary] at hsecond
          obtain rfl := Option.some.inj hsecond
          simp only [SizingLeg.fill, stepTo, roundSize, sub_zero, decide_eq_true_eq]
        simp only [Option.toList_some, fillAll, EachLeg, and_true, hclose, hopen]
        refine ⟨plan_idle_of_near hside' hnear, hfirst, ?_, ?_, ?_, ?_⟩
        · rw [hopen]
          exact hstep
        · rw [zero_mul]
        · exact fun _ => ⟨hreverse, hsecondary⟩
        · intro hreduceOnly
          have hadds := (hshape.secondary_reverse leg hsecondary).2.1
          rw [hadds] at hreduceOnly
          cases hreduceOnly
  · -- the close leg alone
    simp only [hsecond, Option.toList_none, fillAll, EachLeg, and_true, hclose]
    exact ⟨plan_idle_of_held hkept, hfirst⟩

end

/-- **Sizing converges and never overshoots.**  From a position of whole lots, filling the orders
of a plan one after the other and planning again with the same master and follower gives nothing
to send; each order moves the position towards the target, none jumps across zero, only the second
leg of a reversal puts the position on the other side, and a reduce-only order is on the side
opposite to the position and at most as large. -/
theorem plan_converges (m : MasterExposure) (f : FollowerState) (spec : AssetSpec)
    (minNotional mark : ℚ) (haligned : IsMultiple (lot spec.szDecimals) f.currentSize) :
    let p := plan m f spec minNotional mark
    (plan m (f.at (fillAll f.currentSize p.legs)) spec minNotional
        mark).toSizingLeg.actionable = false ∧
      EachLeg (Advances (computeTarget m f mark) f.currentSize p) f.currentSize p.legs := by
  intro p
  cases hactionable : p.toSizingLeg.actionable with
  | false =>
      rw [legs_of_not_actionable hactionable]
      exact ⟨hactionable, trivial⟩
  | true =>
      rcases lt_or_ge (computeTarget m f mark * f.currentSize) 0 with hside | hside
      · exact reversal_converges rfl haligned hside hactionable
      · exact sameSide_converges rfl hside hactionable

/-- A short of 2.5 against a master that turned long: it is closed, 0.83 are opened, and nothing
is left to do. -/
theorem plan_converges_reversal :
    let p := plan ⟨0, 1, 100, 120⟩ ⟨100, 0, -5 / 2, 1⟩ ⟨2, 10, false, 10⟩ 10 100
    fillAll (-5 / 2) p.legs = 83 / 100 ∧
      (plan ⟨0, 1, 100, 120⟩ ⟨100, 0, fillAll (-5 / 2) p.legs, 1⟩ ⟨2, 10, false, 10⟩ 10
        100).toSizingLeg.actionable = false := by
  intro p
  refine ⟨by decide +kernel, ?_⟩
  exact (plan_converges ⟨0, 1, 100, 120⟩ ⟨100, 0, -5 / 2, 1⟩ ⟨2, 10, false, 10⟩ 10 100
    ⟨-250, by norm_num [lot]⟩).1

end HyperCopy

import Mathlib.Algebra.Order.Floor.Ring
import Mathlib.Algebra.Order.Archimedean.Basic
import Mathlib.Order.Interval.Set.UnorderedInterval
import Mathlib.Tactic.Linarith
import Mathlib.Tactic.Ring
import Mathlib.Tactic.FieldSimp
import Mathlib.Tactic.Positivity

/-!
# Quantising to a grid

Fixed-point decimals round a value to the multiples of a quantum `u`.  Three ways occur in
practice: toward zero (`floorTo`, stated for the magnitude, which is what a size is) and to the
nearest multiple, with ties away from zero (`halfUpTo`) or to the even one (`halfEvenTo`).

The facts used about them are few: the result is a multiple of the quantum, a multiple is left
alone, truncation never exceeds its argument and misses it by less than one quantum, rounding to
even is monotone, and the multiples are closed under sums and negation.  A move by whole quanta
(`stepTo`) stays on the way to its target and ends within a quantum of it.
-/

namespace Quantize

variable {K : Type*} [Field K] [LinearOrder K] [IsStrictOrderedRing K] [FloorRing K]

/-- `x` is an integer multiple of the quantum. -/
def IsMultiple (u x : K) : Prop := ∃ n : ℤ, x = n * u

/-- Round toward zero to a multiple of the quantum; meant for `0 ≤ x`. -/
def floorTo (u x : K) : K := ⌊x / u⌋ * u

/-- Round to the nearest multiple, ties away from zero. -/
def halfUpTo (u x : K) : K :=
  if 0 ≤ x then ⌊x / u + 1 / 2⌋ * u else -(⌊-x / u + 1 / 2⌋ * u)

variable {u x y : K}

omit [LinearOrder K] [IsStrictOrderedRing K] [FloorRing K] in
lemma IsMultiple.zero (u : K) : IsMultiple u 0 := ⟨0, by simp⟩

omit [LinearOrder K] [IsStrictOrderedRing K] [FloorRing K] in
lemma IsMultiple.neg (h : IsMultiple u x) : IsMultiple u (-x) := by
  obtain ⟨n, rfl⟩ := h
  exact ⟨-n, by push_cast; ring⟩

omit [LinearOrder K] [IsStrictOrderedRing K] [FloorRing K] in
lemma IsMultiple.add (hx : IsMultiple u x) (hy : IsMultiple u y) : IsMultiple u (x + y) := by
  obtain ⟨n, rfl⟩ := hx
  obtain ⟨m, rfl⟩ := hy
  exact ⟨n + m, by push_cast; ring⟩

omit [IsStrictOrderedRing K] in
lemma isMultiple_floorTo (u x : K) : IsMultiple u (floorTo u x) := ⟨_, rfl⟩

omit [IsStrictOrderedRing K] in
lemma isMultiple_halfUpTo (u x : K) : IsMultiple u (halfUpTo u x) := by
  unfold halfUpTo
  split_ifs
  · exact ⟨_, rfl⟩
  · exact IsMultiple.neg ⟨_, rfl⟩

lemma floorTo_le (hu : 0 < u) (x : K) : floorTo u x ≤ x := by
  have h : (⌊x / u⌋ : K) ≤ x / u := Int.floor_le _
  calc floorTo u x = ⌊x / u⌋ * u := rfl
    _ ≤ x / u * u := mul_le_mul_of_nonneg_right h hu.le
    _ = x := div_mul_cancel₀ x hu.ne'

lemma lt_floorTo_add (hu : 0 < u) (x : K) : x < floorTo u x + u := by
  have h : x / u < ⌊x / u⌋ + 1 := Int.lt_floor_add_one _
  calc x = x / u * u := (div_mul_cancel₀ x hu.ne').symm
    _ < (⌊x / u⌋ + 1) * u := mul_lt_mul_of_pos_right h hu
    _ = floorTo u x + u := by rw [floorTo]; ring

lemma floorTo_nonneg (hu : 0 < u) (hx : 0 ≤ x) : 0 ≤ floorTo u x := by
  have h : (0 : ℤ) ≤ ⌊x / u⌋ := Int.floor_nonneg.2 (div_nonneg hx hu.le)
  have h' : (0 : K) ≤ ⌊x / u⌋ := by exact_mod_cast h
  exact mul_nonneg h' hu.le

/-- A truncation that is positive truncated at least one quantum. -/
lemma le_of_floorTo_pos (hu : 0 < u) (h : 0 < floorTo u x) : u ≤ x := by
  have hfloor : 0 < ⌊x / u⌋ := by
    by_contra hle
    have hle' : (⌊x / u⌋ : K) ≤ 0 := by exact_mod_cast not_lt.1 hle
    have : floorTo u x ≤ 0 := mul_nonpos_of_nonpos_of_nonneg hle' hu.le
    exact absurd h this.not_gt
  have hone : (1 : K) ≤ ⌊x / u⌋ := by exact_mod_cast hfloor
  calc u = 1 * u := (one_mul u).symm
    _ ≤ ⌊x / u⌋ * u := mul_le_mul_of_nonneg_right hone hu.le
    _ ≤ x := floorTo_le hu x

lemma floorTo_of_isMultiple (hu : 0 < u) (h : IsMultiple u x) : floorTo u x = x := by
  obtain ⟨n, rfl⟩ := h
  rw [floorTo, mul_div_cancel_right₀ _ hu.ne', Int.floor_intCast]

lemma floorTo_floorTo (hu : 0 < u) (x : K) : floorTo u (floorTo u x) = floorTo u x :=
  floorTo_of_isMultiple hu (isMultiple_floorTo u x)

lemma halfUpTo_of_isMultiple (hu : 0 < u) (h : IsMultiple u x) : halfUpTo u x = x := by
  have hround : ∀ n : ℤ, ⌊(n : K) + 1 / 2⌋ = n := by
    intro n
    rw [Int.floor_intCast_add, Int.floor_eq_zero_iff.2 ⟨by norm_num, by norm_num⟩, add_zero]
  obtain ⟨n, rfl⟩ := h
  unfold halfUpTo
  split_ifs
  · rw [mul_div_cancel_right₀ _ hu.ne', hround]
  · have hneg : -((n : K) * u) / u = ((-n : ℤ) : K) := by
      rw [neg_div, mul_div_cancel_right₀ _ hu.ne']
      push_cast
      rfl
    rw [hneg, hround]
    push_cast
    ring

/-! ## Steps of whole quanta -/

/-- Move from `x` towards `t` by as many whole quanta as fit between them. -/
def stepTo (u t x : K) : K :=
  if x < t then x + floorTo u |t - x| else x - floorTo u |t - x|

/-- A step of whole quanta stays between where it starts and where it heads. -/
lemma stepTo_mem_uIcc (hu : 0 < u) (t x : K) : stepTo u t x ∈ Set.uIcc x t := by
  have hle := floorTo_le hu |t - x|
  have hnonneg := floorTo_nonneg hu (abs_nonneg (t - x))
  unfold stepTo
  split_ifs with h
  · rw [abs_of_pos (sub_pos.2 h)] at hle hnonneg ⊢
    rw [Set.uIcc_of_le h.le, Set.mem_Icc]
    constructor <;> linarith
  · rw [abs_of_nonpos (sub_nonpos.2 (not_lt.1 h))] at hle hnonneg ⊢
    rw [Set.uIcc_of_ge (not_lt.1 h), Set.mem_Icc]
    constructor <;> linarith

/-- What is left to go is less than a quantum. -/
lemma abs_sub_stepTo_lt (hu : 0 < u) (t x : K) : |t - stepTo u t x| < u := by
  have hle := floorTo_le hu |t - x|
  have hlt := lt_floorTo_add hu |t - x|
  unfold stepTo
  split_ifs with h
  · rw [abs_of_pos (sub_pos.2 h)] at hle hlt ⊢
    rw [abs_lt]
    constructor <;> linarith
  · rw [abs_of_nonpos (sub_nonpos.2 (not_lt.1 h))] at hle hlt ⊢
    rw [abs_lt]
    constructor <;> linarith

/-- Two values that are a quantum apart are rounded to different multiples. -/
lemma halfUpTo_ne (hu : 0 < u) (h : u ≤ |x - y|) : halfUpTo u x ≠ halfUpTo u y := by
  -- equal floors of the scaled values put the values less than a quantum apart
  have hclose : ∀ a b : K, ⌊a / u + 1 / 2⌋ = ⌊b / u + 1 / 2⌋ → |a - b| < u := by
    intro a b hfloor
    have hlt := Int.abs_sub_lt_one_of_floor_eq_floor hfloor
    have hscale : a / u + 1 / 2 - (b / u + 1 / 2) = (a - b) / u := by ring
    rwa [hscale, abs_div, abs_of_pos hu, div_lt_one hu] at hlt
  -- across zero both are rounded to zero
  have hacross : ∀ a b : K, 0 ≤ a → b < 0 →
      (⌊a / u + 1 / 2⌋ : K) * u = -(⌊-b / u + 1 / 2⌋ * u) → |a - b| < u := by
    intro a b ha hb heq
    have hcancel : (⌊a / u + 1 / 2⌋ : K) = -⌊-b / u + 1 / 2⌋ :=
      mul_right_cancel₀ hu.ne' (by linarith)
    have hcast : ⌊a / u + 1 / 2⌋ = -⌊-b / u + 1 / 2⌋ := by exact_mod_cast hcancel
    have hleft : 0 ≤ ⌊a / u + 1 / 2⌋ := Int.floor_nonneg.2 (by positivity)
    have hright : 0 ≤ ⌊-b / u + 1 / 2⌋ :=
      Int.floor_nonneg.2 (by have := div_nonneg (neg_nonneg.2 hb.le) hu.le; linarith)
    have hsmall : ∀ c : K, ⌊c / u + 1 / 2⌋ = 0 → c < u / 2 := by
      intro c hc
      have hlt := (Int.floor_eq_zero_iff.1 hc).2
      have hdiv : c / u < 1 / 2 := by linarith
      rw [div_lt_iff₀ hu] at hdiv
      linarith
    have hapos := hsmall a (by omega)
    have hbneg := hsmall (-b) (by omega)
    rw [abs_of_pos (by linarith)]
    linarith
  intro heq
  unfold halfUpTo at heq
  by_cases hx : 0 ≤ x
  · by_cases hy : 0 ≤ y
    · rw [if_pos hx, if_pos hy] at heq
      have hfloor : ⌊x / u + 1 / 2⌋ = ⌊y / u + 1 / 2⌋ := by
        exact_mod_cast mul_right_cancel₀ hu.ne' heq
      exact absurd (hclose x y hfloor) (not_lt.2 h)
    · rw [if_pos hx, if_neg hy] at heq
      exact absurd (hacross x y hx (not_le.1 hy) heq) (not_lt.2 h)
  · by_cases hy : 0 ≤ y
    · rw [if_neg hx, if_pos hy] at heq
      have hlt := hacross y x hy (not_le.1 hx) heq.symm
      rw [abs_sub_comm] at hlt
      exact absurd hlt (not_lt.2 h)
    · rw [if_neg hx, if_neg hy] at heq
      have hfloor : ⌊-x / u + 1 / 2⌋ = ⌊-y / u + 1 / 2⌋ := by
        exact_mod_cast mul_right_cancel₀ hu.ne' (neg_inj.1 heq)
      have hlt := hclose (-x) (-y) hfloor
      rw [neg_sub_neg, abs_sub_comm] at hlt
      exact absurd hlt (not_lt.2 h)

lemma floorTo_of_lt (h : 0 ≤ x) (hlt : x < u) : floorTo u x = 0 := by
  have hu : 0 < u := h.trans_lt hlt
  have hfloor : ⌊x / u⌋ = 0 := Int.floor_eq_zero_iff.2 ⟨div_nonneg h hu.le, (div_lt_one hu).2 hlt⟩
  rw [floorTo, hfloor, Int.cast_zero, zero_mul]

/-! ## Upward -/

/-- Round up to a multiple of the quantum. -/
def ceilTo (u x : K) : K := ⌈x / u⌉ * u

lemma le_ceilTo (hu : 0 < u) (x : K) : x ≤ ceilTo u x := by
  rw [ceilTo, ← div_le_iff₀ hu]
  exact Int.le_ceil _

lemma ceilTo_lt_add (hu : 0 < u) (x : K) : ceilTo u x < x + u := by
  have hlt : (⌈x / u⌉ : K) < x / u + 1 := Int.ceil_lt_add_one _
  calc ceilTo u x < (x / u + 1) * u := mul_lt_mul_of_pos_right hlt hu
    _ = x + u := by rw [add_mul, one_mul, div_mul_cancel₀ x hu.ne']

/-- What was rounded down is a whole number of quanta, and rounding up leaves it alone. -/
lemma ceil_floorTo_div (hu : 0 < u) (x : K) : ⌈floorTo u x / u⌉ = ⌊x / u⌋ := by
  rw [floorTo, mul_div_cancel_right₀ _ hu.ne', Int.ceil_intCast]

/-! ## Ties to even -/

/-- The nearest integer, ties to the even one. -/
def halfEven (x : K) : ℤ :=
  if Int.fract x < 1 / 2 then ⌊x⌋
  else if 1 / 2 < Int.fract x then ⌊x⌋ + 1
  else if 2 ∣ ⌊x⌋ then ⌊x⌋ else ⌊x⌋ + 1

/-- Round to the nearest multiple, ties to the even one. -/
def halfEvenTo (u x : K) : K := halfEven (x / u) * u

omit [IsStrictOrderedRing K] in
lemma floor_le_halfEven (x : K) : ⌊x⌋ ≤ halfEven x ∧ halfEven x ≤ ⌊x⌋ + 1 := by
  unfold halfEven
  split_ifs <;> omega

lemma halfEven_mono (h : x ≤ y) : halfEven x ≤ halfEven y := by
  have hfloor : ⌊x⌋ ≤ ⌊y⌋ := Int.floor_le_floor h
  by_cases heq : ⌊x⌋ = ⌊y⌋
  · have hfract : Int.fract x ≤ Int.fract y := by
      unfold Int.fract
      rw [heq]
      linarith
    unfold halfEven
    rw [heq]
    split_ifs <;> first | omega | (exfalso; linarith)
  · have hx := (floor_le_halfEven x).2
    have hy := (floor_le_halfEven y).1
    omega

omit [IsStrictOrderedRing K] in
lemma isMultiple_halfEvenTo (u x : K) : IsMultiple u (halfEvenTo u x) := ⟨_, rfl⟩

lemma halfEvenTo_mono (hu : 0 < u) (h : x ≤ y) : halfEvenTo u x ≤ halfEvenTo u y := by
  have hdiv : halfEven (x / u) ≤ halfEven (y / u) := halfEven_mono (by gcongr)
  have hcast : (halfEven (x / u) : K) ≤ halfEven (y / u) := by exact_mod_cast hdiv
  exact mul_le_mul_of_nonneg_right hcast hu.le

lemma halfEvenTo_of_isMultiple (hu : 0 < u) (h : IsMultiple u x) : halfEvenTo u x = x := by
  obtain ⟨n, rfl⟩ := h
  have hround : halfEven ((n : K)) = n := by
    simp [halfEven]
  rw [halfEvenTo, mul_div_cancel_right₀ _ hu.ne', hround]

end Quantize

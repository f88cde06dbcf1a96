import HyperCopy.Library.Quantize
import Mathlib.Algebra.Order.Group.Abs

/-!
# Rounding to the nearest point, once and twice

Rounding half up to a grid gives a nearest point of the grid (`halfUpTo_nearest`).  Rounding twice,
first to a grid that refines the second one, does not: what is just under a midpoint of the coarse
grid is lifted to the midpoint by the first rounding and over it by the second.
`le_halfUpTo_halfUpTo_iff` says by how much: the second rounding goes up half a quantum of the fine
grid too early.
-/

namespace Quantize

variable {K : Type*} [Field K] [LinearOrder K] [IsStrictOrderedRing K] [FloorRing K]
variable {u v x y : K}

/-- `y` is a point of `S` with none closer to `x`. -/
structure IsNearest (S : Set K) (x y : K) : Prop where
  mem : y ∈ S
  le : ∀ z ∈ S, |x - y| ≤ |x - z|

omit [IsStrictOrderedRing K] [FloorRing K] in
/-- What is nearest among more points is nearest among fewer. -/
lemma IsNearest.mono {S T : Set K} (h : IsNearest T x y) (hsub : S ⊆ T) (hy : y ∈ S) :
    IsNearest S x y :=
  ⟨hy, fun z hz => h.le z (hsub hz)⟩

omit [LinearOrder K] [IsStrictOrderedRing K] [FloorRing K] in
lemma IsMultiple.trans (huv : IsMultiple u v) (hv : IsMultiple v x) : IsMultiple u x := by
  obtain ⟨m, rfl⟩ := huv
  obtain ⟨k, rfl⟩ := hv
  exact ⟨k * m, by push_cast; ring⟩

/-- Where rounding half up reaches a point of the grid: half a quantum before it. -/
lemma le_halfUpTo_iff (hu : 0 < u) (hx : 0 ≤ x) (m : ℤ) :
    (m : K) * u ≤ halfUpTo u x ↔ (m : K) * u - u / 2 ≤ x := by
  rw [halfUpTo, if_pos hx, mul_le_mul_iff_left₀ hu, Int.cast_le, Int.le_floor]
  rw [← sub_le_iff_le_add, le_div_iff₀ hu, sub_mul]
  constructor <;> intro h <;> linarith

lemma halfUpTo_nonneg (hu : 0 < u) (hx : 0 ≤ x) : 0 ≤ halfUpTo u x := by
  have h := (le_halfUpTo_iff hu hx 0).2 (by rw [Int.cast_zero, zero_mul]; linarith)
  rwa [Int.cast_zero, zero_mul] at h

/-- Rounding half up misses by at most half a quantum. -/
lemma abs_sub_halfUpTo_le (hu : 0 < u) (hx : 0 ≤ x) : |x - halfUpTo u x| ≤ u / 2 := by
  obtain ⟨m, hm⟩ := isMultiple_halfUpTo u x
  have hlow := (le_halfUpTo_iff hu hx m).1 hm.ge
  have hhigh : ¬ ((m + 1 : ℤ) : K) * u ≤ halfUpTo u x := by
    rw [hm, mul_le_mul_iff_left₀ hu, Int.cast_le]
    omega
  rw [le_halfUpTo_iff hu hx, Int.cast_add, Int.cast_one, add_mul, one_mul, not_le] at hhigh
  rw [hm, abs_le]
  constructor <;> linarith

/-- Two points of a grid that differ are a quantum apart. -/
lemma quantum_le_abs_sub (hu : 0 < u) (hx : IsMultiple u x) (hy : IsMultiple u y) (hne : x ≠ y) :
    u ≤ |x - y| := by
  obtain ⟨m, rfl⟩ := hx
  obtain ⟨k, rfl⟩ := hy
  have hdiff : m - k ≠ 0 := by
    intro h
    exact hne (by rw [sub_eq_zero.1 h])
  have hone : (1 : K) ≤ |((m - k : ℤ) : K)| := by
    rw [← Int.cast_abs]
    exact_mod_cast Int.one_le_abs hdiff
  calc u = 1 * u := (one_mul u).symm
    _ ≤ |((m - k : ℤ) : K)| * u := mul_le_mul_of_nonneg_right hone hu.le
    _ = |(m : K) * u - k * u| := by
        rw [Int.cast_sub, ← sub_mul, abs_mul, abs_of_pos hu]

/-- A point of the grid within half a quantum is a nearest one. -/
lemma isNearest_of_abs_le (hu : 0 < u) (hy : IsMultiple u y) (h : |x - y| ≤ u / 2) :
    IsNearest {z | IsMultiple u z} x y := by
  refine ⟨hy, fun z hz => ?_⟩
  by_cases hne : y = z
  · rw [hne]
  · have hapart := quantum_le_abs_sub hu hy hz hne
    have htriangle := abs_sub_le y x z
    rw [abs_sub_comm y x] at htriangle
    linarith

/-- Rounding half up gives a nearest point of the grid. -/
lemma halfUpTo_nearest (hu : 0 < u) (hx : 0 ≤ x) :
    IsNearest {z | IsMultiple u z} x (halfUpTo u x) :=
  isNearest_of_abs_le hu (isMultiple_halfUpTo u x) (abs_sub_halfUpTo_le hu hx)

/-- Within less than half a quantum there is one point of the grid, and rounding finds it. -/
lemma halfUpTo_eq_of_abs_lt (hu : 0 < u) (hx : 0 ≤ x) (hy : IsMultiple u y)
    (h : |x - y| < u / 2) : halfUpTo u x = y := by
  by_contra hne
  have hapart := quantum_le_abs_sub hu (isMultiple_halfUpTo u x) hy hne
  have htriangle := abs_sub_le (halfUpTo u x) x y
  have hround := abs_sub_halfUpTo_le hu hx
  rw [abs_sub_comm] at hround
  linarith

/-- **Rounding twice.**  Through a finer grid, which contains the midpoints of the coarse one, a
point of the coarse grid is reached half a fine quantum too early. -/
lemma le_halfUpTo_halfUpTo_iff (hu : 0 < u) (hv : 0 < v) (hx : 0 ≤ x) {m : ℤ}
    (hmid : IsMultiple u ((m : K) * v - v / 2)) :
    (m : K) * v ≤ halfUpTo v (halfUpTo u x) ↔ (m : K) * v - v / 2 - u / 2 ≤ x := by
  obtain ⟨k, hk⟩ := hmid
  rw [le_halfUpTo_iff hv (halfUpTo_nonneg hu hx), hk, le_halfUpTo_iff hu hx]

end Quantize

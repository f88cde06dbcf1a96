import HyperCopy.Library.Quantize
import Mathlib.Data.Int.Log
import Mathlib.Data.Rat.Floor

/-!
# Decimal arithmetic of a fixed precision

A decimal context keeps a number of significant digits: the quantum an exact result is rounded to
is set by the place of its first digit, and ties go to the even digit.  What is used of it is that
rounding does not carry a result past a power of ten it does not exceed.
-/

namespace DecimalContext

open Quantize

/-- The unit of the last digit kept of `x`. -/
def quantum (digits : ℕ) (x : ℚ) : ℚ := (10 : ℚ) ^ (Int.log 10 |x| + 1 - digits)

/-- Round to so many significant digits, ties to even. -/
def rounded (digits : ℕ) (x : ℚ) : ℚ :=
  if x = 0 then 0 else halfEvenTo (quantum digits x) x

variable {digits : ℕ} {x : ℚ}

lemma quantum_pos (digits : ℕ) (x : ℚ) : 0 < quantum digits x := by
  exact zpow_pos (by norm_num) _

/-- A power of ten that bounds a result is a multiple of the quantum of the result. -/
lemma isMultiple_zpow {k : ℤ} (hdigits : 0 < digits) (hx : x ≠ 0) (h : |x| ≤ (10 : ℚ) ^ k) :
    IsMultiple (quantum digits x) ((10 : ℚ) ^ k) := by
  have hlog : Int.log 10 |x| ≤ k := by
    calc Int.log 10 |x| ≤ Int.log 10 ((10 : ℚ) ^ k) := Int.log_mono_right (abs_pos.2 hx) h
      _ = k := by
        have := Int.log_zpow (R := ℚ) (b := 10) (by decide) k
        exact_mod_cast this
  obtain ⟨n, hn⟩ := Int.eq_ofNat_of_zero_le
    (show 0 ≤ k - (Int.log 10 |x| + 1 - digits) by omega)
  refine ⟨(10 : ℤ) ^ n, ?_⟩
  rw [quantum]
  push_cast
  rw [← zpow_natCast, ← hn, ← zpow_add₀ (by norm_num), sub_add_cancel]

/-- A power of ten is left as it is. -/
lemma rounded_zpow (hdigits : 0 < digits) (k : ℤ) : rounded digits ((10 : ℚ) ^ k) = (10 : ℚ) ^ k := by
  have hpos : (0 : ℚ) < (10 : ℚ) ^ k := zpow_pos (by norm_num) k
  rw [rounded, if_neg hpos.ne']
  exact halfEvenTo_of_isMultiple (quantum_pos digits _)
    (isMultiple_zpow hdigits hpos.ne' (abs_of_pos hpos).le)

/-- Rounding keeps a result within a power of ten. -/
lemma rounded_le_zpow {k : ℤ} (hdigits : 0 < digits) (h : |x| ≤ (10 : ℚ) ^ k) :
    rounded digits x ≤ (10 : ℚ) ^ k := by
  by_cases hx : x = 0
  · rw [rounded, if_pos hx]
    exact (zpow_pos (by norm_num) k).le
  · rw [rounded, if_neg hx]
    calc halfEvenTo (quantum digits x) x
        ≤ halfEvenTo (quantum digits x) ((10 : ℚ) ^ k) :=
          halfEvenTo_mono (quantum_pos digits x) ((le_abs_self x).trans h)
      _ = (10 : ℚ) ^ k :=
          halfEvenTo_of_isMultiple (quantum_pos digits x) (isMultiple_zpow hdigits hx h)

end DecimalContext

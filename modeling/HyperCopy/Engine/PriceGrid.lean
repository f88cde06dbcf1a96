import HyperCopy.Engine.Sizing
import HyperCopy.Library.Nearest

/-!
# Which price `roundPrice` returns

`roundPrice` of `engine/sizing.py` rounds to five significant figures and then to the places of the
market, and keeps the nearest integer where that is closer.  Above a tenth of the fifth place of
the market the second rounding does nothing, and the answer is the nearest price the exchange
accepts.  Below it the places are the coarser grid, and the two roundings in a row go up half a
significant unit before the midpoint of two prices: there the answer is the farther of the two
(`DoubleRounded`), unless the nearer one is an integer, which the last comparison restores, or is
zero, which is no price.

Prices are rationals here.  In the source they are decimals of at most 28 digits, since every caller
passes a product rounded to the precision of the context, and below `10 ^ 22`, where no `quantize`
runs out of digits; the two distances that are compared are then exact.
-/

namespace HyperCopy

open Quantize

/-- The step of the places a market's prices may have. -/
def placeQuantum (szDecimals : ℕ) : ℚ := lot (perpMaxPriceDecimals - szDecimals)

/-- The unit of the fifth significant figure of a price. -/
def sigQuantum (price : ℚ) : ℚ := 10 ^ (adjusted price - (maxPriceSigFigs - 1 : ℕ))

/-- At most five significant figures. -/
def FewSigFigs (x : ℚ) : Prop := ∃ m e : ℤ, |m| < 10 ^ maxPriceSigFigs ∧ x = m * 10 ^ e

/-- A positive price the exchange accepts. -/
structure ValidPrice (szDecimals : ℕ) (x : ℚ) : Prop where
  pos : 0 < x
  grid : IsMultiple 1 x ∨ FewSigFigs x ∧ IsMultiple (placeQuantum szDecimals) x

/-- The candidate on the grids of significant figures and places. -/
def sigCandidate (price : ℚ) (szDecimals : ℕ) : ℚ :=
  halfUpTo (placeQuantum szDecimals) (halfUpTo (sigQuantum price) price)

/-! ## Powers of ten -/

lemma lot_eq_zpow (n : ℕ) : lot n = 10 ^ (-n : ℤ) := by
  rw [lot, zpow_neg, zpow_natCast]

lemma zpow_ten_pos (a : ℤ) : (0 : ℚ) < 10 ^ a := zpow_pos (by norm_num) a

lemma isMultiple_zpow {a b : ℤ} (h : a ≤ b) : IsMultiple ((10 : ℚ) ^ a) (10 ^ b) := by
  refine ⟨10 ^ (b - a).toNat, ?_⟩
  rw [Int.cast_pow, Int.cast_ofNat, ← zpow_natCast, Int.toNat_of_nonneg (by omega),
    ← zpow_add₀ (by norm_num)]
  congr 1
  omega

/-- The midpoints of a grid of tens lie on the finer grids of tens. -/
lemma isMultiple_midpoint {a b : ℤ} (h : a < b) (m : ℤ) :
    IsMultiple ((10 : ℚ) ^ a) ((m : ℚ) * 10 ^ b - 10 ^ b / 2) := by
  have hfive : IsMultiple ((10 : ℚ) ^ a) (5 * 10 ^ (b - 1)) := by
    obtain ⟨k, hk⟩ := isMultiple_zpow (a := a) (b := b - 1) (by omega)
    exact ⟨5 * k, by rw [hk]; push_cast; ring⟩
  have hten : (10 : ℚ) ^ b = 10 * 10 ^ (b - 1) := by
    rw [← zpow_one_add₀ (by norm_num)]
    congr 1
    omega
  obtain ⟨k, hk⟩ := hfive
  refine ⟨(2 * m - 1) * k, ?_⟩
  calc (m : ℚ) * 10 ^ b - 10 ^ b / 2 = (2 * m - 1) * (5 * 10 ^ (b - 1)) := by rw [hten]; ring
    _ = ((2 * m - 1) * k : ℤ) * 10 ^ a := by rw [hk]; push_cast; ring

lemma placeQuantum_eq (n : ℕ) : placeQuantum n = 10 ^ (-(6 - n : ℕ) : ℤ) := lot_eq_zpow _

lemma placeQuantum_pos (n : ℕ) : 0 < placeQuantum n := lot_pos _

lemma placeQuantum_le_one (n : ℕ) : placeQuantum n ≤ 1 := by
  rw [placeQuantum_eq]
  exact zpow_le_one_of_nonpos₀ (by norm_num) (by omega)

lemma isMultiple_placeQuantum_one (n : ℕ) : IsMultiple (placeQuantum n) 1 := by
  rw [placeQuantum_eq, ← zpow_zero (10 : ℚ)]
  exact isMultiple_zpow (by omega)

lemma sigQuantum_eq (price : ℚ) : sigQuantum price = 10 ^ (adjusted price - 4) := rfl

lemma sigQuantum_pos (price : ℚ) : 0 < sigQuantum price := zpow_ten_pos _

lemma zpow_adjusted_le {price : ℚ} (h : 0 < price) : (10 : ℚ) ^ adjusted price ≤ price := by
  exact_mod_cast Int.zpow_log_le_self (b := 10) (by norm_num) h

lemma lt_zpow_adjusted (price : ℚ) : price < 10 ^ (adjusted price + 1) := by
  exact_mod_cast Int.lt_zpow_succ_log_self (b := 10) (by norm_num) price

/-- Every valid price lies on the grid of the market's places. -/
lemma ValidPrice.isMultiple {n : ℕ} {x : ℚ} (h : ValidPrice n x) :
    IsMultiple (placeQuantum n) x := by
  obtain hint | ⟨-, hplaces⟩ := h.grid
  · exact (isMultiple_placeQuantum_one n).trans hint
  · exact hplaces

/-! ## The two candidates -/

section

variable {price r : ℚ} {n : ℕ}

/-- What `roundPrice` returned is the closer one of its two candidates. -/
lemma roundPrice_ok (h : roundPrice price n = .ok r) :
    0 < price ∧ 0 < r ∧
      (0 < halfUpTo 1 price ∧ |price - halfUpTo 1 price| < |price - sigCandidate price n| ∧
          r = halfUpTo 1 price ∨
        ¬ (0 < halfUpTo 1 price ∧ |price - halfUpTo 1 price| < |price - sigCandidate price n|) ∧
          r = sigCandidate price n) := by
  have hpos := roundPrice_pos h
  simp only [roundPrice] at h
  split_ifs at h with hprice hcloser hzero hzero
  · obtain rfl := Except.ok.inj h
    exact ⟨not_le.1 hprice, hpos, Or.inl ⟨hcloser.1, hcloser.2, rfl⟩⟩
  · obtain rfl := Except.ok.inj h
    exact ⟨not_le.1 hprice, hpos, Or.inr ⟨hcloser, rfl⟩⟩

lemma isMultiple_sigCandidate (price : ℚ) (n : ℕ) :
    IsMultiple (placeQuantum n) (sigCandidate price n) := isMultiple_halfUpTo _ _

/-- Without a positive integer candidate the price is less than a half. -/
lemma lt_half_of_no_integer (hprice : 0 < price) (h : ¬ 0 < halfUpTo 1 price) :
    price < 1 / 2 := by
  have hone := le_halfUpTo_iff one_pos hprice.le 1
  by_contra hle
  have := hone.2 (by push_cast; linarith)
  norm_num at this
  linarith

/-- The rounding to significant figures keeps the magnitude. -/
lemma sigRounded_bounds (hprice : 0 < price) :
    (10 : ℚ) ^ adjusted price ≤ halfUpTo (sigQuantum price) price ∧
      halfUpTo (sigQuantum price) price ≤ 10 ^ (adjusted price + 1) := by
  have hq := sigQuantum_pos price
  have hlow : (10 : ℚ) ^ adjusted price = ((10 ^ 4 : ℤ) : ℚ) * sigQuantum price := by
    rw [sigQuantum_eq, zpow_sub₀ (by norm_num)]
    norm_num
    ring
  have hhigh : (10 : ℚ) ^ (adjusted price + 1) = ((10 ^ 5 : ℤ) : ℚ) * sigQuantum price := by
    rw [zpow_add_one₀ (by norm_num), hlow]
    push_cast
    ring
  constructor
  · rw [hlow, le_halfUpTo_iff hq hprice.le, ← hlow]
    linarith [zpow_adjusted_le hprice]
  · obtain ⟨m, hm⟩ := isMultiple_halfUpTo (sigQuantum price) price
    rw [hm, hhigh, mul_le_mul_iff_left₀ hq, Int.cast_le]
    by_contra hover
    have hnext : ((10 ^ 5 + 1 : ℤ) : ℚ) * sigQuantum price ≤
        halfUpTo (sigQuantum price) price := by
      rw [hm, mul_le_mul_iff_left₀ hq, Int.cast_le]
      omega
    rw [le_halfUpTo_iff hq hprice.le, Int.cast_add, add_mul, ← hhigh] at hnext
    have := lt_zpow_adjusted price
    push_cast at hnext
    linarith

/-! ## Where the places are the finer grid -/

/-- A price with few significant figures lies on the grid of the fifth figure, or below the
magnitude. -/
lemma FewSigFigs.isMultiple_or_lt {x : ℚ} (h : FewSigFigs x) (price : ℚ) :
    IsMultiple (sigQuantum price) x ∨ x < 10 ^ adjusted price := by
  obtain ⟨m, e, hm, rfl⟩ := h
  by_cases he : adjusted price - 4 ≤ e
  · left
    obtain ⟨k, hk⟩ := isMultiple_zpow he
    exact ⟨m * k, by rw [hk, sigQuantum_eq]; push_cast; ring⟩
  · right
    have hlt : (m : ℚ) < 10 ^ (5 : ℤ) := by
      have : (m : ℤ) < 10 ^ 5 := lt_of_le_of_lt (le_abs_self m) hm
      exact_mod_cast this
    calc (m : ℚ) * 10 ^ e < 10 ^ (5 : ℤ) * 10 ^ e :=
          mul_lt_mul_of_pos_right hlt (zpow_ten_pos e)
      _ = 10 ^ (5 + e) := (zpow_add₀ (by norm_num) _ _).symm
      _ ≤ 10 ^ adjusted price := zpow_le_zpow_right₀ (by norm_num) (by omega)

lemma sigCandidate_of_fine (h : placeQuantum n ≤ sigQuantum price) :
    sigCandidate price n = halfUpTo (sigQuantum price) price := by
  refine halfUpTo_of_isMultiple (placeQuantum_pos n) ?_
  refine IsMultiple.trans ?_ (isMultiple_halfUpTo _ _)
  rw [placeQuantum_eq, sigQuantum_eq] at h ⊢
  exact isMultiple_zpow ((zpow_le_zpow_iff_right₀ (by norm_num)).1 h)

/-- The rounding to significant figures is nearest among the prices of few figures. -/
lemma sigRounded_le (hprice : 0 < price) {x : ℚ} (h : FewSigFigs x) :
    |price - halfUpTo (sigQuantum price) price| ≤ |price - x| := by
  have hnearest := halfUpTo_nearest (sigQuantum_pos price) hprice.le
  obtain hgrid | hbelow := h.isMultiple_or_lt price
  · exact hnearest.le x hgrid
  · have hmagnitude := zpow_adjusted_le hprice
    have hten : IsMultiple (sigQuantum price) (10 ^ adjusted price) := isMultiple_zpow (by omega)
    have hle := hnearest.le _ hten
    rw [abs_of_nonneg (sub_nonneg.2 hmagnitude)] at hle
    rw [abs_of_pos (a := price - x) (by linarith)]
    linarith

/-- A few points of a grid of tens have few figures. -/
lemma fewSigFigs_of_le {a : ℤ} {x : ℚ} (hgrid : IsMultiple ((10 : ℚ) ^ a) x) (hpos : 0 < x)
    (hle : x ≤ 10 ^ (a + 5)) : FewSigFigs x := by
  obtain ⟨m, rfl⟩ := hgrid
  have hten := zpow_ten_pos a
  have hmpos : 0 < m := by
    have := pos_of_mul_pos_left hpos hten.le
    exact_mod_cast this
  have hmle : m ≤ 10 ^ 5 := by
    rw [add_comm, zpow_add₀ (by norm_num), mul_le_mul_iff_left₀ hten] at hle
    exact_mod_cast hle
  rcases hmle.lt_or_eq with hlt | heq
  · refine ⟨m, a, ?_, rfl⟩
    rwa [abs_of_pos hmpos]
  · refine ⟨1, a + 5, by norm_num [maxPriceSigFigs], ?_⟩
    rw [heq, add_comm, zpow_add₀ (by norm_num)]
    norm_num

lemma validPrice_of_le {x : ℚ} (hgrid : IsMultiple (placeQuantum n) x) (hpos : 0 < x)
    (hle : x ≤ 10 ^ (-(6 - n : ℕ) + 5 : ℤ)) : ValidPrice n x := by
  refine ⟨hpos, Or.inr ⟨?_, hgrid⟩⟩
  rw [placeQuantum_eq] at hgrid
  exact fewSigFigs_of_le hgrid hpos hle

lemma validPrice_integer {x : ℚ} (hgrid : IsMultiple 1 x) (hpos : 0 < x) : ValidPrice n x :=
  ⟨hpos, Or.inl hgrid⟩

/-- Where the places are the finer grid the answer is always a nearest price. -/
lemma nearest_of_fine (hfine : placeQuantum n ≤ sigQuantum price)
    (h : roundPrice price n = .ok r) : IsNearest {x | ValidPrice n x} price r := by
  obtain ⟨hprice, hpos, hcandidate⟩ := roundPrice_ok h
  have hsig := sigCandidate_of_fine hfine
  have hinteger : IsNearest {z | IsMultiple 1 z} price (halfUpTo 1 price) :=
    halfUpTo_nearest one_pos hprice.le
  have hvalid : 0 < sigCandidate price n → ValidPrice n (sigCandidate price n) := by
    intro hsigPos
    refine ⟨hsigPos, Or.inr ⟨?_, isMultiple_sigCandidate price n⟩⟩
    rw [hsig] at hsigPos ⊢
    refine fewSigFigs_of_le (a := adjusted price - 4) (isMultiple_halfUpTo _ _) hsigPos ?_
    exact (sigRounded_bounds hprice).2.trans
      (zpow_le_zpow_right₀ (by norm_num) (by omega))
  obtain ⟨hintPos, hcloser, rfl⟩ | ⟨hkept, rfl⟩ := hcandidate
  · refine ⟨validPrice_integer (isMultiple_halfUpTo _ _) hintPos, fun x hx => ?_⟩
    obtain hint | ⟨hfigs, -⟩ := hx.grid
    · exact hinteger.le x hint
    · rw [hsig] at hcloser
      exact hcloser.le.trans (sigRounded_le hprice hfigs)
  · refine ⟨hvalid hpos, fun x hx => ?_⟩
    obtain hint | ⟨hfigs, -⟩ := hx.grid
    · by_cases hintPos : 0 < halfUpTo 1 price
      · have hsigCloser := not_lt.1 fun hcloser => hkept ⟨hintPos, hcloser⟩
        exact hsigCloser.trans (hinteger.le x hint)
      · -- below a half every positive integer is far away
        have hhalf := lt_half_of_no_integer hprice hintPos
        have hx1 : 1 ≤ x := by
          obtain ⟨k, rfl⟩ := hint
          have hk := hx.pos
          rw [mul_one] at hk ⊢
          exact_mod_cast hk
        have hmagnitude := zpow_adjusted_le hprice
        have hten := zpow_ten_pos (adjusted price)
        have hle := (halfUpTo_nearest (sigQuantum_pos price) hprice.le).le (10 ^ adjusted price)
          (isMultiple_zpow (by omega))
        rw [abs_of_nonneg (sub_nonneg.2 hmagnitude)] at hle
        rw [hsig, abs_sub_comm price x, abs_of_pos (a := x - price) (by linarith)]
        linarith
    · rw [hsig]
      exact sigRounded_le hprice hfigs

/-! ## Where the places are the coarser grid -/

/-- Where the second rounding goes up too early: within half a unit of the fifth figure under the
midpoint of two prices of the market, the lower one neither an integer nor zero. -/
def DoubleRounded (n : ℕ) (price : ℚ) : Prop :=
  sigQuantum price < placeQuantum n ∧ ∃ k : ℤ, 0 < k ∧ ¬ IsMultiple 1 ((k : ℚ) * placeQuantum n) ∧
    (k : ℚ) * placeQuantum n + placeQuantum n / 2 - sigQuantum price / 2 ≤ price ∧
    price < (k : ℚ) * placeQuantum n + placeQuantum n / 2

lemma exponent_lt_of_coarse (h : sigQuantum price < placeQuantum n) :
    adjusted price - 4 < -(6 - n : ℕ) := by
  rw [sigQuantum_eq, placeQuantum_eq] at h
  exact (zpow_lt_zpow_iff_right₀ (by norm_num)).1 h

/-- Where the two roundings reach a price of the market. -/
lemma le_sigCandidate_iff (hprice : 0 < price) (h : sigQuantum price < placeQuantum n) (m : ℤ) :
    (m : ℚ) * placeQuantum n ≤ sigCandidate price n ↔
      (m : ℚ) * placeQuantum n - placeQuantum n / 2 - sigQuantum price / 2 ≤ price := by
  refine le_halfUpTo_halfUpTo_iff (sigQuantum_pos price) (placeQuantum_pos n) hprice.le ?_
  rw [placeQuantum_eq, sigQuantum_eq]
  exact isMultiple_midpoint (exponent_lt_of_coarse h) m

/-- The prices around a coarse one have few figures. -/
lemma validPrice_of_coarse (hcoarse : sigQuantum price < placeQuantum n) {x : ℚ}
    (hgrid : IsMultiple (placeQuantum n) x) (hpos : 0 < x)
    (hle : x ≤ price + placeQuantum n) : ValidPrice n x := by
  refine validPrice_of_le hgrid hpos ?_
  have hexp := exponent_lt_of_coarse hcoarse
  have hten := zpow_ten_pos (-(6 - n : ℕ))
  have hmagnitude : (10 : ℚ) ^ (adjusted price + 1) ≤ 10 ^ (-(6 - n : ℕ) + 4 : ℤ) :=
    zpow_le_zpow_right₀ (by norm_num) (by omega)
  have hfour : (10 : ℚ) ^ (-(6 - n : ℕ) + 4 : ℤ) = 10 ^ (-(6 - n : ℕ) : ℤ) * 10000 := by
    rw [zpow_add₀ (by norm_num)]
    norm_num
  have hfive : (10 : ℚ) ^ (-(6 - n : ℕ) + 5 : ℤ) = 10 ^ (-(6 - n : ℕ) : ℤ) * 100000 := by
    rw [zpow_add₀ (by norm_num)]
    norm_num
  have hlt := lt_zpow_adjusted price
  rw [placeQuantum_eq] at hle
  rw [hfour] at hmagnitude
  rw [hfive]
  linarith

lemma int_lt_of_mul_lt {k m : ℤ} {q : ℚ} (hq : 0 < q) (h : (k : ℚ) * q < m * q) : k < m := by
  have := lt_of_mul_lt_mul_right h hq.le
  exact_mod_cast this

/-- The prices that the two roundings take to `s` steps of the market. -/
lemma candidate_window (hprice : 0 < price) (hcoarse : sigQuantum price < placeQuantum n) {s : ℤ}
    (hs : sigCandidate price n = s * placeQuantum n) :
    (s : ℚ) * placeQuantum n - placeQuantum n / 2 - sigQuantum price / 2 ≤ price ∧
      price < (s : ℚ) * placeQuantum n + placeQuantum n / 2 - sigQuantum price / 2 := by
  have hnext : ¬ ((s + 1 : ℤ) : ℚ) * placeQuantum n ≤ sigCandidate price n := by
    rw [hs, mul_le_mul_iff_left₀ (placeQuantum_pos n), Int.cast_le]
    omega
  rw [le_sigCandidate_iff hprice hcoarse] at hnext
  push_cast at hnext
  exact ⟨(le_sigCandidate_iff hprice hcoarse s).1 hs.ge, by linarith⟩

/-- The candidate is `s` steps of the market: `s` is the only step whose half-early window can
hold the price. -/
lemma window_unique (hprice : 0 < price) (hcoarse : sigQuantum price < placeQuantum n) {s k : ℤ}
    (hs : sigCandidate price n = s * placeQuantum n)
    (hlow : (k : ℚ) * placeQuantum n + placeQuantum n / 2 - sigQuantum price / 2 ≤ price)
    (hhigh : price < (k : ℚ) * placeQuantum n + placeQuantum n / 2) : k = s - 1 := by
  have hq := placeQuantum_pos n
  have hreach := (le_sigCandidate_iff hprice hcoarse s).1 hs.ge
  have hreached := (le_sigCandidate_iff hprice hcoarse (k + 1)).2 (by push_cast; linarith)
  rw [hs] at hreached
  have hle : k + 1 ≤ s := by
    have := le_of_mul_le_mul_right hreached hq
    exact_mod_cast this
  have hlt : s < k + 2 := by
    refine int_lt_of_mul_lt hq ?_
    push_cast
    linarith
  omega

/-- A candidate within half a step is what is returned, and it is nearest. -/
lemma nearest_of_within (hcoarse : sigQuantum price < placeQuantum n)
    (h : roundPrice price n = .ok r)
    (hwithin : |price - sigCandidate price n| ≤ placeQuantum n / 2) :
    IsNearest {x | ValidPrice n x} price r := by
  obtain ⟨hprice, hpos, hcandidate⟩ := roundPrice_ok h
  have hnearest := isNearest_of_abs_le (placeQuantum_pos n) (isMultiple_sigCandidate price n)
    hwithin
  obtain ⟨-, hcloser, -⟩ | ⟨-, rfl⟩ := hcandidate
  · have hint : IsMultiple (placeQuantum n) (halfUpTo 1 price) :=
      (isMultiple_placeQuantum_one n).trans (isMultiple_halfUpTo 1 price)
    exact absurd (hnearest.le _ hint) hcloser.not_ge
  · refine hnearest.mono (fun x hx => hx.isMultiple) ?_
    refine validPrice_of_coarse hcoarse (isMultiple_sigCandidate price n) hpos ?_
    have hq := placeQuantum_pos n
    have := (abs_le.1 hwithin).1
    linarith

/-- What is returned is a price of the market. -/
lemma validPrice_returned (hcoarse : sigQuantum price < placeQuantum n)
    (h : roundPrice price n = .ok r) : IsMultiple (placeQuantum n) r ∧ ValidPrice n r := by
  obtain ⟨hprice, hpos, ⟨hintPos, -, rfl⟩ | ⟨-, rfl⟩⟩ := roundPrice_ok h
  · have hint := isMultiple_halfUpTo (1 : ℚ) price
    exact ⟨(isMultiple_placeQuantum_one n).trans hint, validPrice_integer hint hintPos⟩
  · have hgrid := isMultiple_sigCandidate price n
    refine ⟨hgrid, validPrice_of_coarse hcoarse hgrid hpos ?_⟩
    obtain ⟨s, hs⟩ := hgrid
    have hreach := (le_sigCandidate_iff hprice hcoarse s).1 hs.ge
    have hq := placeQuantum_pos n
    rw [hs]
    linarith

/-! ### Just under a midpoint

The candidate is `s` steps of the market and the price is under the midpoint below it, so the
nearest point of the market's grid is `s - 1` steps. -/

/-- Where the lower price is no integer, it is nearer than what is returned. -/
lemma early_fraction {s : ℤ} (hcoarse : sigQuantum price < placeQuantum n)
    (h : roundPrice price n = .ok r) (hs : sigCandidate price n = s * placeQuantum n)
    (hnear : |price - ((s - 1 : ℤ) : ℚ) * placeQuantum n| < placeQuantum n / 2)
    (hvalid : ValidPrice n (((s - 1 : ℤ) : ℚ) * placeQuantum n))
    (hint : ¬ IsMultiple 1 (((s - 1 : ℤ) : ℚ) * placeQuantum n)) :
    ¬ IsNearest {x | ValidPrice n x} price r := by
  have hne : r ≠ ((s - 1 : ℤ) : ℚ) * placeQuantum n := by
    rintro rfl
    obtain ⟨-, -, ⟨-, -, heq⟩ | ⟨-, heq⟩⟩ := roundPrice_ok h
    · exact hint (heq ▸ isMultiple_halfUpTo 1 price)
    · rw [hs, mul_left_inj' (placeQuantum_pos n).ne', Int.cast_inj] at heq
      omega
  intro hnearest
  have hle := hnearest.le _ hvalid
  have hapart := quantum_le_abs_sub (placeQuantum_pos n) (validPrice_returned hcoarse h).1
    ⟨_, rfl⟩ hne
  have htriangle := abs_sub_le r price (((s - 1 : ℤ) : ℚ) * placeQuantum n)
  rw [abs_sub_comm r price] at htriangle
  linarith

/-- Where the lower price is an integer, the integer candidate is returned. -/
lemma early_integer {s : ℤ} (h : roundPrice price n = .ok r)
    (hnear : |price - ((s - 1 : ℤ) : ℚ) * placeQuantum n| < placeQuantum n / 2)
    (hfar : placeQuantum n / 2 < |price - sigCandidate price n|)
    (hvalid : ValidPrice n (((s - 1 : ℤ) : ℚ) * placeQuantum n))
    (hint : IsMultiple 1 (((s - 1 : ℤ) : ℚ) * placeQuantum n)) :
    IsNearest {x | ValidPrice n x} price r := by
  obtain ⟨hprice, -, hcandidate⟩ := roundPrice_ok h
  have hinteger : halfUpTo 1 price = ((s - 1 : ℤ) : ℚ) * placeQuantum n := by
    refine halfUpTo_eq_of_abs_lt one_pos hprice.le hint ?_
    linarith [placeQuantum_le_one n]
  rw [hinteger] at hcandidate
  obtain ⟨-, -, rfl⟩ | ⟨hkept, -⟩ := hcandidate
  · have hnearest := isNearest_of_abs_le (placeQuantum_pos n) ⟨_, rfl⟩ hnear.le
    exact hnearest.mono (fun x hx => hx.isMultiple) hvalid
  · exact absurd ⟨hvalid.pos, hnear.trans hfar⟩ hkept

/-- Where the lower point is zero, the least price of the market is returned. -/
lemma early_least (hcoarse : sigQuantum price < placeQuantum n) (h : roundPrice price n = .ok r)
    (hs : sigCandidate price n = placeQuantum n) (hearly : price < placeQuantum n / 2) :
    IsNearest {x | ValidPrice n x} price r := by
  obtain ⟨hprice, -, hcandidate⟩ := roundPrice_ok h
  have hzero : halfUpTo 1 price = 0 := by
    refine halfUpTo_eq_of_abs_lt one_pos hprice.le (IsMultiple.zero 1) ?_
    rw [sub_zero, abs_of_pos hprice]
    linarith [placeQuantum_le_one n]
  obtain ⟨hintPos, -, -⟩ | ⟨-, hr⟩ := hcandidate
  · rw [hzero] at hintPos
    exact absurd hintPos (lt_irrefl 0)
  · refine ⟨(validPrice_returned hcoarse h).2, fun x hx => ?_⟩
    have hleast : placeQuantum n ≤ x := by
      have happart := quantum_le_abs_sub (placeQuantum_pos n) hx.isMultiple
        (IsMultiple.zero (placeQuantum n)) hx.pos.ne'
      rwa [sub_zero, abs_of_pos hx.pos] at happart
    have hq := placeQuantum_pos n
    rw [hr, hs, abs_sub_comm, abs_of_pos (a := placeQuantum n - price) (by linarith), abs_sub_comm,
      abs_of_pos (a := x - price) (by linarith)]
    linarith

end

/-- **The nearest price, outside the early windows.**  Whatever `roundPrice` returns is a positive
price the exchange accepts, and none of those is closer to the price given exactly when that price
does not lie just under the midpoint of two prices of the market as `DoubleRounded` says. -/
theorem roundPrice_nearest_iff (price : ℚ) (n : ℕ) {r : ℚ} (h : roundPrice price n = .ok r) :
    ValidPrice n r ∧ (IsNearest {x | ValidPrice n x} price r ↔ ¬ DoubleRounded n price) := by
  have hprice := (roundPrice_ok h).1
  rcases le_or_gt (placeQuantum n) (sigQuantum price) with hfine | hcoarse
  · have hnearest := nearest_of_fine hfine h
    exact ⟨hnearest.mem, fun _ hdouble => hdouble.1.not_ge hfine, fun _ => hnearest⟩
  refine ⟨(validPrice_returned hcoarse h).2, ?_⟩
  have hq := placeQuantum_pos n
  have hu := sigQuantum_pos price
  obtain ⟨s, hs⟩ := isMultiple_sigCandidate price n
  obtain ⟨hreach, hover⟩ := candidate_window hprice hcoarse hs
  have hlower : ((s - 1 : ℤ) : ℚ) * placeQuantum n = s * placeQuantum n - placeQuantum n := by
    push_cast
    ring
  -- a window that holds the price is the one below the candidate
  have hunique : ∀ k : ℤ, (k : ℚ) * placeQuantum n + placeQuantum n / 2 - sigQuantum price / 2 ≤
      price → price < (k : ℚ) * placeQuantum n + placeQuantum n / 2 → k = s - 1 :=
    fun k => window_unique hprice hcoarse hs
  rcases le_or_gt ((s : ℚ) * placeQuantum n - placeQuantum n / 2) price with hwithin | hearly
  · refine iff_of_true (nearest_of_within hcoarse h ?_) ?_
    · rw [hs, abs_le]
      constructor <;> linarith
    · rintro ⟨-, k, -, -, hlow, hhigh⟩
      obtain rfl := hunique k hlow hhigh
      linarith
  have hspos : 0 < s := by
    refine int_lt_of_mul_lt hq ?_
    push_cast
    linarith
  rcases eq_or_ne s 1 with rfl | hs1
  · rw [Int.cast_one, one_mul] at hs hearly
    refine iff_of_true (early_least hcoarse h hs (by linarith)) ?_
    rintro ⟨-, k, hk, -, hlow, hhigh⟩
    have := hunique k hlow hhigh
    omega
  have hnear : |price - ((s - 1 : ℤ) : ℚ) * placeQuantum n| < placeQuantum n / 2 := by
    rw [hlower, abs_lt]
    constructor <;> linarith
  have hvalid : ValidPrice n (((s - 1 : ℤ) : ℚ) * placeQuantum n) := by
    have hs2 : (0 : ℚ) < ((s - 1 : ℤ) : ℚ) := by
      have : 0 < s - 1 := by omega
      exact_mod_cast this
    refine validPrice_of_coarse hcoarse ⟨_, rfl⟩ (mul_pos hs2 hq) ?_
    rw [hlower]
    linarith
  by_cases hint : IsMultiple 1 (((s - 1 : ℤ) : ℚ) * placeQuantum n)
  · refine iff_of_true (early_integer h hnear ?_ hvalid hint) ?_
    · rw [hs, abs_sub_comm, abs_of_pos (by linarith)]
      linarith
    · rintro ⟨-, k, -, hfraction, hlow, hhigh⟩
      obtain rfl := hunique k hlow hhigh
      exact hfraction hint
  · refine iff_of_false (early_fraction hcoarse h hs hnear hvalid hint) (not_not.2 ?_)
    refine ⟨hcoarse, s - 1, by omega, hint, ?_, ?_⟩ <;> rw [hlower] <;> linarith

/-- Four places and five figures of 29.34155 are 29.342, and no price is nearer. -/
theorem roundPrice_nearest_fine :
    IsNearest {x | ValidPrice 2 x} (2934155 / 100000) (29342 / 1000) := by
  refine (roundPrice_nearest_iff (2934155 / 100000) 2 (by decide +kernel)).2.2 ?_
  rintro ⟨hcoarse, -⟩
  have hfine : ¬ sigQuantum (2934155 / 100000) < placeQuantum 2 := by decide +kernel
  exact hfine hcoarse

/-- With six places 0.00123446 becomes 0.001235, through 0.0012345; 0.001234 is nearer. -/
theorem roundPrice_rounds_twice :
    roundPrice (123446 / 10 ^ 8) 0 = .ok (1235 / 10 ^ 6) ∧ ValidPrice 0 (1234 / 10 ^ 6) ∧
      |(123446 / 10 ^ 8 : ℚ) - 1234 / 10 ^ 6| < |(123446 / 10 ^ 8 : ℚ) - 1235 / 10 ^ 6| := by
  refine ⟨by decide +kernel, ⟨by norm_num, Or.inr ⟨?_, ?_⟩⟩, by decide +kernel⟩
  · exact ⟨1234, -6, by norm_num [maxPriceSigFigs], by norm_num⟩
  · exact ⟨1234, by norm_num [placeQuantum, lot, perpMaxPriceDecimals]⟩

end HyperCopy

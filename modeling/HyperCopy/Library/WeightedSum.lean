import Mathlib.Algebra.BigOperators.Group.List.Basic
import Mathlib.Algebra.Order.Ring.Defs
import Mathlib.Tactic.Linarith
import Mathlib.Tactic.Ring

/-!
# Pools that are scaled and added to

A pool goes through steps `(r, a)`: it is scaled by `r`, then `a` is added.  What is in it at the end
is the sum of what was added, each addition weighted by the product of the later scales
(`accumulate_eq`); with scales in the unit interval and nothing negative added it is at most the
plain sum.
-/

namespace WeightedSum

variable {K : Type*} [CommRing K]

/-- The pool after the steps. -/
def accumulate (pool : K) : List (K × K) → K
  | [] => pool
  | (r, a) :: steps => accumulate (pool * r + a) steps

/-- The share of a pool that survives the steps. -/
def share (steps : List (K × K)) : K := (steps.map Prod.fst).prod

/-- Every addition, weighted by the share that survives the later steps. -/
def weighted : List (K × K) → K
  | [] => 0
  | (_, a) :: steps => a * share steps + weighted steps

@[simp] lemma share_cons (r a : K) (steps : List (K × K)) :
    share ((r, a) :: steps) = r * share steps := by
  simp [share]

lemma accumulate_append (pool : K) (steps steps' : List (K × K)) :
    accumulate pool (steps ++ steps') = accumulate (accumulate pool steps) steps' := by
  induction steps generalizing pool with
  | nil => rfl
  | cons step steps ih => exact ih _

/-- **The pool is the weighted sum.** -/
lemma accumulate_eq (pool : K) (steps : List (K × K)) :
    accumulate pool steps = pool * share steps + weighted steps := by
  induction steps generalizing pool with
  | nil => simp [accumulate, share, weighted]
  | cons step steps ih =>
      obtain ⟨r, a⟩ := step
      rw [accumulate, ih, share_cons, weighted]
      ring

section Bounds

variable [LinearOrder K] [IsStrictOrderedRing K]

lemma share_mem (steps : List (K × K)) (h : ∀ step ∈ steps, 0 ≤ step.1 ∧ step.1 ≤ 1) :
    0 ≤ share steps ∧ share steps ≤ 1 := by
  induction steps with
  | nil => simp [share]
  | cons step steps ih =>
      obtain ⟨r, a⟩ := step
      obtain ⟨hr0, hr1⟩ := h (r, a) List.mem_cons_self
      obtain ⟨hs0, hs1⟩ := ih fun step hstep => h step (List.mem_cons_of_mem _ hstep)
      rw [share_cons]
      exact ⟨mul_nonneg hr0 hs0, mul_le_one₀ hr1 hs0 hs1⟩

/-- Pools only lose: the weighted sum of what was added is between nothing and all of it. -/
lemma weighted_mem (steps : List (K × K))
    (h : ∀ step ∈ steps, 0 ≤ step.1 ∧ step.1 ≤ 1 ∧ 0 ≤ step.2) :
    0 ≤ weighted steps ∧ weighted steps ≤ (steps.map Prod.snd).sum := by
  induction steps with
  | nil => simp [weighted]
  | cons step steps ih =>
      obtain ⟨r, a⟩ := step
      have hrest : ∀ step ∈ steps, 0 ≤ step.1 ∧ step.1 ≤ 1 ∧ 0 ≤ step.2 :=
        fun step hstep => h step (List.mem_cons_of_mem _ hstep)
      obtain ⟨-, -, ha⟩ := h (r, a) List.mem_cons_self
      obtain ⟨hs0, hs1⟩ := share_mem steps fun step hstep => ⟨(hrest step hstep).1,
        (hrest step hstep).2.1⟩
      obtain ⟨hw0, hw1⟩ := ih hrest
      have hadded : a * share steps ≤ a := mul_le_of_le_one_right ha hs1
      have hadded0 := mul_nonneg ha hs0
      rw [weighted, List.map_cons, List.sum_cons]
      constructor <;> linarith

end Bounds

end WeightedSum

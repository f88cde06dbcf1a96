import HyperCopy.Library.Table
import Mathlib.Algebra.BigOperators.Group.List.Basic
import Mathlib.Algebra.Order.Monoid.Defs

/-!
# Sums over a table

The sum of a quantity over the rows of a table, and what an insertion and a change in place do to
it.  Everything follows from `sum_eq_add_erase`: the row at a key can be taken out.
-/

namespace Table

variable {κ ρ M : Type*}

/-- The sum of `f` over the rows. -/
def sum [AddCommMonoid M] (t : Table κ ρ) (f : ρ → M) : M :=
  (t.entries.map fun e => f e.2).sum

@[simp] lemma sum_empty [AddCommMonoid M] (f : ρ → M) : sum (∅ : Table κ ρ) f = 0 := rfl

variable [DecidableEq κ]

section

variable [AddCommMonoid M]

/-- The row at a key is one of the summands. -/
lemma sum_eq_add_erase {t : Table κ ρ} {k : κ} {r : ρ} (h : t.lookup k = some r) (f : ρ → M) :
    sum t f = f r + sum (t.erase k) f := by
  have hkey : k ∈ t.entries.keys := AList.lookup_isSome.1 (by rw [h]; rfl)
  obtain ⟨r', before, after, hbefore, hentries, hrest⟩ := List.exists_of_kerase hkey
  have hrow : r' = r := by
    have hmem : (⟨k, r'⟩ : Sigma fun _ : κ => ρ) ∈ t.entries := by
      rw [hentries]
      simp
    have hlookup := (AList.mem_lookup_iff (s := t)).2 hmem
    rw [Option.mem_def, h] at hlookup
    exact (Option.some.inj hlookup).symm
  show (t.entries.map _).sum = f r + ((t.entries.kerase k).map _).sum
  rw [hrest, hentries, hrow]
  simp only [List.map_append, List.map_cons, List.sum_append, List.sum_cons]
  rw [add_left_comm]

lemma erase_eq_self {t : Table κ ρ} {k : κ} (h : t.lookup k = none) : t.erase k = t := by
  refine AList.ext ?_
  show t.entries.kerase k = t.entries
  exact List.kerase_of_notMem_keys (AList.lookup_eq_none.1 h)

lemma sum_insert (t : Table κ ρ) (k : κ) (r : ρ) (f : ρ → M) :
    sum (t.insert k r) f = f r + sum (t.erase k) f := by
  show ((t.entries.kinsert k r).map _).sum = f r + ((t.entries.kerase k).map _).sum
  rw [List.kinsert_def, List.map_cons, List.sum_cons]

/-- A new row adds its own summand. -/
lemma sum_insert_of_none {t : Table κ ρ} {k : κ} (h : t.lookup k = none) (r : ρ) (f : ρ → M) :
    sum (t.insert k r) f = f r + sum t f := by
  rw [sum_insert, erase_eq_self h]

lemma sum_congr {t : Table κ ρ} {f g : ρ → M} (h : ∀ k r, t.lookup k = some r → f r = g r) :
    sum t f = sum t g := by
  refine congrArg List.sum (List.map_congr_left fun e hmem => ?_)
  exact h e.1 e.2 (AList.mem_lookup_iff.2 hmem)

end

/-- A change in place that does not raise the row's own summand does not raise the sum. -/
lemma sum_modify_le [AddCommMonoid M] [PartialOrder M] [IsOrderedAddMonoid M] {t : Table κ ρ}
    {k : κ} {g : ρ → ρ} {f : ρ → M} (h : ∀ r, t.lookup k = some r → f (g r) ≤ f r) :
    sum (modify t k g) f ≤ sum t f := by
  unfold modify
  cases hrow : t.lookup k with
  | none => exact le_rfl
  | some r =>
      dsimp only
      rw [sum_insert, sum_eq_add_erase hrow]
      exact add_le_add_left (h r hrow) _

end Table

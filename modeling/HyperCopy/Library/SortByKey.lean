import Mathlib.Data.List.Nodup
import Mathlib.Data.List.Sort

/-!
# Sorting by a key

Rows `(key, value)` are sorted by their keys alone.  Where no key occurs twice the result depends on
the rows and not on their order, and a row with the largest key comes last.
-/

namespace SortByKey

variable {K α : Type*} [LinearOrder K]

/-- The rows in ascending order of their keys. -/
def sortByKey (l : List (K × α)) : List (K × α) := l.insertionSort fun a b => a.1 ≤ b.1

lemma sortByKey_perm (l : List (K × α)) : (sortByKey l).Perm l := List.perm_insertionSort _ l

lemma mem_sortByKey {l : List (K × α)} {a : K × α} : a ∈ sortByKey l ↔ a ∈ l :=
  (sortByKey_perm l).mem_iff

lemma nodup_keys_sortByKey {l : List (K × α)} :
    ((sortByKey l).map Prod.fst).Nodup ↔ (l.map Prod.fst).Nodup :=
  ((sortByKey_perm l).map Prod.fst).nodup_iff

lemma pairwise_sortByKey (l : List (K × α)) : (sortByKey l).Pairwise fun a b => a.1 ≤ b.1 := by
  have : Std.Total fun a b : K × α => a.1 ≤ b.1 := ⟨fun a b => le_total a.1 b.1⟩
  have : IsTrans (K × α) fun a b => a.1 ≤ b.1 := ⟨fun _ _ _ => le_trans⟩
  exact List.pairwise_insertionSort _ l

/-- A sorted list of the rows is the sorted list of the rows. -/
lemma sortByKey_eq {l l' : List (K × α)} (hnodup : (l.map Prod.fst).Nodup) (hperm : l'.Perm l)
    (hsorted : l'.Pairwise fun a b => a.1 ≤ b.1) : sortByKey l = l' := by
  refine ((sortByKey_perm l).trans hperm.symm).eq_of_pairwise ?_ (pairwise_sortByKey l) hsorted
  intro a b ha hb hab hba
  exact List.inj_on_of_nodup_map hnodup (mem_sortByKey.1 ha) (hperm.mem_iff.1 hb)
    (le_antisymm hab hba)

lemma sortByKey_eq_of_perm {l l' : List (K × α)} (hnodup : (l.map Prod.fst).Nodup)
    (hperm : l.Perm l') : sortByKey l = sortByKey l' :=
  sortByKey_eq hnodup ((sortByKey_perm l').trans hperm.symm) (pairwise_sortByKey l')

lemma sortByKey_append {l : List (K × α)} {a : K × α} (hnodup : (l.map Prod.fst).Nodup)
    (hlargest : ∀ b ∈ l, b.1 < a.1) : sortByKey (l ++ [a]) = sortByKey l ++ [a] := by
  refine sortByKey_eq ?_ ((sortByKey_perm l).append_right [a]) ?_
  · rw [List.map_append, List.nodup_append]
    refine ⟨hnodup, List.nodup_singleton _, fun k hk k' hk' => ?_⟩
    obtain ⟨b, hb, rfl⟩ := List.mem_map.1 hk
    obtain rfl : k' = a.1 := by simpa using hk'
    exact (hlargest b hb).ne
  · rw [List.pairwise_append]
    refine ⟨pairwise_sortByKey l, List.pairwise_singleton _ _, fun b hb c hc => ?_⟩
    obtain rfl : c = a := by simpa using hc
    exact (hlargest b (mem_sortByKey.1 hb)).le

end SortByKey

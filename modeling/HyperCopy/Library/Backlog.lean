import Mathlib.Algebra.BigOperators.Group.Finset.Basic
import Mathlib.Algebra.Order.BigOperators.Group.Finset
import Mathlib.Data.List.Sort

/-!
# Backlogs that are served oldest first

A pass over a backlog takes the oldest entries that wait, up to a limit.  An entry that waits
while a pass goes by is not older than anything the pass has taken (`le_of_not_mem_oldest`).

What a pass has to get through before it comes to an entry is its `load`: the work that is left on
the entries that are not newer.  A pass that leaves the entry waiting lowers the load by one for
each entry it has worked on (`load_add_card_le`), so the number of passes is bounded by the load
before the first of them.  The work on an entry can be a bit (it waits or not) or the number of
attempts it has left.
-/

namespace Backlog

variable {κ α : Type*} [LinearOrder α] (created : κ → α)

/-- The oldest `limit` entries of those that wait. -/
def oldest (limit : ℕ) (waiting : List κ) : List κ :=
  (waiting.insertionSort fun a b => created a ≤ created b).take limit

variable {created} {limit : ℕ} {waiting : List κ}

lemma mem_of_mem_oldest {k : κ} (h : k ∈ oldest created limit waiting) : k ∈ waiting :=
  (List.perm_insertionSort _ waiting).mem_iff.1 (List.mem_of_mem_take h)

lemma nodup_oldest (h : waiting.Nodup) : (oldest created limit waiting).Nodup :=
  ((List.perm_insertionSort _ waiting).nodup_iff.2 h).sublist (List.take_sublist _ _)

lemma length_oldest : (oldest created limit waiting).length = min limit waiting.length := by
  rw [oldest, List.length_take, List.length_insertionSort]

/-- A pass that leaves an entry waiting is a full one. -/
lemma length_oldest_of_not_mem {k : κ} (hk : k ∈ waiting)
    (hleft : k ∉ oldest created limit waiting) : (oldest created limit waiting).length = limit := by
  rw [length_oldest, min_eq_left_iff]
  by_contra hlt
  refine hleft ?_
  rw [oldest, List.take_of_length_le]
  · exact (List.perm_insertionSort _ waiting).mem_iff.2 hk
  · rw [List.length_insertionSort]
    omega

/-- What a pass takes is not newer than what it leaves. -/
lemma le_of_not_mem_oldest {i k : κ} (hk : k ∈ waiting)
    (hleft : k ∉ oldest created limit waiting) (hi : i ∈ oldest created limit waiting) :
    created i ≤ created k := by
  have : Std.Total fun a b : κ => created a ≤ created b := ⟨fun a b => le_total _ _⟩
  have : IsTrans κ fun a b : κ => created a ≤ created b := ⟨fun _ _ _ => le_trans⟩
  have hsorted := List.pairwise_insertionSort (fun a b : κ => created a ≤ created b) waiting
  have hmem := (List.perm_insertionSort (fun a b : κ => created a ≤ created b) waiting).mem_iff.2 hk
  rw [← List.take_append_drop limit (waiting.insertionSort _)] at hsorted hmem
  have hdrop := (List.mem_append.1 hmem).resolve_left hleft
  exact (List.pairwise_append.1 hsorted).2.2 i hi k hdrop

/-! ## Load -/

section Load

variable [DecidableEq κ] (created)

/-- The work left on the entries that are not newer than `k`. -/
def load (work : κ → ℕ) (entries : Finset κ) (k : κ) : ℕ :=
  ∑ i ∈ entries with created i ≤ created k, work i

variable {created} {work work' : κ → ℕ} {entries served : Finset κ} {k : κ}

/-- Work done on entries that are not newer lowers the load. -/
lemma load_add_card_le (hle : ∀ i ∈ entries, work' i ≤ work i) (hserved : served ⊆ entries)
    (holder : ∀ i ∈ served, created i ≤ created k) (hlt : ∀ i ∈ served, work' i < work i) :
    load created work' entries k + served.card ≤ load created work entries k := by
  have hsub : served ⊆ entries.filter fun i => created i ≤ created k := by
    intro i hi
    exact Finset.mem_filter.2 ⟨hserved hi, holder i hi⟩
  have hcard : served.card =
      ∑ i ∈ entries with created i ≤ created k, if i ∈ served then 1 else 0 := by
    rw [← Finset.sum_filter, Finset.filter_mem_eq_inter, Finset.inter_eq_right.2 hsub,
      Finset.card_eq_sum_ones]
  rw [load, load, hcard, ← Finset.sum_add_distrib]
  refine Finset.sum_le_sum fun i hi => ?_
  have hi' := (Finset.mem_filter.1 hi).1
  split_ifs with hmem
  · exact hlt i hmem
  · exact hle i hi'

end Load

end Backlog

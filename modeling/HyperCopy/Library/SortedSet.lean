import HyperCopy.Library.Table
import Mathlib.Algebra.GroupWithZero.Nat
import Mathlib.Algebra.Order.BigOperators.Group.List
import Mathlib.Algebra.Order.Group.Nat
import Mathlib.Data.List.Perm.Subperm

/-!
# Sorted sets

A sorted set keeps one score for each of its members.  The operations are those of a Redis sorted
set; each is given by what `zscore` reads after it, so that nothing has to know how the members
are stored.  `total` adds up a weight over the members, and `sum_le_total` bounds the weight of
any list of different members by it.
-/

/-- A score for each member. -/
abbrev SortedSet (μ : Type*) (σ : Type*) := Table μ σ

namespace SortedSet

variable {μ σ : Type*} [DecidableEq μ]

/-- The score of a member. -/
def zscore (z : SortedSet μ σ) (member : μ) : Option σ := z.lookup member

/-- A new member, or a new score for a member. -/
def zadd (z : SortedSet μ σ) (score : σ) (member : μ) : SortedSet μ σ := z.insert member score

/-- The member goes. -/
def zrem (z : SortedSet μ σ) (member : μ) : SortedSet μ σ := z.erase member

/-- The number of members. -/
def zcard (z : SortedSet μ σ) : ℕ := z.keys.length

/-- The scores of all members. -/
def scores (z : SortedSet μ σ) : List σ := z.entries.map fun e => e.2

/-- The weight of all members. -/
def total (z : SortedSet μ σ) (weight : μ → ℕ) : ℕ := (z.keys.map weight).sum

lemma zscore_zadd (z : SortedSet μ σ) (score : σ) (member member' : μ) :
    (z.zadd score member).zscore member' = if member' = member then some score else z.zscore member' :=
  Table.lookup_insert_eq z member member' score

lemma zscore_zrem (z : SortedSet μ σ) (member member' : μ) :
    (z.zrem member).zscore member' = if member' = member then none else z.zscore member' := by
  unfold zscore zrem
  by_cases h : member' = member
  · subst h
    simp
  · simp [h, AList.lookup_erase_ne h]

lemma mem_keys_iff {z : SortedSet μ σ} {member : μ} :
    member ∈ z.keys ↔ ∃ score, z.zscore member = some score := by
  unfold zscore
  rw [← AList.mem_keys, ← AList.lookup_isSome, Option.isSome_iff_exists]

lemma mem_scores {z : SortedSet μ σ} {member : μ} {score : σ} (h : z.zscore member = some score) :
    score ∈ z.scores :=
  List.mem_map.2 ⟨⟨member, score⟩, AList.mem_lookup_iff.1 h, rfl⟩

/-! ## Scores within a range -/

section Range

variable [LinearOrder σ]

/-- Drop the members with a score from `low` to `high`. -/
def zremrangebyscore (z : SortedSet μ σ) (low high : σ) : SortedSet μ σ :=
  ⟨z.entries.filter fun e => ¬ (low ≤ e.2 ∧ e.2 ≤ high), z.nodupKeys.sublist List.filter_sublist⟩

/-- A score that is only ever raised. -/
def zraise (z : SortedSet μ σ) (score : σ) (member : μ) : SortedSet μ σ :=
  if (z.zscore member).all (· < score) then z.zadd score member else z

lemma zscore_zraise (z : SortedSet μ σ) (score : σ) (member member' : μ) :
    (z.zraise score member).zscore member' =
      if member' = member then some ((z.zscore member).elim score (max score))
      else z.zscore member' := by
  unfold zraise
  split_ifs with hall hmember hmember
  · rw [zscore_zadd, if_pos hmember]
    cases hscore : z.zscore member with
    | none => rfl
    | some old =>
        have hlt : old < score := by simpa [hscore] using hall
        simp [max_eq_left hlt.le]
  · rw [zscore_zadd, if_neg hmember]
  · subst hmember
    cases hscore : z.zscore member' with
    | none => simp [hscore] at hall
    | some old =>
        have hle : score ≤ old := by simpa [hscore] using hall
        simp [max_eq_right hle]
  · rfl

/-- After it the score is at least the one given, and at least what it was. -/
lemma exists_zscore_zraise (z : SortedSet μ σ) (score : σ) (member : μ) :
    ∃ score', (z.zraise score member).zscore member = some score' ∧ score ≤ score' ∧
      ∀ old, z.zscore member = some old → old ≤ score' := by
  refine ⟨(z.zscore member).elim score (max score), ?_, ?_, ?_⟩
  · rw [zscore_zraise, if_pos rfl]
  · cases z.zscore member with
    | none => exact le_refl _
    | some old => exact le_max_left _ _
  · rintro old hold
    rw [hold]
    exact le_max_right _ _

lemma zscore_zremrangebyscore {z : SortedSet μ σ} {low high : σ} {member : μ} {score : σ} :
    (z.zremrangebyscore low high).zscore member = some score ↔
      z.zscore member = some score ∧ ¬ (low ≤ score ∧ score ≤ high) := by
  unfold zscore
  rw [← Option.mem_def, ← Option.mem_def, AList.mem_lookup_iff, AList.mem_lookup_iff]
  simp only [zremrangebyscore, List.mem_filter, decide_eq_true_eq]

end Range

/-! ## Sums and numbers of members -/

/-- Different members of the set weigh at most what all of them weigh. -/
lemma sum_le_total {z : SortedSet μ σ} {members : List μ} (weight : μ → ℕ) (hnodup : members.Nodup)
    (hmem : ∀ member ∈ members, ∃ score, z.zscore member = some score) :
    (members.map weight).sum ≤ z.total weight := by
  have hsub : members ⊆ z.keys := fun member h => mem_keys_iff.2 (hmem member h)
  obtain ⟨picked, hperm, hsublist⟩ := hnodup.subperm hsub
  rw [← (hperm.map weight).sum_eq]
  exact (hsublist.map weight).sum_le_sum fun _ _ => Nat.zero_le _

lemma zcard_zadd_of_none {z : SortedSet μ σ} {score : σ} {member : μ}
    (h : z.zscore member = none) : (z.zadd score member).zcard = z.zcard + 1 := by
  have hmem : member ∉ z := by
    rw [← AList.lookup_eq_none]
    exact h
  simp [zcard, zadd, AList.keys_insert, List.erase_of_not_mem (fun hk => hmem (AList.mem_keys.2 hk))]

lemma zcard_zrem_of_some {z : SortedSet μ σ} {score : σ} {member : μ}
    (h : z.zscore member = some score) : (z.zrem member).zcard + 1 = z.zcard := by
  have hmem : member ∈ z.keys := mem_keys_iff.2 ⟨score, h⟩
  have hpos : 0 < z.keys.length := List.length_pos_of_mem hmem
  simp only [zcard, zrem, AList.keys_erase, List.length_erase_of_mem hmem]
  omega

end SortedSet

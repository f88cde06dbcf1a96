import Mathlib.Data.List.AList

/-!
# Keyed tables

A database table is an association list with distinct keys (`AList`, which carries the proof
that its keys are distinct).  Beyond the `lookup`, `insert` and `replace` of the library, a
program that works on rows needs three things: changing one row in place (`modify`), asking
whether some row satisfies a test (`any`), and the read-back lemmas of both in one normal form,
`lookup` of the changed table at an arbitrary key.
-/

/-- A table with primary key `κ` and rows `ρ`. -/
abbrev Table (κ : Type*) (ρ : Type*) := AList fun _ : κ => ρ

namespace Table

variable {κ ρ : Type*} [DecidableEq κ]

/-- Change the row at key `k`, if there is one. -/
def modify (t : Table κ ρ) (k : κ) (f : ρ → ρ) : Table κ ρ :=
  match t.lookup k with
  | some r => t.insert k (f r)
  | none => t

/-- Does some row of the table satisfy the test? -/
def any (t : Table κ ρ) (p : κ → ρ → Bool) : Bool :=
  t.entries.any fun e => p e.1 e.2

lemma lookup_insert_eq (t : Table κ ρ) (k k' : κ) (r : ρ) :
    (t.insert k r).lookup k' = if k' = k then some r else t.lookup k' := by
  by_cases h : k' = k
  · subst h
    simp
  · simp [AList.lookup_insert_ne h, h]

/-- A row read from a table after an insertion is the inserted one or an old one. -/
lemma lookup_insert_cases {t : Table κ ρ} {k k' : κ} {r r' : ρ}
    (h : (t.insert k r).lookup k' = some r') :
    (k' = k ∧ r' = r) ∨ t.lookup k' = some r' := by
  rw [lookup_insert_eq] at h
  split_ifs at h with hk
  · exact Or.inl ⟨hk, (Option.some.inj h).symm⟩
  · exact Or.inr h

/-- A row read after a deletion was there before it. -/
lemma lookup_of_erase {t : Table κ ρ} {k k' : κ} {r : ρ} (h : (t.erase k).lookup k' = some r) :
    t.lookup k' = some r := by
  by_cases hk : k' = k
  · subst hk
    simp at h
  · rwa [AList.lookup_erase_ne hk] at h

lemma lookup_modify (t : Table κ ρ) (k k' : κ) (f : ρ → ρ) :
    (modify t k f).lookup k' = if k' = k then (t.lookup k).map f else t.lookup k' := by
  unfold modify
  cases hk : t.lookup k with
  | none =>
      by_cases h : k' = k
      · subst h
        simp [hk]
      · simp [h]
  | some r => simp [lookup_insert_eq]

@[simp] lemma lookup_modify_self (t : Table κ ρ) (k : κ) (f : ρ → ρ) :
    (modify t k f).lookup k = (t.lookup k).map f := by
  simp [lookup_modify]

lemma lookup_modify_of_ne (t : Table κ ρ) {k k' : κ} (f : ρ → ρ) (h : k' ≠ k) :
    (modify t k f).lookup k' = t.lookup k' := by
  simp [lookup_modify, h]

/-- A row of the modified table is an untouched row, or the changed one. -/
lemma lookup_modify_eq_some {t : Table κ ρ} {k k' : κ} {f : ρ → ρ} {r' : ρ} :
    (modify t k f).lookup k' = some r' ↔
      (k' ≠ k ∧ t.lookup k' = some r') ∨ (k' = k ∧ ∃ r, t.lookup k = some r ∧ f r = r') := by
  by_cases h : k' = k
  · subst h
    simp [Option.map_eq_some_iff]
  · simp [lookup_modify_of_ne t f h, h]

lemma any_eq_true {t : Table κ ρ} {p : κ → ρ → Bool} :
    any t p = true ↔ ∃ k r, t.lookup k = some r ∧ p k r = true := by
  simp only [any, List.any_eq_true]
  constructor
  · rintro ⟨⟨k, r⟩, hmem, hp⟩
    exact ⟨k, r, AList.mem_lookup_iff.2 hmem, hp⟩
  · rintro ⟨k, r, hlook, hp⟩
    exact ⟨⟨k, r⟩, AList.mem_lookup_iff.1 hlook, hp⟩

lemma any_eq_false {t : Table κ ρ} {p : κ → ρ → Bool} :
    any t p = false ↔ ∀ k r, t.lookup k = some r → p k r = false := by
  rw [← Bool.not_eq_true, any_eq_true]
  push Not
  simp

lemma filter_kerase_of_not {k : κ} {l : List (Sigma fun _ : κ => ρ)}
    {p : (Sigma fun _ : κ => ρ) → Bool} (h : ∀ e ∈ l, e.1 = k → p e = false) :
    (l.kerase k).filter p = l.filter p := by
  induction l with
  | nil => rfl
  | cons e l ih =>
      have hrest : ∀ e' ∈ l, e'.1 = k → p e' = false := fun e' he' => h e' (List.mem_cons_of_mem e he')
      by_cases hk : k = e.1
      · rw [List.kerase_cons_eq hk, List.filter_cons_of_neg]
        rw [h e List.mem_cons_self hk.symm]
        exact Bool.false_ne_true
      · rw [List.kerase_cons_ne hk, List.filter_cons, List.filter_cons, ih hrest]

/-- Rows that a filter drops can be inserted and replaced without changing what it keeps. -/
lemma filter_insert_of_not {t : Table κ ρ} {k : κ} {r : ρ}
    {p : (Sigma fun _ : κ => ρ) → Bool} (hnew : p ⟨k, r⟩ = false)
    (hold : ∀ r', t.lookup k = some r' → p ⟨k, r'⟩ = false) :
    (t.insert k r).entries.filter p = t.entries.filter p := by
  rw [AList.entries_insert, List.filter_cons_of_neg (by rw [hnew]; exact Bool.false_ne_true)]
  refine filter_kerase_of_not ?_
  rintro ⟨k', r'⟩ hmem rfl
  exact hold r' (AList.mem_lookup_iff.2 hmem)

end Table

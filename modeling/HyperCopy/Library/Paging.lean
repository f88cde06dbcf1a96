import Mathlib.Data.List.Sort
import Mathlib.Order.Lattice.Nat
import Mathlib.Tactic.Common

/-!
# Paging by a key

A service answers a query from a start key with the earliest rows from there on, up to a limit.  A
reader that wants all of them asks again from one past the largest key it was given, until an
answer falls short of the limit.  The rows can change from call to call.

`Pages.complete_iff` says when such a reader misses nothing: exactly when no full answer leaves out
a row with its own largest key.  Several rows may have one key, and the limit can fall between
them.
-/

namespace Paging

variable {α : Type*} (key : α → ℕ)

/-- The earliest rows from a start key on, in ascending order of their keys, up to the limit. -/
def earliest (limit start : ℕ) (rows : List α) : List α :=
  ((rows.filter fun x => start ≤ key x).insertionSort fun x y => key x ≤ key y).take limit

/-- The largest key of a page. -/
def maxKey (page : List α) : ℕ := (page.map key).foldr max 0

variable {key} {limit start : ℕ} {rows page : List α} {x : α}

/-! ## One answer -/

lemma mem_earliest (h : x ∈ earliest key limit start rows) : x ∈ rows ∧ start ≤ key x := by
  have hsorted := List.mem_of_mem_take h
  rw [List.mem_insertionSort, List.mem_filter, decide_eq_true_eq] at hsorted
  exact hsorted

lemma length_earliest_le : (earliest key limit start rows).length ≤ limit :=
  List.length_take_le _ _

lemma sorted_from (key : α → ℕ) (start : ℕ) (rows : List α) :
    ((rows.filter fun x => start ≤ key x).insertionSort fun x y => key x ≤ key y).Pairwise
      fun x y => key x ≤ key y := by
  have : Std.Total fun x y : α => key x ≤ key y := ⟨fun x y => le_total (key x) (key y)⟩
  have : IsTrans α fun x y => key x ≤ key y := ⟨fun _ _ _ => le_trans⟩
  exact List.pairwise_insertionSort _ _

/-- A row the answer leaves out comes after a full page. -/
lemma mem_earliest_or_full (limit : ℕ) (hx : x ∈ rows) (hstart : start ≤ key x) :
    x ∈ earliest key limit start rows ∨
      (earliest key limit start rows).length = limit ∧
        ∀ y ∈ earliest key limit start rows, key y ≤ key x := by
  have hsorted := sorted_from key start rows
  have hmem : x ∈ (rows.filter fun x => start ≤ key x).insertionSort fun x y => key x ≤ key y := by
    rw [List.mem_insertionSort, List.mem_filter, decide_eq_true_eq]
    exact ⟨hx, hstart⟩
  unfold earliest
  generalize (rows.filter fun x => start ≤ key x).insertionSort (fun x y => key x ≤ key y) = sorted
    at hsorted hmem ⊢
  rw [← List.take_append_drop limit sorted, List.mem_append] at hmem
  rcases hmem with hmem | hmem
  · exact Or.inl hmem
  · refine Or.inr ⟨?_, fun y hy => ?_⟩
    · rw [List.length_take, min_eq_left]
      by_contra hshort
      rw [List.drop_eq_nil_of_le (by omega)] at hmem
      cases hmem
    · rw [← List.take_append_drop limit sorted, List.pairwise_append] at hsorted
      exact hsorted.2.2 y hy x hmem

lemma key_le_maxKey (key : α → ℕ) (h : x ∈ page) : key x ≤ maxKey key page := by
  induction page with
  | nil => cases h
  | cons y page ih =>
      cases h with
      | head => exact le_max_left _ _
      | tail _ h => exact (ih h).trans (le_max_right _ _)

/-- The largest key of a page is that of one of its rows. -/
lemma exists_key_eq_maxKey (key : α → ℕ) (h : page ≠ []) : ∃ y ∈ page, key y = maxKey key page := by
  induction page with
  | nil => exact absurd rfl h
  | cons x page ih =>
      rcases le_total (maxKey key page) (key x) with hle | hle
      · exact ⟨x, List.mem_cons_self, (max_eq_left hle).symm⟩
      · by_cases hpage : page = []
        · subst hpage
          exact ⟨x, List.mem_cons_self, (max_eq_left (Nat.zero_le _)).symm⟩
        · obtain ⟨y, hy, hkey⟩ := ih hpage
          exact ⟨y, List.mem_cons_of_mem _ hy, hkey.trans (max_eq_right hle).symm⟩

/-! ## A whole reading -/

/-- The answers from call `k` at a cursor on: full ones, each followed by a call one past its
largest key, and one that falls short. -/
inductive Pages (key : α → ℕ) (limit : ℕ) (held : ℕ → List α) : ℕ → ℕ → List (List α) → Prop
  | short {k cursor : ℕ}
      (hshort : (earliest key limit cursor (held k)).length < limit) :
      Pages key limit held k cursor [earliest key limit cursor (held k)]
  | full {k cursor : ℕ} {rest : List (List α)}
      (hfull : (earliest key limit cursor (held k)).length = limit)
      (hrest : Pages key limit held (k + 1)
        (maxKey key (earliest key limit cursor (held k)) + 1) rest) :
      Pages key limit held k cursor (earliest key limit cursor (held k) :: rest)

/-- A full answer leaves out a row of `P` that has its own largest key. -/
def Cuts (key : α → ℕ) (P : α → Prop) (pages : List (List α)) : Prop :=
  ∃ page ∈ pages.dropLast, ∃ x, P x ∧ key x = maxKey key page ∧ x ∉ page

variable {held : ℕ → List α} {k cursor : ℕ} {pages : List (List α)} {P : α → Prop}

lemma Pages.ne_nil (h : Pages key limit held k cursor pages) : pages ≠ [] := by
  cases h <;> exact List.cons_ne_nil _ _

/-- What a reading is given lies from its first cursor on. -/
lemma Pages.le_key (h : Pages key limit held k cursor pages) (hlimit : 0 < limit) :
    ∀ page ∈ pages, ∀ x ∈ page, cursor ≤ key x := by
  induction h with
  | short hshort =>
      intro page hpage x hx
      obtain rfl := List.mem_singleton.1 hpage
      exact (mem_earliest hx).2
  | @full k cursor rest hfull hrest ih =>
      intro page hpage x hx
      rcases List.mem_cons.1 hpage with rfl | hpage
      · exact (mem_earliest hx).2
      · have hne : earliest key limit cursor (held k) ≠ [] := by
          rw [← List.length_pos_iff]
          omega
        obtain ⟨y, hy, hmax⟩ := exists_key_eq_maxKey key hne
        have hcursor : cursor ≤ key y := (mem_earliest hy).2
        have hnext := ih page hpage x hx
        omega

/-- A reading is complete exactly when it cuts no key in two: of the rows held at every one of its
calls. -/
theorem Pages.complete_iff (h : Pages key limit held k cursor pages) (hlimit : 0 < limit)
    (hP : ∀ x, P x → ∀ j, k ≤ j → j < k + pages.length → x ∈ held j) :
    (∀ x, P x → cursor ≤ key x → ∃ page ∈ pages, x ∈ page) ↔ ¬ Cuts key P pages := by
  induction h with
  | @short k cursor hshort =>
      constructor
      · rintro - ⟨page, hpage, -⟩
        cases hpage
      · intro _ x hx hcursor
        have hheld : x ∈ held k := hP x hx k le_rfl (by simp)
        rcases mem_earliest_or_full limit hheld hcursor with hmem | ⟨hfull, -⟩
        · exact ⟨_, List.mem_singleton_self _, hmem⟩
        · exact absurd hfull hshort.ne
  | @full k cursor rest hfull hrest ih =>
      set page := earliest key limit cursor (held k) with hpage
      have hne : page ≠ [] := by
        rw [← List.length_pos_iff]
        omega
      obtain ⟨y, hy, hmax⟩ := exists_key_eq_maxKey key hne
      have hcursor_le : cursor ≤ maxKey key page := hmax ▸ (mem_earliest hy).2
      have hlater := hrest.le_key hlimit
      have hdrop : (page :: rest).dropLast = page :: rest.dropLast :=
        List.dropLast_cons_of_ne_nil hrest.ne_nil
      have hrestP : ∀ x, P x → ∀ j, k + 1 ≤ j → j < k + 1 + rest.length → x ∈ held j := by
        intro x hx j hj hlt
        exact hP x hx j (by omega) (by rw [List.length_cons]; omega)
      have hiff := ih hrestP
      constructor
      · rintro hcomplete ⟨cut, hcut, x, hx, hkey, hout⟩
        rw [hdrop] at hcut
        rcases List.mem_cons.1 hcut with rfl | hcut
        · -- The row left out has the key of this page, so no later page reaches back to it.
          obtain ⟨found, hfound, hxfound⟩ := hcomplete x hx (hkey ▸ hcursor_le)
          rcases List.mem_cons.1 hfound with rfl | hfound
          · exact hout hxfound
          · have := hlater found hfound x hxfound
            omega
        · refine hiff.1 ?_ ⟨cut, hcut, x, hx, hkey, hout⟩
          intro z hz hzcursor
          obtain ⟨found, hfound, hzfound⟩ := hcomplete z hz (by omega)
          rcases List.mem_cons.1 hfound with rfl | hfound
          · have := key_le_maxKey key hzfound
            omega
          · exact ⟨found, hfound, hzfound⟩
      · intro hcuts x hx hcursor
        have hheld : x ∈ held k := hP x hx k le_rfl (by rw [List.length_cons]; omega)
        rcases mem_earliest_or_full limit hheld hcursor with hmem | ⟨-, hafter⟩
        · exact ⟨page, List.mem_cons_self, hmem⟩
        · by_cases hin : x ∈ page
          · exact ⟨page, List.mem_cons_self, hin⟩
          · -- Left out by a page that does not cut: the row comes strictly after it.
            have hle : maxKey key page ≤ key x := hmax ▸ hafter y hy
            have hkey : key x ≠ maxKey key page := by
              intro hkey
              exact hcuts ⟨page, by rw [hdrop]; exact List.mem_cons_self, x, hx, hkey, hin⟩
            have hrestCuts : ¬ Cuts key P rest := by
              rintro ⟨cut, hcut, hrow⟩
              exact hcuts ⟨cut, by rw [hdrop]; exact List.mem_cons_of_mem _ hcut, hrow⟩
            obtain ⟨found, hfound, hxfound⟩ := hiff.2 hrestCuts x hx (by omega)
            exact ⟨found, List.mem_cons_of_mem _ hfound, hxfound⟩

end Paging

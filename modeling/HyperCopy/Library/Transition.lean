import Mathlib.Data.List.Basic

/-!
# Deterministic transition systems and guarded runs

A system is a partial step function `step : σ → α → Option σ`: an action is refused (`none`)
where it is not enabled, and every choice an environment can make is carried by the action.
`run` executes a list of actions; a state is reachable when some run from an initial state ends in
it.

Two induction rules are packaged once.  `run_invariant` carries a property that every step
preserves along a run.  `RunMeets` restricts a run to steps that satisfy a condition on the
state *before* the step, and `run_invariant_of_meets` is the corresponding rule: it is the form
in which a property that only holds away from a known defect is stated.  `run_append` splits a
run at an intermediate state, which is how statements about what can still happen *after* a
point of a run are reduced to the rule for one step.
-/

namespace Transition

variable {σ α : Type*} (step : σ → α → Option σ)

/-! ## Runs -/

/-- Execute the actions in order; the run is refused as soon as one action is. -/
def run : σ → List α → Option σ
  | s, [] => some s
  | s, a :: as => (step s a).bind fun s' => run s' as

variable {step}

@[simp] lemma run_nil (s : σ) : run step s [] = some s := rfl

lemma run_cons (s : σ) (a : α) (as : List α) :
    run step s (a :: as) = (step s a).bind fun s' => run step s' as := rfl

lemma run_cons_eq_some {s t : σ} {a : α} {as : List α} :
    run step s (a :: as) = some t ↔ ∃ s', step s a = some s' ∧ run step s' as = some t := by
  rw [run_cons, Option.bind_eq_some_iff]

lemma run_append (s : σ) (as bs : List α) :
    run step s (as ++ bs) = (run step s as).bind fun s' => run step s' bs := by
  induction as generalizing s with
  | nil => rfl
  | cons a as ih =>
      simp only [List.cons_append, run_cons]
      cases step s a with
      | none => rfl
      | some s' => exact ih s'

lemma run_append_eq_some {s t : σ} {as bs : List α} :
    run step s (as ++ bs) = some t ↔
      ∃ s', run step s as = some s' ∧ run step s' bs = some t := by
  rw [run_append, Option.bind_eq_some_iff]

/-- A property that every step preserves holds at the end of every run that starts in it. -/
theorem run_invariant {I : σ → Prop}
    (hstep : ∀ s a s', I s → step s a = some s' → I s') :
    ∀ {as : List α} {s t : σ}, I s → run step s as = some t → I t := by
  intro as
  induction as with
  | nil =>
      intro s t hs hrun
      obtain rfl : s = t := by simpa using hrun
      exact hs
  | cons a as ih =>
      intro s t hs hrun
      obtain ⟨s', hs', hrest⟩ := run_cons_eq_some.1 hrun
      exact ih (hstep s a s' hs hs') hrest

/-! ## Runs whose steps meet a condition -/

/-- Every step of the run is taken in a state that satisfies `G` for the action taken. -/
def RunMeets (step : σ → α → Option σ) (G : σ → α → Prop) : σ → List α → Prop
  | _, [] => True
  | s, a :: as => G s a ∧ ∀ s', step s a = some s' → RunMeets step G s' as

@[simp] lemma runMeets_nil {G : σ → α → Prop} (s : σ) : RunMeets step G s [] := trivial

lemma runMeets_cons {G : σ → α → Prop} {s : σ} {a : α} {as : List α} :
    RunMeets step G s (a :: as) ↔ G s a ∧ ∀ s', step s a = some s' → RunMeets step G s' as :=
  Iff.rfl

lemma RunMeets.cons {G : σ → α → Prop} {s s' : σ} {a : α} {as : List α} (hG : G s a)
    (hs : step s a = some s') (hrest : RunMeets step G s' as) : RunMeets step G s (a :: as) := by
  refine ⟨hG, fun t ht => ?_⟩
  obtain rfl : s' = t := Option.some.inj (hs.symm.trans ht)
  exact hrest

/-- A condition that the actions of the list meet in every state. -/
lemma RunMeets.of_forall {G : σ → α → Prop} {as : List α} (h : ∀ a ∈ as, ∀ s, G s a) :
    ∀ s, RunMeets step G s as := by
  induction as with
  | nil => exact fun _ => trivial
  | cons a as ih =>
      intro s
      have hrest : ∀ b ∈ as, ∀ s, G s b := fun b hb => h b (List.mem_cons_of_mem _ hb)
      exact ⟨h a List.mem_cons_self s, fun s' _ => ih hrest s'⟩

/-- Two conditions on one run. -/
lemma RunMeets.and {G H : σ → α → Prop} {as : List α} :
    ∀ {s : σ}, RunMeets step G s as → RunMeets step H s as →
      RunMeets step (fun s a => G s a ∧ H s a) s as := by
  induction as with
  | nil => exact fun _ _ => trivial
  | cons a as ih =>
      intro s hG hH
      exact ⟨⟨hG.1, hH.1⟩, fun s' hs' => ih (hG.2 s' hs') (hH.2 s' hs')⟩

lemma RunMeets.append {G : σ → α → Prop} {as bs : List α} :
    ∀ {s : σ}, RunMeets step G s as → (∀ s', run step s as = some s' → RunMeets step G s' bs) →
      RunMeets step G s (as ++ bs) := by
  induction as with
  | nil => exact fun _ hrest => hrest _ rfl
  | cons a as ih =>
      intro s hG hrest
      refine ⟨hG.1, fun s' hs' => ih (hG.2 s' hs') fun t ht => hrest t ?_⟩
      exact run_cons_eq_some.2 ⟨s', hs', ht⟩

/-- Along a given run a decidable condition can be checked. -/
instance RunMeets.instDecidable {G : σ → α → Prop} [∀ s a, Decidable (G s a)] :
    ∀ (s : σ) (as : List α), Decidable (RunMeets step G s as)
  | _, [] => .isTrue trivial
  | s, a :: as =>
    match h : step s a with
    | none => decidable_of_iff (G s a)
        ⟨fun hG => ⟨hG, fun s' hs' => by rw [h] at hs'; cases hs'⟩, fun hmeets => hmeets.1⟩
    | some s' =>
      have : Decidable (RunMeets step G s' as) := RunMeets.instDecidable s' as
      decidable_of_iff (G s a ∧ RunMeets step G s' as)
        ⟨fun hmeets => .cons hmeets.1 h hmeets.2, fun hmeets => ⟨hmeets.1, hmeets.2 s' h⟩⟩

/-- **Guarded invariant rule.**  A property preserved by every step that meets the guard holds
at the end of every run all of whose steps meet it. -/
theorem run_invariant_of_meets {G : σ → α → Prop} {I : σ → Prop}
    (hstep : ∀ s a s', I s → G s a → step s a = some s' → I s') :
    ∀ {as : List α} {s t : σ}, I s → RunMeets step G s as → run step s as = some t → I t := by
  intro as
  induction as with
  | nil =>
      intro s t hs _ hrun
      obtain rfl : s = t := by simpa using hrun
      exact hs
  | cons a as ih =>
      intro s t hs hmeets hrun
      obtain ⟨s', hs', hrest⟩ := run_cons_eq_some.1 hrun
      exact ih (hstep s a s' hs hmeets.1 hs') (hmeets.2 s' hs') hrest

/-- **Exact condition of a run.**  Where the guard preserves an invariant, and each step keeps a
property exactly when it meets a condition, a run that meets the guard ends with the property
exactly when it starts with it and meets the condition throughout. -/
theorem iff_runMeets {G Q : σ → α → Prop} {I P : σ → Prop}
    (hstep : ∀ s a s', I s → G s a → step s a = some s' → I s')
    (hiff : ∀ s a s', I s → G s a → step s a = some s' → (P s' ↔ P s ∧ Q s a)) :
    ∀ {as : List α} {s t : σ}, I s → RunMeets step G s as → run step s as = some t →
      (P t ↔ P s ∧ RunMeets step Q s as) := by
  intro as
  induction as with
  | nil =>
      intro s t _ _ hrun
      obtain rfl : s = t := by simpa using hrun
      simp
  | cons a as ih =>
      intro s t hs hmeets hrun
      obtain ⟨s', hs', hrest⟩ := run_cons_eq_some.1 hrun
      have hlater : (∀ r, step s a = some r → RunMeets step Q r as) ↔ RunMeets step Q s' as :=
        ⟨fun h => h s' hs', fun h r hr => Option.some.inj (hs'.symm.trans hr) ▸ h⟩
      rw [ih (hstep s a s' hs hmeets.1 hs') (hmeets.2 s' hs') hrest,
        hiff s a s' hs hmeets.1 hs', runMeets_cons, hlater, and_assoc]

/-- A condition that follows from the guard and an invariant the guard preserves is met as well. -/
theorem runMeets_of_meets {G Q : σ → α → Prop} {I : σ → Prop}
    (hstep : ∀ s a s', I s → G s a → step s a = some s' → I s') (hQ : ∀ s a, I s → G s a → Q s a) :
    ∀ {as : List α} {s : σ}, I s → RunMeets step G s as → RunMeets step Q s as := by
  intro as
  induction as with
  | nil => exact fun _ _ => trivial
  | cons a as ih =>
      intro s hs hmeets
      refine ⟨hQ s a hs hmeets.1, fun s' hs' => ?_⟩
      exact ih (hstep s a s' hs hmeets.1 hs') (hmeets.2 s' hs')

/-- Two conditions that agree where an invariant holds are met by the same runs. -/
theorem runMeets_congr {I : σ → Prop} {P Q : σ → α → Prop}
    (hstep : ∀ s a s', I s → step s a = some s' → I s') (hiff : ∀ s a, I s → (P s a ↔ Q s a)) :
    ∀ {as : List α} {s : σ}, I s → (RunMeets step P s as ↔ RunMeets step Q s as) := by
  intro as
  induction as with
  | nil => simp
  | cons a as ih =>
      intro s hs
      rw [runMeets_cons, runMeets_cons, hiff s a hs]
      refine and_congr_right fun _ => forall₂_congr fun s' hs' => ?_
      exact ih (hstep s a s' hs hs')

/-! ## Actions that are tried -/

/-- An action that is not enabled leaves the state alone. -/
def attempt (step : σ → α → Option σ) (s : σ) (a : α) : σ := (step s a).getD s

lemma attempt_of_eq_some {s s' : σ} {a : α} (h : step s a = some s') : attempt step s a = s' := by
  rw [attempt, h, Option.getD_some]

lemma attempt_of_eq_none {s : σ} {a : α} (h : step s a = none) : attempt step s a = s := by
  rw [attempt, h, Option.getD_none]

end Transition

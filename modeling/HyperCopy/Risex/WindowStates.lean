import HyperCopy.Risex.WindowEffect

/-!
# The states of the window over a run

An enabled window was opened by the newest request the controller has seen, and nothing has ended
it since; its time is fixed at the opening; the newest generation never decreases.  All this holds
in every run (`execution_window_laws`).

A locked window is left by a newer request to arm, and by one other step: an attempt whose checks
have passed cancels a window that somebody has locked in the meantime, and `cancel_arm` puts
`DISABLED` in the place of the lock (`superseded_attempt_unlocks`).  `disarm` does not do this.
-/

namespace HyperCopy

open Transition

/-- No attempt whose checks have passed is finalised while the window is locked. -/
def LockUntouched (s : WindowSystem) (op : WindowOp) : Prop :=
  s.window.state = .locked → s.finalizes op = false

instance (s : WindowSystem) (op : WindowOp) : Decidable (LockUntouched s op) :=
  inferInstanceAs (Decidable (_ → _))

/-- A step that leaves the lock hands the controller a newer request to arm. -/
def LockLeftByArm (s : WindowSystem) (op : WindowOp) : Prop :=
  ∀ s', windowStep s op = some s' → s.window.state = .locked → s'.window.state ≠ .locked →
    ∃ poller fingerprint request, op = .poll poller (.apply fingerprint) ∧
      s.pollers.lookup poller = some (.claimed request) ∧ request.action = .arm ∧
      s.window.lastControlGeneration < request.controlGeneration ∧ s'.window.state = .arming

section Steps

variable {s s' : WindowSystem} {op : WindowOp}

lemma WindowRecord.Lawful.step (h : s.record.Lawful) (hstep : windowStep s op = some s') :
    s'.record.Lawful := by
  have heffect := recordEffect hstep
  generalize s'.record = r' at heffect ⊢
  cases heffect with
  | kept => exact h
  | named requestId =>
      refine ⟨h.attempt, h.arming, fun hopen => ?_, h.armed, h.disarmed⟩
      obtain ⟨t, ht⟩ := h.opened hopen
      exact ⟨t, ht.last, ht.openedAt, ht.expiresAt⟩
  | expiredLocked reason _ => exact (h.call _ _).call _ _
  | _ => exact h.call _ _

/-- The counters of the controller never go back. -/
lemma counters_step (hstep : windowStep s op = some s') :
    s.window.lastControlGeneration ≤ s'.window.lastControlGeneration ∧
      s.window.authorizationInvalidationEpoch ≤ s'.window.authorizationInvalidationEpoch := by
  unfold WindowSystem.window
  have heffect := recordEffect hstep
  generalize s'.record = r' at heffect ⊢
  cases heffect with
  | kept => exact ⟨le_refl _, le_refl _⟩
  | named requestId => exact ⟨le_refl _, le_refl _⟩
  | expiredLocked reason _ =>
      have hfirst := WindowRecord.call_counters s.record s.clock .expireIfNeeded
      have hsecond := WindowRecord.call_counters (s.record.call s.clock .expireIfNeeded) s.clock
        (.lock reason)
      exact ⟨hfirst.1.trans hsecond.1, hfirst.2.trans hsecond.2⟩
  | _ => exact WindowRecord.call_counters _ _ _

/-- What a call does to a locked window. -/
lemma locked_call {r : WindowRecord} (hlocked : r.window.state = .locked) (now : ℕ) :
    (r.call now .expireIfNeeded).window.state = .locked ∧
      (∀ reason, (r.call now (.pause reason)).window.state = .locked) ∧
      (r.call now .resumeAfterPositiveProbe).window.state = .locked ∧
      ∀ generation reason, (r.call now (.disarm generation reason)).window.state = .locked := by
  have hexpired : r.window.expired now = false := by
    simp [OperationalWindow.expired, hlocked]
  refine ⟨?_, fun reason => ?_, ?_, fun generation reason => ?_⟩
  · simp [WindowRecord.call, WindowRecord.withWindow, OperationalWindow.expireIfNeeded, hexpired,
      hlocked]
  · simp [WindowRecord.call, WindowRecord.withWindow, OperationalWindow.pause,
      OperationalWindow.expireIfNeeded, hexpired, hlocked]
  · simp [WindowRecord.call, WindowRecord.withWindow, OperationalWindow.resumeAfterPositiveProbe,
      OperationalWindow.expireIfNeeded, hexpired, hlocked]
  · simp only [WindowRecord.call, WindowRecord.withWindow, OperationalWindow.disarm]
    by_cases hold : generation < r.window.lastControlGeneration
    · simp [hold, hlocked]
    · simp [hold, hlocked, OperationalWindow.transition]

/-- **The lock over one step.**  It is left by a newer request to arm alone, exactly when no
attempt whose checks have passed is finalised under it. -/
lemma lockUntouched_iff (h : s.record.Lawful) (op : WindowOp) :
    LockUntouched s op ↔ LockLeftByArm s op := by
  constructor
  · intro huntouched s' hstep hlocked hleft
    have hfinalizes := huntouched hlocked
    obtain ⟨hexpire, hpause, hresume, hdisarm⟩ := locked_call hlocked s.clock
    have hnoAttempt : s.window.armAttempt = none := by
      cases hattempt : s.window.armAttempt with
      | none => rfl
      | some a =>
          have harming : s.window.state = .arming := h.attempt a hattempt
          rw [hlocked] at harming
          cases harming
    unfold WindowSystem.window at hleft ⊢
    have heffect := recordEffect hstep
    generalize s'.record = r' at heffect hleft ⊢
    cases heffect with
    | kept => exact absurd hlocked hleft
    | named requestId => exact absurd hlocked hleft
    | expired => exact absurd hexpire hleft
    | locked reason _ => exact absurd rfl hleft
    | expiredLocked reason _ => exact absurd rfl hleft
    | paused reason _ => exact absurd (hpause reason) hleft
    | resumed _ => exact absurd hresume hleft
    | disarmed generation reason _ => exact absurd (hdisarm generation reason) hleft
    | dropped reason locked hattempt => exact absurd hnoAttempt hattempt
    | cancelled reason locked _ hunlocks =>
        cases locked with
        | true => exact absurd rfl hleft
        | false =>
            rw [hunlocks rfl] at hfinalizes
            cases hfinalizes
    | opened task t _ _ hcan =>
        have harming := (WindowRecord.canFinalizeArm_iff.1 hcan).1
        rw [hlocked] at harming
        cases harming
    | armed poller request fingerprint hop hstage haction _ =>
        by_cases hnewer : s.window.lastControlGeneration < request.controlGeneration
        · refine ⟨poller, fingerprint, request, hop, hstage, haction, hnewer, ?_⟩
          have hpast : ¬ request.controlGeneration ≤ s.record.window.lastControlGeneration :=
            not_le.2 hnewer
          simp [WindowRecord.call, OperationalWindow.beginArm, hpast, OperationalWindow.transition]
        · have hold : request.controlGeneration ≤ s.record.window.lastControlGeneration :=
            not_lt.1 hnewer
          refine absurd ?_ hleft
          simp only [WindowRecord.call, OperationalWindow.beginArm, hold, if_true]
          exact hlocked
  · intro hleft hlocked
    by_contra hfinalizes
    rw [Bool.not_eq_false] at hfinalizes
    -- the finalisation finds the lock, and cancels
    unfold WindowSystem.finalizes at hfinalizes
    split at hfinalizes
    · rename_i task
      obtain ⟨t, ht, hready⟩ := (Option.any_eq_true _ _).1 hfinalizes
      simp only [Bool.and_eq_true, decide_eq_true_eq, Bool.not_eq_true'] at hready
      have hcan : s.window.canFinalizeArm t.request.requestId t.request.controlGeneration
          t.contextFingerprint = false := by
        simp [OperationalWindow.canFinalizeArm, hlocked]
      have hstep : windowStep s (.arm task (.singleton true)) =
          some ((s.call (.cancelArm fenceRejected false)).endArmTask task) := by
        simp [windowStep, armStep, ht, hready.1, hready.2, hcan]
      obtain ⟨poller, fingerprint, request, hop, -⟩ :=
        hleft _ hstep hlocked (by simp [WindowSystem.window, WindowRecord.call,
          WindowRecord.withWindow, OperationalWindow.cancelArm, OperationalWindow.transition])
      cases hop
    · cases hfinalizes

end Steps

/-- What holds of the window in every state. -/
structure WindowAuthorized (s : WindowSystem) : Prop where
  /-- An enabled window was opened by the newest request, and nothing came after. -/
  enabled : s.window.state = .enabled → ∃ t,
    s.record.events.head? = some (.opened s.window.lastControlGeneration t) ∧
      s.window.expiresAt = some (t + risexWindowTtl)
  /-- A window keeps the time of its opening while it is paused. -/
  paused : s.window.state = .paused → ∃ t,
    s.record.events.head? = some (.opened s.window.lastControlGeneration t) ∧
      s.window.expiresAt = some (t + risexWindowTtl)
  /-- The newest generation is the highest the controller was handed. -/
  newest : ∀ g ∈ s.record.armed ++ s.record.disarmed, g ≤ s.window.lastControlGeneration

lemma windowAuthorized_of_lawful {s : WindowSystem} (h : s.record.Lawful) : WindowAuthorized s := by
  refine ⟨fun hstate => ?_, fun hstate => ?_, fun g hg => ?_⟩
  · have hstate' : s.record.window.state = .enabled := hstate
    obtain ⟨t, ht⟩ := h.opened (by rw [hstate']; rfl)
    exact ⟨t, ht.last, ht.expiresAt⟩
  · have hstate' : s.record.window.state = .paused := hstate
    obtain ⟨t, ht⟩ := h.opened (by rw [hstate']; rfl)
    exact ⟨t, ht.last, ht.expiresAt⟩
  · rcases List.mem_append.1 hg with harmed | hdisarmed
    · exact h.armed g harmed
    · exact (h.disarmed g hdisarmed).1

/-- **The state machine of the window.**  In every run: an enabled window was opened by the newest
request, nothing has ended it since and its expiry is fixed at its opening; the newest generation
never decreases; and the lock is left only through newer requests to arm exactly when no attempt
whose checks have passed is finalised while the window is locked. -/
theorem execution_window_laws (ops : List WindowOp) (s : WindowSystem)
    (hrun : run windowStep .initial ops = some s) :
    WindowAuthorized s ∧
      (∀ op s', windowStep s op = some s' →
        s.window.lastControlGeneration ≤ s'.window.lastControlGeneration) ∧
      (RunMeets windowStep LockUntouched .initial ops ↔
        RunMeets windowStep LockLeftByArm .initial ops) := by
  have hinitial : WindowSystem.initial.record.Lawful := WindowRecord.lawful_boot 0
  have hlawful : s.record.Lawful :=
    run_invariant (I := fun s => s.record.Lawful) (fun _ _ _ h hstep => h.step hstep) hinitial hrun
  refine ⟨windowAuthorized_of_lawful hlawful, fun op s' hstep => (counters_step hstep).1, ?_⟩
  exact runMeets_congr (I := fun s => s.record.Lawful) (fun _ _ _ h hstep => h.step hstep)
    (fun _ op h => lockUntouched_iff h op) hinitial

/-- A request to arm, up to the start of its attempt. -/
def armOps (requestId : RequestId) (task : ArmTaskId) : List WindowOp :=
  [.control (.create .arm requestId "" true), .control .commit, .poll 0 .claim, .poll 0 .commit,
    .poll 0 (.apply "context"), .poll 0 .heartbeat, .poll 0 (.singleton true task)]

/-- The attempt passes its checks. -/
def finalizeOps (task : ArmTaskId) : List WindowOp :=
  [.arm task (.readiness .attested "context" ""), .arm task .fence, .arm task (.singleton true)]

theorem execution_window_laws_run :
    ∃ s, run windowStep .initial (armOps 1 1 ++ finalizeOps 1) = some s ∧
      s.window.state = .enabled ∧ WindowAuthorized s := by
  have hrun : (run windowStep .initial (armOps 1 1 ++ finalizeOps 1)).map (·.window.state) =
      some .enabled := by
    decide +kernel
  obtain ⟨s, hs, hstate⟩ := Option.map_eq_some_iff.1 hrun
  exact ⟨s, hs, hstate, (execution_window_laws _ s hs).1⟩

/-- A second request to arm is begun while the attempt of the first still runs. -/
def supersededOps : List WindowOp :=
  armOps 1 1 ++ (armOps 2 2).take 5 ++ (finalizeOps 1).take 2 ++ (armOps 2 2).drop 5 ++
    (finalizeOps 2).take 2

/-- The first attempt is rejected and locks the window; the second one passes its checks, finds the
window locked, and cancels the lock. -/
theorem superseded_attempt_unlocks :
    ∃ s s', run windowStep .initial supersededOps = some s ∧
      windowStep s (.arm 2 (.singleton true)) = some s' ∧
      s.window.state = .locked ∧ s'.window.state = .disabled := by
  have hrun : ((run windowStep .initial supersededOps).bind fun s =>
      (windowStep s (.arm 2 (.singleton true))).map fun s' => (s.window.state, s'.window.state)) =
        some (.locked, .disabled) := by
    decide +kernel
  obtain ⟨s, hs, hnext⟩ := Option.bind_eq_some_iff.1 hrun
  obtain ⟨s', hs', hstates⟩ := Option.map_eq_some_iff.1 hnext
  obtain ⟨hlocked, hdisabled⟩ := Prod.mk.inj hstates
  exact ⟨s, s', hs, hs', hlocked, hdisabled⟩

end HyperCopy

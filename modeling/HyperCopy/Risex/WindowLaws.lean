import HyperCopy.Risex.Window

/-!
# The laws of the window

What every sequence of calls keeps, in whatever order the calls come and whatever the clock says:
an open window was opened by the newest request, nothing has ended it since, and it expires a fixed
time after its opening.  `WindowRecord.Lawful.call` is the step, one case for each call.
-/

namespace HyperCopy

/-- An attempt is under way, or a window is open. -/
def ExecutionWindowState.live : ExecutionWindowState → Bool
  | .arming | .enabled | .paused => true
  | .disabled | .locked => false

/-- A window is open. -/
def ExecutionWindowState.windowed : ExecutionWindowState → Bool
  | .enabled | .paused => true
  | .disabled | .arming | .locked => false

namespace WindowRecord

/-- The last event opened the window at `t`, for the newest request, and the window has the time
that was fixed then. -/
structure OpenedAt (r : WindowRecord) (t : ℕ) : Prop where
  last : r.events.head? = some (.opened r.window.lastControlGeneration t)
  openedAt : r.window.openedAt = some t
  expiresAt : r.window.expiresAt = some (t + risexWindowTtl)

/-- The invariant of a run: the window is live by a current ARM that no DISARM has ended. -/
structure Lawful (r : WindowRecord) : Prop where
  attempt : ∀ a, r.window.armAttempt = some a → r.window.state = .arming
  arming : r.window.state = .arming →
    r.events.head? = some (.armed r.window.lastControlGeneration)
  opened : r.window.state.windowed = true → ∃ t, r.OpenedAt t
  armed : ∀ g ∈ r.armed, g ≤ r.window.lastControlGeneration
  disarmed : ∀ g ∈ r.disarmed, g ≤ r.window.lastControlGeneration ∧
    (r.window.state.live = true → g < r.window.lastControlGeneration)

variable {r : WindowRecord} {now : ℕ}

lemma lawful_boot (now : ℕ) : (boot now).Lawful where
  attempt a h := by simp [boot, OperationalWindow.boot] at h
  arming h := by simp [boot, OperationalWindow.boot] at h
  opened h := by simp [boot, OperationalWindow.boot, ExecutionWindowState.windowed] at h
  armed g h := by simp [boot] at h
  disarmed g h := by simp [boot] at h

/-! ## Calls that end an authorization -/

/-- The window is `disabled` or `locked`, with no attempt under way. -/
def Closed (w : OperationalWindow) : Prop := w.state.live = false ∧ w.armAttempt = none

lemma Lawful.closed (h : r.Lawful) {w : OperationalWindow} (hclosed : Closed w)
    (hlast : r.window.lastControlGeneration ≤ w.lastControlGeneration) :
    (r.withWindow w).Lawful := by
  obtain ⟨hlive, hattempt⟩ := hclosed
  refine ⟨fun a ha => ?_, fun harming => ?_, fun hopen => ?_, fun g hg => ?_, fun g hg => ?_⟩
  · have hsome : w.armAttempt = some a := ha
    rw [hattempt] at hsome
    cases hsome
  · have hstate : w.state = .arming := harming
    simp [hstate, ExecutionWindowState.live] at hlive
  · have hstate : w.state.windowed = true := hopen
    cases hw : w.state <;> simp_all [ExecutionWindowState.live, ExecutionWindowState.windowed]
  · exact (h.armed g hg).trans hlast
  · refine ⟨(h.disarmed g hg).1.trans hlast, fun hopen => ?_⟩
    have hstate : w.state.live = true := hopen
    rw [hlive] at hstate
    cases hstate

lemma Lawful.expireIfNeeded (h : r.Lawful) (now : ℕ) :
    (r.withWindow (r.window.expireIfNeeded now)).Lawful := by
  unfold OperationalWindow.expireIfNeeded
  split_ifs with hexpired
  · exact h.closed ⟨rfl, rfl⟩ (le_refl _)
  · simpa [withWindow] using h

/-! ## Every call -/

/-- The window keeps its time when only its state changes between `enabled` and `paused`. -/
lemma Lawful.shifted (h : r.Lawful) (hopen : r.window.state.windowed = true)
    {state : ExecutionWindowState} (hstate : state.windowed = true) (reason : String) :
    (r.withWindow (r.window.transition now state reason)).Lawful := by
  obtain ⟨t, hlast, hopened, hexpires⟩ := h.opened hopen
  have hlive : r.window.state.live = true := by
    cases hw : r.window.state <;> simp_all [ExecutionWindowState.live, ExecutionWindowState.windowed]
  have hevents : (r.withWindow (r.window.transition now state reason)).events = r.events := by
    simp [withWindow, OperationalWindow.transition]
  refine ⟨fun a ha => ?_, fun harming => ?_, fun _ => ⟨t, ?_, hopened, hexpires⟩, h.armed,
    fun g hg => ⟨(h.disarmed g hg).1, fun _ => (h.disarmed g hg).2 hlive⟩⟩
  · have hwas := h.attempt a ha
    simp [hwas, ExecutionWindowState.windowed] at hopen
  · have hwas : state = .arming := harming
    simp [hwas, ExecutionWindowState.windowed] at hstate
  · rw [hevents]
    exact hlast

lemma Lawful.pause (h : r.Lawful) (now : ℕ) (reason : String) :
    (r.withWindow (r.window.pause now reason)).Lawful := by
  unfold OperationalWindow.pause OperationalWindow.expireIfNeeded
  by_cases hexpired : r.window.expired now = true
  · simp only [hexpired, if_true]
    exact h.closed ⟨rfl, rfl⟩ (le_refl _)
  · simp only [hexpired, if_false, Bool.false_eq_true]
    split_ifs with henabled
    · exact h.shifted (by rw [henabled]; rfl) rfl reason
    · simpa [withWindow] using h

lemma Lawful.resume (h : r.Lawful) (now : ℕ) :
    (r.withWindow (r.window.resumeAfterPositiveProbe now)).Lawful := by
  unfold OperationalWindow.resumeAfterPositiveProbe OperationalWindow.expireIfNeeded
  by_cases hexpired : r.window.expired now = true
  · simp only [hexpired, if_true]
    exact h.closed ⟨rfl, rfl⟩ (le_refl _)
  · simp only [hexpired, if_false, Bool.false_eq_true]
    split_ifs with hpaused hover
    · simpa [withWindow] using h
    · exact h.closed ⟨rfl, rfl⟩ (le_refl _)
    · have hstate : r.window.state = .paused := not_not.1 hpaused
      exact h.shifted (by rw [hstate]; rfl) rfl _

/-! ## Requests the controller is handed -/

lemma Lawful.noteArmed (h : r.Lawful) {generation : ℕ}
    (hle : generation ≤ r.window.lastControlGeneration) :
    Lawful { r with armed := generation :: r.armed } := by
  refine ⟨h.attempt, h.arming, fun hopen => ?_, fun g hg => ?_, h.disarmed⟩
  · obtain ⟨t, ht⟩ := h.opened hopen
    exact ⟨t, ht.last, ht.openedAt, ht.expiresAt⟩
  · rcases List.mem_cons.1 hg with rfl | hg
    · exact hle
    · exact h.armed g hg

lemma Lawful.noteDisarmed (h : r.Lawful) {generation : ℕ}
    (hle : generation ≤ r.window.lastControlGeneration)
    (hlive : r.window.state.live = true → generation < r.window.lastControlGeneration) :
    Lawful { r with disarmed := generation :: r.disarmed } := by
  refine ⟨h.attempt, h.arming, fun hopen => ?_, h.armed, fun g hg => ?_⟩
  · obtain ⟨t, ht⟩ := h.opened hopen
    exact ⟨t, ht.last, ht.openedAt, ht.expiresAt⟩
  · rcases List.mem_cons.1 hg with rfl | hg
    · exact ⟨hle, hlive⟩
    · exact h.disarmed g hg

lemma Lawful.disarm (h : r.Lawful) (now generation : ℕ) (reason : String) :
    (r.call now (.disarm generation reason)).Lawful := by
  simp only [WindowRecord.call, OperationalWindow.disarm]
  by_cases hold : generation < r.window.lastControlGeneration
  · simp only [hold, if_true]
    have hkept : r.withWindow r.window = r := by simp [withWindow]
    rw [hkept]
    exact h.noteDisarmed hold.le fun _ => hold
  · simp only [hold, if_false]
    have hle : r.window.lastControlGeneration ≤ generation := not_lt.1 hold
    by_cases hlocked : r.window.state = .locked
    · simp only [hlocked, if_true]
      exact (h.closed ⟨rfl, rfl⟩ hle).noteDisarmed (le_refl generation) fun hlive => by cases hlive
    · simp only [hlocked, if_false]
      exact (h.closed ⟨rfl, rfl⟩ hle).noteDisarmed (le_refl generation) fun hlive => by cases hlive

lemma Lawful.beginArm (h : r.Lawful) (now : ℕ) (requestId : RequestId) (generation : ℕ)
    (fingerprint : String) : (r.call now (.beginArm requestId generation fingerprint)).Lawful := by
  simp only [WindowRecord.call, OperationalWindow.beginArm]
  by_cases hold : generation ≤ r.window.lastControlGeneration
  · simp only [hold, if_true]
    exact h.noteArmed hold
  · simp only [hold, if_false]
    have hlt : r.window.lastControlGeneration < generation := not_le.1 hold
    refine ⟨fun a ha => rfl, fun _ => rfl, fun hopen => (by cases hopen), fun g hg => ?_,
      fun g hg => ?_⟩
    · rcases List.mem_cons.1 hg with rfl | hg
      · exact le_refl g
      · exact (h.armed g hg).trans hlt.le
    · have hle := (h.disarmed g hg).1
      exact ⟨hle.trans hlt.le, fun _ => lt_of_le_of_lt hle hlt⟩

/-! ## Opening -/

/-- What an attempt that can be finalised looks like. -/
lemma canFinalizeArm_iff {w : OperationalWindow} {requestId : RequestId} {generation : ℕ}
    {fingerprint : String} :
    w.canFinalizeArm requestId generation fingerprint = true ↔
      w.state = .arming ∧ ∃ a, w.armAttempt = some a ∧ a.requestId = requestId ∧
        a.controlGeneration = generation ∧ generation = w.lastControlGeneration ∧
        a.contextFingerprint = fingerprint ∧
        a.invalidationEpochSnapshot = w.authorizationInvalidationEpoch := by
  unfold OperationalWindow.canFinalizeArm
  simp only [Bool.and_eq_true, decide_eq_true_eq, Option.any_eq_true, and_congr_right_iff]
  intro _
  constructor
  · rintro ⟨a, ha, ⟨⟨⟨hid, hgen⟩, hlast⟩, hcontext⟩, hepoch⟩
    exact ⟨a, ha, hid, hgen, hgen ▸ hlast, hcontext, hepoch⟩
  · rintro ⟨a, ha, hid, hgen, hlast, hcontext, hepoch⟩
    exact ⟨a, ha, ⟨⟨⟨hid, hgen⟩, hgen.trans hlast⟩, hcontext⟩, hepoch⟩

lemma Lawful.openWindow (h : r.Lawful) (now : ℕ) (requestId : RequestId) (generation : ℕ)
    (fingerprint : String) : (r.call now (.openWindow requestId generation fingerprint)).Lawful := by
  simp only [WindowRecord.call, OperationalWindow.openWindow]
  by_cases hcan : r.window.canFinalizeArm requestId generation fingerprint = true
  · simp only [hcan, if_true]
    obtain ⟨harming, -, -, -, -, hlast, -⟩ := canFinalizeArm_iff.1 hcan
    refine ⟨fun a ha => (by cases ha), fun harmed => (by cases harmed), fun _ => ⟨now, ?_, rfl, rfl⟩,
      h.armed, fun g hg => ⟨(h.disarmed g hg).1, fun _ => (h.disarmed g hg).2 ?_⟩⟩
    · rw [hlast]
      rfl
    · rw [harming]
      rfl
  · simp only [hcan, Bool.false_eq_true, if_false]
    exact h

/-- **The laws hold after every call.** -/
theorem Lawful.call (h : r.Lawful) (now : ℕ) (c : WindowCall) : (r.call now c).Lawful := by
  cases c with
  | beginArm requestId generation fingerprint => exact h.beginArm now _ _ _
  | openWindow requestId generation fingerprint => exact h.openWindow now _ _ _
  | disarm generation reason => exact h.disarm now _ _
  | cancelArm reason locked =>
      cases locked with
      | true => exact h.closed ⟨rfl, rfl⟩ (le_refl _)
      | false => exact h.closed ⟨rfl, rfl⟩ (le_refl _)
  | lock reason => exact h.closed ⟨rfl, rfl⟩ (le_refl _)
  | disable reason => exact h.closed ⟨rfl, rfl⟩ (le_refl _)
  | expireIfNeeded => exact h.expireIfNeeded now
  | pause reason => exact h.pause now reason
  | resumeAfterPositiveProbe => exact h.resume now

/-! ## Counters that only rise -/

lemma expireIfNeeded_counters (w : OperationalWindow) (now : ℕ) :
    (w.expireIfNeeded now).lastControlGeneration = w.lastControlGeneration ∧
      w.authorizationInvalidationEpoch ≤ (w.expireIfNeeded now).authorizationInvalidationEpoch := by
  unfold OperationalWindow.expireIfNeeded
  split_ifs
  · exact ⟨rfl, Nat.le_succ _⟩
  · exact ⟨rfl, le_refl _⟩

/-- Neither the newest generation nor the epoch is ever lowered. -/
lemma call_counters (r : WindowRecord) (now : ℕ) (c : WindowCall) :
    r.window.lastControlGeneration ≤ (r.call now c).window.lastControlGeneration ∧
      r.window.authorizationInvalidationEpoch ≤
        (r.call now c).window.authorizationInvalidationEpoch := by
  have hexpire := expireIfNeeded_counters r.window now
  cases c with
  | beginArm requestId generation fingerprint =>
      simp only [WindowRecord.call, OperationalWindow.beginArm]
      split_ifs with hold
      · exact ⟨le_refl _, le_refl _⟩
      · exact ⟨(not_le.1 hold).le, le_refl _⟩
  | openWindow requestId generation fingerprint =>
      simp only [WindowRecord.call, OperationalWindow.openWindow]
      by_cases hcan : r.window.canFinalizeArm requestId generation fingerprint = true
      · simp only [hcan, if_true]
        exact ⟨le_refl _, le_refl _⟩
      · simp only [hcan, Bool.false_eq_true, if_false]
        exact ⟨le_refl _, le_refl _⟩
  | disarm generation reason =>
      simp only [WindowRecord.call, OperationalWindow.disarm]
      by_cases hold : generation < r.window.lastControlGeneration
      · simp only [hold, if_true]
        exact ⟨le_refl _, le_refl _⟩
      · simp only [hold, if_false]
        exact ⟨not_lt.1 hold, Nat.le_succ _⟩
  | cancelArm reason locked => exact ⟨le_refl _, Nat.le_succ _⟩
  | lock reason => exact ⟨le_refl _, Nat.le_succ _⟩
  | disable reason => exact ⟨le_refl _, Nat.le_succ _⟩
  | expireIfNeeded => exact ⟨hexpire.1.ge, hexpire.2⟩
  | pause reason =>
      show _ ≤ (r.window.pause now reason).lastControlGeneration ∧
        _ ≤ (r.window.pause now reason).authorizationInvalidationEpoch
      unfold OperationalWindow.pause
      dsimp only
      split_ifs <;> exact ⟨hexpire.1.ge, hexpire.2⟩
  | resumeAfterPositiveProbe =>
      show _ ≤ (r.window.resumeAfterPositiveProbe now).lastControlGeneration ∧
        _ ≤ (r.window.resumeAfterPositiveProbe now).authorizationInvalidationEpoch
      unfold OperationalWindow.resumeAfterPositiveProbe
      dsimp only
      split_ifs
      · exact ⟨hexpire.1.ge, hexpire.2⟩
      · exact ⟨hexpire.1.ge, hexpire.2.trans (Nat.le_succ _)⟩
      · exact ⟨hexpire.1.ge, hexpire.2⟩

end WindowRecord

end HyperCopy

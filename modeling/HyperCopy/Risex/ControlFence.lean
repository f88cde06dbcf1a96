import HyperCopy.Risex.WindowStates

/-!
# The fence between arming and disarming

A control request gets its generation under the advisory lock, and an attempt to arm holds the same
lock from the check that it is the newest request until its window is open.  So no request is
committed in between: a window is opened by the newest of all committed requests
(`arm_disarm_fence`), and a request to disarm, once it is written, is never overtaken by an older
request to arm.

A window that is open already is another matter.  The poller commits the row of a request to disarm
as consumed before it hands the request to the controller, and between the two it waits for the
submission mutex, or fails.  All that time the window stays enabled by the older request to arm
(`consumed_disarm_leaves_window`).
-/

namespace HyperCopy

open Transition

/-- Generation and action of the requests, in the order in which they were committed. -/
def WindowSystem.issued (s : WindowSystem) : List (ℕ × ControlAction) :=
  s.requests.map fun r => (r.controlGeneration, r.action)

/-- An attempt that has passed the fence. -/
def WindowSystem.Fenced (s : WindowSystem) (task : ArmTaskId) (request : ControlRequest) : Prop :=
  ∃ t, s.tasks.lookup task = some t ∧ t.stage = .fenced ∧ t.request = request

/-- The controller has not been handed the request, nor a newer one. -/
def WindowSystem.unheeded (s : WindowSystem) (q : ControlRequest) : Bool :=
  q.action = .disarm && s.window.lastControlGeneration ≤ q.controlGeneration

/-- No request to disarm is consumed under an enabled window, and no paused window resumes while a
consumed one waits to be handed over. -/
def disarmsInTime (s : WindowSystem) : WindowOp → Bool
  | .poll poller .commit =>
    match s.pollers.lookup poller with
    | some (.claiming request) =>
      s.window.state ≠ .enabled ||
        s.requests.all fun q => q.requestId ≠ request.requestId || !s.unheeded q
    | _ => true
  | .resume =>
    s.window.state ≠ .paused || s.window.expired s.clock ||
      s.requests.all fun q => !q.consumed || !s.unheeded q
  | _ => true

/-- An enabled window was opened for a request newer than every consumed request to disarm. -/
def DisarmsHeeded (s : WindowSystem) : Prop :=
  s.window.state = .enabled → ∃ g t, s.record.events.head? = some (.opened g t) ∧
    ∀ q ∈ s.requests, q.action = .disarm → q.consumed = true → q.controlGeneration < g

/-- Generations ascend, the lock keeps a new one above all others, and an attempt that has passed
the fence holds the lock and is the newest request. -/
structure ControlFenced (s : WindowSystem) : Prop where
  ascending : (s.issued.map Prod.fst).Pairwise (· < ·)
  creating : ∀ request, s.fence = some (.creating request) →
    ∀ e ∈ s.issued, e.1 < request.controlGeneration
  fenced : ∀ task request, s.Fenced task request →
    s.fence = some (.finalizing task) ∧ (∀ e ∈ s.issued, e.1 ≤ request.controlGeneration) ∧
      (request.controlGeneration, .arm) ∈ s.issued

lemma WindowSystem.le_latestGeneration (s : WindowSystem) {e : ℕ × ControlAction}
    (he : e ∈ s.issued) : e.1 ≤ s.latestGeneration := by
  have hmax : ∀ (l : List ℕ), ∀ g ∈ l, g ≤ l.foldr max 0 := by
    intro l
    induction l with
    | nil => simp
    | cons a l ih =>
        intro g hg
        rcases List.mem_cons.1 hg with rfl | hg
        · exact le_max_left _ _
        · exact (ih g hg).trans (le_max_right _ _)
  obtain ⟨r, hr, rfl⟩ := List.mem_map.1 he
  exact hmax _ _ (List.mem_map.2 ⟨r, hr, rfl⟩)

/-! ## Steps -/

section Steps

variable {s s' : WindowSystem} {op : WindowOp}

/-- A step that issues nothing, leaves the lock with its holder and lets no attempt past the fence
keeps everything. -/
lemma ControlFenced.frame (h : ControlFenced s) (hissued : s'.issued = s.issued)
    (hcreating : ∀ request, s'.fence = some (.creating request) →
      s.fence = some (.creating request))
    (hfenced : ∀ task request, s'.Fenced task request → s.Fenced task request ∧
      (s.fence = some (.finalizing task) → s'.fence = some (.finalizing task))) :
    ControlFenced s' := by
  refine ⟨by rw [hissued]; exact h.ascending, fun request hrequest => ?_,
    fun task request htask => ?_⟩
  · rw [hissued]
    exact h.creating request (hcreating request hrequest)
  · obtain ⟨hwas, hkept⟩ := hfenced task request htask
    obtain ⟨hfence, hnewest, harm⟩ := h.fenced task request hwas
    rw [hissued]
    exact ⟨hkept hfence, hnewest, harm⟩

lemma fenced_cancelArmTask {task : ArmTaskId} {request : ControlRequest}
    (h : s.cancelArmTask.Fenced task request) : s.Fenced task request := by
  obtain ⟨t, ht, hstage, hrequest⟩ := h
  obtain ⟨t₀, ht₀, hrequest₀, hstage₀⟩ := s.lookup_cancelArmTask ht
  exact ⟨t₀, ht₀, by rw [← hstage₀]; exact hstage, by rw [← hrequest₀]; exact hrequest⟩

/-- The attempt has left the stage in which it holds the lock. -/
lemma fenced_insert {task task' : ArmTaskId} {t : ArmTask} {request : ControlRequest}
    (hstage : t.stage ≠ .fenced)
    (h : ∃ t', (s.tasks.insert task t).lookup task' = some t' ∧ t'.stage = .fenced ∧
      t'.request = request) : s.Fenced task' request ∧ task' ≠ task := by
  obtain ⟨t', ht', hstage', hrequest⟩ := h
  rw [Table.lookup_insert_eq] at ht'
  split_ifs at ht' with heq
  · obtain rfl := Option.some.inj ht'
    exact absurd hstage' hstage
  · exact ⟨⟨t', ht', hstage', hrequest⟩, heq⟩

lemma ControlFenced.control (h : ControlFenced s) (heffect : ControlEffect s s') :
    ControlFenced s' := by
  cases heffect with
  | refused => exact h
  | created request hfree hgeneration hfresh =>
      refine ⟨h.ascending, fun r hr e he => ?_, fun task request' htask => ?_⟩
      · cases hr
        have hle := s.le_latestGeneration he
        omega
      · have hfence := (h.fenced task request' htask).1
        rw [hfree] at hfence
        cases hfence
  | committed request hfence =>
      have hissued : WindowSystem.issued { s with fence := none, requests := s.requests ++ [request] } =
          s.issued ++ [(request.controlGeneration, request.action)] := by
        simp [WindowSystem.issued]
      refine ⟨?_, fun r hr => (by cases hr), fun task request' htask => ?_⟩
      · rw [hissued, List.map_append, List.pairwise_append]
        refine ⟨h.ascending, List.pairwise_singleton _ _, fun a ha b hb => ?_⟩
        obtain ⟨e, he, rfl⟩ := List.mem_map.1 ha
        obtain rfl : b = request.controlGeneration := by simpa using hb
        exact h.creating request hfence e he
      · have hheld := (h.fenced task request' htask).1
        rw [hfence] at hheld
        cases hheld
  | rolledBack request hfence =>
      refine h.frame rfl (fun r hr => by cases hr) fun task request' htask => ?_
      have hheld := (h.fenced task request' htask).1
      rw [hfence] at hheld
      cases hheld

lemma ControlFenced.poll (h : ControlFenced s) {poller : PollerId} {op : PollOp}
    (heffect : PollEffect s poller op s') : ControlFenced s' := by
  cases heffect with
  | staged pollers => exact h.frame rfl (fun _ hr => hr) fun _ _ htask => ⟨htask, id⟩
  | consumed request pollers hop hstage =>
      refine h.frame ?_ (fun _ hr => hr) fun _ _ htask => ⟨htask, id⟩
      simp only [WindowSystem.issued, List.map_map]
      refine List.map_congr_left fun r _ => ?_
      simp only [Function.comp]
      split_ifs <;> rfl
  | armed request fingerprint pollers =>
      exact h.frame rfl (fun _ hr => hr) fun _ _ htask => ⟨htask, id⟩
  | disarmed generation reason pollers _ =>
      refine h.frame ?_ (fun r hr => ?_) fun task request htask =>
        ⟨fenced_cancelArmTask (s := WindowSystem.call { s with pollers := pollers }
          (.disarm generation reason)) htask, fun hfence => ?_⟩
      · simp [WindowSystem.issued]
      · simpa using hr
      · simpa using hfence
  | locked reason pollers => exact h.frame rfl (fun _ hr => hr) fun _ _ htask => ⟨htask, id⟩
  | cancelled reason pollers => exact h.frame rfl (fun _ hr => hr) fun _ _ htask => ⟨htask, id⟩
  | created request fingerprint task pollers hfresh =>
      refine h.frame ?_ (fun r hr => ?_) fun task' request' htask => ?_
      · simp [WindowSystem.issued]
      · simpa using hr
      · obtain ⟨hwas, -⟩ := fenced_insert (s := WindowSystem.cancelArmTask { s with pollers := pollers })
          (by simp) htask
        refine ⟨fenced_cancelArmTask (s := { s with pollers := pollers }) hwas, fun hfence => ?_⟩
        simpa using hfence

lemma armFinalizationFence_spec {request : ControlRequest}
    (h : armFinalizationFence s request = true) :
    (∀ e ∈ s.issued, e.1 ≤ request.controlGeneration) ∧
      (request.controlGeneration, .arm) ∈ s.issued := by
  unfold armFinalizationFence at h
  obtain ⟨row, hrow, hchecks⟩ := (Option.any_eq_true _ _).1 h
  simp only [Bool.and_eq_true, decide_eq_true_eq] at hchecks
  obtain ⟨⟨⟨haction, -⟩, hgeneration⟩, hlatest⟩ := hchecks
  refine ⟨fun e he => hlatest ▸ s.le_latestGeneration he, ?_⟩
  refine List.mem_map.2 ⟨row, List.mem_of_find?_eq_some hrow, ?_⟩
  rw [haction, hgeneration]

lemma creating_of_endArmTask {task : ArmTaskId} {request : ControlRequest}
    (h : (s.endArmTask task).fence = some (.creating request)) :
    s.fence = some (.creating request) := by
  simp only [WindowSystem.endArmTask] at h
  split_ifs at h
  exact h

/-- The end of an attempt frees the lock of that attempt alone. -/
lemma ControlFenced.endArmTask (h : ControlFenced s) (task : ArmTaskId) :
    ControlFenced (s.endArmTask task) := by
  refine h.frame rfl (fun _ hr => creating_of_endArmTask hr) fun task' request htask => ?_
  obtain ⟨t, ht, hstage, hrequest⟩ := htask
  have hne : task' ≠ task := by
    rintro rfl
    simp [WindowSystem.endArmTask] at ht
  refine ⟨⟨t, Table.lookup_of_erase ht, hstage, hrequest⟩, fun hfence => ?_⟩
  have hother : FenceHolder.finalizing task' ≠ .finalizing task := fun heq => hne (by cases heq; rfl)
  simp [WindowSystem.endArmTask, hfence, hother]

lemma ControlFenced.call (h : ControlFenced s) (c : WindowCall) : ControlFenced (s.call c) :=
  h.frame rfl (fun _ hr => hr) fun _ _ htask => ⟨htask, id⟩

lemma ControlFenced.arm (h : ControlFenced s) {task : ArmTaskId} {t : ArmTask} {op : ArmOp}
    (ht : s.tasks.lookup task = some t) (heffect : ArmEffect s task t op s') : ControlFenced s' := by
  cases heffect with
  | probed =>
      refine h.frame rfl (fun _ hr => hr) fun task' request htask => ?_
      exact ⟨(fenced_insert (by simp) htask).1, id⟩
  | fenced hfree hfence =>
      obtain ⟨hnewest, harm⟩ := armFinalizationFence_spec hfence
      refine ⟨h.ascending, fun r hr => (by cases hr), fun task' request htask => ?_⟩
      obtain ⟨t', ht', hstage', rfl⟩ := htask
      obtain ⟨rfl, rfl⟩ | hold := Table.lookup_insert_cases ht'
      · exact ⟨rfl, hnewest, harm⟩
      · have hheld := (h.fenced task' t'.request ⟨t', hold, hstage', rfl⟩).1
        rw [hfree] at hheld
        cases hheld
  | opened hstage hcan =>
      refine h.frame rfl (fun _ hr => hr) fun task' request htask => ?_
      exact ⟨(fenced_insert (by simp) htask).1, id⟩
  | cancelled reason locked _ _ => exact (h.call _).endArmTask task
  | dropped reason locked _ => exact (h.call _).endArmTask task
  | ended => exact h.endArmTask task
  | failed =>
      refine h.frame rfl (fun r hr => ?_) fun task' request htask => ?_
      · dsimp only at hr
        split_ifs at hr
        exact hr
      · obtain ⟨hwas, hne⟩ := fenced_insert (by simp) htask
        refine ⟨hwas, fun hfence => ?_⟩
        simp [hfence, hne]
  | locked reason _ => exact (h.call _).endArmTask task

/-- **One step keeps the fence.** -/
lemma ControlFenced.step (h : ControlFenced s) (hstep : windowStep s op = some s') :
    ControlFenced s' := by
  cases op with
  | tick clock =>
      simp only [windowStep] at hstep
      split_ifs at hstep
      obtain rfl := Option.some.inj hstep
      exact h.frame rfl (fun _ hr => hr) fun _ _ htask => ⟨htask, id⟩
  | telemetry | pause | resume =>
      obtain rfl := Option.some.inj hstep
      exact h.call _
  | control op => exact h.control (controlEffect hstep)
  | poll poller op => exact h.poll (pollEffect hstep)
  | arm task op =>
      obtain ⟨t, ht, heffect⟩ := armEffect hstep
      exact h.arm ht heffect
  | maintain op =>
      cases maintainEffect hstep with
      | kept maintaining => exact h.frame rfl (fun _ hr => hr) fun _ _ htask => ⟨htask, id⟩
      | expired maintaining => exact h.frame rfl (fun _ hr => hr) fun _ _ htask => ⟨htask, id⟩
      | locked reason hfree =>
          refine h.frame ?_ (fun r hr => ?_) fun task request htask =>
            ⟨fenced_cancelArmTask (s := s.call (.lock reason)) htask, fun hfence => ?_⟩
          · simp [WindowSystem.issued]
          · simpa using hr
          · simpa using hfence
  | submission op =>
      cases submissionEffect hstep <;>
        exact h.frame rfl (fun _ hr => hr) fun _ _ htask => ⟨htask, id⟩

/-- A call other than `open_window` leaves no opening at the head of the events. -/
lemma events_call {r : WindowRecord} {now : ℕ} {c : WindowCall}
    (hc : ∀ requestId generation fingerprint, c ≠ .openWindow requestId generation fingerprint) :
    (r.call now c).events = r.events ∨ (r.call now c).events = .ended :: r.events ∨
      ∃ g, (r.call now c).events = .armed g :: r.events := by
  have hwith : ∀ w, (r.withWindow w).events = r.events ∨ (r.withWindow w).events = .ended :: r.events := by
    intro w
    unfold WindowRecord.withWindow
    dsimp only
    split_ifs
    · exact Or.inl rfl
    · exact Or.inr rfl
  cases c with
  | beginArm requestId generation fingerprint =>
      simp only [WindowRecord.call]
      split_ifs
      · exact Or.inr (Or.inr ⟨generation, rfl⟩)
      · exact Or.inl rfl
  | openWindow requestId generation fingerprint => exact absurd rfl (hc _ _ _)
  | _ => exact (hwith _).imp_right Or.inl

/-- The event of an opening comes from an attempt that has passed the fence. -/
lemma opened_by_fenced {g t : ℕ} (hstep : windowStep s op = some s')
    (hopened : s'.record.events = .opened g t :: s.record.events) :
    ∃ task request, s.Fenced task request ∧ request.controlGeneration = g := by
  have hother : ∀ r' : WindowRecord, r'.events = .opened g t :: s.record.events →
      r'.events = s.record.events ∨ r'.events = .ended :: s.record.events ∨
        (∃ g', r'.events = .armed g' :: s.record.events) → False := by
    intro r' hr' hcases
    rw [hr'] at hcases
    obtain hsame | hended | ⟨g', harmed⟩ := hcases
    · exact absurd (congrArg List.length hsame) (by simp)
    · cases hended
    · cases harmed
  have heffect := recordEffect hstep
  generalize s'.record = r' at heffect hopened
  cases heffect with
  | kept => exact absurd (congrArg List.length hopened) (by simp)
  | named requestId => exact absurd (congrArg List.length hopened) (by simp)
  | expiredLocked reason _ =>
      simp [WindowRecord.call, WindowRecord.withWindow, OperationalWindow.lock,
        OperationalWindow.transition, OperationalWindow.invalidate] at hopened
  | opened task t' ht' hstage hcan =>
      refine ⟨task, t'.request, ⟨t', ht', hstage, rfl⟩, ?_⟩
      have hopens : (s.record.call s.clock (.openWindow t'.request.requestId
          t'.request.controlGeneration t'.contextFingerprint)).events =
            .opened t'.request.controlGeneration s.clock :: s.record.events := by
        have hcan' : s.record.window.canFinalizeArm t'.request.requestId
          t'.request.controlGeneration t'.contextFingerprint = true := hcan
        simp [WindowRecord.call, OperationalWindow.openWindow, hcan']
      rw [hopens] at hopened
      cases hopened
      rfl
  | _ => exact absurd (events_call fun _ _ _ heq => by cases heq) (hother _ hopened)

/-- An attempt that has passed the fence is newer than every request to disarm: of one generation
there is one request. -/
lemma ControlFenced.disarm_lt (h : ControlFenced s) {task : ArmTaskId} {request : ControlRequest}
    (htask : s.Fenced task request) {g : ℕ} (hg : (g, .disarm) ∈ s.issued) :
    g < request.controlGeneration := by
  obtain ⟨-, hnewest, harm⟩ := h.fenced task request htask
  refine lt_of_le_of_ne (hnewest _ hg) fun hsame => ?_
  have hnodup : (s.issued.map Prod.fst).Nodup := h.ascending.imp ne_of_lt
  have hunique : ((g, .disarm) : ℕ × ControlAction) = (request.controlGeneration, .arm) :=
    List.inj_on_of_nodup_map hnodup hg harm hsame
  cases hunique

/-! ## Requests that are consumed -/

/-- The transaction that holds the lock has been there, or creates a fresh request. -/
lemma creating_of_step (hstep : windowStep s op = some s') {request : ControlRequest}
    (h : s'.fence = some (.creating request)) :
    s.fence = some (.creating request) ∨ request.consumed = false := by
  cases op with
  | tick clock =>
      simp only [windowStep] at hstep
      split_ifs at hstep
      obtain rfl := Option.some.inj hstep
      exact Or.inl h
  | telemetry | pause | resume =>
      obtain rfl := Option.some.inj hstep
      exact Or.inl h
  | control op =>
      cases controlEffect (s := s) hstep with
      | refused => exact Or.inl h
      | created request' hfree hgeneration hfresh =>
          cases h
          exact Or.inr hfresh
      | committed | rolledBack => cases h
  | poll poller op =>
      cases pollEffect hstep <;> exact Or.inl (by simpa using h)
  | arm task op =>
      obtain ⟨t, ht, heffect⟩ := armEffect hstep
      cases heffect with
      | probed | opened => exact Or.inl h
      | fenced => cases h
      | cancelled | dropped | ended | locked => exact Or.inl (creating_of_endArmTask h)
      | failed =>
          dsimp only at h
          split_ifs at h
          exact Or.inl h
  | maintain op => cases maintainEffect hstep <;> exact Or.inl (by simpa using h)
  | submission op => cases submissionEffect hstep <;> exact Or.inl h

/-- What a step does to the requests: one is committed, or a claim is. -/
lemma requests_of_step (hstep : windowStep s op = some s') :
    s'.requests = s.requests ∨
      (∃ request, s.fence = some (.creating request) ∧ s'.requests = s.requests ++ [request]) ∨
      ∃ poller request, op = .poll poller .commit ∧
        s.pollers.lookup poller = some (.claiming request) ∧
        s'.requests = s.requests.map fun q =>
          if q.requestId = request.requestId then { q with consumed := true } else q := by
  cases op with
  | tick clock =>
      simp only [windowStep] at hstep
      split_ifs at hstep
      obtain rfl := Option.some.inj hstep
      exact Or.inl rfl
  | telemetry | pause | resume =>
      obtain rfl := Option.some.inj hstep
      exact Or.inl rfl
  | control op =>
      cases controlEffect (s := s) hstep with
      | refused | created | rolledBack => exact Or.inl rfl
      | committed request hfence => exact Or.inr (Or.inl ⟨request, hfence, rfl⟩)
  | poll poller op =>
      cases pollEffect hstep with
      | consumed request pollers hop hstage =>
          subst hop
          exact Or.inr (Or.inr ⟨poller, request, rfl, hstage, rfl⟩)
      | staged | armed | locked | cancelled => exact Or.inl rfl
      | disarmed | created => exact Or.inl (by simp)
  | arm task op =>
      obtain ⟨t, ht, heffect⟩ := armEffect hstep
      cases heffect <;> exact Or.inl rfl
  | maintain op => cases maintainEffect hstep <;> exact Or.inl (by simp)
  | submission op => cases submissionEffect hstep <;> exact Or.inl rfl

/-- Nobody enables a window but a resume and an attempt that has passed the fence. -/
lemma enabled_of_step (hstep : windowStep s op = some s') (henabled : s'.window.state = .enabled) :
    s'.window.lastControlGeneration = s.window.lastControlGeneration ∧ s.window.state = .enabled ∨
      s'.window.lastControlGeneration = s.window.lastControlGeneration ∧ op = .resume ∧
        s.window.state = .paused ∧ s.window.expired s.clock = false ∨
      ∃ task request, s.Fenced task request ∧
        s'.window.lastControlGeneration = request.controlGeneration := by
  unfold WindowSystem.window at henabled ⊢
  have heffect := recordEffect hstep
  generalize s'.record = r' at heffect henabled ⊢
  cases heffect with
  | kept => exact Or.inl ⟨rfl, henabled⟩
  | named requestId => exact Or.inl ⟨rfl, henabled⟩
  | expired =>
      simp only [WindowRecord.call, WindowRecord.withWindow,
        OperationalWindow.expireIfNeeded] at henabled ⊢
      split_ifs at henabled ⊢
      · cases henabled
      · exact Or.inl ⟨rfl, henabled⟩
  | locked | expiredLocked => cases henabled
  | paused reason _ =>
      simp only [WindowRecord.call, WindowRecord.withWindow, OperationalWindow.pause,
        OperationalWindow.expireIfNeeded] at henabled ⊢
      split_ifs at henabled ⊢ <;> first | cases henabled | exact Or.inl ⟨rfl, henabled⟩
  | resumed hop =>
      simp only [WindowRecord.call, WindowRecord.withWindow,
        OperationalWindow.resumeAfterPositiveProbe, OperationalWindow.expireIfNeeded] at henabled ⊢
      by_cases hexpired : s.record.window.expired s.clock = true
      · simp only [hexpired, if_true] at henabled
        cases henabled
      · simp only [hexpired, Bool.false_eq_true, if_false] at henabled ⊢
        split_ifs at henabled ⊢ with hpaused hover
        · exact Or.inl ⟨rfl, henabled⟩
        · cases henabled
        · exact Or.inr (Or.inl ⟨rfl, hop, not_not.1 hpaused, trivial⟩)
  | armed poller request fingerprint hop hstage haction _ =>
      simp only [WindowRecord.call, OperationalWindow.beginArm] at henabled ⊢
      split_ifs at henabled ⊢
      · exact Or.inl ⟨rfl, henabled⟩
      · cases henabled
  | disarmed generation reason _ =>
      simp only [WindowRecord.call, WindowRecord.withWindow, OperationalWindow.disarm] at henabled ⊢
      split_ifs at henabled ⊢ <;> first | cases henabled | exact Or.inl ⟨rfl, henabled⟩
  | cancelled reason locked | dropped reason locked => cases locked <;> cases henabled
  | opened task t ht hstage hcan =>
      refine Or.inr (Or.inr ⟨task, t.request, ⟨t, ht, hstage, rfl⟩, ?_⟩)
      obtain ⟨-, -, -, -, -, hlast, -⟩ := WindowRecord.canFinalizeArm_iff.1 hcan
      have hcan' : s.record.window.canFinalizeArm t.request.requestId t.request.controlGeneration
          t.contextFingerprint = true := hcan
      simp only [WindowRecord.call, OperationalWindow.openWindow, hcan', if_true]
      exact hlast.symm

/-- Besides the fence: a request is created unconsumed, and an enabled window has heeded every
consumed request to disarm. -/
structure Heeding (s : WindowSystem) : Prop where
  fenced : ControlFenced s
  lawful : s.record.Lawful
  fresh : ∀ request, s.fence = some (.creating request) → request.consumed = false
  heeded : s.window.state = .enabled → ∀ q ∈ s.requests, q.consumed = true → s.unheeded q = false

lemma Heeding.initial : Heeding .initial where
  fenced := ⟨List.Pairwise.nil, nofun, fun task request ⟨t, ht, _⟩ => by
    simp [WindowSystem.initial] at ht⟩
  lawful := WindowRecord.lawful_boot 0
  fresh := nofun
  heeded _ q hq := by simp [WindowSystem.initial] at hq

lemma unheeded_congr {q q' : ControlRequest}
    (hlast : s'.window.lastControlGeneration = s.window.lastControlGeneration)
    (haction : q'.action = q.action) (hgeneration : q'.controlGeneration = q.controlGeneration) :
    s'.unheeded q' = s.unheeded q := by
  simp only [WindowSystem.unheeded, hlast, haction, hgeneration]

/-- **A step in time keeps every consumed request to disarm heeded.** -/
lemma Heeding.step (h : Heeding s) (hguard : disarmsInTime s op = true)
    (hstep : windowStep s op = some s') : Heeding s' := by
  refine ⟨h.fenced.step hstep, h.lawful.step hstep, fun request hrequest => ?_,
    fun henabled q' hq' hconsumed => ?_⟩
  · obtain hwas | hfresh := creating_of_step hstep hrequest
    · exact h.fresh request hwas
    · exact hfresh
  obtain ⟨hlast, hwas⟩ | ⟨hlast, rfl, hpaused, htime⟩ | ⟨task, request, htask, hlast⟩ :=
    enabled_of_step hstep henabled
  · obtain hsame | ⟨request, hcreating, hcommitted⟩ | ⟨poller, request, rfl, hstage, hmarked⟩ :=
      requests_of_step hstep
    · rw [unheeded_congr hlast rfl rfl]
      exact h.heeded hwas q' (hsame ▸ hq') hconsumed
    · rw [hcommitted, List.mem_append, List.mem_singleton] at hq'
      obtain hold | rfl := hq'
      · rw [unheeded_congr hlast rfl rfl]
        exact h.heeded hwas q' hold hconsumed
      · rw [h.fresh q' hcreating] at hconsumed
        cases hconsumed
    · -- the claim of a request is committed
      rw [hmarked] at hq'
      obtain ⟨q, hq, rfl⟩ := List.mem_map.1 hq'
      have hinTime : s.requests.all (fun q =>
          q.requestId ≠ request.requestId || !s.unheeded q) = true := by
        simpa [disarmsInTime, hstage, hwas] using hguard
      split_ifs at hconsumed ⊢ with hid
      · refine (unheeded_congr (q := q) hlast rfl rfl).trans ?_
        simpa [hid] using List.all_eq_true.1 hinTime q hq
      · rw [unheeded_congr hlast rfl rfl]
        exact h.heeded hwas q hq hconsumed
  · have hinTime : s.requests.all (fun q => !q.consumed || !s.unheeded q) = true := by
      simpa [disarmsInTime, hpaused, htime] using hguard
    obtain rfl := Option.some.inj hstep
    rw [unheeded_congr (s := s) hlast rfl rfl]
    simpa [hconsumed] using List.all_eq_true.1 hinTime q' hq'
  · -- the window is opened, by an attempt newer than every request to disarm
    have hissued : (q'.controlGeneration, q'.action) ∈ s.issued := by
      obtain hsame | ⟨request', hcreating, -⟩ | ⟨poller, request', -, -, hmarked⟩ :=
        requests_of_step hstep
      · exact List.mem_map.2 ⟨q', hsame ▸ hq', rfl⟩
      · rw [(h.fenced.fenced task request htask).1] at hcreating
        cases hcreating
      · rw [hmarked] at hq'
        obtain ⟨q, hq, rfl⟩ := List.mem_map.1 hq'
        refine List.mem_map.2 ⟨q, hq, ?_⟩
        split_ifs <;> rfl
    rw [Bool.eq_false_iff]
    intro hunheeded
    simp only [WindowSystem.unheeded, Bool.and_eq_true, decide_eq_true_eq, hlast] at hunheeded
    obtain ⟨hdisarm, hle⟩ := hunheeded
    rw [hdisarm] at hissued
    exact absurd hle (h.fenced.disarm_lt htask hissued).not_ge

end Steps

/-- **The fence between arming and disarming.**  In every run the generations of the control
requests ascend in the order of their commits; a window is opened for a request to arm that is the
newest of all requests committed by then, and newer than every request to disarm among them; and an
enabled window was opened for a request newer than every request to disarm the controller has been
handed.  In every run in which requests to disarm are consumed in time, it was opened for a request
newer than every consumed request to disarm. -/
theorem arm_disarm_fence (ops : List WindowOp) (s : WindowSystem)
    (hrun : run windowStep .initial ops = some s) :
    s.requests.Pairwise (fun a b => a.controlGeneration < b.controlGeneration) ∧
      (∀ op s' g t, windowStep s op = some s' →
        s'.record.events = .opened g t :: s.record.events →
          (∀ q ∈ s.requests, q.controlGeneration ≤ g) ∧
            ∀ q ∈ s.requests, q.action = .disarm → q.controlGeneration < g) ∧
      (s.window.state = .enabled → ∃ g t, s.record.events.head? = some (.opened g t) ∧
        ∀ g' ∈ s.record.disarmed, g' < g) ∧
      (RunMeets windowStep (fun s op => disarmsInTime s op = true) .initial ops →
        DisarmsHeeded s) := by
  have hfenced : ControlFenced s :=
    run_invariant (fun _ _ _ h hstep => h.step hstep) Heeding.initial.fenced hrun
  have hlawful : s.record.Lawful :=
    run_invariant (I := fun s => s.record.Lawful) (fun _ _ _ h hstep => h.step hstep)
      Heeding.initial.lawful hrun
  refine ⟨?_, fun op s' g t hstep hopened => ?_, fun henabled => ?_, fun hmeets henabled => ?_⟩
  · have hpairwise := hfenced.ascending
    rw [WindowSystem.issued, List.map_map, List.pairwise_map] at hpairwise
    exact hpairwise
  · obtain ⟨task, request, htask, rfl⟩ := opened_by_fenced hstep hopened
    have hissued : ∀ q ∈ s.requests, (q.controlGeneration, q.action) ∈ s.issued := fun q hq =>
      List.mem_map.2 ⟨q, hq, rfl⟩
    refine ⟨fun q hq => (hfenced.fenced task request htask).2.1 _ (hissued q hq),
      fun q hq hdisarm => hfenced.disarm_lt htask ?_⟩
    rw [← hdisarm]
    exact hissued q hq
  · have hstate : s.record.window.state = .enabled := henabled
    obtain ⟨t, ht⟩ := hlawful.opened (by rw [hstate]; rfl)
    exact ⟨_, t, ht.last, fun g' hg' => (hlawful.disarmed g' hg').2 (by rw [hstate]; rfl)⟩
  · have hheeding : Heeding s :=
      run_invariant_of_meets (fun _ _ _ h hguard hstep => h.step hguard hstep) .initial hmeets hrun
    obtain ⟨t, ht, -⟩ := (windowAuthorized_of_lawful hlawful).enabled henabled
    refine ⟨_, t, ht, fun q hq hdisarm hconsumed => ?_⟩
    simpa [WindowSystem.unheeded, hdisarm] using hheeding.heeded henabled q hq hconsumed

/-! ## A request to disarm that is consumed late -/

/-- Generation, action and state of the requests. -/
def WindowSystem.rows (s : WindowSystem) : List (ℕ × ControlAction × Bool) :=
  s.requests.map fun q => (q.controlGeneration, q.action, q.consumed)

/-- A window is opened, disarmed, and opened again for a newer request; the request to disarm is
consumed while the window is paused. -/
def disarmedOps : List WindowOp :=
  armOps 1 1 ++ finalizeOps 1 ++ [.arm 1 (.commit true), .pause "",
    .control (.create .disarm 2 "" false), .control .commit, .poll 0 .claim, .poll 0 .commit,
    .poll 0 (.apply "")] ++ armOps 3 2 ++ finalizeOps 2

theorem arm_disarm_fence_run :
    ∃ s, run windowStep .initial disarmedOps = some s ∧ s.window.state = .enabled ∧
      s.rows = [(1, .arm, true), (2, .disarm, true), (3, .arm, true)] ∧ DisarmsHeeded s := by
  have hrun : (run windowStep .initial disarmedOps).map (fun s => (s.window.state, s.rows)) =
      some (.enabled, [(1, .arm, true), (2, .disarm, true), (3, .arm, true)]) := by
    decide +kernel
  obtain ⟨s, hs, hend⟩ := Option.map_eq_some_iff.1 hrun
  obtain ⟨hstate, hrows⟩ := Prod.mk.inj hend
  exact ⟨s, hs, hstate, hrows, (arm_disarm_fence _ s hs).2.2.2 (by decide +kernel)⟩

/-- A submission holds its mutex when the request to disarm is consumed, and posts behind it. -/
def lateDisarmOps : List WindowOp :=
  armOps 1 1 ++ finalizeOps 1 ++ [.arm 1 (.commit true), .submission (.start "context"),
    .submission (.singleton true), .submission (.snapshot ⟨"a", "b", "a", "b"⟩),
    .submission (.fence "context"), .submission (.authorize (some true)),
    .control (.create .disarm 2 "" false), .control .commit, .poll 0 .claim, .poll 0 .commit,
    .submission (.commit true)]

/-- The window that ARM 1 has opened is enabled after DISARM 2 is consumed, and a submission
posts. -/
theorem consumed_disarm_leaves_window :
    ∃ s, run windowStep .initial lateDisarmOps = some s ∧ s.posts.length = 1 ∧
      ¬ DisarmsHeeded s := by
  have hrun : (run windowStep .initial lateDisarmOps).map (fun s =>
      (s.posts.length, s.window.state, s.record.events.head?, s.requests)) =
      some (1, .enabled, some (.opened 1 0),
        [⟨1, 1, .arm, true, "", true⟩, ⟨2, 2, .disarm, true, "", false⟩]) := by
    decide +kernel
  obtain ⟨s, hs, hend⟩ := Option.map_eq_some_iff.1 hrun
  obtain ⟨hposts, hend⟩ := Prod.mk.inj hend
  obtain ⟨hstate, hend⟩ := Prod.mk.inj hend
  obtain ⟨hhead, hrequests⟩ := Prod.mk.inj hend
  refine ⟨s, hs, hposts, fun hheeded => ?_⟩
  obtain ⟨g, t, hopened, hnewer⟩ := hheeded hstate
  obtain ⟨rfl, -⟩ : g = 1 ∧ t = 0 := by simpa [hhead] using hopened.symm
  have hlate := hnewer ⟨2, 2, .disarm, true, "", false⟩ (by simp [hrequests]) rfl rfl
  exact absurd hlate (by decide)

end HyperCopy

import HyperCopy.Risex.WindowLaws
import HyperCopy.Risex.WindowWorker

/-!
# What a step of the window system does

Each kind of step, with the state it leaves.  `RecordEffect` then says for any step what becomes of
the window: at most one call that matters, and who makes it.
-/

namespace HyperCopy

namespace WindowSystem

variable (s : WindowSystem) (c : WindowCall) (task : ArmTaskId)

@[simp] lemma call_record : (s.call c).record = s.record.call s.clock c := rfl
@[simp] lemma call_clock : (s.call c).clock = s.clock := rfl
@[simp] lemma call_requests : (s.call c).requests = s.requests := rfl
@[simp] lemma call_fence : (s.call c).fence = s.fence := rfl
@[simp] lemma call_tasks : (s.call c).tasks = s.tasks := rfl
@[simp] lemma call_submission : (s.call c).submission = s.submission := rfl
@[simp] lemma call_posts : (s.call c).posts = s.posts := rfl

@[simp] lemma cancelArmTask_record : s.cancelArmTask.record = s.record := by
  unfold cancelArmTask
  split <;> rfl

@[simp] lemma cancelArmTask_clock : s.cancelArmTask.clock = s.clock := by
  unfold cancelArmTask
  split <;> rfl

@[simp] lemma cancelArmTask_requests : s.cancelArmTask.requests = s.requests := by
  unfold cancelArmTask
  split <;> rfl

@[simp] lemma cancelArmTask_fence : s.cancelArmTask.fence = s.fence := by
  unfold cancelArmTask
  split <;> rfl

@[simp] lemma cancelArmTask_submission : s.cancelArmTask.submission = s.submission := by
  unfold cancelArmTask
  split <;> rfl

@[simp] lemma cancelArmTask_posts : s.cancelArmTask.posts = s.posts := by
  unfold cancelArmTask
  split <;> rfl

/-- A task is what it was, but for the cancellation. -/
lemma lookup_cancelArmTask {task : ArmTaskId} {t : ArmTask}
    (h : s.cancelArmTask.tasks.lookup task = some t) :
    ∃ t₀, s.tasks.lookup task = some t₀ ∧ t.request = t₀.request ∧ t.stage = t₀.stage := by
  unfold cancelArmTask at h
  split at h
  · rename_i current _
    obtain ⟨-, hold⟩ | ⟨rfl, t₀, ht₀, rfl⟩ := Table.lookup_modify_eq_some.1 h
    · exact ⟨t, hold, rfl, rfl⟩
    · exact ⟨t₀, ht₀, rfl, rfl⟩
  · exact ⟨t, h, rfl, rfl⟩

@[simp] lemma endArmTask_record : (s.endArmTask task).record = s.record := rfl
@[simp] lemma endArmTask_clock : (s.endArmTask task).clock = s.clock := rfl
@[simp] lemma endArmTask_requests : (s.endArmTask task).requests = s.requests := rfl
@[simp] lemma endArmTask_submission : (s.endArmTask task).submission = s.submission := rfl
@[simp] lemma endArmTask_posts : (s.endArmTask task).posts = s.posts := rfl
@[simp] lemma endArmTask_tasks : (s.endArmTask task).tasks = s.tasks.erase task := rfl

end WindowSystem

/-! ## Attempts to arm -/

/-- The step cancels the attempt of whoever has one, without asking whose it is. -/
def WindowSystem.cancelsArm (s : WindowSystem) : WindowOp → Bool
  | .poll poller .heartbeat =>
    (s.pollers.lookup poller).any fun
      | .armed request _ => !request.operatorhubBypassDisabled
      | _ => false
  | .poll poller (.singleton ok _) =>
    !ok && (s.pollers.lookup poller).any fun
      | .checking _ _ => true
      | _ => false
  | .arm task (.readiness .attested contextFingerprint _) =>
    (s.tasks.lookup task).any fun t => contextFingerprint ≠ t.contextFingerprint
  | .arm task (.readiness .noAttestation _ _) => (s.tasks.lookup task).isSome
  | .arm task .fence => (s.tasks.lookup task).any fun t => !armFinalizationFence s t.request
  | .arm task (.singleton ok) =>
    (s.tasks.lookup task).any fun t =>
      !(ok && s.window.canFinalizeArm t.request.requestId t.request.controlGeneration
        t.contextFingerprint)
  | _ => false

/-- An attempt whose checks have passed reaches its finalisation. -/
def WindowSystem.finalizes (s : WindowSystem) : WindowOp → Bool
  | .arm task (.singleton true) =>
    (s.tasks.lookup task).any fun t => t.stage = .fenced && !t.cancelled
  | _ => false

/-- What a step of an ARM task does. -/
inductive ArmEffect (s : WindowSystem) (task : ArmTaskId) (t : ArmTask) (op : ArmOp) :
    WindowSystem → Prop
  | probed : ArmEffect s task t op
      { s with tasks := s.tasks.insert task { t with stage := .fencing } }
  | fenced (hfree : s.fence = none) (h : armFinalizationFence s t.request = true) :
      ArmEffect s task t op
        { s with
          fence := some (.finalizing task)
          tasks := s.tasks.insert task { t with stage := .fenced } }
  | opened (hstage : t.stage = .fenced)
      (h : s.window.canFinalizeArm t.request.requestId t.request.controlGeneration
        t.contextFingerprint = true) :
      ArmEffect s task t op
        { s.call (.openWindow t.request.requestId t.request.controlGeneration t.contextFingerprint)
          with tasks := s.tasks.insert task { t with stage := .committing } }
  | cancelled (reason : String) (locked : Bool) (h : s.cancelsArm (.arm task op) = true)
      (hlocked : locked = false → s.finalizes (.arm task op) = true) :
      ArmEffect s task t op ((s.call (.cancelArm reason locked)).endArmTask task)
  | dropped (reason : String) (locked : Bool) (h : s.window.armAttempt ≠ none) :
      ArmEffect s task t op ((s.call (.cancelArm reason locked)).endArmTask task)
  | ended : ArmEffect s task t op (s.endArmTask task)
  | failed : ArmEffect s task t op
      { s with
        fence := if s.fence = some (.finalizing task) then none else s.fence
        tasks := s.tasks.insert task { t with stage := .failed } }
  | locked (reason : String) (hfree : s.submissionLocked = false) :
      ArmEffect s task t op ((s.call (.lock reason)).endArmTask task)

lemma cancelPending_effect {s : WindowSystem} {task : ArmTaskId} {t : ArmTask} {op : ArmOp}
    (reason : String) (locked : Bool) :
    ArmEffect s task t op ((s.cancelPending t reason locked).endArmTask task) := by
  unfold WindowSystem.cancelPending
  split_ifs with hcan
  · obtain ⟨-, a, ha, -⟩ := WindowRecord.canFinalizeArm_iff.1 hcan
    exact .dropped reason locked (by simp [ha])
  · exact .ended

lemma armEffect {s s' : WindowSystem} {task : ArmTaskId} {op : ArmOp}
    (h : armStep s task op = some s') : ∃ t, s.tasks.lookup task = some t ∧ ArmEffect s task t op s' := by
  unfold armStep at h
  split at h
  · cases h
  rename_i t ht
  refine ⟨t, ht, ?_⟩
  dsimp only at h
  split at h
  · -- the readiness probe attests
    split_ifs at h with hcontext
    · obtain rfl := Option.some.inj h
      exact .cancelled _ true (by simpa [WindowSystem.cancelsArm, ht] using hcontext) nofun
    · obtain rfl := Option.some.inj h
      exact .probed
  · obtain rfl := Option.some.inj h
    exact .cancelled _ true (by simp [WindowSystem.cancelsArm, ht]) nofun
  · obtain rfl := Option.some.inj h
    exact cancelPending_effect _ _
  · obtain rfl := Option.some.inj h
    exact cancelPending_effect _ _
  · obtain rfl := Option.some.inj h
    exact cancelPending_effect _ _
  · -- the finalisation fence
    split_ifs at h with hbusy hfence
    · obtain rfl := Option.some.inj h
      exact .fenced (by simpa using hbusy) hfence
    · obtain rfl := Option.some.inj h
      exact .cancelled _ true (by simpa [WindowSystem.cancelsArm, ht] using hfence) nofun
  · -- the singleton check
    rename_i ok hstage hcancelled
    split_ifs at h with hopen
    · obtain rfl := Option.some.inj h
      simp only [Bool.and_eq_true] at hopen
      exact .opened hstage hopen.2
    · obtain rfl := Option.some.inj h
      refine .cancelled _ _ ?_ fun hok => ?_
      · rw [Bool.not_eq_true] at hopen
        simp only [WindowSystem.cancelsArm, ht, Option.any_some, hopen, Bool.not_false]
      · cases ok with
        | true => simp [WindowSystem.finalizes, ht, hstage, hcancelled]
        | false => cases hok
  · obtain rfl := Option.some.inj h
    exact cancelPending_effect _ _
  · obtain rfl := Option.some.inj h
    exact cancelPending_effect _ _
  · obtain rfl := Option.some.inj h
    exact .ended
  · obtain rfl := Option.some.inj h
    exact .failed
  · split_ifs at h with hlocked
    obtain rfl := Option.some.inj h
    exact .locked _ (by simpa using hlocked)
  · -- the cancellation arrives
    split_ifs at h with hstarted hown
    · obtain rfl := Option.some.inj h
      simp only [Bool.and_eq_true, Option.any_eq_true] at hown
      obtain ⟨-, a, ha, -⟩ := hown
      exact .dropped _ _ (by simp [ha])
    · obtain rfl := Option.some.inj h
      exact .ended
  · cases h

/-! ## Pollers -/

/-- What a step of a poll does. -/
inductive PollEffect (s : WindowSystem) (poller : PollerId) (op : PollOp) : WindowSystem → Prop
  | staged (pollers : Table PollerId PollStage) : PollEffect s poller op { s with pollers := pollers }
  | consumed (request : ControlRequest) (pollers : Table PollerId PollStage) (hop : op = .commit)
      (hstage : s.pollers.lookup poller = some (.claiming request)) :
      PollEffect s poller op
        { s with
          requests := s.requests.map fun r =>
            if r.requestId = request.requestId then { r with consumed := true } else r
          pollers := pollers
          record :=
            { s.record with
              window := { s.window with lastControlRequestId := some request.requestId } } }
  | armed (request : ControlRequest) (fingerprint : String) (pollers : Table PollerId PollStage)
      (hop : op = .apply fingerprint) (hstage : s.pollers.lookup poller = some (.claimed request))
      (haction : request.action = .arm) (hfree : s.submissionLocked = false) :
      PollEffect s poller op
        { s.call (.beginArm request.requestId request.controlGeneration fingerprint) with
          pollers := pollers }
  | disarmed (generation : ℕ) (reason : String) (pollers : Table PollerId PollStage)
      (hfree : s.submissionLocked = false) :
      PollEffect s poller op
        (WindowSystem.call { s with pollers := pollers } (.disarm generation reason)).cancelArmTask
  | locked (reason : String) (pollers : Table PollerId PollStage)
      (hfree : s.submissionLocked = false) :
      PollEffect s poller op (WindowSystem.call { s with pollers := pollers } (.lock reason))
  | cancelled (reason : String) (pollers : Table PollerId PollStage)
      (h : s.cancelsArm (.poll poller op) = true) :
      PollEffect s poller op (WindowSystem.call { s with pollers := pollers } (.cancelArm reason true))
  | created (request : ControlRequest) (fingerprint : String) (task : ArmTaskId)
      (pollers : Table PollerId PollStage) (hfresh : s.tasks.lookup task = none) :
      PollEffect s poller op
        { WindowSystem.cancelArmTask { s with pollers := pollers } with
          tasks := (WindowSystem.cancelArmTask { s with pollers := pollers }).tasks.insert task
            ⟨request, fingerprint, .readiness, false⟩
          armTask := some task }

lemma pollEffect {s s' : WindowSystem} {poller : PollerId} {op : PollOp}
    (h : pollStep s poller op = some s') : PollEffect s poller op s' := by
  unfold pollStep at h
  dsimp only at h
  split at h
  · -- a row is claimed, or there is none
    split at h
    · obtain rfl := Option.some.inj h
      exact .staged s.pollers
    · obtain rfl := Option.some.inj h
      exact .staged _
  · rename_i request hstage
    obtain rfl := Option.some.inj h
    exact .consumed request _ rfl hstage
  · -- a claimed request is handed to the controller
    rename_i fingerprint request hstage
    by_cases hlocked : s.submissionLocked = true
    · rw [if_pos hlocked] at h
      cases h
    rw [if_neg hlocked] at h
    have hfree : s.submissionLocked = false := by simpa using hlocked
    split at h
    · obtain rfl := Option.some.inj h
      exact .disarmed _ _ _ hfree
    · obtain rfl := Option.some.inj h
      exact .locked _ _ hfree
    · rename_i haction
      obtain rfl := Option.some.inj h
      exact .armed request fingerprint _ rfl hstage haction hfree
  · rename_i request fingerprint hstage
    split_ifs at h with hassertion
    · obtain rfl := Option.some.inj h
      exact .staged _
    · obtain rfl := Option.some.inj h
      exact .cancelled _ _ (by simpa [WindowSystem.cancelsArm, hstage] using hassertion)
  · -- the singleton check
    rename_i ok task request fingerprint hstage
    split_ifs at h with hok hbusy
    · obtain rfl := Option.some.inj h
      exact .cancelled _ _ (by simpa [WindowSystem.cancelsArm, hstage] using hok)
    · obtain rfl := Option.some.inj h
      exact .created request fingerprint task _ (by simpa using hbusy)
  · obtain rfl := Option.some.inj h
    exact .staged _
  · cases h

/-! ## Maintenance -/

/-- What a step of the maintenance loop does. -/
inductive MaintainEffect (s : WindowSystem) : WindowSystem → Prop
  | kept (maintaining : Bool) : MaintainEffect s { s with maintaining := maintaining }
  | expired (maintaining : Bool) :
      MaintainEffect s { s.call .expireIfNeeded with maintaining := maintaining }
  | locked (reason : String) (hfree : s.submissionLocked = false) :
      MaintainEffect s { (s.call (.lock reason)).cancelArmTask with maintaining := false }

lemma maintainEffect {s s' : WindowSystem} {op : MaintainOp} (h : maintainStep s op = some s') :
    MaintainEffect s s' := by
  cases op with
  | expire =>
      simp only [maintainStep] at h
      split_ifs at h
      obtain rfl := Option.some.inj h
      exact .expired _
  | singleton ok =>
      simp only [maintainStep] at h
      split_ifs at h with hmaintaining hok hlocked
      · obtain rfl := Option.some.inj h
        exact .kept false
      · obtain rfl := Option.some.inj h
        exact .locked _ (by simpa using hlocked)
  | fail =>
      simp only [maintainStep] at h
      split_ifs at h
      obtain rfl := Option.some.inj h
      exact .kept false

/-! ## Submissions -/

/-- The snapshot a submission will post under. -/
def snapshotOf : Option SubmissionStage → Option ContinuousSnapshot
  | some (.snapshotted snapshot) | some (.authorizing snapshot) | some (.committing snapshot _) =>
    some snapshot
  | _ => none

/-- What a step of the submission does. -/
inductive SubmissionEffect (s : WindowSystem) : WindowSystem → Prop
  | moved (stage : Option SubmissionStage) (h : snapshotOf stage = none) :
      SubmissionEffect s { s with submission := stage }
  | expired (stage : Option SubmissionStage) (h : snapshotOf stage = none) :
      SubmissionEffect s { s.call .expireIfNeeded with submission := stage }
  | locked (reason : String) : SubmissionEffect s (s.lockAndReject reason)
  | expiredLocked (reason : String) :
      SubmissionEffect s ((s.call .expireIfNeeded).lockAndReject reason)
  | snapshotted (contextFingerprint : String) (permit : PermitIdentity)
      (henabled : (s.call .expireIfNeeded).window.state = .enabled) :
      SubmissionEffect s
        { s.call .expireIfNeeded with
          submission := some (.snapshotted
            ⟨(s.call .expireIfNeeded).window.authorizationInvalidationEpoch, contextFingerprint,
              permit, (s.call .expireIfNeeded).record.events.head?⟩) }
  | fenced (snapshot : ContinuousSnapshot) (hstage : s.submission = some (.snapshotted snapshot))
      (henabled : (s.call .expireIfNeeded).window.state = .enabled)
      (hepoch : (s.call .expireIfNeeded).window.authorizationInvalidationEpoch =
        snapshot.invalidationEpoch) :
      SubmissionEffect s
        { s.call .expireIfNeeded with submission := some (.authorizing snapshot) }
  | authorized (snapshot : ContinuousSnapshot) (ok : Bool)
      (hstage : s.submission = some (.authorizing snapshot)) :
      SubmissionEffect s { s with submission := some (.committing snapshot ok) }
  | posted (snapshot : ContinuousSnapshot) (ok : Bool)
      (hstage : s.submission = some (.committing snapshot ok)) :
      SubmissionEffect s (s.post snapshot)

lemma continuousSnapshot_effect (s : WindowSystem) (contextFingerprint : String)
    (permit : PermitIdentity) :
    SubmissionEffect s (continuousSnapshot s contextFingerprint permit) := by
  unfold continuousSnapshot
  dsimp only
  split_ifs with hstate
  · exact .expired none rfl
  · exact .expiredLocked _
  · exact .expiredLocked _
  · exact .expiredLocked _
  · exact .snapshotted _ _ (not_not.1 hstate)

lemma continuousFinalFence_effect {s : WindowSystem} {snapshot : ContinuousSnapshot}
    (freshContext : String) (hstage : s.submission = some (.snapshotted snapshot)) :
    SubmissionEffect s (continuousFinalFence s snapshot freshContext) := by
  unfold continuousFinalFence
  dsimp only
  split_ifs with hstate hepoch
  · exact .expired none rfl
  · exact .expiredLocked _
  · exact .expiredLocked _
  · exact .expiredLocked _
  · exact .expiredLocked _
  · exact .expiredLocked _
  · exact .fenced snapshot hstage (not_not.1 hstate) (not_not.1 hepoch)

lemma authorizerFailed_effect (s : WindowSystem) : SubmissionEffect s s.authorizerFailed := by
  unfold WindowSystem.authorizerFailed
  split_ifs
  · exact .locked _
  · exact .moved none rfl

lemma submissionEffect {s s' : WindowSystem} {op : SubmissionOp}
    (h : submissionStep s op = some s') : SubmissionEffect s s' := by
  unfold submissionStep at h
  split at h
  · -- the first check of the window
    dsimp only at h
    split_ifs at h with hstate hcontext
    · rename_i hidle
      obtain rfl := Option.some.inj h
      have hsame : SubmissionEffect s { s.call .expireIfNeeded with submission := s.submission } :=
        .expired s.submission (by rw [hidle]; rfl)
      exact hsame
    · obtain rfl := Option.some.inj h
      exact .expired _ rfl
    · obtain rfl := Option.some.inj h
      exact .expired _ rfl
  · rename_i ok _ _
    obtain rfl := Option.some.inj h
    cases ok with
    | true => exact .moved _ rfl
    | false => exact .moved _ rfl
  · obtain rfl := Option.some.inj h
    exact .locked _
  · obtain rfl := Option.some.inj h
    exact continuousSnapshot_effect s _ _
  · rename_i hstage
    obtain rfl := Option.some.inj h
    exact continuousFinalFence_effect _ hstage
  · rename_i hstage
    obtain rfl := Option.some.inj h
    exact .authorized _ _ hstage
  · obtain rfl := Option.some.inj h
    exact authorizerFailed_effect s
  · obtain rfl := Option.some.inj h
    exact authorizerFailed_effect s
  · rename_i hstage
    split_ifs at h
    · obtain rfl := Option.some.inj h
      exact .posted _ _ hstage
    · obtain rfl := Option.some.inj h
      exact .locked _
  · obtain rfl := Option.some.inj h
    exact .moved none rfl
  · obtain rfl := Option.some.inj h
    exact .moved none rfl
  · cases h

/-! ## Operators -/

/-- What a step of a control request does. -/
inductive ControlEffect (s : WindowSystem) : WindowSystem → Prop
  | refused : ControlEffect s s
  | created (request : ControlRequest) (hfree : s.fence = none)
      (hgeneration : request.controlGeneration = s.latestGeneration + 1)
      (hfresh : request.consumed = false) :
      ControlEffect s { s with fence := some (.creating request) }
  | committed (request : ControlRequest) (h : s.fence = some (.creating request)) :
      ControlEffect s { s with fence := none, requests := s.requests ++ [request] }
  | rolledBack (request : ControlRequest) (h : s.fence = some (.creating request)) :
      ControlEffect s { s with fence := none }

lemma controlEffect {s s' : WindowSystem} {op : ControlOp} (h : controlStep s op = some s') :
    ControlEffect s s' := by
  cases op with
  | create action requestId reason assertion =>
      simp only [controlStep, createControlRequest] at h
      split_ifs at h with hbusy hunknown hpending
      · obtain rfl := Option.some.inj h
        exact .refused
      · obtain rfl := Option.some.inj h
        exact .refused
      · obtain rfl := Option.some.inj h
        simp only [Bool.or_eq_true, not_or] at hbusy
        exact .created _ (by simpa using hbusy.1) rfl rfl
  | commit =>
      simp only [controlStep] at h
      split at h
      · rename_i request hfence
        obtain rfl := Option.some.inj h
        exact .committed request hfence
      · cases h
  | rollback =>
      simp only [controlStep] at h
      split at h
      · rename_i request hfence
        obtain rfl := Option.some.inj h
        exact .rolledBack request hfence
      · cases h

/-! ## The window after a step -/

/-- What becomes of the window, and who may do it: only with the submission mutex free may the
window be locked from outside a submission, and be armed or disarmed at all. -/
inductive RecordEffect (s : WindowSystem) (op : WindowOp) : WindowRecord → Prop
  | kept : RecordEffect s op s.record
  | named (requestId : RequestId) :
      RecordEffect s op
        { s.record with window := { s.window with lastControlRequestId := some requestId } }
  | expired : RecordEffect s op (s.record.call s.clock .expireIfNeeded)
  | locked (reason : String) (h : s.submissionLocked = false ∨ ∃ o, op = .submission o) :
      RecordEffect s op (s.record.call s.clock (.lock reason))
  | expiredLocked (reason : String) (h : ∃ o, op = .submission o) :
      RecordEffect s op ((s.record.call s.clock .expireIfNeeded).call s.clock (.lock reason))
  | paused (reason : String) (hop : op = .pause reason) :
      RecordEffect s op (s.record.call s.clock (.pause reason))
  | resumed (hop : op = .resume) :
      RecordEffect s op (s.record.call s.clock .resumeAfterPositiveProbe)
  | armed (poller : PollerId) (request : ControlRequest) (fingerprint : String)
      (hop : op = .poll poller (.apply fingerprint))
      (hstage : s.pollers.lookup poller = some (.claimed request)) (haction : request.action = .arm)
      (hfree : s.submissionLocked = false) :
      RecordEffect s op
        (s.record.call s.clock (.beginArm request.requestId request.controlGeneration fingerprint))
  | disarmed (generation : ℕ) (reason : String) (hfree : s.submissionLocked = false) :
      RecordEffect s op (s.record.call s.clock (.disarm generation reason))
  | cancelled (reason : String) (locked : Bool) (h : s.cancelsArm op = true)
      (hlocked : locked = false → s.finalizes op = true) :
      RecordEffect s op (s.record.call s.clock (.cancelArm reason locked))
  | dropped (reason : String) (locked : Bool) (h : s.window.armAttempt ≠ none) :
      RecordEffect s op (s.record.call s.clock (.cancelArm reason locked))
  | opened (task : ArmTaskId) (t : ArmTask) (ht : s.tasks.lookup task = some t)
      (hstage : t.stage = .fenced)
      (h : s.window.canFinalizeArm t.request.requestId t.request.controlGeneration
        t.contextFingerprint = true) :
      RecordEffect s op
        (s.record.call s.clock (.openWindow t.request.requestId t.request.controlGeneration
          t.contextFingerprint))

theorem recordEffect {s s' : WindowSystem} {op : WindowOp} (h : windowStep s op = some s') :
    RecordEffect s op s'.record := by
  cases op with
  | tick clock =>
      simp only [windowStep] at h
      split_ifs at h
      obtain rfl := Option.some.inj h
      exact .kept
  | telemetry =>
      obtain rfl := Option.some.inj h
      exact .expired
  | pause reason =>
      obtain rfl := Option.some.inj h
      exact .paused reason rfl
  | resume =>
      obtain rfl := Option.some.inj h
      exact .resumed rfl
  | control op =>
      obtain - | - | - | - := controlEffect (s := s) h <;> exact .kept
  | poll poller op =>
      cases pollEffect h with
      | staged pollers => exact .kept
      | consumed request pollers => exact .named _
      | armed request fingerprint pollers hop hstage haction hfree =>
          subst hop
          exact .armed poller request fingerprint rfl hstage haction hfree
      | disarmed generation reason pollers hfree =>
          rw [WindowSystem.cancelArmTask_record]
          exact .disarmed generation reason hfree
      | locked reason pollers hfree => exact .locked reason (Or.inl hfree)
      | cancelled reason pollers hcancels => exact .cancelled reason true hcancels nofun
      | created request fingerprint task pollers hfresh =>
          have hrecord : (WindowSystem.cancelArmTask { s with pollers := pollers }).record =
              s.record := by simp
          rw [hrecord]
          exact .kept
  | arm task op =>
      obtain ⟨t, ht, heffect⟩ := armEffect h
      cases heffect with
      | probed => exact .kept
      | fenced hfree h => exact .kept
      | opened hstage hcan => exact .opened task t ht hstage hcan
      | cancelled reason locked hcancels hlocked =>
          exact .cancelled reason locked hcancels hlocked
      | dropped reason locked hattempt => exact .dropped reason locked hattempt
      | ended => exact .kept
      | failed => exact .kept
      | locked reason hfree => exact .locked reason (Or.inl hfree)
  | maintain op =>
      cases maintainEffect h with
      | kept maintaining => exact .kept
      | expired maintaining => exact .expired
      | locked reason hfree =>
          have hrecord : (s.call (.lock reason)).cancelArmTask.record =
              s.record.call s.clock (.lock reason) := by simp
          rw [hrecord]
          exact .locked reason (Or.inl hfree)
  | submission op =>
      cases submissionEffect h with
      | moved stage h => exact .kept
      | expired stage h => exact .expired
      | locked reason => exact .locked reason (Or.inr ⟨op, rfl⟩)
      | expiredLocked reason => exact .expiredLocked reason ⟨op, rfl⟩
      | snapshotted contextFingerprint permit henabled => exact .expired
      | fenced snapshot hstage henabled hepoch => exact .expired
      | authorized snapshot ok hstage => exact .kept
      | posted snapshot ok hstage => exact .kept

end HyperCopy

import HyperCopy.Risex.WindowStates

/-!
# Posts inside the open window

The final check of a submission and its post are two steps with the awaits of the final authorizer
between them, and before the check the payload is prepared without the mutex.  A post is inside the
window its submission has seen unless something of three kinds happens in between: the time of the
window runs out, an attempt to arm is cancelled without the mutex, or a newer request to arm takes
the place of the window without moving the epoch (`posts_inside_of_undisturbed`).

`expiry_before_post` is a run in which this goes wrong.
-/

namespace HyperCopy

open Transition

/-- The final check has passed, and the post is still to come. -/
def WindowSystem.postPending (s : WindowSystem) : Bool :=
  match s.submission with
  | some (.authorizing _) | some (.committing _ _) => true
  | _ => false

/-- The snapshot is taken, and the final check is still to come. -/
def WindowSystem.checkPending (s : WindowSystem) : Bool :=
  match s.submission with
  | some (.snapshotted _) => true
  | _ => false

/-- The poller hands the controller a newer request to arm. -/
def WindowSystem.rearms (s : WindowSystem) (poller : PollerId) : Bool :=
  (s.pollers.lookup poller).any fun
    | .claimed request =>
      request.action = .arm && s.window.lastControlGeneration < request.controlGeneration
    | _ => false

/-- The step leaves the authorization of a submission alone: the window does not run out, nobody
pauses it or cancels an attempt to arm between the final check and the post, and nobody arms again
between the snapshot and the final check. -/
def WindowSystem.undisturbed (s : WindowSystem) : WindowOp → Bool
  | .tick clock => !s.postPending || s.window.expiresAt.all (clock < ·)
  | .pause _ => !s.postPending
  | .poll poller (.apply _) => !s.checkPending || !s.rearms poller
  | op => !s.postPending || !s.cancelsArm op

/-- The post goes out while the window is enabled and unexpired, under the arming of the snapshot,
and nothing has moved the epoch since. -/
structure ProviderPost.Inside (p : ProviderPost) : Prop where
  enabled : p.window.state = .enabled
  unexpired : ∃ e, p.window.expiresAt = some e ∧ p.clock < e
  epoch : p.window.authorizationInvalidationEpoch = p.snapshot.invalidationEpoch
  arming : ∃ g t, p.arming = some (.opened g t) ∧ p.snapshot.arming = some (.opened g t)

/-! ## What a snapshot is bound to -/

/-- As long as the epoch is the one of the snapshot, so is the arming. -/
structure ContinuousSnapshot.Bound (snapshot : ContinuousSnapshot) (r : WindowRecord) : Prop where
  opened : ∃ g t, snapshot.arming = some (.opened g t)
  epoch : snapshot.invalidationEpoch ≤ r.window.authorizationInvalidationEpoch
  same : r.window.authorizationInvalidationEpoch = snapshot.invalidationEpoch →
    r.events.head? = snapshot.arming

/-- The final check would pass at the time `now`. -/
structure ContinuousSnapshot.Valid (snapshot : ContinuousSnapshot) (r : WindowRecord) (now : ℕ) :
    Prop where
  bound : snapshot.Bound r
  enabled : r.window.state = .enabled
  epoch : r.window.authorizationInvalidationEpoch = snapshot.invalidationEpoch
  unexpired : ∃ e, r.window.expiresAt = some e ∧ now < e

namespace ContinuousSnapshot

variable {snapshot : ContinuousSnapshot} {r : WindowRecord}

lemma Bound.withWindow (h : snapshot.Bound r) {w : OperationalWindow}
    (hepoch : r.window.authorizationInvalidationEpoch ≤ w.authorizationInvalidationEpoch) :
    snapshot.Bound (r.withWindow w) := by
  have hle := h.epoch
  refine ⟨h.opened, hle.trans hepoch, fun hsame => ?_⟩
  have hsame' : w.authorizationInvalidationEpoch = snapshot.invalidationEpoch := hsame
  have hunmoved : w.authorizationInvalidationEpoch = r.window.authorizationInvalidationEpoch := by
    omega
  simp only [WindowRecord.withWindow, hunmoved, if_true]
  exact h.same (by omega)

/-- No call but those of a new arming can replace the arming under the epoch. -/
lemma Bound.call (h : snapshot.Bound r) (hr : r.Lawful) (now : ℕ) {c : WindowCall}
    (hc : ∀ requestId generation fingerprint, c = .beginArm requestId generation fingerprint →
      generation ≤ r.window.lastControlGeneration) : snapshot.Bound (r.call now c) := by
  have hcounters := (WindowRecord.call_counters r now c).2
  cases c with
  | beginArm requestId generation fingerprint =>
      have hold := hc _ _ _ rfl
      have hrejected : r.window.beginArm now requestId generation fingerprint =
          (r.window, false) := by
        simp [OperationalWindow.beginArm, hold]
      refine ⟨h.opened, h.epoch.trans hcounters, fun hsame => ?_⟩
      simp only [WindowRecord.call, hrejected] at hsame ⊢
      exact h.same hsame
  | openWindow requestId generation fingerprint =>
      simp only [WindowRecord.call, OperationalWindow.openWindow] at hcounters ⊢
      by_cases hcan : r.window.canFinalizeArm requestId generation fingerprint = true
      · simp only [hcan, if_true] at hcounters ⊢
        refine ⟨h.opened, h.epoch, fun hsame => ?_⟩
        -- an attempt was under way, so that the snapshot is of an older epoch
        have harmed := hr.arming (WindowRecord.canFinalizeArm_iff.1 hcan).1
        obtain ⟨g, t, harming⟩ := h.opened
        have hhead := h.same hsame
        rw [harmed, harming] at hhead
        cases hhead
      · simp only [hcan, Bool.false_eq_true, if_false]
        exact h
  | disarm generation reason =>
      have hbound := h.withWindow (w := (r.window.disarm now generation reason).1) hcounters
      exact ⟨hbound.opened, hbound.epoch, hbound.same⟩
  | cancelArm reason locked => exact h.withWindow hcounters
  | lock reason => exact h.withWindow hcounters
  | disable reason => exact h.withWindow hcounters
  | expireIfNeeded => exact h.withWindow hcounters
  | pause reason => exact h.withWindow hcounters
  | resumeAfterPositiveProbe => exact h.withWindow hcounters

lemma Valid.not_expired {now : ℕ} (h : snapshot.Valid r now) : r.window.expired now = false := by
  obtain ⟨e, he, hlt⟩ := h.unexpired
  simp [OperationalWindow.expired, he, hlt]

lemma Valid.expireIfNeeded {now : ℕ} (h : snapshot.Valid r now) :
    r.call now .expireIfNeeded = r := by
  simp [WindowRecord.call, WindowRecord.withWindow, OperationalWindow.expireIfNeeded, h.not_expired]

lemma Valid.resume {now : ℕ} (h : snapshot.Valid r now) :
    r.call now .resumeAfterPositiveProbe = r := by
  simp [WindowRecord.call, WindowRecord.withWindow, OperationalWindow.resumeAfterPositiveProbe,
    OperationalWindow.expireIfNeeded, h.not_expired, h.enabled]

end ContinuousSnapshot

/-! ## Steps outside the submission -/

section Steps

variable {s s' : WindowSystem} {op : WindowOp}

/-- Only the submission touches its stage and the posts, and only time the clock. -/
lemma submission_frame (hstep : windowStep s op = some s') (hop : ∀ o, op ≠ .submission o) :
    s'.submission = s.submission ∧ s'.posts = s.posts := by
  cases op with
  | tick clock =>
      simp only [windowStep] at hstep
      split_ifs at hstep
      obtain rfl := Option.some.inj hstep
      exact ⟨rfl, rfl⟩
  | telemetry | pause | resume =>
      obtain rfl := Option.some.inj hstep
      exact ⟨rfl, rfl⟩
  | control op => obtain - | - | - | - := controlEffect (s := s) hstep <;> exact ⟨rfl, rfl⟩
  | poll poller op => cases pollEffect hstep <;> simp
  | arm task op =>
      obtain ⟨t, -, heffect⟩ := armEffect hstep
      cases heffect <;> simp
  | maintain op => cases maintainEffect hstep <;> simp
  | submission op => exact absurd rfl (hop op)

lemma clock_frame (hstep : windowStep s op = some s') (hop : ∀ clock, op ≠ .tick clock) :
    s'.clock = s.clock := by
  cases op with
  | tick clock => exact absurd rfl (hop clock)
  | telemetry | pause | resume =>
      obtain rfl := Option.some.inj hstep
      rfl
  | control op => obtain - | - | - | - := controlEffect (s := s) hstep <;> rfl
  | poll poller op => cases pollEffect hstep <;> simp
  | arm task op =>
      obtain ⟨t, -, heffect⟩ := armEffect hstep
      cases heffect <;> simp
  | maintain op => cases maintainEffect hstep <;> simp
  | submission op => cases submissionEffect hstep <;> rfl

lemma boundStep {snapshot : ContinuousSnapshot} (h : snapshot.Bound s.record)
    (hr : s.record.Lawful)
    (hrearm : ∀ poller fingerprint, op = .poll poller (.apply fingerprint) → s.rearms poller = false)
    (hstep : windowStep s op = some s') : snapshot.Bound s'.record := by
  have heffect := recordEffect hstep
  generalize s'.record = r' at heffect ⊢
  cases heffect with
  | kept => exact h
  | named requestId => exact ⟨h.opened, h.epoch, h.same⟩
  | armed poller request fingerprint hop hstage haction _ =>
      refine h.call hr _ fun requestId generation fingerprint' hcall => ?_
      have hrejected := hrearm poller fingerprint hop
      simp only [WindowSystem.rearms, hstage, haction, Option.any_some, decide_true, Bool.true_and,
        decide_eq_false_iff_not, not_lt] at hrejected
      cases hcall
      exact hrejected
  | expiredLocked reason _ =>
      have hfirst := h.call hr s.clock (c := .expireIfNeeded) nofun
      exact hfirst.call (hr.call _ _) s.clock nofun
  | _ => exact h.call hr _ nofun

/-- The final check stays passed until the post. -/
lemma validStep {snapshot : ContinuousSnapshot} (h : snapshot.Valid s.record s.clock)
    (hr : s.record.Lawful) (hpending : s.postPending = true) (hguard : s.undisturbed op = true)
    (hop : ∀ o, op ≠ .submission o) (hstep : windowStep s op = some s') :
    snapshot.Valid s'.record s'.clock := by
  have hlocked : s.submissionLocked = true := by
    unfold WindowSystem.postPending at hpending
    unfold WindowSystem.submissionLocked
    split at hpending <;> simp_all
  have hnotCancelled : s.cancelsArm op = false := by
    unfold WindowSystem.undisturbed at hguard
    split at hguard <;> simp_all [WindowSystem.cancelsArm]
  have hnoAttempt : s.window.armAttempt = none := by
    cases hattempt : s.window.armAttempt with
    | none => rfl
    | some a =>
        have harming := hr.attempt a hattempt
        rw [h.enabled] at harming
        cases harming
  by_cases htick : ∃ clock, op = .tick clock
  · obtain ⟨clock, rfl⟩ := htick
    simp only [windowStep] at hstep
    split_ifs at hstep
    obtain rfl := Option.some.inj hstep
    obtain ⟨e, he, -⟩ := h.unexpired
    have he' : s.window.expiresAt = some e := he
    have hlt : clock < e := by simpa [WindowSystem.undisturbed, hpending, he'] using hguard
    exact ⟨h.bound, h.enabled, h.epoch, e, he, hlt⟩
  · rw [clock_frame hstep fun clock heq => htick ⟨clock, heq⟩]
    have heffect := recordEffect hstep
    generalize s'.record = r' at heffect ⊢
    cases heffect with
    | kept => exact h
    | named requestId =>
        exact ⟨⟨h.bound.opened, h.bound.epoch, h.bound.same⟩, h.enabled, h.epoch, h.unexpired⟩
    | expired =>
        rw [h.expireIfNeeded]
        exact h
    | resumed _ =>
        rw [h.resume]
        exact h
    | locked reason hfree =>
        obtain hfree | ⟨o, ho⟩ := hfree
        · rw [hlocked] at hfree
          cases hfree
        · exact absurd ho (hop o)
    | expiredLocked reason ho =>
        obtain ⟨o, ho⟩ := ho
        exact absurd ho (hop o)
    | paused reason hpause =>
        subst hpause
        simp [WindowSystem.undisturbed, hpending] at hguard
    | armed poller request fingerprint _ _ _ hfree =>
        rw [hlocked] at hfree
        cases hfree
    | disarmed generation reason hfree =>
        rw [hlocked] at hfree
        cases hfree
    | cancelled reason locked hcancels _ =>
        rw [hnotCancelled] at hcancels
        cases hcancels
    | dropped reason locked hattempt => exact absurd hnoAttempt hattempt
    | opened task t _ _ hcan =>
        have harming := (WindowRecord.canFinalizeArm_iff.1 hcan).1
        have henabled : s.window.state = .enabled := h.enabled
        rw [henabled] at harming
        cases harming

end Steps

/-! ## Runs -/

/-- What every state satisfies as long as no submission is disturbed. -/
structure PostsInside (s : WindowSystem) : Prop where
  lawful : s.record.Lawful
  bound : ∀ snapshot, snapshotOf s.submission = some snapshot → snapshot.Bound s.record
  valid : s.postPending = true → ∀ snapshot, snapshotOf s.submission = some snapshot →
    snapshot.Valid s.record s.clock
  posts : ∀ p ∈ s.posts, p.Inside

lemma postsInside_initial : PostsInside .initial where
  lawful := WindowRecord.lawful_boot 0
  bound snapshot h := by cases h
  valid h := by cases h
  posts p h := by cases h

section Run

variable {s s' : WindowSystem} {op : WindowOp}

lemma lt_of_not_expired {w : OperationalWindow} {now e : ℕ} (henabled : w.state = .enabled)
    (he : w.expiresAt = some e) (h : ¬ w.expired now = true) : now < e := by
  simpa [OperationalWindow.expired, henabled, he] using h

/-- A snapshot that is taken of an enabled window is bound to its arming. -/
lemma bound_of_enabled {r : WindowRecord} (hr : r.Lawful) (henabled : r.window.state = .enabled)
    (contextFingerprint : String) (permit : PermitIdentity) :
    ContinuousSnapshot.Bound
      ⟨r.window.authorizationInvalidationEpoch, contextFingerprint, permit, r.events.head?⟩ r := by
  obtain ⟨t, ht⟩ := hr.opened (by rw [henabled]; rfl)
  exact ⟨⟨_, t, ht.last⟩, le_refl _, fun _ => rfl⟩

/-- The final check passes. -/
lemma valid_of_check {snapshot : ContinuousSnapshot} {r : WindowRecord} {now : ℕ} (hr : r.Lawful)
    (hbound : snapshot.Bound (r.call now .expireIfNeeded))
    (henabled : (r.call now .expireIfNeeded).window.state = .enabled)
    (hepoch : (r.call now .expireIfNeeded).window.authorizationInvalidationEpoch =
      snapshot.invalidationEpoch) :
    snapshot.Valid (r.call now .expireIfNeeded) now := by
  refine ⟨hbound, henabled, hepoch, ?_⟩
  by_cases hexpired : r.window.expired now = true
  · simp [WindowRecord.call, WindowRecord.withWindow, OperationalWindow.expireIfNeeded, hexpired,
      OperationalWindow.disable, OperationalWindow.transition] at henabled
  · have hkept : r.call now .expireIfNeeded = r := by
      simp [WindowRecord.call, WindowRecord.withWindow, OperationalWindow.expireIfNeeded, hexpired]
    rw [hkept] at henabled ⊢
    obtain ⟨t, ht⟩ := hr.opened (by rw [henabled]; rfl)
    exact ⟨_, ht.expiresAt, lt_of_not_expired henabled ht.expiresAt hexpired⟩

lemma PostsInside.submission (h : PostsInside s) (heffect : SubmissionEffect s s') :
    PostsInside s' := by
  have hexpired := h.lawful.call s.clock .expireIfNeeded
  have hquiet : ∀ (t : WindowSystem) stage, snapshotOf stage = none → t.record.Lawful →
      t.submission = stage → t.posts = s.posts → PostsInside t := by
    intro t stage hstage hlawful hsubmission hposts
    have hnone : ∀ snapshot, snapshotOf t.submission ≠ some snapshot := by
      intro snapshot heq
      rw [hsubmission, hstage] at heq
      cases heq
    exact ⟨hlawful, fun sn hsn => absurd hsn (hnone sn), fun _ sn hsn => absurd hsn (hnone sn),
      fun p hp => h.posts p (hposts ▸ hp)⟩
  cases heffect with
  | moved stage hstage => exact hquiet _ stage hstage h.lawful rfl rfl
  | expired stage hstage => exact hquiet _ stage hstage hexpired rfl rfl
  | locked reason => exact hquiet _ none rfl (h.lawful.call s.clock (.lock reason)) rfl rfl
  | expiredLocked reason =>
      exact hquiet _ none rfl (hexpired.call s.clock (.lock reason)) rfl rfl
  | snapshotted contextFingerprint permit henabled =>
      refine ⟨hexpired, fun sn hsn => ?_, fun hpending => ?_, h.posts⟩
      · cases hsn
        exact bound_of_enabled hexpired henabled _ _
      · cases hpending
  | fenced snapshot hstage henabled hepoch =>
      have hbound := h.bound snapshot (by rw [hstage]; rfl)
      have hbound' := hbound.call h.lawful s.clock (c := .expireIfNeeded) nofun
      refine ⟨hexpired, fun sn hsn => ?_, fun _ sn hsn => ?_, h.posts⟩
      · cases hsn
        exact hbound'
      · cases hsn
        exact valid_of_check h.lawful hbound' henabled hepoch
  | authorized snapshot ok hstage =>
      have hvalid := h.valid (by simp [WindowSystem.postPending, hstage]) snapshot
        (by rw [hstage]; rfl)
      refine ⟨h.lawful, fun sn hsn => ?_, fun _ sn hsn => ?_, h.posts⟩
      · cases hsn
        exact hvalid.bound
      · cases hsn
        exact hvalid
  | posted snapshot ok hstage =>
      have hvalid := h.valid (by simp [WindowSystem.postPending, hstage]) snapshot
        (by rw [hstage]; rfl)
      refine ⟨h.lawful, fun sn hsn => (by cases hsn), fun hpending => (by cases hpending),
        fun p hp => ?_⟩
      rcases List.mem_cons.1 hp with rfl | hold
      · have hhead := hvalid.bound.same hvalid.epoch
        obtain ⟨g, t, harming⟩ := hvalid.bound.opened
        exact ⟨hvalid.enabled, hvalid.unexpired, hvalid.epoch, g, t, hhead.trans harming, harming⟩
      · exact h.posts p hold

/-- **One undisturbed step keeps the posts inside the window.** -/
lemma PostsInside.step (h : PostsInside s) (hguard : s.undisturbed op = true)
    (hstep : windowStep s op = some s') : PostsInside s' := by
  by_cases hsubmission : ∃ o, op = .submission o
  · obtain ⟨o, rfl⟩ := hsubmission
    exact h.submission (submissionEffect hstep)
  have hop : ∀ o, op ≠ .submission o := fun o heq => hsubmission ⟨o, heq⟩
  obtain ⟨hstage, hposts⟩ := submission_frame hstep hop
  refine ⟨h.lawful.step hstep, fun snapshot hsnapshot => ?_, fun hpending snapshot hsnapshot => ?_,
    fun p hp => h.posts p (hposts ▸ hp)⟩
  · rw [hstage] at hsnapshot
    by_cases hpending : s.postPending = true
    · exact (validStep (h.valid hpending snapshot hsnapshot) h.lawful hpending hguard hop hstep).bound
    · refine boundStep (h.bound snapshot hsnapshot) h.lawful (fun poller fingerprint heq => ?_) hstep
      subst heq
      have hcheck : s.checkPending = true := by
        unfold WindowSystem.postPending at hpending
        unfold WindowSystem.checkPending
        unfold snapshotOf at hsnapshot
        split at hsnapshot <;> simp_all
      simpa [WindowSystem.undisturbed, hcheck] using hguard
  · rw [hstage] at hsnapshot
    have hwas : s.postPending = true := by
      unfold WindowSystem.postPending at hpending ⊢
      rw [hstage] at hpending
      exact hpending
    exact validStep (h.valid hwas snapshot hsnapshot) h.lawful hwas hguard hop hstep

end Run

/-- **Posts inside the open window.**  In a run in which no submission is disturbed, every call of
`post_prepared_place_order` finds the window enabled and unexpired, under the arming its submission
has seen, and with nothing that ended the authorization in between. -/
theorem posts_inside_of_undisturbed (ops : List WindowOp) (s : WindowSystem)
    (hmeets : RunMeets windowStep (fun s op => s.undisturbed op = true) .initial ops)
    (hrun : run windowStep .initial ops = some s) : ∀ p ∈ s.posts, p.Inside :=
  (run_invariant_of_meets (I := PostsInside) (fun _ _ _ h hguard hstep => h.step hguard hstep)
    postsInside_initial hmeets hrun).posts

/-- A permit for one account and signer. -/
def btcPermit : PermitIdentity := ⟨"0xa", "0xb", "0xa", "0xb"⟩

/-- A submission up to its snapshot. -/
def prepareOps : List WindowOp :=
  [.submission (.start "context"), .submission (.singleton true), .submission (.snapshot btcPermit)]

/-- The final check, and the two awaits of the final authorizer. -/
def postOps : List WindowOp :=
  [.submission (.fence "context"), .submission (.authorize (some true)), .submission (.commit true)]

theorem posts_inside_of_undisturbed_run :
    ∃ s p, run windowStep .initial (armOps 1 1 ++ finalizeOps 1 ++ prepareOps ++ postOps) = some s ∧
      s.posts = [p] ∧ p.Inside := by
  have hrun : (run windowStep .initial (armOps 1 1 ++ finalizeOps 1 ++ prepareOps ++ postOps)).map
      (·.posts.length) = some 1 := by
    decide +kernel
  obtain ⟨s, hs, hlength⟩ := Option.map_eq_some_iff.1 hrun
  obtain ⟨p, hp⟩ := List.length_eq_one_iff.1 hlength
  have hmeets : RunMeets windowStep (fun s op => s.undisturbed op = true) .initial
      (armOps 1 1 ++ finalizeOps 1 ++ prepareOps ++ postOps) := by
    decide +kernel
  exact ⟨s, p, hs, hp,
    posts_inside_of_undisturbed _ s hmeets hs p (by rw [hp]; exact List.mem_singleton_self p)⟩

/-- The final check passes in the last microsecond of the window. -/
def expiredOps : List WindowOp :=
  armOps 1 1 ++ finalizeOps 1 ++ [.tick (risexWindowTtl - 1)] ++ prepareOps ++ postOps.take 1 ++
    [.tick risexWindowTtl, .telemetry] ++ postOps.drop 1

/-- While the final authorizer awaits the database the window runs out, a heartbeat disables it, and
the post goes out. -/
theorem expiry_before_post :
    ∃ s, run windowStep .initial expiredOps = some s ∧ ¬ ∀ p ∈ s.posts, p.Inside := by
  have hrun : (run windowStep .initial expiredOps).map (fun s => s.posts.map (·.window.state)) =
      some [.disabled] := by
    decide +kernel
  obtain ⟨s, hs, hstates⟩ := Option.map_eq_some_iff.1 hrun
  refine ⟨s, hs, fun hinside => ?_⟩
  obtain ⟨p, hp⟩ := List.length_eq_one_iff.1 (by simpa using congrArg List.length hstates)
  rw [hp] at hstates hinside
  have hdisabled : p.window.state = .disabled := by simpa using hstates
  have henabled := (hinside p (List.mem_singleton_self p)).enabled
  rw [hdisabled] at henabled
  cases henabled

/-- A second request to arm replaces the window between the snapshot and the final check; the epoch
does not move, and the post goes out under an arming the submission has not seen. -/
example :
    (run windowStep .initial (armOps 1 1 ++ finalizeOps 1 ++ [.arm 1 (.commit true)] ++
      prepareOps ++ [.tick 1] ++ armOps 2 2 ++ finalizeOps 2 ++ postOps)).map
        (fun s => s.posts.map fun p => (p.snapshot.arming, p.arming)) =
      some [(some (.opened 1 0), some (.opened 2 1))] := by
  decide +kernel

end HyperCopy

import HyperCopy.Admin.LeverageSync

/-!
# One call for one command

`update_leverage` is called at most once for a command, a call that may have reached the exchange
is final, and the row says how it ended: this is `OneShot`, and `leverage_sync_one_shot` proves it
of every run whose steps are `uncontested`.

What is in the way of the unconditional statement is that a session commits without looking at the
row.  A worker whose lease ran out still writes its result, over what a sweeper or another worker
wrote; a delivery that finds the destination stale skips a job that is being submitted; and
`release_stale_jobs` does not know the origin, so that an expired lease it meets before the
quarantine does puts a submitted job back into the queue.  From there a session that loaded the row
before the first claim counts the first attempt again, and submits again.

The proof follows the job through three stages (`SyncStage`): nothing sent yet, in the hands of one
worker, and over.
-/

namespace HyperCopy

open Transition Fallible

/-! ## Flushes -/

namespace LeverageJob

/-- A flush over the row the instance was loaded from stores the instance. -/
lemma flush_self {loaded changed : LeverageJob} (huser : changed.userId = loaded.userId) :
    loaded.flush changed loaded = changed := by
  have hwritten : ∀ {α : Type} [DecidableEq α] (l c : α), written l c l = c := by
    intro α _ l c
    by_cases h : c = l
    · simp [written, h]
    · simp [written, h]
  cases changed
  simp_all [flush]

/-- An instance that was not changed writes nothing. -/
lemma flush_unchanged (loaded stored : LeverageJob) : loaded.flush loaded stored = stored := by
  simp [flush, written]

lemma flush_submission {loaded changed stored : LeverageJob} {status : SyncSubmission}
    (hchanged : changed.submission = status) (hstored : stored.submission = status) :
    (loaded.flush changed stored).submission = status := by
  unfold submission flush written
  by_cases h : changed.context = loaded.context
  · simp only [h, if_true]
    exact hstored
  · simp only [h, if_false]
    exact hchanged

@[simp] lemma bind_submission (job : LeverageJob) : job.bind.submission = job.submission := by
  unfold bind submission
  by_cases h : job.bound
  · simp [h]
  · simp [h]

@[simp] lemma bind_state (job : LeverageJob) : job.bind.state = job.state := by
  by_cases h : job.bound <;> simp [bind, h]

@[simp] lemma bind_lockedUntil (job : LeverageJob) : job.bind.lockedUntil = job.lockedUntil := by
  by_cases h : job.bound <;> simp [bind, h]

@[simp] lemma bind_userId (job : LeverageJob) : job.bind.userId = job.userId := by
  by_cases h : job.bound <;> simp [bind, h]

end LeverageJob


namespace LeverageJob

/-- Finished, with the response of the exchange. -/
def doneWithResponse (job : LeverageJob) : Prop :=
  job.state = .done ∧
    ∃ response setting, job.context.result = some ⟨some response, setting, .submitted⟩

/-- Given up, and the context says that the outcome at the exchange is not known. -/
def saysAmbiguous (job : LeverageJob) : Prop :=
  job.state = .dead ∧
    (job.submission = .unknownAfterWorkerLoss ∨
      ∃ result ∈ job.context.result, result.submissionStatus = .unknownDueToCancellation ∨
        result.submissionStatus = .unknownOrFailed)

end LeverageJob

namespace LeverageState

/-- A call was made that the authorization did not end. -/
def mayHaveReached (s : LeverageState) : Prop :=
  s.refused < s.invoked

/-- The instance a session loaded and has not claimed. -/
def delivered (s : LeverageState) (w : SyncWorkerId) : Option LeverageJob :=
  match s.tasks.lookup w with
  | some (.loaded seen) | some (.prepared seen) => some seen
  | _ => none

/-- The row is what the worker's claim left, and the claim is the worker's. -/
def holdsClaim (s : LeverageState) (w : SyncWorkerId) (copy : LeverageJob) : Bool :=
  s.job = copy && copy.state = .processing && copy.owner = some w

/-- Nobody writes over what others wrote behind its back, and a job with a submission under way is
left to its worker and to the quarantine. -/
def uncontested (s : LeverageState) : SyncAction → Bool
  | .withdraw w _ =>
      (s.delivered w).all fun seen => s.job = seen && s.job.submission ≠ .submitting
  | .publish w =>
      (s.delivered w).all fun seen =>
        seen.bound || (s.job = seen && s.job.submission ≠ .submitting)
  | .submit w _ _ =>
      match s.tasks.lookup w with
      | some (.claimed seen) => s.holdsClaim w seen
      | _ => true
  | .answer w _ _ _ =>
      match s.tasks.lookup w with
      | some (.calling copy _) => s.holdsClaim w copy
      | _ => true
  | .release now => !s.job.leaseExpired now || s.job.submission ≠ .submitting
  | _ => true

end LeverageState

/-- What the command owes in a state, for whatever comes next. -/
structure OneShot (c : SyncSettings) (s : LeverageState) : Prop where
  once : s.invoked ≤ 1
  /-- No session is about to call again. -/
  notAgain : s.mayHaveReached → ∀ w, leverageStep c s (.call w) = none
  /-- A job that is over says how its submission ended. -/
  ended : s.mayHaveReached → s.job.state.active = false →
    s.job.doneWithResponse ∨ s.job.saysAmbiguous
  /-- A job that is not over is in its worker's hands, and the quarantine ends it when the lease
  has run out. -/
  ends : s.mayHaveReached → s.job.state.active → s.job.state = .processing ∧
    ∃ lockedUntil, s.job.lockedUntil = some lockedUntil ∧ ∀ now, lockedUntil < now →
      ∃ s', leverageStep c s (.quarantine now) = some s' ∧ s'.job.saysAmbiguous
  /-- Nothing overwrites a job that is over. -/
  final : s.job.state.active = false → ∀ a s', s.uncontested a → leverageStep c s a = some s' →
    s'.job = s.job

/-! ## Stages of a command -/

namespace SyncPhase

/-- The calls a session that submits has made. -/
def sent : SyncPhase → Option ℕ
  | submitting _ _ => some 0
  | calling _ _ => some 1
  | loaded _ | prepared _ | acquired | claimed _ => none

/-- Claimed, and not submitted. -/
def claims : SyncPhase → Bool
  | acquired | claimed _ => true
  | loaded _ | prepared _ | submitting _ _ | calling _ _ => false

/-- The instance of a delivery. -/
def delivers : SyncPhase → Option LeverageJob
  | loaded seen | prepared seen => some seen
  | acquired | claimed _ | submitting _ _ | calling _ _ => none

/-- Nothing submitted, and the instance does not say so either. -/
def quiet : SyncPhase → Prop
  | loaded seen | prepared seen | claimed seen => seen.submission = .queued
  | acquired => True
  | submitting _ _ | calling _ _ => False

lemma quiet.sent_eq_none {p : SyncPhase} (h : p.quiet) : p.sent = none := by
  cases p with
  | submitting copy setting | calling copy setting => exact absurd h id
  | loaded _ | prepared _ | acquired | claimed _ => rfl

end SyncPhase

open SyncPhase

/-- The signed action has not been sent, is in flight, or has an outcome on file. -/
inductive SyncStage (s : LeverageState) : Prop
  | unsent (hstatus : s.job.submission = .queued)
      (hquiet : ∀ w p, s.tasks.lookup w = some p → p.quiet)
      (hinvoked : s.invoked = 0) (hrefused : s.refused = 0)
  | inFlight (w₀ : SyncWorkerId) (hstatus : s.job.submission = .submitting)
      (hstate : s.job.state = .processing) (howner : s.job.owner = some w₀)
      (hclaims : ∀ p, s.tasks.lookup w₀ = some p → p.claims = false)
      (hsender : ∀ w p n, s.tasks.lookup w = some p → p.sent = some n → w = w₀ ∧ s.invoked = n)
      (hinvoked : s.invoked ≤ 1) (hrefused : s.refused = 0)
  | concluded (w₀ : SyncWorkerId) (hover : s.job.state.active = false)
      (hstatus : s.job.submission ≠ .queued)
      (hsender : ∀ w p n, s.tasks.lookup w = some p → p.sent = some n →
        w = w₀ ∧ s.invoked = n ∧ s.job.saysAmbiguous)
      (hinvoked : s.invoked ≤ 1)
      (hended : s.mayHaveReached → s.job.doneWithResponse ∨ s.job.saysAmbiguous)

/-- The invariant of a run. -/
structure SyncInv (s : LeverageState) : Prop where
  stage : SyncStage s
  deliveries : ∀ w p seen, s.tasks.lookup w = some p → p.delivers = some seen → seen.state.active
  lease : s.job.state = .processing → ∃ lockedUntil, s.job.lockedUntil = some lockedUntil

lemma syncInv_requested (userId : UserId) (bound : Bool) :
    SyncInv (.requested userId bound) where
  stage := .unsent rfl (by simp [LeverageState.requested]) rfl rfl
  deliveries := by simp [LeverageState.requested]
  lease := by simp [LeverageState.requested]

section Steps

variable {c : SyncSettings} {s s' : LeverageState} {w : SyncWorkerId}

/-- A session that moves without submitting, or that ends, leaves the stage. -/
lemma SyncStage.moveTasks {tasks : Table SyncWorkerId SyncPhase} (h : SyncStage s)
    (hmove : ∀ w p, tasks.lookup w = some p → s.tasks.lookup w = some p ∨
      (p.sent = none ∧ (s.job.submission = .queued → p.quiet) ∧
        (p.claims → s.job.submission = .queued ∨ ∃ q, s.tasks.lookup w = some q ∧ q.claims))) :
    SyncStage { s with tasks := tasks } := by
  cases h with
  | unsent hstatus hquiet hinvoked hrefused =>
      refine .unsent hstatus (fun w p hp => ?_) hinvoked hrefused
      rcases hmove w p hp with hold | ⟨-, hnew, -⟩
      · exact hquiet w p hold
      · exact hnew hstatus
  | inFlight w₀ hstatus hstate howner hclaims hsender hinvoked hrefused =>
      refine .inFlight w₀ hstatus hstate howner (fun p hp => ?_) (fun w p n hp hn => ?_) hinvoked
        hrefused
      · rcases hmove w₀ p hp with hold | ⟨-, -, hnew⟩
        · exact hclaims p hold
        · by_contra hclaim
          rcases hnew (by simpa using hclaim) with hqueued | ⟨q, hq, hqclaims⟩
          · simp [hstatus] at hqueued
          · simp [hclaims q hq] at hqclaims
      · rcases hmove w p hp with hold | ⟨hnew, -, -⟩
        · exact hsender w p n hold hn
        · simp [hnew] at hn
  | concluded w₀ hover hstatus hsender hinvoked hended =>
      refine .concluded w₀ hover hstatus (fun w p n hp hn => ?_) hinvoked hended
      rcases hmove w p hp with hold | ⟨hnew, -, -⟩
      · exact hsender w p n hold hn
      · simp [hnew] at hn

lemma SyncInv.endTask (h : SyncInv s) (w : SyncWorkerId) : SyncInv (s.endTask w) where
  stage := h.stage.moveTasks fun _ _ hp => .inl (Table.lookup_of_erase hp)
  deliveries w' p seen hp := h.deliveries w' p seen (Table.lookup_of_erase hp)
  lease := h.lease

/-- A session that takes another step in front of the submission. -/
lemma SyncInv.toPhase {p : SyncPhase} (h : SyncInv s) (hsent : p.sent = none)
    (hquiet : s.job.submission = .queued → p.quiet)
    (hclaims : p.claims → s.job.submission = .queued ∨ ∃ q, s.tasks.lookup w = some q ∧ q.claims)
    (hactive : ∀ seen, p.delivers = some seen → seen.state.active) :
    SyncInv (s.toPhase w p) where
  stage := h.stage.moveTasks fun w' p' hp => by
    rcases Table.lookup_insert_cases hp with ⟨rfl, rfl⟩ | hold
    · exact .inr ⟨hsent, hquiet, hclaims⟩
    · exact .inl hold
  deliveries w' p' seen hp hseen := by
    rcases Table.lookup_insert_cases hp with ⟨rfl, rfl⟩ | hold
    · exact hactive seen hseen
    · exact h.deliveries w' p' seen hold hseen
  lease := h.lease

/-- What a session holds while nothing is submitted does not say otherwise. -/
lemma SyncInv.quiet_of_queued (h : SyncInv s) {p : SyncPhase} (hstatus : s.job.submission = .queued)
    (hp : s.tasks.lookup w = some p) : p.quiet := by
  cases h.stage with
  | unsent _ hquiet _ _ => exact hquiet w p hp
  | inFlight w₀ hsubmitting _ _ _ _ _ _ => simp [hsubmitting] at hstatus
  | concluded w₀ _ hsent _ _ _ => exact absurd hstatus hsent

/-- A row that is written while nothing is submitted. -/
lemma SyncInv.withJob {job : LeverageJob} (h : SyncInv s) (hstatus : s.job.submission = .queued)
    (hjob : job.submission = .queued)
    (hlease : job.state = .processing → ∃ lockedUntil, job.lockedUntil = some lockedUntil) :
    SyncInv (s.withJob job) := by
  refine ⟨?_, h.deliveries, hlease⟩
  cases h.stage with
  | unsent _ hquiet hinvoked hrefused => exact .unsent hjob hquiet hinvoked hrefused
  | inFlight w₀ hsubmitting _ _ _ _ _ _ => simp [hsubmitting] at hstatus
  | concluded w₀ _ hsent _ _ _ => exact absurd hstatus hsent

/-- A claim takes a job that waits. -/
lemma LeverageJob.waiting_of_due {job : LeverageJob} {now : ℕ} (h : job.due now) :
    job.state.active ∧ job.state ≠ .processing := by
  simp only [due, Bool.and_eq_true, Bool.or_eq_true, decide_eq_true_eq] at h
  rcases h.1 with hstate | hstate <;> simp [hstate, JobState.active]

/-- A job that is open and not being submitted has never been submitted. -/
lemma SyncInv.queued_of_active (h : SyncInv s) (hactive : s.job.state.active)
    (hstatus : s.job.submission ≠ .submitting) : s.job.submission = .queued := by
  cases h.stage with
  | unsent hqueued _ _ _ => exact hqueued
  | inFlight w₀ hsubmitting _ _ _ _ _ _ => exact absurd hsubmitting hstatus
  | concluded w₀ hover _ _ _ _ => simp [hover] at hactive

/-- A claimable job has never been submitted. -/
lemma SyncInv.queued_of_due (h : SyncInv s) {now : ℕ} (hdue : s.job.due now) :
    s.job.submission = .queued := by
  obtain ⟨hactive, hwaiting⟩ := LeverageJob.waiting_of_due hdue
  refine h.queued_of_active hactive fun hsubmitting => ?_
  cases h.stage with
  | unsent hqueued _ _ _ => simp [hqueued] at hsubmitting
  | inFlight _ _ hprocessing _ _ _ _ _ => exact hwaiting hprocessing
  | concluded _ hover _ _ _ _ => simp [hover] at hactive

/-- Behind a claim that stands nothing has been submitted. -/
lemma SyncInv.queued_of_claim (h : SyncInv s) {p : SyncPhase} (hp : s.tasks.lookup w = some p)
    (hclaims : p.claims) (hstate : s.job.state = .processing) (howner : s.job.owner = some w) :
    s.job.submission = .queued := by
  cases h.stage with
  | unsent hqueued _ _ _ => exact hqueued
  | inFlight w₀ _ _ howner₀ hnone _ _ _ =>
      obtain rfl : w₀ = w := Option.some.inj (howner₀.symm.trans howner)
      simp [hnone p hp] at hclaims
  | concluded w₀ hover _ _ _ _ => simp [hstate, JobState.active] at hover

lemma holdsClaim_eq_true {copy : LeverageJob} (h : s.holdsClaim w copy) :
    s.job = copy ∧ s.job.state = .processing ∧ s.job.owner = some w := by
  simp only [LeverageState.holdsClaim, Bool.and_eq_true, decide_eq_true_eq] at h
  obtain ⟨⟨rfl, hstate⟩, howner⟩ := h
  exact ⟨rfl, hstate, howner⟩

/-- A session that commits over the row it loaded, while nothing is submitted. -/
lemma SyncInv.finishTask {seen changed : LeverageJob} (h : SyncInv s) (hjob : s.job = seen)
    (huser : changed.userId = seen.userId) (hstatus : s.job.submission = .queued)
    (hchanged : changed.submission = .queued)
    (hlease : changed.state = .processing → ∃ lockedUntil, changed.lockedUntil = some lockedUntil) :
    SyncInv (s.finishTask w seen changed) := by
  unfold LeverageState.finishTask
  cases seen.state.assign changed.state with
  | none => exact h.endTask w
  | some state =>
      simp only [hjob, LeverageJob.flush_self huser]
      exact (h.withJob hstatus hchanged hlease).endTask w

/-! ## Steps -/

lemma SyncInv.load (h : SyncInv s) (hstep : leverageStep c s (.load w) = some s') : SyncInv s' := by
  simp only [leverageStep] at hstep
  cases hp : s.tasks.lookup w with
  | some p => simp [hp] at hstep
  | none =>
      simp only [hp, Option.some.injEq] at hstep
      subst hstep
      by_cases hactive : s.job.state.active
      · rw [if_pos hactive]
        refine h.toPhase rfl id (by simp [claims]) ?_
        rintro seen ⟨⟩
        exact hactive
      · rw [if_neg hactive]
        exact h

lemma SyncInv.prepare (h : SyncInv s) (hstep : leverageStep c s (.prepare w) = some s') :
    SyncInv s' := by
  simp only [leverageStep] at hstep
  split at hstep
  case h_1 seen hp =>
    obtain rfl := Option.some.inj hstep
    refine h.toPhase rfl (fun hstatus => ?_) (by simp [claims]) fun seen' hseen => ?_
    · have hquiet : seen.submission = .queued := h.quiet_of_queued hstatus hp
      exact hquiet
    · exact h.deliveries w _ seen' hp hseen
  case h_2 => cases hstep

lemma delivered_eq {p : SyncPhase} {seen : LeverageJob} (hp : s.tasks.lookup w = some p)
    (hseen : p.delivers = some seen) : s.delivered w = some seen := by
  cases p <;> simp_all [LeverageState.delivered, delivers]

/-- A delivery that writes over the row it loaded writes over an open job. -/
lemma SyncInv.active_of_delivered {p : SyncPhase} {seen : LeverageJob} (h : SyncInv s)
    (hp : s.tasks.lookup w = some p) (hseen : p.delivers = some seen) (hjob : s.job = seen) :
    s.job.state.active := by
  subst hjob
  exact h.deliveries w p _ hp hseen

lemma SyncInv.queued_of_delivered {p : SyncPhase} {seen : LeverageJob} (h : SyncInv s)
    (hp : s.tasks.lookup w = some p) (hseen : p.delivers = some seen) (hjob : s.job = seen)
    (hstatus : s.job.submission ≠ .submitting) : s.job.submission = .queued :=
  h.queued_of_active (h.active_of_delivered hp hseen hjob) hstatus

/-- What a withdrawal may assume. -/
lemma withdraw_meets {p : SyncPhase} {seen : LeverageJob} {why : Withdrawal}
    (hp : s.tasks.lookup w = some p) (hseen : p.delivers = some seen)
    (hmeets : s.uncontested (.withdraw w why)) :
    s.job = seen ∧ s.job.submission ≠ .submitting := by
  simpa [LeverageState.uncontested, delivered_eq hp hseen] using hmeets

/-- What a publication may assume that has a binding to write. -/
lemma publish_meets {p : SyncPhase} {seen : LeverageJob}
    (hp : s.tasks.lookup w = some p) (hseen : p.delivers = some seen)
    (hmeets : s.uncontested (.publish w)) :
    seen.bound ∨ s.job = seen ∧ s.job.submission ≠ .submitting := by
  simpa [LeverageState.uncontested, delivered_eq hp hseen] using hmeets

/-- A bound job is published without a change of its row. -/
lemma finishTask_bound {seen : LeverageJob} (hbound : seen.bound) :
    s.finishTask w seen seen.bind = s.endTask w := by
  have hbind : seen.bind = seen := by simp [LeverageJob.bind, hbound]
  have hassign : seen.state.assign seen.state = some seen.state := by simp [JobState.assign]
  simp only [hbind, LeverageState.finishTask, hassign, LeverageJob.flush_unchanged]
  rfl

lemma SyncInv.withdraw {why : Withdrawal} (h : SyncInv s) (hmeets : s.uncontested (.withdraw w why))
    (hstep : leverageStep c s (.withdraw w why) = some s') : SyncInv s' := by
  simp only [leverageStep] at hstep
  split at hstep
  case h_1 seen hp =>
    obtain rfl := Option.some.inj hstep
    obtain ⟨hjob, hstatus⟩ := withdraw_meets hp rfl hmeets
    have hqueued := h.queued_of_delivered hp rfl hjob hstatus
    subst hjob
    exact h.finishTask rfl rfl hqueued hqueued (by simp [withdrawn])
  case h_2 seen hp =>
    obtain rfl := Option.some.inj hstep
    obtain ⟨hjob, hstatus⟩ := withdraw_meets hp rfl hmeets
    have hqueued := h.queued_of_delivered hp rfl hjob hstatus
    subst hjob
    refine h.finishTask rfl (s.job.bind_userId) hqueued ?_ (by simp [withdrawn])
    exact (LeverageJob.bind_submission s.job).trans hqueued
  case h_3 => cases hstep

lemma SyncInv.publish (h : SyncInv s) (hmeets : s.uncontested (.publish w))
    (hstep : leverageStep c s (.publish w) = some s') : SyncInv s' := by
  simp only [leverageStep] at hstep
  split at hstep
  case h_1 seen hp =>
    obtain rfl := Option.some.inj hstep
    rcases publish_meets hp rfl hmeets with hbound | ⟨hjob, hstatus⟩
    · rw [finishTask_bound hbound]
      exact h.endTask w
    · have hqueued := h.queued_of_delivered hp rfl hjob hstatus
      subst hjob
      refine h.finishTask rfl (s.job.bind_userId) hqueued
        ((LeverageJob.bind_submission s.job).trans hqueued) fun hstate => ?_
      rw [LeverageJob.bind_lockedUntil]
      exact h.lease (by simpa using hstate)
  case h_2 => cases hstep

lemma SyncInv.claim {now : ℕ} (h : SyncInv s) (hstep : leverageStep c s (.claim w now) = some s') :
    SyncInv s' := by
  simp only [leverageStep] at hstep
  split at hstep
  case h_1 seen hp =>
    obtain rfl := Option.some.inj hstep
    by_cases hdue : s.job.due now
    · rw [if_pos hdue]
      have hstatus := h.queued_of_due hdue
      have hseen : seen.submission = .queued := h.quiet_of_queued hstatus hp
      have hrow : (claimedRow c w now seen s.job).submission = .queued :=
        LeverageJob.flush_submission ((LeverageJob.bind_submission seen).trans hseen) hstatus
      have hclaimed := h.withJob hstatus hrow fun _ => ⟨_, rfl⟩
      exact hclaimed.toPhase rfl (fun _ => trivial) (fun _ => .inl hrow) (by simp [delivers])
    · rw [if_neg hdue]
      exact h.endTask w
  case h_2 => cases hstep

lemma SyncInv.refresh (h : SyncInv s) (hstep : leverageStep c s (.refresh w) = some s') :
    SyncInv s' := by
  simp only [leverageStep] at hstep
  split at hstep
  case h_1 hp =>
    obtain rfl := Option.some.inj hstep
    exact h.toPhase rfl id (fun _ => .inr ⟨_, hp, rfl⟩) (by simp [delivers])
  case h_2 => cases hstep

/-- A refusal in front of the submission ends the job. -/
lemma syncCheck_refusal {job : LeverageJob} {reads : SyncReads} {refusal : SyncRefusal}
    (h : syncCheck job reads = .error refusal) :
    refusal.state = .dead ∨ refusal.state = .skipped := by
  have hraises : Raises (fun r => r.state = .dead ∨ r.state = .skipped) (syncCheck job reads) := by
    unfold syncCheck
    refine .bind (.require (.inl rfl)) fun _ => .bind (.require (.inr rfl)) fun _ => ?_
    refine .bind (.require (.inr rfl)) fun _ => .bind (.mapError fun _ => .inl rfl) fun _ => ?_
    refine .bind (.require (.inr rfl)) fun _ => .bind (.require (.inr rfl)) fun _ => ?_
    refine .bind (.require (.inr rfl)) fun _ => .bind (.mapError fun _ => .inl rfl) fun _ => ?_
    exact .ok _
  exact hraises refusal h

/-- Where only `w` submits, its new phase is the only one with calls. -/
lemma sent_of_insert {tasks : Table SyncWorkerId SyncPhase} {w w' : SyncWorkerId} {p q : SyncPhase}
    {n : ℕ} (hp : (tasks.insert w q).lookup w' = some p) (hn : p.sent = some n)
    (hold : tasks.lookup w' = some p → w' = w) : w' = w ∧ q.sent = some n := by
  rw [Table.lookup_insert_eq] at hp
  by_cases hw : w' = w
  · rw [if_pos hw] at hp
    cases hp
    exact ⟨hw, hn⟩
  · rw [if_neg hw] at hp
    exact absurd (hold hp) hw

/-- `SUBMITTING` puts the job into the hands of the worker whose claim it is. -/
lemma SyncInv.startSubmission {seen : LeverageJob} {setting : LeverageSetting} (h : SyncInv s)
    (hstatus : s.job.submission = .queued) (hstate : s.job.state = .processing)
    (howner : s.job.owner = some w)
    (hseen : seen =
      { s.job with context := { s.job.context with submissionStatus := .submitting } }) :
    SyncInv ((s.withJob (s.job.flush seen s.job)).toPhase w (.submitting seen setting)) := by
  rw [LeverageJob.flush_self (by rw [hseen])]
  cases h.stage with
  | unsent _ hquiet hinvoked hrefused =>
      refine ⟨.inFlight w ?_ ?_ ?_ (fun p hp' => ?_) (fun w' p n hp' hn => ?_) ?_ hrefused, ?_, ?_⟩
      · simp [LeverageState.toPhase, LeverageState.withJob, hseen, LeverageJob.submission]
      · simpa [LeverageState.toPhase, LeverageState.withJob, hseen] using hstate
      · simpa [LeverageState.toPhase, LeverageState.withJob, hseen] using howner
      · obtain rfl : SyncPhase.submitting seen setting = p := by
          simpa [LeverageState.toPhase] using hp'
        rfl
      · obtain ⟨rfl, hsent⟩ := sent_of_insert hp' hn fun hold => absurd hn (by
          simp [(hquiet w' p hold).sent_eq_none])
        cases hsent
        exact ⟨rfl, hinvoked⟩
      · change s.invoked ≤ 1
        omega
      · intro w' p seen' hp' hseen'
        rcases Table.lookup_insert_cases hp' with ⟨-, rfl⟩ | hold
        · cases hseen'
        · exact h.deliveries w' p seen' hold hseen'
      · intro _
        exact hseen ▸ h.lease hstate
  | inFlight w₀ hsubmitting _ _ _ _ _ _ => simp [hsubmitting] at hstatus
  | concluded w₀ _ hsent _ _ _ => exact absurd hstatus hsent

lemma SyncInv.submit {reads : SyncReads} {now : ℕ} (h : SyncInv s)
    (hmeets : s.uncontested (.submit w reads now))
    (hstep : leverageStep c s (.submit w reads now) = some s') : SyncInv s' := by
  simp only [leverageStep] at hstep
  split at hstep
  case h_1 seen hp =>
    obtain rfl := Option.some.inj hstep
    simp only [LeverageState.uncontested, hp] at hmeets
    obtain ⟨rfl, hstate, howner⟩ := holdsClaim_eq_true hmeets
    have hstatus := h.queued_of_claim hp rfl hstate howner
    unfold submitStep
    cases hcheck : syncCheck s.job reads with
    | error refusal =>
        refine h.finishTask rfl rfl hstatus hstatus fun hprocessing => ?_
        have hrefusal : refusal.state = .processing := hprocessing
        rcases syncCheck_refusal hcheck with hover | hover <;> simp [hover] at hrefusal
    | ok setting =>
        exact h.startSubmission hstatus hstate howner rfl
  case h_2 => cases hstep

lemma SyncInv.call (h : SyncInv s) (hstep : leverageStep c s (.call w) = some s') : SyncInv s' := by
  simp only [leverageStep] at hstep
  split at hstep
  case h_1 copy setting hp =>
    obtain rfl := Option.some.inj hstep
    refine ⟨?_, fun w' p seen hp' hseen => ?_, h.lease⟩
    · cases h.stage with
      | unsent _ hquiet _ _ => exact absurd (hquiet w _ hp) id
      | inFlight w₀ hstatus hstate howner hclaims hsender hinvoked hrefused =>
          obtain ⟨rfl, hnone⟩ := hsender w _ 0 hp rfl
          refine .inFlight w hstatus hstate howner (fun p hp' => ?_) (fun w' p n hp' hn => ?_) ?_
            hrefused
          · obtain rfl : SyncPhase.calling copy setting = p := by
              simpa [LeverageState.toPhase] using hp'
            rfl
          · obtain ⟨rfl, hsent⟩ := sent_of_insert hp' hn fun hold => (hsender w' p n hold hn).1
            cases hsent
            exact ⟨rfl, congrArg (· + 1) hnone⟩
          · change s.invoked + 1 ≤ 1
            omega
      | concluded w₀ hover hstatus hsender hinvoked hended =>
          obtain ⟨rfl, hnone, hambiguous⟩ := hsender w _ 0 hp rfl
          refine .concluded w hover hstatus (fun w' p n hp' hn => ?_) ?_ fun _ => .inr hambiguous
          · obtain ⟨rfl, hsent⟩ := sent_of_insert hp' hn fun hold => (hsender w' p n hold hn).1
            cases hsent
            exact ⟨rfl, congrArg (· + 1) hnone, hambiguous⟩
          · change s.invoked + 1 ≤ 1
            omega
    · rcases Table.lookup_insert_cases hp' with ⟨-, rfl⟩ | hold
      · cases hseen
      · exact h.deliveries w' p seen hold hseen
  case h_2 => cases hstep

/-- What an answer leaves of the job it is written to. -/
lemma answered_spec (answer : SyncAnswer) (setting : LeverageSetting) (now : ℕ)
    (job : LeverageJob) :
    (answered answer setting now job).userId = job.userId ∧
      (answered answer setting now job).submission = job.submission ∧
      (answered answer setting now job).state.active = false ∧
      ((∃ error statusCode, answer = .refused error statusCode) ∨
        (answered answer setting now job).doneWithResponse ∨
        (answered answer setting now job).saysAmbiguous) := by
  cases answer with
  | response r => exact ⟨rfl, rfl, rfl, .inr (.inl ⟨rfl, r, setting, rfl⟩)⟩
  | refused error statusCode => exact ⟨rfl, rfl, rfl, .inl ⟨error, statusCode, rfl⟩⟩
  | cancelled => exact ⟨rfl, rfl, rfl, .inr (.inr ⟨rfl, .inr ⟨_, rfl, .inl rfl⟩⟩)⟩
  | failed error => exact ⟨rfl, rfl, rfl, .inr (.inr ⟨rfl, .inr ⟨_, rfl, .inr rfl⟩⟩)⟩

lemma assign_of_over {old new : JobState} (hold : old = .processing) (hnew : new.active = false) :
    ∃ state, old.assign new = some state := by
  subst hold
  cases new <;> simp_all [JobState.active, JobState.assign, JobState.transitions]

lemma quarantined_saysAmbiguous (now : ℕ) (job : LeverageJob) :
    (quarantined now job).saysAmbiguous :=
  ⟨rfl, .inl rfl⟩

lemma LeverageJob.state_of_leaseExpired {job : LeverageJob} {now : ℕ} (h : job.leaseExpired now) :
    job.state = .processing := by
  simp only [leaseExpired, Bool.and_eq_true, decide_eq_true_eq] at h
  exact h.1

/-- The worker in whose hands the job is writes how its call ended. -/
lemma SyncInv.finishCall {copy job : LeverageJob} {setting : LeverageSetting} {refused : ℕ}
    (h : SyncInv s) (hp : s.tasks.lookup w = some (.calling copy setting))
    (hstate : s.job.state = .processing) (hover : job.state.active = false)
    (hstatus : job.submission = s.job.submission)
    (hended : refused < 1 → job.doneWithResponse ∨ job.saysAmbiguous) :
    SyncInv { (s.withJob job).endTask w with refused := refused } := by
  refine ⟨?_, fun w' p seen hp' => h.deliveries w' p seen (Table.lookup_of_erase hp'), ?_⟩
  · cases h.stage with
    | unsent _ hquiet _ _ => exact absurd (hquiet w _ hp) id
    | inFlight w₀ hsubmitting _ _ _ hsender hinvoked _ =>
        obtain ⟨rfl, hone⟩ := hsender w _ 1 hp rfl
        refine .concluded w hover (fun hqueued => ?_) (fun w' p n hp' hn => ?_) hinvoked
          fun hsent => ?_
        · simp [hstatus.symm.trans hqueued] at hsubmitting
        · obtain rfl := (hsender w' p n (Table.lookup_of_erase hp') hn).1
          simp [LeverageState.endTask, LeverageState.withJob] at hp'
        · have hrefused : refused < s.invoked := hsent
          exact hended (hone ▸ hrefused)
    | concluded w₀ hdone _ _ _ _ => simp [hstate, JobState.active] at hdone
  · intro hprocessing
    have hprocessing' : job.state = .processing := hprocessing
    simp [hprocessing', JobState.active] at hover

lemma SyncInv.answer {answer : SyncAnswer} {authorized : Option LeverageSetting} {now : ℕ}
    (h : SyncInv s) (hmeets : s.uncontested (.answer w answer authorized now))
    (hstep : leverageStep c s (.answer w answer authorized now) = some s') : SyncInv s' := by
  simp only [leverageStep] at hstep
  split at hstep
  case h_1 copy setting hp =>
    obtain rfl := Option.some.inj hstep
    simp only [LeverageState.uncontested, hp] at hmeets
    obtain ⟨rfl, hstate, -⟩ := holdsClaim_eq_true hmeets
    obtain ⟨huser, hstatus, hover, hended⟩ :=
      answered_spec answer (authorized.getD setting) now s.job
    have hfinish : s.finishTask w s.job (answered answer (authorized.getD setting) now s.job) =
        (s.withJob (answered answer (authorized.getD setting) now s.job)).endTask w := by
      unfold LeverageState.finishTask
      obtain ⟨state, hassign⟩ := assign_of_over hstate hover
      rw [hassign, LeverageJob.flush_self huser]
    rw [hfinish]
    cases answer with
    | refused error statusCode =>
        exact h.finishCall hp hstate hover hstatus fun hnone => by omega
    | response _ | cancelled | failed _ =>
        refine h.finishCall hp hstate hover hstatus fun _ => hended.resolve_left ?_
        simp
  case h_2 => cases hstep

lemma SyncInv.quarantine {now : ℕ} (h : SyncInv s)
    (hstep : leverageStep c s (.quarantine now) = some s') : SyncInv s' := by
  obtain rfl := Option.some.inj hstep
  by_cases hexpired : s.job.leaseExpired now
  · rw [if_pos hexpired]
    have hambiguous := quarantined_saysAmbiguous now s.job
    refine ⟨?_, h.deliveries, fun hstate => by cases hstate⟩
    have hstatus : (quarantined now s.job).submission ≠ .queued := fun hstatus => by cases hstatus
    cases h.stage with
    | unsent _ hquiet hinvoked hrefused =>
        refine .concluded 0 rfl hstatus (fun w' p n hp hn => ?_) ?_ fun _ => .inr hambiguous
        · simp [(hquiet w' p hp).sent_eq_none] at hn
        · change s.invoked ≤ 1
          omega
    | inFlight w₀ _ _ _ _ hsender hinvoked _ =>
        refine .concluded w₀ rfl hstatus (fun w' p n hp hn => ?_) hinvoked fun _ => .inr hambiguous
        obtain ⟨hw, hn'⟩ := hsender w' p n hp hn
        exact ⟨hw, hn', hambiguous⟩
    | concluded w₀ hover _ _ _ _ =>
        simp [LeverageJob.state_of_leaseExpired hexpired, JobState.active] at hover
  · rw [if_neg hexpired]
    exact h

lemma SyncInv.release {now : ℕ} (h : SyncInv s) (hmeets : s.uncontested (.release now))
    (hstep : leverageStep c s (.release now) = some s') : SyncInv s' := by
  obtain rfl := Option.some.inj hstep
  by_cases hexpired : s.job.leaseExpired now
  · rw [if_pos hexpired]
    have hstatus : s.job.submission = .queued := by
      refine h.queued_of_active ?_ ?_
      · simp [LeverageJob.state_of_leaseExpired hexpired, JobState.active]
      · simpa [LeverageState.uncontested, hexpired] using hmeets
    refine h.withJob hstatus hstatus fun hstate => ?_
    by_cases hretries : s.job.attemptCount < c.maxJobRetries <;>
      simp [released, hretries] at hstate
  · rw [if_neg hexpired]
    exact h

/-- **One step keeps the stage.** -/
lemma SyncInv.step {a : SyncAction} (h : SyncInv s) (hmeets : s.uncontested a)
    (hstep : leverageStep c s a = some s') : SyncInv s' := by
  cases a with
  | load w => exact h.load hstep
  | prepare w => exact h.prepare hstep
  | withdraw w why => exact h.withdraw hmeets hstep
  | publish w => exact h.publish hmeets hstep
  | claim w now => exact h.claim hstep
  | refresh w => exact h.refresh hstep
  | submit w reads now => exact h.submit hmeets hstep
  | call w => exact h.call hstep
  | answer w answer authorized now => exact h.answer hmeets hstep
  | lost w =>
      obtain rfl := Option.some.inj hstep
      exact h.endTask w
  | quarantine now => exact h.quarantine hstep
  | release now => exact h.release hmeets hstep

/-! ## What the invariant says of the next step -/

lemma SyncInv.once (h : SyncInv s) : s.invoked ≤ 1 := by
  cases h.stage with
  | unsent _ _ hinvoked _ => omega
  | inFlight _ _ _ _ _ _ hinvoked _ => exact hinvoked
  | concluded _ _ _ _ hinvoked _ => exact hinvoked

lemma SyncInv.notAgain (h : SyncInv s) (hreached : s.mayHaveReached) (w : SyncWorkerId) :
    leverageStep c s (.call w) = none := by
  have hcalls : 0 < s.invoked := Nat.zero_lt_of_lt hreached
  simp only [leverageStep]
  split
  case h_1 copy setting hp =>
    have hzero : s.invoked = 0 := by
      cases h.stage with
      | unsent _ _ hinvoked _ => exact hinvoked
      | inFlight _ _ _ _ _ hsender _ _ => exact (hsender w _ 0 hp rfl).2
      | concluded _ _ _ hsender _ _ => exact (hsender w _ 0 hp rfl).2.1
    omega
  case h_2 => rfl

lemma SyncInv.ended (h : SyncInv s) (hreached : s.mayHaveReached)
    (hover : s.job.state.active = false) : s.job.doneWithResponse ∨ s.job.saysAmbiguous := by
  cases h.stage with
  | unsent _ _ hinvoked hrefused =>
      have hlt : s.refused < s.invoked := hreached
      omega
  | inFlight _ _ hstate _ _ _ _ _ => simp [hstate, JobState.active] at hover
  | concluded _ _ _ _ _ hended => exact hended hreached

lemma SyncInv.ends (h : SyncInv s) (hreached : s.mayHaveReached) (hactive : s.job.state.active) :
    s.job.state = .processing ∧
      ∃ lockedUntil, s.job.lockedUntil = some lockedUntil ∧ ∀ now, lockedUntil < now →
        ∃ s', leverageStep c s (.quarantine now) = some s' ∧ s'.job.saysAmbiguous := by
  have hstate : s.job.state = .processing := by
    cases h.stage with
    | unsent _ _ hinvoked hrefused =>
        have hlt : s.refused < s.invoked := hreached
        omega
    | inFlight _ _ hstate _ _ _ _ _ => exact hstate
    | concluded _ hover _ _ _ _ => simp [hover] at hactive
  obtain ⟨lockedUntil, hlease⟩ := h.lease hstate
  refine ⟨hstate, lockedUntil, hlease, fun now hnow => ?_⟩
  have hexpired : s.job.leaseExpired now := by
    simp [LeverageJob.leaseExpired, hstate, hlease, hnow]
  refine ⟨s.withJob (quarantined now s.job), ?_, quarantined_saysAmbiguous now s.job⟩
  simp only [leverageStep, if_pos hexpired]

/-- Nothing an uncontested step commits falls on a job that is over. -/
lemma SyncInv.final {a : SyncAction} (h : SyncInv s) (hover : s.job.state.active = false)
    (hmeets : s.uncontested a) (hstep : leverageStep c s a = some s') : s'.job = s.job := by
  have hnotExpired : ∀ now, ¬s.job.leaseExpired now := fun now hexpired => by
    simp [LeverageJob.state_of_leaseExpired hexpired, JobState.active] at hover
  have hclaim : ∀ w copy, ¬s.holdsClaim w copy := fun w copy hholds => by
    simp [(holdsClaim_eq_true hholds).2.1, JobState.active] at hover
  cases a with
  | load w =>
      simp only [leverageStep] at hstep
      split at hstep
      · cases hstep
      · obtain rfl := Option.some.inj hstep
        rw [if_neg (by simp [hover])]
  | prepare w | refresh w | call w =>
      simp only [leverageStep] at hstep
      split at hstep
      · obtain rfl := Option.some.inj hstep
        rfl
      · cases hstep
  | withdraw w why =>
      simp only [leverageStep] at hstep
      split at hstep
      case h_1 seen hp =>
        simp [h.active_of_delivered hp rfl (withdraw_meets hp rfl hmeets).1] at hover
      case h_2 seen hp =>
        simp [h.active_of_delivered hp rfl (withdraw_meets hp rfl hmeets).1] at hover
      case h_3 => cases hstep
  | publish w =>
      simp only [leverageStep] at hstep
      split at hstep
      case h_1 seen hp =>
        obtain rfl := Option.some.inj hstep
        rcases publish_meets hp rfl hmeets with hbound | ⟨hjob, -⟩
        · rw [finishTask_bound hbound]
          rfl
        · simp [h.active_of_delivered hp rfl hjob] at hover
      case h_2 => cases hstep
  | claim w now =>
      simp only [leverageStep] at hstep
      split at hstep
      case h_1 seen hp =>
        obtain rfl := Option.some.inj hstep
        rw [if_neg fun hdue => by simp [(LeverageJob.waiting_of_due hdue).1] at hover]
        rfl
      case h_2 => cases hstep
  | submit w reads now =>
      simp only [leverageStep] at hstep
      split at hstep
      case h_1 seen hp =>
        simp only [LeverageState.uncontested, hp] at hmeets
        exact absurd hmeets (hclaim w seen)
      case h_2 => cases hstep
  | answer w answer authorized now =>
      simp only [leverageStep] at hstep
      split at hstep
      case h_1 copy setting hp =>
        simp only [LeverageState.uncontested, hp] at hmeets
        exact absurd hmeets (hclaim w copy)
      case h_2 => cases hstep
  | lost w =>
      obtain rfl := Option.some.inj hstep
      rfl
  | quarantine now | release now =>
      obtain rfl := Option.some.inj hstep
      rw [if_neg (hnotExpired now)]

lemma SyncInv.oneShot (h : SyncInv s) : OneShot c s where
  once := h.once
  notAgain := h.notAgain
  ended := h.ended
  ends := h.ends
  final hover _ _ := h.final hover

end Steps

/-! ## Runs -/

/-- **One call for one command**, in every state of every run whose steps are uncontested. -/
theorem leverage_sync_one_shot (c : SyncSettings) {userId : UserId} {bound : Bool}
    {actions : List SyncAction} {s : LeverageState}
    (hmeets : RunMeets (leverageStep c) (fun s a => s.uncontested a = true)
      (.requested userId bound) actions)
    (hrun : run (leverageStep c) (.requested userId bound) actions = some s) : OneShot c s :=
  (run_invariant_of_meets (fun _ _ _ h hG hstep => h.step hG hstep)
    (syncInv_requested userId bound) hmeets hrun).oneShot

/-- A user on the expected network, with the expected account and credential. -/
def readySync : SyncReads where
  userExists := true
  matchesActiveDestination := true
  isHyperliquid := true
  request := .ok ⟨.mainnet, 1, 9, 5, true⟩
  currentNetwork := .mainnet
  account := some (1, 9)
  credential := some 1
  preparation := .ok ()

/-- Worker 1 is lost inside the call.  Worker 2 loaded the row before, and comes back behind the
quarantine. -/
def lostCallRun : List SyncAction :=
  [.load 1, .load 2, .prepare 1, .claim 1 10, .refresh 1, .submit 1 readySync 11, .call 1, .lost 1,
    .quarantine 131, .prepare 2, .claim 2 140]

theorem leverage_sync_one_shot_lostCallRun :
    ∃ s, run (leverageStep .default) (.requested 1 true) lostCallRun = some s ∧
      s.mayHaveReached ∧ s.job.state = .dead ∧ OneShot .default s := by
  have hmeets : RunMeets (leverageStep .default) (fun s a => s.uncontested a = true)
      (.requested 1 true) lostCallRun := by
    decide
  have hrun : (run (leverageStep .default) (.requested 1 true) lostCallRun).map
      (fun s => (s.refused, s.invoked, s.job.state)) = some (0, 1, .dead) := by
    decide
  obtain ⟨s, hs, hfacts⟩ := Option.map_eq_some_iff.1 hrun
  simp only [Prod.mk.injEq] at hfacts
  obtain ⟨hrefused, hinvoked, hstate⟩ := hfacts
  refine ⟨s, hs, ?_, hstate, leverage_sync_one_shot .default hmeets hs⟩
  simp [LeverageState.mayHaveReached, hrefused, hinvoked]

/-- Both workers load the row before the first claim; the lease of worker 1 runs out during its
call, `release_stale_jobs` comes before the quarantine, and worker 2 counts the first attempt. -/
def releasedCallRun : List SyncAction :=
  [.load 1, .load 2, .prepare 1, .prepare 2, .claim 1 10, .refresh 1, .submit 1 readySync 11,
    .call 1, .release 131, .claim 2 200, .refresh 2, .submit 2 readySync 201, .call 2]

/-- The quarantine takes the job of a worker that is slow, not lost. -/
def slowCallRun : List SyncAction :=
  [.load 1, .prepare 1, .claim 1 10, .refresh 1, .submit 1 readySync 11, .call 1, .quarantine 131]

/-- **A command that is submitted twice**, and one whose ambiguous end is overwritten. -/
theorem update_leverage_called_twice :
    (run (leverageStep .default) (.requested 1 true) releasedCallRun).map (·.invoked) = some 2 ∧
      (run (leverageStep .default) (.requested 1 true) slowCallRun).map
        (fun s => (s.job.state, s.job.submission)) = some (.dead, .unknownAfterWorkerLoss) ∧
      (run (leverageStep .default) (.requested 1 true)
        (slowCallRun ++ [.answer 1 (.response 7) none 140])).map
        (fun s => (s.job.state, s.job.submission)) = some (.done, .submitting) := by
  decide

end HyperCopy

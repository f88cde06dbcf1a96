import HyperCopy.Delivery.Discharge

/-!
# A waiting job gets its message

A message can be lost: the publisher stops before it, the stream is trimmed, or a worker stops with
it.  `repair_stream` publishes again what waits without a recent message, the oldest job first.  A
job that waits is therefore published again, or ended, as soon as the passes are enough for the
jobs that wait and are not newer (`stale_job_republished`).  The passes have to come within the time
a message stays recent, so that no job is published twice in between.
-/

namespace HyperCopy

open Transition DeliveryState

namespace DeliveryState

variable {names : JobText} {s₀ s s' s'' : DeliveryState} {jobId k : JobId} {job : QueuedJob}
  {reads : PassReads} {pass : ℕ × PassReads} {passes : List (ℕ × PassReads)}

/-- The job has ended, or has an entry in the stream that is newer than `s`. -/
def Sent (names : JobText) (s s' : DeliveryState) (jobId : JobId) : Prop :=
  ∃ job, s'.jobs.lookup jobId = some job ∧ (job.state = .skipped ∨
    names.text jobId ∈ s'.markers.stream.drop s.markers.stream.length ∧
      (job.state.waiting = true → job.enqueuedAt = some s.clock))

lemma Sent.of_stamped (hstamped : Stamped names s s') (h : Sent names s' s'' k) :
    Sent names s s'' k := by
  obtain ⟨job, hjob, hskipped | ⟨hentry, henqueued⟩⟩ := h
  · exact ⟨job, hjob, Or.inl hskipped⟩
  · refine ⟨job, hjob, Or.inr ⟨mem_drop_of_le hstamped.stream.length_le hentry, ?_⟩⟩
    rwa [hstamped.clock] at henqueued

lemma Sent.stamped (h : Sent names s s' k) (hclock : s'.clock = s.clock)
    (hstamped : Stamped names s' s'') : Sent names s s'' k := by
  obtain ⟨job, hjob, hsent⟩ := h
  obtain heq | ⟨old, job', hold, hjob', hwritten⟩ := hstamped.rows k
  · refine ⟨job, heq ▸ hjob, hsent.imp_right fun h => ?_⟩
    exact ⟨mem_drop_of_extends hstamped.stream h.1, h.2⟩
  · obtain rfl : job = old := Option.some.inj (hjob.symm.trans hold)
    refine ⟨job', hjob', ?_⟩
    obtain hskipped | ⟨hentry, -⟩ := hsent
    · left
      obtain hstate | hstate := hwritten.state
      · rw [hstate, hskipped]
      · exact hstate
    · right
      refine ⟨mem_drop_of_extends hstamped.stream hentry, fun hwaiting => ?_⟩
      rw [← hclock]
      exact (hwritten.published hwaiting).1

/-! ## What the loop does for a row -/

lemma sent_skip (hjob : s.jobs.lookup k = some job) : Sent names s (s.setJob k .skip) k :=
  ⟨_, by rw [lookup_setJob, if_pos rfl, hjob]; rfl, Or.inl rfl⟩

/-- A row is still there after a pass has written it. -/
lemma Stamped.exists_row (h : Stamped names s s') (hjob : s.jobs.lookup k = some job) :
    ∃ job', s'.jobs.lookup k = some job' := by
  obtain heq | ⟨old, job', -, hjob', -⟩ := h.rows k
  · exact ⟨job, heq ▸ hjob⟩
  · exact ⟨job', hjob'⟩

/-- The write behind a script that has appended the job. -/
lemma sent_setJob {markers : MarkerState} {f : QueuedJob → QueuedJob}
    (hjob : s.jobs.lookup k = some job) (hf : ∀ job, (f job).enqueuedAt = some s.clock)
    (hentry : names.text k ∈ markers.stream.drop s.markers.stream.length) :
    Sent names s ({ s with markers }.setJob k f) k := by
  refine ⟨{ f job with updatedAt := s.clock }, ?_, Or.inr ⟨hentry, fun _ => hf job⟩⟩
  rw [lookup_setJob, if_pos rfl]
  show Option.map _ (s.jobs.lookup k) = _
  rw [hjob]
  rfl

lemma sent_enqueued (hjob : s.jobs.lookup k = some job) :
    Sent names s ((s.append (names.text k)).enqueued k) k :=
  sent_setJob hjob (fun _ => rfl) (mem_drop_append_singleton _ _)

lemma sent_publishJob {job' : QueuedJob} (hjob : s.jobs.lookup k = some job) (pub : PublishReads) :
    Sent names s (s.publishJob names k job' pub) k := by
  unfold publishJob
  split_ifs
  · exact sent_skip hjob
  · have hprepared : Stamped names s (s.prepareDelivery k job' pub).1 := stamped_prepareDelivery pub
    obtain ⟨job₁, hjob₁⟩ := hprepared.exists_row hjob
    obtain heq | heq := prepareDelivery_cases s k job' pub <;> rw [heq] at hprepared hjob₁ ⊢
    · exact sent_skip hjob
    · exact (sent_enqueued hjob₁).of_stamped hprepared

lemma sent_publishRepairJob {job' : QueuedJob} {order : ℤ} (hs : s.markers.Ok) (horder : 0 < order)
    (hjob : s.jobs.lookup k = some job) :
    Sent names s (s.publishRepairJob names k job' order reads) k := by
  unfold publishRepairJob
  split_ifs
  · exact sent_skip hjob
  · rw [publishMasterLeverageRepair_eq_ok horder]
    have haccounted := hs.accounted.withStream (s.markers.stream ++ [names.text k])
    refine sent_setJob hjob (fun _ => rfl) ?_
    rw [repairMarker_stream haccounted]
    exact mem_drop_append_singleton _ _

/-- One row of the loop. -/
lemma sent_repairJob (hs : s.markers.Ok) (hjob : s.jobs.lookup k = some job) :
    Sent names s (s.repairJob names k reads) k := by
  unfold repairJob
  rw [hjob]
  have hprepared : Stamped names s (s.prepareDelivery k job (reads.job k)).1 :=
    stamped_prepareDelivery (reads.job k)
  have hkept : Keeps names s (s.prepareDelivery k job (reads.job k)).1 :=
    keeps_prepareDelivery hs (reads.job k)
  obtain ⟨job₁, hjob₁⟩ := hprepared.exists_row hjob
  dsimp only
  obtain heq | heq := prepareDelivery_cases s k job (reads.job k) <;>
    rw [heq] at hprepared hkept hjob₁ ⊢
  · exact sent_skip hjob
  · dsimp only
    cases hevidence : job.evidence with
    | none => exact (sent_publishJob hjob₁ _).of_stamped hprepared
    | some order =>
      exact (sent_publishRepairJob hkept.markers (evidence_pos hevidence).2 hjob₁).of_stamped
        hprepared

/-- The loop publishes or ends each of its rows. -/
lemma sent_publishStaleRows (hs : s.markers.Ok) (hmem : k ∈ s.staleRows reads) :
    Sent names s (publishStaleRows names s reads) k := by
  obtain ⟨job, hjob, -⟩ := mem_select.1 (Backlog.mem_of_mem_oldest hmem)
  unfold publishStaleRows
  obtain ⟨earlier, later, heq⟩ := List.append_of_mem hmem
  rw [heq, List.foldl_append, List.foldl_cons]
  set mid := earlier.foldl (fun s jobId => s.repairJob names jobId reads) s
  have hmid : Keeps names s mid := keeps_foldl (fun _ _ _ hs => keeps_repairJob hs) hs
  have hstamped : Stamped names s mid := stamped_foldl_repairJob hs
  obtain ⟨job', hjob'⟩ := hstamped.exists_row hjob
  have hsent : Sent names mid (mid.repairJob names k reads) k := sent_repairJob hmid.markers hjob'
  have hturn : Stamped names mid (mid.repairJob names k reads) := stamped_repairJob hmid.markers
  have hkept : Keeps names mid (mid.repairJob names k reads) := keeps_repairJob hmid.markers
  exact (hsent.stamped hturn.clock (stamped_foldl_repairJob hkept.markers)).of_stamped hstamped

/-! ## How many passes it takes -/

/-- The job has ended, or has a later entry in the stream. -/
def Resent (names : JobText) (s₀ s : DeliveryState) (jobId : JobId) : Prop :=
  ∃ job, s.jobs.lookup jobId = some job ∧ (job.state = .skipped ∨
    names.text jobId ∈ s.markers.stream.drop s₀.markers.stream.length)

/-- The jobs that wait without a message of this moment and are not newer than `jobId`. -/
def unsentBefore (s : DeliveryState) (jobId : JobId) : List JobId :=
  s.select fun k job => job.state.waiting && job.enqueuedAt.all (· < s.clock) &&
    decide (s.createdAt k ≤ s.createdAt jobId)

/-- Those of them that no pass has come to yet. -/
def unsent (s₀ s : DeliveryState) (jobId : JobId) : Finset JobId :=
  (s₀.unsentBefore jobId).toFinset.filter fun k => s.jobs.lookup k = s₀.jobs.lookup k

/-- A row is the one of the start, or if it waits it has a message since. -/
structure Recent (s₀ s : DeliveryState) : Prop where
  clock : s₀.clock ≤ s.clock
  stream : s₀.markers.stream <+: s.markers.stream
  rows : ∀ k job, s.jobs.lookup k = some job → s₀.jobs.lookup k = some job ∨
    (job.state.waiting = true → ∃ sent, job.enqueuedAt = some sent ∧ s₀.clock ≤ sent)

/-- The state in which a pass looks for the jobs to publish. -/
def replayedAt (s : DeliveryState) (pass : ℕ × PassReads) : DeliveryState :=
  (s.expiredAt pass).replayCompletedRepairs pass.2

lemma markersOk_replayedAt (names : JobText) (hs : s.markers.Ok) :
    (s.replayedAt pass).markers.Ok := by
  have hkept : Keeps names (s.expiredAt pass) (s.replayedAt pass) :=
    keeps_replayCompletedRepairs (markersOk_expiredAt names hs)
  exact hkept.markers

lemma stamped_replayedAt (hs : s.markers.Ok) :
    Stamped names { s with clock := max s.clock pass.1 } (s.replayedAt pass) :=
  stamped_expireStaleStrategyJobs.trans
    (stamped_replayCompletedRepairs (markersOk_expiredAt names hs))

lemma stamped_publishedAt (hs : s.markers.Ok) :
    Stamped names (s.replayedAt pass) (s.passAt names pass) := by
  rw [passAt_eq]
  exact stamped_foldl_repairJob (markersOk_replayedAt names hs)

lemma stamped_passAt (hs : s.markers.Ok) :
    Stamped names { s with clock := max s.clock pass.1 } (s.passAt names pass) :=
  stamped_repairStream hs

lemma Recent.passAt (h : Recent s₀ s) (hs : s.markers.Ok) : Recent s₀ (s.passAt names pass) := by
  have hstamped : Stamped names { s with clock := max s.clock pass.1 } (s.passAt names pass) :=
    stamped_passAt hs
  have hclock : s₀.clock ≤ max s.clock pass.1 := h.clock.trans (le_max_left _ _)
  refine ⟨by rw [hstamped.clock]; exact hclock, h.stream.trans hstamped.stream, fun k job hjob => ?_⟩
  obtain heq | ⟨old, job', -, hjob', hwritten⟩ := hstamped.rows k
  · rw [heq] at hjob
    exact h.rows k job hjob
  · obtain rfl : job = job' := Option.some.inj (hjob.symm.trans hjob')
    exact Or.inr fun hwaiting => ⟨_, (hwritten.published hwaiting).1, hclock⟩

lemma Resent.stamped (h : Resent names s₀ s k) (hstamped : Stamped names s s') :
    Resent names s₀ s' k := by
  obtain ⟨job, hjob, hsent⟩ := h
  obtain heq | ⟨old, job', hold, hjob', hwritten⟩ := hstamped.rows k
  · exact ⟨job, heq ▸ hjob, hsent.imp_right (mem_drop_of_extends hstamped.stream)⟩
  · obtain rfl : job = old := Option.some.inj (hjob.symm.trans hold)
    refine ⟨job', hjob', ?_⟩
    obtain hskipped | hentry := hsent
    · exact Or.inl (hwritten.state.elim (fun h => h.trans hskipped) id)
    · exact Or.inr (mem_drop_of_extends hstamped.stream hentry)

lemma Resent.passAt (h : Resent names s₀ s k) (hs : s.markers.Ok) :
    Resent names s₀ (s.passAt names pass) k := by
  have hticked : Resent names s₀ { s with clock := max s.clock pass.1 } k := h
  exact hticked.stamped (stamped_passAt hs)

lemma Resent.foldl (h : Resent names s₀ s k) (hs : s.markers.Ok) :
    Resent names s₀ (passes.foldl (DeliveryState.passAt names) s) k := by
  induction passes generalizing s with
  | nil => exact h
  | cons pass passes ih => exact ih (h.passAt hs) (keeps_passAt hs).markers

/-- A waiting row that a stretch of a pass has written is resent. -/
lemma Written.resent {old : QueuedJob} (hstream : s₀.markers.stream <+: s.markers.stream)
    (hjob : s'.jobs.lookup k = some job) (hwritten : Written names s s' k old job)
    (hwaits : old.state.waiting = true) : Resent names s₀ s' k := by
  refine ⟨job, hjob, ?_⟩
  obtain hstate | hskipped := hwritten.state
  · right
    rw [← hstate] at hwaits
    exact mem_drop_of_le hstream.length_le (hwritten.published hwaits).2
  · exact Or.inl hskipped

/-- The row of a job that a pass publishes. -/
lemma mem_staleRows (h : k ∈ s.staleRows reads) : ∃ job, s.jobs.lookup k = some job ∧
    job.claimable s.clock = true ∧ s.staleEnqueue job = true := by
  obtain ⟨job, hjob, hp⟩ := mem_select.1 (Backlog.mem_of_mem_oldest h)
  simp only [Bool.and_eq_true] at hp
  exact ⟨job, hjob, hp.1.1, hp.1.2⟩

lemma createdAt_eq (hjob : s.jobs.lookup k = some job) : s.createdAt k = job.createdAt := by
  unfold createdAt
  rw [hjob]
  rfl

lemma claimable_mono {now now' : ℕ} (h : now ≤ now') (hclaimable : job.claimable now = true) :
    job.claimable now' = true := by
  simp only [QueuedJob.claimable, QueuedJob.due, Bool.and_eq_true] at hclaimable ⊢
  refine ⟨hclaimable.1, ?_⟩
  cases hnext : job.nextAttemptAt with
  | none => rfl
  | some next =>
      have hdue := hclaimable.2
      simp only [hnext, Option.all_some, decide_eq_true_eq] at hdue ⊢
      exact hdue.trans h

lemma staleEnqueue_mono (h : s.clock ≤ s'.clock) (hstale : s.staleEnqueue job = true) :
    s'.staleEnqueue job = true := by
  unfold staleEnqueue at hstale ⊢
  cases hsent : job.enqueuedAt with
  | none => rfl
  | some sent =>
      simp only [hsent, Option.all_some, decide_eq_true_eq] at hstale ⊢
      exact hstale.trans h

/-- A job with a message that is recent is not published. -/
lemma not_staleEnqueue {sent : ℕ} (h : job.enqueuedAt = some sent)
    (hrecent : s.clock < sent + max jobLeaseSeconds 30) : s.staleEnqueue job = false := by
  simp only [staleEnqueue, h, Option.all_some, decide_eq_false_iff_not]
  omega

section Counting

variable (names) (hs : s.markers.Ok) (hrecent : Recent s₀ s)
  (hwindow : max s.clock pass.1 < s₀.clock + max jobLeaseSeconds 30)

include names hs hrecent hwindow

/-- What a pass publishes has waited since the start. -/
lemma staleRow_of_recent (hk : k ∈ (s.replayedAt pass).staleRows pass.2) : ∃ job,
    (s.replayedAt pass).jobs.lookup k = some job ∧ s.jobs.lookup k = some job ∧
      s₀.jobs.lookup k = some job ∧ job.state.waiting = true ∧
      job.enqueuedAt.all (· < s₀.clock) = true := by
  obtain ⟨job, hrow, hclaimable, hstale⟩ := mem_staleRows hk
  have hwaiting : job.state.waiting = true := by
    simp only [QueuedJob.claimable, Bool.and_eq_true] at hclaimable
    exact hclaimable.1
  have hstamped : Stamped names { s with clock := max s.clock pass.1 } (s.replayedAt pass) :=
    stamped_replayedAt hs
  have hclock : (s.replayedAt pass).clock = max s.clock pass.1 := hstamped.clock
  have hlease : 0 < max jobLeaseSeconds 30 := by decide
  have hnone : ∀ sent, job.enqueuedAt = some sent → sent < s₀.clock := by
    intro sent hsent
    by_contra hle
    rw [not_staleEnqueue hsent (by rw [hclock]; omega)] at hstale
    cases hstale
  have hsame : s.jobs.lookup k = some job := by
    obtain heq | ⟨old, job', -, hjob', hwritten⟩ := hstamped.rows k
    · exact heq.symm.trans hrow
    · obtain rfl : job = job' := Option.some.inj (hrow.symm.trans hjob')
      have hsent := hnone _ (hwritten.published hwaiting).1
      have hstart := hrecent.clock
      have hle := le_max_left s.clock pass.1
      dsimp only at hsent
      omega
  have hstart : s₀.jobs.lookup k = some job := by
    refine (hrecent.rows k job hsame).resolve_right fun h => ?_
    obtain ⟨sent, hsent, hle⟩ := h hwaiting
    have hlt := hnone sent hsent
    omega
  refine ⟨job, hrow, hsame, hstart, hwaiting, ?_⟩
  cases hsent : job.enqueuedAt with
  | none => rfl
  | some sent => simpa using hnone sent hsent

/-- A pass that does not come to a job has published as many older ones as it can. -/
lemma card_unsent_passAt (hjob₀ : s₀.jobs.lookup jobId = some job)
    (hrow : (s.replayedAt pass).jobs.lookup jobId = some job)
    (hclaimable : job.claimable s₀.clock = true) (hstale : s₀.staleEnqueue job = true)
    (hfree : ∀ k, pass.2.locked k = false)
    (hleft : jobId ∉ (s.replayedAt pass).staleRows pass.2) :
    (unsent s₀ (s.passAt names pass) jobId).card + passLimit ≤ (unsent s₀ s jobId).card := by
  have hstamped : Stamped names { s with clock := max s.clock pass.1 } (s.passAt names pass) :=
    stamped_passAt hs
  have hmid : Stamped names { s with clock := max s.clock pass.1 } (s.replayedAt pass) :=
    stamped_replayedAt hs
  have hstart : s₀.clock ≤ (s.replayedAt pass).clock := by
    rw [hmid.clock]
    exact hrecent.clock.trans (le_max_left _ _)
  have hwaits : jobId ∈ (s.replayedAt pass).select fun k job =>
      job.claimable (s.replayedAt pass).clock && (s.replayedAt pass).staleEnqueue job &&
        !pass.2.locked k := by
    refine mem_select.2 ⟨job, hrow, ?_⟩
    rw [hfree, claimable_mono hstart hclaimable, staleEnqueue_mono hstart hstale]
    rfl
  have hfull : ((s.replayedAt pass).staleRows pass.2).length = passLimit :=
    Backlog.length_oldest_of_not_mem hwaits hleft
  have hnodup : ((s.replayedAt pass).staleRows pass.2).Nodup := Backlog.nodup_oldest nodup_select
  have hsub : ((s.replayedAt pass).staleRows pass.2).toFinset ⊆ unsent s₀ s jobId := by
    intro k hk
    have hk' := List.mem_toFinset.1 hk
    obtain ⟨job', hrow', hsame, hold, hwaiting, hsent⟩ :=
      staleRow_of_recent names hs hrecent hwindow hk'
    have hage : (s.replayedAt pass).createdAt k ≤ (s.replayedAt pass).createdAt jobId :=
      Backlog.le_of_not_mem_oldest hwaits hleft hk'
    rw [createdAt_eq hrow', createdAt_eq hrow, ← createdAt_eq hold, ← createdAt_eq hjob₀] at hage
    refine Finset.mem_filter.2 ⟨List.mem_toFinset.2 (mem_select.2 ⟨job', hold, ?_⟩), ?_⟩
    · rw [hwaiting, hsent, decide_eq_true hage]
      rfl
    · rw [hsame, hold]
  have hafter : unsent s₀ (s.passAt names pass) jobId ⊆
      unsent s₀ s jobId \ ((s.replayedAt pass).staleRows pass.2).toFinset := by
    intro k hk
    obtain ⟨hmem, hrow'⟩ := Finset.mem_filter.1 hk
    obtain ⟨job', hold, hp⟩ := mem_select.1 (List.mem_toFinset.1 hmem)
    simp only [Bool.and_eq_true] at hp
    have hunsent : ∀ sent, job'.enqueuedAt = some sent → sent < s₀.clock := by
      intro sent hsent
      have hall := hp.1.2
      rw [hsent] at hall
      simpa using hall
    rw [hold] at hrow'
    have hsame : s.jobs.lookup k = some job' := by
      obtain heq | ⟨old, job'', -, hjob'', hwritten⟩ := hstamped.rows k
      · exact heq.symm.trans hrow'
      · obtain rfl : job' = job'' := Option.some.inj (hrow'.symm.trans hjob'')
        have hlt := hunsent _ (hwritten.published hp.1.1).1
        have hle := hrecent.clock.trans (le_max_left s.clock pass.1)
        dsimp only at hlt
        omega
    refine Finset.mem_sdiff.2 ⟨Finset.mem_filter.2 ⟨hmem, by rw [hsame, hold]⟩, fun hserved => ?_⟩
    have hsent : Sent names (s.replayedAt pass) (s.passAt names pass) k := by
      rw [passAt_eq]
      exact sent_publishStaleRows (markersOk_replayedAt names hs) (List.mem_toFinset.1 hserved)
    obtain ⟨job'', hjob'', hend⟩ := hsent
    obtain rfl : job' = job'' := Option.some.inj (hrow'.symm.trans hjob'')
    obtain hskipped | ⟨-, henqueued⟩ := hend
    · rw [hskipped] at hp
      cases hp.1.1
    · have hlt := hunsent _ (henqueued hp.1.1)
      omega
  have hcard : ((s.replayedAt pass).staleRows pass.2).toFinset.card = passLimit := by
    rw [List.toFinset_card_of_nodup hnodup, hfull]
  calc (unsent s₀ (s.passAt names pass) jobId).card + passLimit
      ≤ (unsent s₀ s jobId \ ((s.replayedAt pass).staleRows pass.2).toFinset).card +
          ((s.replayedAt pass).staleRows pass.2).toFinset.card := by
        rw [hcard]
        exact Nat.add_le_add_right (Finset.card_le_card hafter) _
    _ = (unsent s₀ s jobId).card := Finset.card_sdiff_add_card_eq_card hsub

/-- A pass comes to a job that waits, or it has to do with as many older ones. -/
lemma resent_or_unsent (hjob₀ : s₀.jobs.lookup jobId = some job)
    (hjob : s.jobs.lookup jobId = some job)
    (hclaimable : job.claimable s₀.clock = true) (hstale : s₀.staleEnqueue job = true)
    (hfree : ∀ k, pass.2.locked k = false) :
    Resent names s₀ (s.passAt names pass) jobId ∨
      (s.passAt names pass).jobs.lookup jobId = some job ∧
        (unsent s₀ (s.passAt names pass) jobId).card + passLimit ≤ (unsent s₀ s jobId).card := by
  have hwaiting : job.state.waiting = true := by
    simp only [QueuedJob.claimable, Bool.and_eq_true] at hclaimable
    exact hclaimable.1
  have hmid : Stamped names { s with clock := max s.clock pass.1 } (s.replayedAt pass) :=
    stamped_replayedAt hs
  have hrest : Stamped names (s.replayedAt pass) (s.passAt names pass) := stamped_publishedAt hs
  obtain heq | ⟨old, job', hold, hjob', hwritten⟩ := hmid.rows jobId
  · have hrow : (s.replayedAt pass).jobs.lookup jobId = some job := heq.trans hjob
    by_cases hmem : jobId ∈ (s.replayedAt pass).staleRows pass.2
    · left
      have hsent : Sent names (s.replayedAt pass) (s.passAt names pass) jobId := by
        rw [passAt_eq]
        exact sent_publishStaleRows (markersOk_replayedAt names hs) hmem
      obtain ⟨job', hjob', hend⟩ := hsent
      refine ⟨job', hjob', hend.imp_right fun h => ?_⟩
      exact mem_drop_of_le (hrecent.stream.trans hmid.stream).length_le h.1
    · obtain heq' | ⟨old, job', hold, hjob', hwritten⟩ := hrest.rows jobId
      · exact Or.inr ⟨heq'.trans hrow, card_unsent_passAt names hs hrecent hwindow hjob₀ hrow
          hclaimable hstale hfree hmem⟩
      · obtain rfl : job = old := Option.some.inj (hrow.symm.trans hold)
        exact Or.inl (hwritten.resent (hrecent.stream.trans hmid.stream) hjob' hwaiting)
  · left
    obtain rfl : job = old := Option.some.inj (hjob.symm.trans hold)
    have hstream : s₀.markers.stream <+:
        ({ s with clock := max s.clock pass.1 } : DeliveryState).markers.stream := hrecent.stream
    exact (hwritten.resent hstream hjob' hwaiting).stamped hrest

end Counting

/-- A job that waits is resent by the passes, or there are as many older ones. -/
lemma resent_passes (hs : s.markers.Ok) (hrecent : Recent s₀ s)
    (hclock : s.clock < s₀.clock + max jobLeaseSeconds 30)
    (hjob₀ : s₀.jobs.lookup jobId = some job) (hjob : s.jobs.lookup jobId = some job)
    (hclaimable : job.claimable s₀.clock = true) (hstale : s₀.staleEnqueue job = true)
    (hwindow : ∀ pass ∈ passes, pass.1 < s₀.clock + max jobLeaseSeconds 30)
    (hfree : ∀ pass ∈ passes, ∀ k, pass.2.locked k = false)
    (henough : (unsent s₀ s jobId).card ≤ passLimit * passes.length) :
    Resent names s₀ (passes.foldl (DeliveryState.passAt names) s) jobId := by
  induction passes generalizing s with
  | nil =>
      -- the job itself is among those that no pass has come to
      have hwaiting := hclaimable
      simp only [QueuedJob.claimable, Bool.and_eq_true] at hwaiting
      have hsent : job.enqueuedAt.all (· < s₀.clock) = true := by
        cases hsent : job.enqueuedAt with
        | none => rfl
        | some sent =>
            have hlease : 0 < max jobLeaseSeconds 30 := by decide
            simp only [staleEnqueue, hsent, Option.all_some, decide_eq_true_eq] at hstale
            simp only [Option.all_some, decide_eq_true_eq]
            omega
      have hmem : jobId ∈ unsent s₀ s jobId := by
        refine Finset.mem_filter.2 ⟨List.mem_toFinset.2 (mem_select.2 ⟨job, hjob₀, ?_⟩), ?_⟩
        · rw [hwaiting.1, hsent, decide_eq_true le_rfl]
          rfl
        · rw [hjob, hjob₀]
      have hpos := Finset.card_pos.2 ⟨jobId, hmem⟩
      simp only [List.length_nil] at henough
      omega
  | cons pass passes ih =>
      have hkept : Keeps names s (s.passAt names pass) := keeps_passAt hs
      have hpass : max s.clock pass.1 < s₀.clock + max jobLeaseSeconds 30 :=
        max_lt hclock (hwindow pass List.mem_cons_self)
      rw [List.foldl_cons]
      obtain hresent | ⟨hrow, hcard⟩ := resent_or_unsent names hs hrecent hpass hjob₀ hjob hclaimable
        hstale (hfree pass List.mem_cons_self)
      · exact hresent.foldl hkept.markers
      · rw [List.length_cons, Nat.mul_succ] at henough
        refine ih hkept.markers (hrecent.passAt hs) ?_ hrow
          (fun pass' hpass' => hwindow pass' (List.mem_cons_of_mem _ hpass'))
          (fun pass' hpass' => hfree pass' (List.mem_cons_of_mem _ hpass')) (by omega)
        have hstamped : Stamped names { s with clock := max s.clock pass.1 } (s.passAt names pass) :=
          stamped_passAt hs
        rw [hstamped.clock]
        exact hpass

end DeliveryState

/-- **A waiting job gets its message.**  From every state of a run, a job that could be claimed and
has no recent message is published again or ended by the passes of `repair_stream` that follow
within the time a message stays recent, whatever they read while nobody else locks a row, as soon
as they are enough for the jobs that wait without a message of this moment and are not newer. -/
theorem stale_job_republished (names : JobText) (ops : List DeliveryOp) (s : DeliveryState)
    (hrun : run (deliveryStep names) .initial ops = some s) (jobId : JobId) (job : QueuedJob)
    (hjob : s.jobs.lookup jobId = some job) (hclaimable : job.claimable s.clock = true)
    (hstale : s.staleEnqueue job = true) (passes : List (ℕ × PassReads))
    (hwindow : ∀ pass ∈ passes, pass.1 < s.clock + max jobLeaseSeconds 30)
    (hfree : ∀ pass ∈ passes, ∀ k, pass.2.locked k = false)
    (henough : (s.unsentBefore jobId).length ≤ passLimit * passes.length) :
    ∃ job', (passes.foldl (passAt names) s).jobs.lookup jobId = some job' ∧
      (job'.state = .skipped ∨ names.text jobId ∈
        (passes.foldl (passAt names) s).markers.stream.drop s.markers.stream.length) := by
  have hinv : Invariant names s := invariant_of_run hrun
  have hrecent : Recent s s := ⟨le_rfl, List.prefix_rfl, fun _ _ h => Or.inl h⟩
  have hlease : 0 < max jobLeaseSeconds 30 := by decide
  have hcard : (unsent s s jobId).card ≤ passLimit * passes.length :=
    (Finset.card_filter_le _ _).trans ((List.toFinset_card_le _).trans henough)
  exact resent_passes hinv.markers hrecent (by omega) hjob hjob hclaimable hstale hwindow hfree hcard

/-- The row of a new job. -/
def newRow : QueuedJob := { closingRepair with context := closedPosition }

theorem stale_job_republished_sample : ∃ s,
    run (deliveryStep unaryText) .initial [.create 0 closingRepair] = some s ∧
      ∃ job', ([(60, quietReads)].foldl (passAt unaryText) s).jobs.lookup 0 = some job' ∧
        (job'.state = .skipped ∨ unaryText.text 0 ∈
          ([(60, quietReads)].foldl (passAt unaryText) s).markers.stream.drop
            s.markers.stream.length) := by
  have hend : (run (deliveryStep unaryText) .initial [.create 0 closingRepair]).any (fun s =>
      decide (s.jobs.lookup 0 = some newRow) && decide (s.clock = 0) && s.staleEnqueue newRow &&
        decide ((s.unsentBefore 0).length ≤ 500)) = true := by
    decide +kernel
  obtain ⟨s, hrun, hs⟩ := (Option.any_eq_true _ _).1 hend
  simp only [Bool.and_eq_true, decide_eq_true_eq] at hs
  refine ⟨s, hrun, stale_job_republished unaryText [.create 0 closingRepair] s hrun 0 newRow
    hs.1.1.1 ?_ hs.1.2 [(60, quietReads)] ?_ ?_ hs.2⟩
  · rw [hs.1.1.2]
    decide +kernel
  · intro pass hpass
    obtain rfl : pass = (60, quietReads) := by simpa using hpass
    rw [hs.1.1.2]
    decide
  · intro pass hpass k
    obtain rfl : pass = (60, quietReads) := by simpa using hpass
    rfl

end HyperCopy

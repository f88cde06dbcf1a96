import HyperCopy.Delivery.System

/-!
# What delivery keeps

Three things hold in every state.  A job that is being processed has a lease that ends
(`QueuedJob.Leased`).  Every entry of the stream is a job whose repair, if it is one, is recorded.
And a repair that a worker holds or has ever claimed is recorded, or its row still says that the
account is owed (`DeliveryState.Accounted`): also a session that writes an old copy of the context
over a newer one cannot lose the obligation, because what it holds was accounted for when it was
read.

`Keeps` is what every transaction does to the rows, the watermarks and the stream; the rest is what
the workers hold.
-/

namespace HyperCopy

open Transition

namespace QueuedJob

/-- What nobody changes in a row. -/
structure SameJob (job job' : QueuedJob) : Prop where
  userId : job'.userId = job.userId
  asset : job'.asset = job.asset
  origin : job'.origin = job.origin
  createdAt : job'.createdAt = job.createdAt
  keys : job.context.SameKeys job'.context

/-- An account that is owed has its evidence. -/
def Evident (job : QueuedJob) : Prop := job.context.pending = true → job.evidence.isSome = true

/-- A job in processing has a lease. -/
structure Sound (job : QueuedJob) : Prop where
  leased : job.state = .processing → job.lockedUntil.isSome = true
  evident : job.Evident

variable {job job' job'' : QueuedJob}

lemma SameJob.refl (job : QueuedJob) : job.SameJob job := ⟨rfl, rfl, rfl, rfl, .refl _⟩

lemma SameJob.symm (h : job.SameJob job') : job'.SameJob job :=
  ⟨h.1.symm, h.2.symm, h.3.symm, h.4.symm, h.5.symm⟩

lemma SameJob.trans (h : job.SameJob job') (h' : job'.SameJob job'') : job.SameJob job'' :=
  ⟨h'.1.trans h.1, h'.2.trans h.2, h'.3.trans h.3, h'.4.trans h.4, h.5.trans h'.5⟩

lemma SameJob.evidence (h : job.SameJob job') : job'.evidence = job.evidence := by
  unfold QueuedJob.evidence
  rw [h.origin, h.keys.evidence]

/-- A row that leaves processing, with its context as it was. -/
lemma Sound.of_ne (h : job.Sound) (hstate : job'.state ≠ .processing)
    (horigin : job'.origin = job.origin) (hcontext : job'.context = job.context) : job'.Sound := by
  refine ⟨fun hprocessing => absurd hprocessing hstate, ?_⟩
  unfold Evident evidence
  rw [horigin, hcontext]
  exact h.evident

/-- A row that gets a new lease, with its context as it was. -/
lemma Sound.of_isSome (h : job.Sound) (hlease : job'.lockedUntil.isSome = true)
    (horigin : job'.origin = job.origin) (hcontext : job'.context = job.context) : job'.Sound := by
  refine ⟨fun _ => hlease, ?_⟩
  unfold Evident evidence
  rw [horigin, hcontext]
  exact h.evident

/-- A row that gets a new context. -/
lemma Sound.of_context (h : job.Sound) (hstate : job'.state = job.state)
    (hlease : job'.lockedUntil = job.lockedUntil) (hevident : job'.Evident) : job'.Sound := by
  refine ⟨?_, hevident⟩
  rw [hstate, hlease]
  exact h.leased

lemma evident_of_pending_eq_false (h : job.context.pending = false) : job.Evident := by
  intro hpending
  rw [h] at hpending
  cases hpending

lemma SameJob.evident (h : job.SameJob job') (hevident : job.Evident)
    (hpending : job'.context.pending = true → job.context.pending = true) : job'.Evident := by
  intro hpending'
  rw [h.evidence]
  exact hevident (hpending hpending')
lemma sameJob_skip : job.SameJob job.skip := ⟨rfl, rfl, rfl, rfl, .refl _⟩

lemma Sound.skip (h : job.Sound) : job.skip.Sound := h.of_ne (by simp [QueuedJob.skip]) rfl rfl

lemma sameJob_endAttempt {claimed : QueuedJob} {now : ℕ} {outcome : AttemptEnd} :
    job.SameJob (job.endAttempt claimed now outcome) := by
  cases outcome with
  | finish | windowUnavailable | deferForResolution => exact ⟨rfl, rfl, rfl, rfl, .refl _⟩
  | retryOrDead delay =>
      simp only [endAttempt]
      split_ifs <;> exact ⟨rfl, rfl, rfl, rfl, .refl _⟩

lemma context_endAttempt {claimed : QueuedJob} {now : ℕ} {outcome : AttemptEnd} :
    (job.endAttempt claimed now outcome).context = job.context := by
  cases outcome with
  | finish | windowUnavailable | deferForResolution => rfl
  | retryOrDead delay =>
      simp only [endAttempt]
      split_ifs <;> rfl

lemma Sound.endAttempt {claimed : QueuedJob} {now : ℕ} {outcome : AttemptEnd} (h : job.Sound)
    (hterminal : outcome.terminal = true) : (job.endAttempt claimed now outcome).Sound := by
  refine h.of_ne ?_ sameJob_endAttempt.origin context_endAttempt
  cases outcome with
  | finish state =>
      rintro rfl
      simp [AttemptEnd.terminal, JobState.active] at hterminal
  | retryOrDead delay =>
      simp only [QueuedJob.endAttempt]
      split_ifs <;> simp
  | windowUnavailable | deferForResolution => simp [QueuedJob.endAttempt]

end QueuedJob

namespace DeliveryState

/-- The watermark covers the evidence of the repair. -/
def Recorded (s : DeliveryState) (job : QueuedJob) : Prop :=
  ∀ order, job.evidence = some order →
    s.markers.Repaired (missingMember job.userId job.asset) order

/-- The repair is recorded, or its account is owed. -/
def Accounted (s : DeliveryState) (job : QueuedJob) : Prop :=
  s.Recorded job ∨ job.context.pending = true

/-- The entry is a job whose repair is recorded. -/
def Published (names : JobText) (s : DeliveryState) (entry : String) : Prop :=
  ∃ jobId job, entry = names.text jobId ∧ s.jobs.lookup jobId = some job ∧ s.Recorded job

/-- Every job is carried over, with its lease and its account. -/
structure Carries (s s' : DeliveryState) : Prop where
  watermarks : WatermarksRise s.markers s'.markers
  jobs : ∀ jobId job, s.jobs.lookup jobId = some job →
    ∃ job', s'.jobs.lookup jobId = some job' ∧ job.SameJob job' ∧
      (job.Sound → job'.Sound) ∧ (s.Accounted job → s'.Accounted job')

/-- What a transaction keeps that inserts no job and moves no worker. -/
structure Keeps (names : JobText) (s s' : DeliveryState) : Prop extends Carries s s' where
  markers : s'.markers.Ok
  stream : ∀ entry ∈ s'.markers.stream, entry ∈ s.markers.stream ∨ s'.Published names entry
  keys : ∀ jobId job', s'.jobs.lookup jobId = some job' → ∃ job, s.jobs.lookup jobId = some job
  workers : s'.workers = s.workers
  claims : s'.claims = s.claims

section Rules

variable {names : JobText} {s s' s'' : DeliveryState} {jobId : JobId} {job job' : QueuedJob}

lemma lookup_setJob (s : DeliveryState) (jobId jobId' : JobId) (f : QueuedJob → QueuedJob) :
    (s.setJob jobId f).jobs.lookup jobId' =
      if jobId' = jobId then
        (s.jobs.lookup jobId).map fun job => { f job with updatedAt := s.clock }
      else s.jobs.lookup jobId' :=
  Table.lookup_modify ..

lemma Recorded.mono (h : s.Recorded job) (hrise : WatermarksRise s.markers s'.markers)
    (hsame : job.SameJob job') : s'.Recorded job' := by
  intro order horder
  rw [hsame.evidence] at horder
  rw [hsame.userId, hsame.asset]
  exact hrise.repaired (h order horder)

lemma Published.mono {entry : String} (h : s.Published names entry) (hcarries : Carries s s') :
    s'.Published names entry := by
  obtain ⟨jobId, job, hentry, hjob, hrecorded⟩ := h
  obtain ⟨job', hjob', hsame, -, -⟩ := hcarries.jobs jobId job hjob
  exact ⟨jobId, job', hentry, hjob', hrecorded.mono hcarries.watermarks hsame⟩

lemma Carries.trans (h : Carries s s') (h' : Carries s' s'') : Carries s s'' := by
  refine ⟨h.watermarks.trans h'.watermarks, fun jobId job hjob => ?_⟩
  obtain ⟨job', hjob', hsame, hsound, haccounted⟩ := h.jobs jobId job hjob
  obtain ⟨job'', hjob'', hsame', hsound', haccounted'⟩ := h'.jobs jobId job' hjob'
  exact ⟨job'', hjob'', hsame.trans hsame', hsound' ∘ hsound, haccounted' ∘ haccounted⟩

lemma Keeps.refl (h : s.markers.Ok) : Keeps names s s :=
  ⟨⟨.refl _, fun _ job hjob => ⟨job, hjob, .refl _, id, id⟩⟩, h, fun _ hentry => Or.inl hentry,
    fun _ job hjob => ⟨job, hjob⟩, rfl, rfl⟩

lemma Keeps.trans (h : Keeps names s s') (h' : Keeps names s' s'') : Keeps names s s'' := by
  refine ⟨h.toCarries.trans h'.toCarries, h'.markers, fun entry hentry => ?_,
    fun jobId job'' hjob'' => ?_, h'.workers.trans h.workers, h'.claims.trans h.claims⟩
  · obtain hentry | hpublished := h'.stream entry hentry
    · exact (h.stream entry hentry).imp_right fun hpublished => hpublished.mono h'.toCarries
    · exact Or.inr hpublished
  · obtain ⟨job', hjob'⟩ := h'.keys jobId job'' hjob''
    exact h.keys jobId job' hjob'

/-- A loop of transactions. -/
lemma keeps_foldl {α : Type} {f : DeliveryState → α → DeliveryState} {items : List α}
    (hf : ∀ s, ∀ item ∈ items, s.markers.Ok → Keeps names s (f s item)) :
    ∀ {s : DeliveryState}, s.markers.Ok → Keeps names s (items.foldl f s) := by
  induction items with
  | nil => exact fun hs => .refl hs
  | cons item items ih =>
      intro s hs
      have hhead := hf s item List.mem_cons_self hs
      refine hhead.trans (ih (fun s item hitem => ?_) hhead.markers)
      exact hf s item (List.mem_cons_of_mem _ hitem)

/-- A transaction that writes one row. -/
lemma keeps_setJob (hs : s.markers.Ok) {f : QueuedJob → QueuedJob}
    (hf : ∀ job, s.jobs.lookup jobId = some job → job.SameJob (f job) ∧
      (job.Sound → (f job).Sound) ∧ (s.Accounted job → s.Accounted (f job))) :
    Keeps names s (s.setJob jobId f) := by
  refine ⟨⟨.refl _, fun jobId' job hjob => ?_⟩, hs, fun _ hentry => Or.inl hentry,
    fun jobId' job' hjob' => ?_, rfl, rfl⟩
  · rw [lookup_setJob]
    split_ifs with hid
    · subst hid
      obtain ⟨⟨huser, hasset, horigin, hcreated, hkeys⟩, hsound, haccounted⟩ := hf job hjob
      rw [hjob]
      exact ⟨_, rfl, ⟨huser, hasset, horigin, hcreated, hkeys⟩,
        fun h => ⟨(hsound h).leased, (hsound h).evident⟩, haccounted⟩
    · exact ⟨job, hjob, .refl _, id, id⟩
  · rw [lookup_setJob] at hjob'
    split_ifs at hjob' with hid
    · subst hid
      obtain ⟨job, hjob, -⟩ := Option.map_eq_some_iff.1 hjob'
      exact ⟨job, hjob⟩
    · exact ⟨job', hjob'⟩

lemma keeps_skip (hs : s.markers.Ok) : Keeps names s (s.setJob jobId .skip) :=
  keeps_setJob hs fun _ _ => ⟨QueuedJob.sameJob_skip, QueuedJob.Sound.skip, id⟩

lemma keeps_markSuperseded (hs : s.markers.Ok) : Keeps names s (s.markSuperseded jobId) := by
  unfold markSuperseded
  split_ifs
  · exact keeps_skip hs
  · exact .refl hs

/-- A script that only touches the markers. -/
lemma keeps_markers {markers : MarkerState} (hs : markers.Ok)
    (hrise : WatermarksRise s.markers markers)
    (hstream : ∀ entry ∈ markers.stream, entry ∈ s.markers.stream ∨
      Published names { s with markers } entry) : Keeps names s { s with markers } := by
  refine ⟨⟨hrise, fun jobId job hjob => ⟨job, hjob, .refl _, id, ?_⟩⟩, hs, hstream,
    fun jobId job hjob => ⟨job, hjob⟩, rfl, rfl⟩
  exact fun h => h.imp_left fun hrecorded => hrecorded.mono hrise (.refl _)

end Rules

/-! ## Publication -/

section Publication

variable {names : JobText} {s s' : DeliveryState} {jobId : JobId} {job : QueuedJob}
  {reads : PassReads}

/-- The way a publication goes on from the checks. -/
lemma prepareDelivery_cases (s : DeliveryState) (jobId : JobId) (job : QueuedJob)
    (pub : PublishReads) :
    s.prepareDelivery jobId job pub = (s.setJob jobId .skip, false) ∨
      s.prepareDelivery jobId job pub =
        ((if job.isStrategy then pub.intent.getD [] else []).foldl markSuperseded s, true) := by
  unfold prepareDelivery prepareJobDestination
  by_cases hbound : (pub.bound && pub.supported) = true
  · rw [if_pos hbound]
    dsimp only
    by_cases hstrategy : job.isStrategy = true
    · rw [if_pos hstrategy, if_pos hstrategy]
      unfold prepareStrategyJob
      cases pub.intent with
      | none => exact Or.inl rfl
      | some older => exact Or.inr rfl
    · rw [if_neg hstrategy, if_neg hstrategy]
      exact Or.inr rfl
  · rw [if_neg hbound]
    exact Or.inl rfl

lemma keeps_prepareDelivery (hs : s.markers.Ok) (pub : PublishReads) :
    Keeps names s (s.prepareDelivery jobId job pub).1 := by
  obtain heq | heq := prepareDelivery_cases s jobId job pub <;> rw [heq]
  · exact keeps_skip hs
  · exact keeps_foldl (fun _ _ _ hs => keeps_markSuperseded hs) hs

lemma keeps_append (hs : s.markers.Ok) (hjob : s.jobs.lookup jobId = some job)
    (hrecorded : s.Recorded job) : Keeps names s (s.append (names.text jobId)) := by
  refine keeps_markers ⟨hs.accounted.withStream _, hs.formatted⟩ (.refl _) fun entry hentry => ?_
  obtain hentry | hentry := List.mem_append.1 hentry
  · exact Or.inl hentry
  · obtain rfl : entry = names.text jobId := by simpa using hentry
    exact Or.inr ⟨jobId, job, rfl, hjob, hrecorded⟩

lemma keeps_enqueued (hs : s.markers.Ok) : Keeps names s (s.enqueued jobId) :=
  keeps_setJob hs fun _ _ =>
    ⟨⟨rfl, rfl, rfl, rfl, .refl _⟩, fun h => ⟨h.leased, h.evident⟩, id⟩

lemma recorded_of_evidence_none (h : job.evidence = none) : s.Recorded job := by
  intro order horder
  rw [h] at horder
  cases horder

lemma evidence_eq_none (h : job.origin ≠ .copy .reconcile) : job.evidence = none := by
  cases hevidence : job.evidence with
  | none => rfl
  | some order => exact absurd (evidence_pos hevidence).1 h

lemma recordMasterLeverageMissing_stream {markers : MarkerState} {userId asset : String} {order : ℤ}
    {current : ℚ} :
    (recordMasterLeverageMissing markers userId asset order current).1.stream = markers.stream := by
  unfold recordMasterLeverageMissing
  split_ifs
  · rfl
  · obtain ⟨-, heq⟩ | ⟨-, ⟨-, heq⟩ | ⟨-, heq⟩⟩ :=
      registerMissing_cases markers (missingMember userId asset) order current <;> rw [heq]

lemma keeps_missing (hs : s.markers.Ok) {userId asset : String} {order : ℤ} {redisTime : ℚ} :
    Keeps names s { s with
      markers := (recordMasterLeverageMissing s.markers userId asset order redisTime).1 } := by
  have heffect := markerStep_effect s.markers ⟨.missing userId asset order, 0, redisTime⟩
  have hok := hs.step heffect
  have hrise := hs.watermarksRise heffect
  refine keeps_markers hok hrise fun entry hentry => Or.inl ?_
  rwa [recordMasterLeverageMissing_stream] at hentry

lemma keeps_publishJob (hs : s.markers.Ok) {job₀ : QueuedJob}
    (hjob : s.jobs.lookup jobId = some job) (hsame : job₀.SameJob job)
    (hevidence : job₀.evidence = none) (pub : PublishReads) :
    Keeps names s (s.publishJob names jobId job₀ pub) := by
  unfold publishJob
  split_ifs
  · exact keeps_skip hs
  · have hprepared : Keeps names s (s.prepareDelivery jobId job₀ pub).1 :=
      keeps_prepareDelivery hs pub
    obtain heq | heq := prepareDelivery_cases s jobId job₀ pub <;> rw [heq] at hprepared ⊢
    · exact hprepared
    · obtain ⟨job', hjob', hsame', -, -⟩ := hprepared.jobs jobId job hjob
      have hnone : job'.evidence = none := ((hsame.trans hsame').evidence).trans hevidence
      have happended : Keeps names _ (append _ (names.text jobId)) :=
        keeps_append hprepared.markers hjob' (recorded_of_evidence_none hnone)
      exact (hprepared.trans happended).trans (keeps_enqueued happended.markers)

/-! ## Repair of the stream -/

/-- The evidence of a repair is accepted by the script that publishes it. -/
lemma publishMasterLeverageRepair_eq_ok {markers : MarkerState} {order : ℤ}
    (horder : 0 < order) (userId asset : String) (sloSeconds current : ℚ) :
    publishMasterLeverageRepair markers (names.text jobId) userId asset order 100000 sloSeconds
        current =
      .ok (repairMarker { markers with stream := markers.stream ++ [names.text jobId] }
        (missingMember userId asset) order sloSeconds current).1 := by
  unfold publishMasterLeverageRepair publishRepair
  have hpass : ¬ (order ≤ 0 || (100000 : ℤ) ≤ 0) = true := by
    simp only [Bool.or_eq_true, decide_eq_true_eq]
    omega
  rw [if_neg hpass, if_neg (names.text_ne_empty jobId)]

lemma repairMarker_stream {markers : MarkerState} (hs : markers.Accounted) {member : String}
    {order : ℤ} {sloSeconds current : ℚ} :
    (repairMarker markers member order sloSeconds current).1.stream = markers.stream := by
  obtain ⟨-, heq⟩ | ⟨started, latest, -, -, -, heq⟩ :=
    repairMarker_cases hs member order sloSeconds current <;> rw [heq]

lemma markersOk_repairMarker {markers : MarkerState} (hs : markers.Ok) {member : String}
    {order : ℤ} {sloSeconds current : ℚ} :
    (repairMarker markers member order sloSeconds current).1.Ok :=
  ⟨hs.accounted.repairMarker hs.formatted, RecoveryMetrics.MaxFormatted.repairMarker hs.accounted
    hs.formatted⟩

/-- Once the watermark covers it, a repair needs no further account. -/
lemma recorded_of_repaired {order : ℤ} (hevidence : job.evidence = some order)
    (h : s.markers.Repaired (missingMember job.userId job.asset) order) : s.Recorded job := by
  intro order' horder'
  obtain rfl : order = order' := Option.some.inj (hevidence.symm.trans horder')
  exact h

lemma keeps_replayRepair (hs : s.markers.Ok) : Keeps names s (s.replayRepair jobId reads) := by
  unfold replayRepair
  cases hjob : s.jobs.lookup jobId with
  | none => exact .refl hs
  | some job =>
    cases hevidence : job.evidence with
    | none =>
        simp only [hevidence]
        exact .refl hs
    | some order =>
      have hpos : ¬ order ≤ 0 := not_le.2 (evidence_pos hevidence).2
      simp only [hevidence, recordMasterLeverageRepaired, if_neg hpos]
      have hmarkers : MarkerState.Ok (repairMarker s.markers (missingMember job.userId job.asset)
          order reads.sloSeconds reads.redisTime).1 := markersOk_repairMarker hs
      have hscript : Keeps names s { s with
          markers := (repairMarker s.markers (missingMember job.userId job.asset) order
            reads.sloSeconds reads.redisTime).1 } := by
        refine keeps_markers hmarkers (watermarksRise_repairMarker hs.accounted) fun entry h => ?_
        rw [repairMarker_stream hs.accounted] at h
        exact Or.inl h
      refine hscript.trans (keeps_setJob hmarkers fun job' hjob' => ?_)
      obtain rfl : job = job' := Option.some.inj (hjob.symm.trans hjob')
      refine ⟨⟨rfl, rfl, rfl, rfl, sameKeys_markRepairAccounted⟩, fun h => ?_, fun _ => Or.inl ?_⟩
      · exact h.of_context rfl rfl (QueuedJob.evident_of_pending_eq_false rfl)
      have hevidence' : QueuedJob.evidence
          { job with context := markRepairAccounted job.context order } = some order :=
        (sameKeys_markRepairAccounted.evidence).trans hevidence
      exact recorded_of_repaired hevidence' (repaired_repairMarker hs.accounted)

lemma keeps_publishRepairJob (hs : s.markers.Ok) (hjob : s.jobs.lookup jobId = some job)
    {job₀ : QueuedJob} (hsame : job₀.SameJob job) {order : ℤ}
    (hevidence : job₀.evidence = some order) :
    Keeps names s (s.publishRepairJob names jobId job₀ order reads) := by
  have hevidence' : job.evidence = some order := hsame.evidence.trans hevidence
  unfold publishRepairJob
  split_ifs
  · exact keeps_skip hs
  · rw [publishMasterLeverageRepair_eq_ok (evidence_pos hevidence).2]
    dsimp only
    have hstream : MarkerState.Ok
        { s.markers with stream := s.markers.stream ++ [names.text jobId] } :=
      ⟨hs.accounted.withStream _, hs.formatted⟩
    set markers := (repairMarker { s.markers with stream := s.markers.stream ++ [names.text jobId] }
      (missingMember job₀.userId job₀.asset) order reads.sloSeconds reads.redisTime).1 with hset
    have hmarkers : markers.Ok := markersOk_repairMarker hstream
    have hrepaired : markers.Repaired (missingMember job₀.userId job₀.asset) order :=
      repaired_repairMarker hstream.accounted
    have hrecorded : Recorded { s with markers } job := by
      refine recorded_of_repaired hevidence' ?_
      rw [hsame.userId, hsame.asset]
      exact hrepaired
    have hscript : Keeps names s { s with markers } := by
      refine keeps_markers hmarkers (watermarksRise_repairMarker hstream.accounted) ?_
      intro entry hentry
      rw [hset, repairMarker_stream hstream.accounted] at hentry
      obtain hentry | hentry := List.mem_append.1 hentry
      · exact Or.inl hentry
      · obtain rfl : entry = names.text jobId := by simpa using hentry
        exact Or.inr ⟨jobId, job, rfl, hjob, hrecorded⟩
    refine hscript.trans (keeps_setJob hmarkers fun job' hjob' => ?_)
    obtain rfl : job = job' := Option.some.inj (hjob.symm.trans hjob')
    have hkeys : job.context.SameKeys (if job.context.pending then
        markRepairAccounted job.context order else job.context) := by
      split_ifs
      · exact sameKeys_markRepairAccounted
      · exact .refl _
    refine ⟨⟨rfl, rfl, rfl, rfl, hkeys⟩, fun h => h.of_context rfl rfl ?_, fun _ => Or.inl ?_⟩
    · by_cases hpending : job.context.pending = true
      · refine QueuedJob.evident_of_pending_eq_false ?_
        simp [hpending]
      · refine QueuedJob.evident_of_pending_eq_false ?_
        simp [hpending]
    exact hrecorded.mono (.refl _) ⟨rfl, rfl, rfl, rfl, hkeys⟩

lemma keeps_repairJob (hs : s.markers.Ok) : Keeps names s (s.repairJob names jobId reads) := by
  unfold repairJob
  cases hjob : s.jobs.lookup jobId with
  | none => exact .refl hs
  | some job =>
    have hprepared : Keeps names s (s.prepareDelivery jobId job (reads.job jobId)).1 :=
      keeps_prepareDelivery hs (reads.job jobId)
    dsimp only
    obtain heq | heq := prepareDelivery_cases s jobId job (reads.job jobId) <;>
      rw [heq] at hprepared ⊢
    · exact hprepared
    · obtain ⟨job', hjob', hsame, -, -⟩ := hprepared.jobs jobId job hjob
      dsimp only
      cases hevidence : job.evidence with
      | none => exact hprepared.trans (keeps_publishJob hprepared.markers hjob' hsame hevidence _)
      | some order =>
        exact hprepared.trans (keeps_publishRepairJob hprepared.markers hjob' hsame hevidence)

lemma keeps_repairItem (hs : s.markers.Ok) (item : RepairItem) :
    Keeps names s (repairItem names reads s item) := by
  cases item with
  | replay jobId => exact keeps_replayRepair hs
  | publish jobId => exact keeps_repairJob hs

lemma keeps_expireStaleStrategyJobs (hs : s.markers.Ok) :
    Keeps names s (s.expireStaleStrategyJobs reads) :=
  keeps_foldl (fun _ _ _ hs => keeps_skip hs) hs

lemma keeps_repairStream (hs : s.markers.Ok) : Keeps names s (s.repairStream names reads) := by
  have hexpired : Keeps names s (s.expireStaleStrategyJobs reads) := keeps_expireStaleStrategyJobs hs
  exact hexpired.trans (keeps_foldl (fun _ item _ hs => keeps_repairItem hs item) hexpired.markers)

/-- Where only the effects on Redis stay, what they say is said of the old rows. -/
lemma Keeps.markers_only (h : Keeps names s s') : Keeps names s { s with markers := s'.markers } := by
  refine keeps_markers h.markers h.watermarks fun entry hentry => ?_
  obtain hold | ⟨jobId, job', htext, hjob', hrecorded⟩ := h.stream entry hentry
  · exact Or.inl hold
  · obtain ⟨job, hjob⟩ := h.keys jobId job' hjob'
    obtain ⟨job'', hjob'', hsame, -, -⟩ := h.toCarries.jobs jobId job hjob
    obtain rfl : job' = job'' := Option.some.inj (hjob'.symm.trans hjob'')
    exact Or.inr ⟨jobId, job, htext, hjob, hrecorded.mono (.refl _) hsame.symm⟩

lemma keeps_repairStreamRaises (hs : s.markers.Ok) (n : ℕ) :
    Keeps names s (s.repairStreamRaises names reads n) := by
  have hexpired : Keeps names s (s.expireStaleStrategyJobs reads) := keeps_expireStaleStrategyJobs hs
  exact (hexpired.trans
    (keeps_foldl (fun _ item _ hs => keeps_repairItem hs item) hexpired.markers)).markers_only

end Publication

/-! ## The system -/

/-- The account of the job at the key. -/
def AccountedFor (s : DeliveryState) (jobId : JobId) : Prop :=
  ∃ job, s.jobs.lookup jobId = some job ∧ s.Accounted job

/-- What a worker holds is accounted for, in the row and in the copy the session has read. -/
def Holds (s : DeliveryState) : WorkerPhase → Prop
  | .selected jobId => s.AccountedFor jobId
  | .loaded jobId raw | .running jobId raw =>
    ∃ job, s.jobs.lookup jobId = some job ∧ s.Accounted job ∧ raw.SameJob job ∧
      s.Accounted raw ∧ raw.Evident

/-- The invariant of a run. -/
structure Invariant (names : JobText) (s : DeliveryState) : Prop where
  markers : s.markers.Ok
  sound : ∀ jobId job, s.jobs.lookup jobId = some job → job.Sound
  stream : ∀ entry ∈ s.markers.stream, s.Published names entry
  workers : ∀ worker phase, s.workers.lookup worker = some phase → s.Holds phase
  claims : ∀ jobId ∈ s.claims, s.AccountedFor jobId

section System

variable {names : JobText} {s s' : DeliveryState} {jobId : JobId} {job raw : QueuedJob}
  {worker : WorkerId} {phase : WorkerPhase}

lemma Accounted.mono (h : s.Accounted job) (hrise : WatermarksRise s.markers s'.markers) :
    s'.Accounted job :=
  h.imp_left fun hrecorded => hrecorded.mono hrise (.refl _)

lemma AccountedFor.mono (h : s.AccountedFor jobId) (hcarries : Carries s s') :
    s'.AccountedFor jobId := by
  obtain ⟨job, hjob, haccounted⟩ := h
  obtain ⟨job', hjob', -, -, hkept⟩ := hcarries.jobs jobId job hjob
  exact ⟨job', hjob', hkept haccounted⟩

lemma Holds.mono (h : s.Holds phase) (hcarries : Carries s s') : s'.Holds phase := by
  cases phase with
  | selected jobId => exact AccountedFor.mono h hcarries
  | loaded jobId raw | running jobId raw =>
    obtain ⟨job, hjob, haccounted, hsame, hraw, hevident⟩ := h
    obtain ⟨job', hjob', hsame', -, hkept⟩ := hcarries.jobs jobId job hjob
    exact ⟨job', hjob', hkept haccounted, hsame.trans hsame', hraw.mono hcarries.watermarks,
      hevident⟩

/-- A transaction keeps the invariant. -/
lemma Invariant.keeps (h : Invariant names s) (hkeeps : Keeps names s s') : Invariant names s' := by
  refine ⟨hkeeps.markers, fun jobId job' hjob' => ?_, fun entry hentry => ?_,
    fun worker phase hphase => ?_, fun jobId hjobId => ?_⟩
  · obtain ⟨job, hjob⟩ := hkeeps.keys jobId job' hjob'
    obtain ⟨job'', hjob'', -, hsound, -⟩ := hkeeps.jobs jobId job hjob
    obtain rfl : job' = job'' := Option.some.inj (hjob'.symm.trans hjob'')
    exact hsound (h.sound jobId job hjob)
  · obtain hold | hnew := hkeeps.stream entry hentry
    · exact (h.stream entry hold).mono hkeeps.toCarries
    · exact hnew
  · rw [hkeeps.workers] at hphase
    exact (h.workers worker phase hphase).mono hkeeps.toCarries
  · rw [hkeeps.claims] at hjobId
    exact (h.claims jobId hjobId).mono hkeeps.toCarries

/-- A worker may hold what is accounted for. -/
lemma Invariant.putWorker (h : Invariant names s) (hholds : s.Holds phase) :
    Invariant names (s.putWorker worker phase) := by
  refine ⟨h.markers, h.sound, h.stream, fun worker' phase' hphase' => ?_, h.claims⟩
  obtain ⟨-, rfl⟩ | hold := Table.lookup_insert_cases hphase'
  · exact hholds
  · exact h.workers worker' phase' hold

lemma Invariant.dropWorker (h : Invariant names s) : Invariant names (s.dropWorker worker) :=
  ⟨h.markers, h.sound, h.stream,
    fun worker' phase' hphase' => h.workers worker' phase' (Table.lookup_of_erase hphase'), h.claims⟩

lemma Invariant.create (h : Invariant names s) (hcreate : s.create jobId job = some s') :
    Invariant names s' := by
  unfold DeliveryState.create at hcreate
  split_ifs at hcreate with hsome
  obtain rfl := Option.some.inj hcreate
  have hnone : s.jobs.lookup jobId = none := by simpa using hsome
  set row : QueuedJob := { job with
    state := .queued, owner := none, lockedUntil := none, attemptCount := 0, nextAttemptAt := none
    enqueuedAt := none, createdAt := s.clock, updatedAt := s.clock
    context := { job.context with repairPending := none, repairAccountedOrder := none } }
  have hcarries : Carries s { s with jobs := s.jobs.insert jobId row } := by
    refine ⟨.refl _, fun jobId' job' hjob' => ⟨job', ?_, .refl _, id, id⟩⟩
    have hne : jobId' ≠ jobId := by
      rintro rfl
      rw [hnone] at hjob'
      cases hjob'
    simp only [AList.lookup_insert_ne hne]
    exact hjob'
  refine ⟨h.markers, fun jobId' job' hjob' => ?_,
    fun entry hentry => (h.stream entry hentry).mono hcarries,
    fun worker phase hphase => (h.workers worker phase hphase).mono hcarries,
    fun jobId' hjobId' => (h.claims jobId' hjobId').mono hcarries⟩
  obtain ⟨-, rfl⟩ | hold := Table.lookup_insert_cases hjob'
  · refine ⟨fun hstate => ?_, QueuedJob.evident_of_pending_eq_false rfl⟩
    cases hstate
  · exact h.sound jobId' job' hold

/-! ### Steps of a worker -/

lemma Invariant.read (h : Invariant names s) (hread : s.read names worker = some s') :
    Invariant names s' := by
  unfold DeliveryState.read at hread
  split_ifs at hread
  obtain ⟨entry, hentry, rfl⟩ := Option.map_eq_some_iff.1 hread
  obtain ⟨jobId, job, rfl, hjob, hrecorded⟩ := h.stream entry (List.mem_of_getElem? hentry)
  have hmoved : Invariant names { s with cursor := s.cursor + 1 } :=
    ⟨h.markers, h.sound, h.stream, h.workers, h.claims⟩
  rw [names.parse_text]
  exact hmoved.putWorker ⟨job, hjob, Or.inl hrecorded⟩

lemma Invariant.takeFromDatabase {reads : PassReads} (h : Invariant names s)
    (htake : s.takeFromDatabase worker reads = some s') : Invariant names s' := by
  unfold DeliveryState.takeFromDatabase at htake
  split at htake <;> try cases htake
  next jobId rest hfree holdest =>
    obtain ⟨job, hjob, rfl⟩ := Option.map_eq_some_iff.1 htake
    have hprepared : Keeps names s (s.prepareDelivery jobId job (reads.job jobId)).1 :=
      keeps_prepareDelivery h.markers _
    obtain heq | heq := prepareDelivery_cases s jobId job (reads.job jobId) <;>
      rw [heq] at hprepared ⊢
    · exact h.keeps hprepared
    · obtain ⟨job', hjob', hsame, -, -⟩ := hprepared.jobs jobId job hjob
      dsimp only at hprepared hjob' ⊢
      set mid := (if job.isStrategy then (reads.job jobId).intent.getD [] else []).foldl
        markSuperseded s
      have hmarked : Keeps names mid (mid.setJob jobId fun job =>
          { job with context := markRepairPending job.origin job.context }) := by
        refine keeps_setJob hprepared.markers fun job'' _ => ?_
        have hsame' : job''.SameJob
            { job'' with context := markRepairPending job''.origin job''.context } :=
          ⟨rfl, rfl, rfl, rfl, sameKeys_markRepairPending⟩
        refine ⟨hsame', fun h => h.of_context rfl rfl ?_, fun haccounted => ?_⟩
        · intro hpending
          rw [hsame'.evidence]
          exact evident_markRepairPending h.evident hpending
        obtain hrecorded | hpending := haccounted
        · exact Or.inl (hrecorded.mono (.refl _) hsame')
        · exact Or.inr (pending_markRepairPending_of_pending hpending)
      refine (h.keeps (hprepared.trans hmarked)).putWorker ?_
      refine ⟨_, by rw [lookup_setJob, if_pos rfl, hjob']; rfl, ?_⟩
      cases hevidence : job'.evidence with
      | none =>
        left
        refine recorded_of_evidence_none ?_
        exact (sameKeys_markRepairPending.evidence).trans hevidence
      | some order => exact Or.inr (pending_markRepairPending hevidence)

lemma Invariant.load (h : Invariant names s) (hload : s.load worker = some s') :
    Invariant names s' := by
  unfold DeliveryState.load at hload
  split at hload <;> try cases hload
  next jobId hphase =>
    obtain ⟨job, hjob, haccounted⟩ := h.workers worker _ hphase
    simp only [hjob] at hload
    split_ifs at hload <;> obtain rfl := Option.some.inj hload
    · exact h.putWorker ⟨job, hjob, haccounted, .refl _, haccounted, (h.sound jobId job hjob).evident⟩
    · exact h.dropWorker

/-- A session writes back the context of what it holds. -/
lemma Invariant.writeContext (h : Invariant names s)
    (hraw : ∃ job, s.jobs.lookup jobId = some job ∧ s.Accounted job ∧ raw.SameJob job ∧
      s.Accounted raw ∧ raw.Evident) :
    Invariant names (s.setJob jobId fun job => { job with context := raw.context }) := by
  obtain ⟨job, hjob, -, hsame, haccounted, hevident⟩ := hraw
  refine h.keeps (keeps_setJob h.markers fun job' hjob' => ?_)
  obtain rfl : job = job' := Option.some.inj (hjob.symm.trans hjob')
  have hsame' : raw.SameJob { job with context := raw.context } :=
    ⟨hsame.userId, hsame.asset, hsame.origin, hsame.createdAt, .refl _⟩
  refine ⟨⟨rfl, rfl, rfl, rfl, hsame.keys.symm⟩, fun h => h.of_context rfl rfl ?_, fun _ => ?_⟩
  · exact hsame'.evident hevident id
  · exact haccounted.imp_left fun hrecorded => hrecorded.mono (.refl _) hsame'

lemma Invariant.rebind (h : Invariant names s) (hrebind : s.rebind worker = some s') :
    Invariant names s' := by
  unfold DeliveryState.rebind at hrebind
  split at hrebind <;> try cases hrebind
  next jobId raw hphase => exact h.writeContext (h.workers worker _ hphase)

lemma Invariant.rejectAction (h : Invariant names s) (hreject : s.rejectAction worker = some s') :
    Invariant names s' := by
  unfold DeliveryState.rejectAction at hreject
  split at hreject <;> try cases hreject
  next jobId claimed hphase => exact h.writeContext (h.workers worker _ hphase)

lemma Invariant.refuse {reads : HandleReads} (h : Invariant names s)
    (hrefuse : s.refuse worker reads = some s') : Invariant names s' := by
  unfold DeliveryState.refuse at hrefuse
  split at hrefuse <;> try cases hrefuse
  next jobId raw hphase =>
    split_ifs at hrefuse
    obtain rfl := Option.some.inj hrefuse
    exact (h.keeps (keeps_skip h.markers)).dropWorker

lemma Invariant.claim (h : Invariant names s) (hclaim : s.claim worker = some s') :
    Invariant names s' := by
  unfold DeliveryState.claim at hclaim
  split at hclaim <;> try cases hclaim
  next jobId raw hphase =>
    obtain ⟨job, hjob, haccounted, -⟩ := h.workers worker _ hphase
    have hevident : job.Evident := (h.sound jobId job hjob).evident
    simp only [hjob] at hclaim
    split_ifs at hclaim <;> obtain rfl := Option.some.inj hclaim
    · have hsame : job.SameJob (job.claim raw worker s.clock) := ⟨rfl, rfl, rfl, rfl, .refl _⟩
      have hclaimed : Keeps names s (s.setJob jobId fun _ => job.claim raw worker s.clock) := by
        refine keeps_setJob h.markers fun job' hjob' => ?_
        obtain rfl : job = job' := Option.some.inj (hjob.symm.trans hjob')
        exact ⟨hsame, fun h => h.of_isSome rfl rfl rfl, id⟩
      have hrow : AList.lookup jobId (s.setJob jobId fun _ => job.claim raw worker s.clock).jobs =
          some { job.claim raw worker s.clock with updatedAt := s.clock } := by
        rw [lookup_setJob, if_pos rfl, hjob]
        rfl
      have hput : Invariant names ((s.setJob jobId fun _ => job.claim raw worker s.clock).putWorker
          worker (.running jobId (job.claim raw worker s.clock))) :=
        (h.keeps hclaimed).putWorker
          ⟨_, hrow, haccounted, ⟨rfl, rfl, rfl, rfl, .refl _⟩, haccounted, hevident⟩
      refine ⟨hput.markers, hput.sound, hput.stream, hput.workers, fun jobId' hjobId' => ?_⟩
      obtain rfl | hold := List.mem_cons.1 hjobId'
      · exact ⟨_, hrow, haccounted⟩
      · exact hput.claims jobId' hold
    · exact h.dropWorker

lemma Invariant.renew (h : Invariant names s) (hrenew : s.renew worker = some s') :
    Invariant names s' := by
  unfold DeliveryState.renew at hrenew
  split at hrenew <;> try cases hrenew
  next jobId claimed hphase =>
    obtain ⟨job, hjob, haccounted, -⟩ := h.workers worker _ hphase
    have hevident : job.Evident := (h.sound jobId job hjob).evident
    simp only [hjob, Option.bind_some] at hrenew
    split_ifs at hrenew
    obtain rfl := Option.some.inj hrenew
    set renewed : QueuedJob := { job with lockedUntil := some (s.clock + jobLeaseSeconds) }
    have hrow : AList.lookup jobId (s.setJob jobId fun _ => renewed).jobs =
        some { renewed with updatedAt := s.clock } := by
      rw [lookup_setJob, if_pos rfl, hjob]
      rfl
    have hrenewed : Keeps names s (s.setJob jobId fun _ => renewed) := by
      refine keeps_setJob h.markers fun job' hjob' => ?_
      obtain rfl : job = job' := Option.some.inj (hjob.symm.trans hjob')
      exact ⟨⟨rfl, rfl, rfl, rfl, .refl _⟩, fun h => h.of_isSome rfl rfl rfl, id⟩
    exact (h.keeps hrenewed).putWorker
      ⟨_, hrow, haccounted, ⟨rfl, rfl, rfl, rfl, .refl _⟩, haccounted, hevident⟩

lemma Invariant.finish {outcome : AttemptEnd} (h : Invariant names s)
    (hfinish : s.finish worker outcome = some s') : Invariant names s' := by
  unfold DeliveryState.finish at hfinish
  split at hfinish <;> try cases hfinish
  next jobId claimed hphase =>
    split_ifs at hfinish with hterminal
    obtain rfl := Option.some.inj hfinish
    refine (h.keeps (keeps_setJob h.markers fun job hjob => ?_)).dropWorker
    refine ⟨QueuedJob.sameJob_endAttempt, fun h => h.endAttempt hterminal, ?_⟩
    rintro (hrecorded | hpending)
    · exact Or.inl (hrecorded.mono (.refl _) QueuedJob.sameJob_endAttempt)
    · right
      rwa [QueuedJob.context_endAttempt]

lemma Invariant.step {op : DeliveryOp} (h : Invariant names s)
    (hstep : deliveryStep names s op = some s') : Invariant names s' := by
  cases op with
  | tick clock =>
      simp only [deliveryStep] at hstep
      split_ifs at hstep
      obtain rfl := Option.some.inj hstep
      exact ⟨h.markers, h.sound, h.stream, h.workers, h.claims⟩
  | create jobId job => exact h.create hstep
  | publish jobId reads =>
      obtain ⟨job, hjob, hpublish⟩ := Option.bind_eq_some_iff.1 hstep
      split_ifs at hpublish with horigin
      obtain rfl := Option.some.inj hpublish
      exact h.keeps (keeps_publishJob h.markers hjob (.refl _) (evidence_eq_none horigin) reads)
  | publishRaises jobId =>
      obtain ⟨job, hjob, hpublish⟩ := Option.bind_eq_some_iff.1 hstep
      split_ifs at hpublish with horigin
      obtain rfl := Option.some.inj hpublish
      exact h.keeps (keeps_append h.markers hjob
        (recorded_of_evidence_none (evidence_eq_none horigin)))
  | repairStream reads =>
      obtain rfl := Option.some.inj hstep
      exact h.keeps (keeps_repairStream h.markers)
  | repairStreamRaises reads n =>
      obtain rfl := Option.some.inj hstep
      exact h.keeps (keeps_repairStreamRaises h.markers n)
  | expire reads =>
      obtain rfl := Option.some.inj hstep
      exact h.keeps (keeps_expireStaleStrategyJobs h.markers)
  | releaseStale jobId =>
      obtain ⟨job, hjob, hrelease⟩ := Option.bind_eq_some_iff.1 hstep
      split_ifs at hrelease
      obtain rfl := Option.some.inj hrelease
      refine h.keeps (keeps_setJob h.markers fun _ _ => ⟨⟨rfl, rfl, rfl, rfl, .refl _⟩, ?_, id⟩)
      refine fun h => h.of_ne ?_ rfl rfl
      dsimp only
      split_ifs <;> simp
  | trim n =>
      simp only [deliveryStep] at hstep
      split_ifs at hstep
      obtain rfl := Option.some.inj hstep
      exact ⟨h.markers, h.sound, h.stream, h.workers, h.claims⟩
  | regroup =>
      obtain rfl := Option.some.inj hstep
      exact ⟨h.markers, h.sound, h.stream, h.workers, h.claims⟩
  | missing userId asset order redisTime =>
      obtain rfl := Option.some.inj hstep
      exact h.keeps (keeps_missing h.markers)
  | read worker => exact h.read hstep
  | takeFromDatabase worker reads => exact h.takeFromDatabase hstep
  | load worker => exact h.load hstep
  | rebind worker => exact h.rebind hstep
  | refuse worker reads => exact h.refuse hstep
  | claim worker => exact h.claim hstep
  | renew worker => exact h.renew hstep
  | rejectAction worker => exact h.rejectAction hstep
  | finish worker outcome => exact h.finish hstep
  | leave worker =>
      obtain rfl := Option.some.inj hstep
      exact h.dropWorker
  | endJob jobId state =>
      obtain ⟨job, hjob, hend⟩ := Option.bind_eq_some_iff.1 hstep
      split_ifs at hend with hactive
      obtain rfl := Option.some.inj hend
      refine h.keeps (keeps_setJob h.markers fun _ _ => ⟨⟨rfl, rfl, rfl, rfl, .refl _⟩, ?_, id⟩)
      refine fun h => h.of_ne ?_ rfl rfl
      rintro rfl
      simp [JobState.active] at hactive

lemma invariant_initial : Invariant names .initial where
  markers := markerState_ok_initial
  sound _ _ h := by simp [DeliveryState.initial] at h
  stream entry h := by simp [DeliveryState.initial, MarkerState.initial] at h
  workers _ _ h := by simp [DeliveryState.initial] at h
  claims _ h := by simp [DeliveryState.initial] at h

lemma invariant_of_run {ops : List DeliveryOp}
    (hrun : run (deliveryStep names) .initial ops = some s) : Invariant names s :=
  run_invariant (fun _ _ _ h hstep => Invariant.step h hstep) invariant_initial hrun

end System

end DeliveryState

end HyperCopy

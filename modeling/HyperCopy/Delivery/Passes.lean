import HyperCopy.Delivery.Accounts

/-!
# What a pass over the queue writes

A row that a pass of `repair_stream` writes carries the time of the pass, and if it still waits it
has a new message (`Stamped`).  A row that does not wait is left alone unless its repair is replayed
(`lookup_repairStream`).
-/

namespace HyperCopy.DeliveryState

variable {names : JobText} {s s' s'' : DeliveryState} {jobId k : JobId} {job : QueuedJob}
  {reads : PassReads}

/-! ## Writes carry the time -/

/-- A row that is written after `s`: it ends, or it keeps its state, and where it still waits it has
a new entry in the stream. -/
structure Written (names : JobText) (s s' : DeliveryState) (jobId : JobId) (old job : QueuedJob) :
    Prop where
  updatedAt : job.updatedAt = s.clock
  state : job.state = old.state ∨ job.state = .skipped
  published : job.state.waiting = true → job.enqueuedAt = some s.clock ∧
    names.text jobId ∈ s'.markers.stream.drop s.markers.stream.length

/-- The rows that differ are written at the time of `s`. -/
structure Stamped (names : JobText) (s s' : DeliveryState) : Prop where
  clock : s'.clock = s.clock
  stream : s.markers.stream <+: s'.markers.stream
  rows : ∀ jobId, s'.jobs.lookup jobId = s.jobs.lookup jobId ∨
    ∃ old job, s.jobs.lookup jobId = some old ∧ s'.jobs.lookup jobId = some job ∧
      Written names s s' jobId old job

lemma mem_drop_of_extends {α : Type} {l l' : List α} {a : α} {n : ℕ} (h : l <+: l')
    (ha : a ∈ l.drop n) : a ∈ l'.drop n :=
  (h.drop n).subset ha

lemma mem_drop_of_le {α : Type} {l : List α} {a : α} {m n : ℕ} (h : m ≤ n) (ha : a ∈ l.drop n) :
    a ∈ l.drop m := by
  obtain ⟨d, rfl⟩ := Nat.exists_eq_add_of_le h
  rw [← List.drop_drop] at ha
  exact List.mem_of_mem_drop ha

lemma Stamped.refl (s : DeliveryState) : Stamped names s s :=
  ⟨rfl, List.prefix_rfl, fun _ => Or.inl rfl⟩

lemma Stamped.trans (h : Stamped names s s') (h' : Stamped names s' s'') : Stamped names s s'' := by
  refine ⟨h'.clock.trans h.clock, h.stream.trans h'.stream, fun jobId => ?_⟩
  obtain heq | ⟨mid, job, hmid, hjob, hlater⟩ := h'.rows jobId
  · rw [heq]
    refine (h.rows jobId).imp_right ?_
    rintro ⟨old, job, hold, hjob, hwritten⟩
    refine ⟨old, job, hold, hjob, hwritten.updatedAt, hwritten.state, fun hwaiting => ?_⟩
    exact (hwritten.published hwaiting).imp_right (mem_drop_of_extends h'.stream)
  · have hpublished : job.state.waiting = true → job.enqueuedAt = some s.clock ∧
        names.text jobId ∈ s''.markers.stream.drop s.markers.stream.length := by
      intro hwaiting
      rw [← h.clock]
      exact (hlater.published hwaiting).imp_right (mem_drop_of_le h.stream.length_le)
    have htime : job.updatedAt = s.clock := hlater.updatedAt.trans h.clock
    right
    obtain heq | ⟨old, mid', hold, hmid', hearlier⟩ := h.rows jobId
    · exact ⟨mid, job, heq ▸ hmid, hjob, htime, hlater.state, hpublished⟩
    · obtain rfl : mid = mid' := Option.some.inj (hmid.symm.trans hmid')
      refine ⟨old, job, hold, hjob, htime, ?_, hpublished⟩
      obtain hstate | hskipped := hlater.state
      · rw [hstate]
        exact hearlier.state
      · exact Or.inr hskipped

lemma stamped_foldl {α : Type} {f : DeliveryState → α → DeliveryState} {items : List α}
    (hf : ∀ s, ∀ item ∈ items, Stamped names s (f s item)) :
    ∀ {s : DeliveryState}, Stamped names s (items.foldl f s) := by
  induction items with
  | nil => exact .refl _
  | cons item items ih =>
      intro s
      refine (hf s item List.mem_cons_self).trans (ih fun s item hitem => ?_)
      exact hf s item (List.mem_cons_of_mem _ hitem)

lemma lookup_setJob_of_ne {f : QueuedJob → QueuedJob} (h : jobId ≠ k) :
    (s.setJob k f).jobs.lookup jobId = s.jobs.lookup jobId := by
  rw [lookup_setJob, if_neg h]

/-- Scripts and the write of one row behind them. -/
lemma stamped_setJob {markers : MarkerState} {f : QueuedJob → QueuedJob}
    (hstream : s.markers.stream <+: markers.stream)
    (hstate : ∀ job, (f job).state = job.state ∨ (f job).state = .skipped)
    (hf : ∀ job, s.jobs.lookup k = some job → (f job).state.waiting = true →
      (f job).enqueuedAt = some s.clock ∧
        names.text k ∈ markers.stream.drop s.markers.stream.length) :
    Stamped names s ({ s with markers }.setJob k f) := by
  refine ⟨rfl, hstream, fun jobId => ?_⟩
  by_cases hid : jobId = k
  · subst hid
    rw [lookup_setJob, if_pos rfl]
    cases hjob : s.jobs.lookup jobId with
    | none => exact Or.inl rfl
    | some job => exact Or.inr ⟨job, _, rfl, rfl, rfl, hstate job, hf job hjob⟩
  · exact Or.inl (lookup_setJob_of_ne hid)

lemma stamped_skip : Stamped names s (s.setJob k .skip) :=
  stamped_setJob List.prefix_rfl (fun _ => Or.inr rfl) fun _ _ hwaiting => by cases hwaiting

lemma stamped_markSuperseded : Stamped names s (s.markSuperseded k) := by
  unfold markSuperseded
  split_ifs
  · exact stamped_skip
  · exact .refl s

lemma stamped_prepareDelivery (pub : PublishReads) :
    Stamped names s (s.prepareDelivery k job pub).1 := by
  obtain heq | heq := prepareDelivery_cases s k job pub <;> rw [heq]
  · exact stamped_skip
  · exact stamped_foldl fun _ _ _ => stamped_markSuperseded

lemma mem_drop_append_singleton {α : Type} (l : List α) (a : α) : a ∈ (l ++ [a]).drop l.length := by
  rw [List.drop_left]
  exact List.mem_singleton_self a

lemma stamped_enqueued : Stamped names s ((s.append (names.text k)).enqueued k) :=
  stamped_setJob (List.prefix_append _ _) (fun _ => Or.inl rfl)
    fun _ _ _ => ⟨rfl, mem_drop_append_singleton _ _⟩

lemma stamped_publishJob (pub : PublishReads) : Stamped names s (s.publishJob names k job pub) := by
  unfold publishJob
  split_ifs
  · exact stamped_skip
  · have hprepared : Stamped names s (s.prepareDelivery k job pub).1 := stamped_prepareDelivery pub
    obtain heq | heq := prepareDelivery_cases s k job pub <;> rw [heq] at hprepared ⊢
    · exact hprepared
    · exact hprepared.trans stamped_enqueued

lemma stamped_publishRepairJob {order : ℤ} (hs : s.markers.Ok) (horder : 0 < order) :
    Stamped names s (s.publishRepairJob names k job order reads) := by
  unfold publishRepairJob
  split_ifs
  · exact stamped_skip
  · rw [publishMasterLeverageRepair_eq_ok horder]
    have haccounted := hs.accounted.withStream (s.markers.stream ++ [names.text k])
    refine stamped_setJob ?_ (fun _ => Or.inl rfl) fun _ _ _ => ⟨rfl, ?_⟩
    · rw [repairMarker_stream haccounted]
      exact List.prefix_append _ _
    · rw [repairMarker_stream haccounted]
      exact mem_drop_append_singleton _ _

lemma stamped_repairJob (hs : s.markers.Ok) : Stamped names s (s.repairJob names k reads) := by
  unfold repairJob
  cases hjob : s.jobs.lookup k with
  | none => exact .refl s
  | some job =>
    have hprepared : Stamped names s (s.prepareDelivery k job (reads.job k)).1 :=
      stamped_prepareDelivery (reads.job k)
    have hkept : Keeps names s (s.prepareDelivery k job (reads.job k)).1 :=
      keeps_prepareDelivery hs (reads.job k)
    dsimp only
    obtain heq | heq := prepareDelivery_cases s k job (reads.job k) <;>
      rw [heq] at hprepared hkept ⊢
    · exact hprepared
    · dsimp only
      cases hevidence : job.evidence with
      | none => exact hprepared.trans (stamped_publishJob _)
      | some order =>
        exact hprepared.trans
          (stamped_publishRepairJob hkept.markers (evidence_pos hevidence).2)

lemma stamped_expireStaleStrategyJobs : Stamped names s (s.expireStaleStrategyJobs reads) :=
  stamped_foldl fun _ _ _ => stamped_skip

lemma stamped_replayRepair (hs : s.markers.Ok)
    (hwaiting : ∀ job, s.jobs.lookup k = some job → job.state.waiting = false) :
    Stamped names s (s.replayRepair k reads) := by
  unfold replayRepair
  cases hjob : s.jobs.lookup k with
  | none => exact .refl s
  | some job =>
    cases hevidence : job.evidence with
    | none =>
        simp only [hevidence]
        exact .refl s
    | some order =>
      have hpos : ¬ order ≤ 0 := not_le.2 (evidence_pos hevidence).2
      simp only [hevidence, recordMasterLeverageRepaired, if_neg hpos]
      refine stamped_setJob ?_ (fun _ => Or.inl rfl) fun job' hjob' hwaits => ?_
      · rw [repairMarker_stream hs.accounted]
      · obtain rfl : job = job' := Option.some.inj (hjob.symm.trans hjob')
        rw [hwaiting job hjob] at hwaits
        cases hwaits

/-! ## Rows that a pass leaves alone -/

lemma mem_select {p : JobId → QueuedJob → Bool} :
    k ∈ s.select p ↔ ∃ job, s.jobs.lookup k = some job ∧ p k job = true := by
  unfold select
  rw [List.mem_filter, ← AList.mem_keys, ← AList.lookup_isSome, Option.isSome_iff_exists,
    Option.any_eq_true]
  constructor
  · exact fun h => h.2
  · exact fun h => ⟨h.imp fun _ h => h.1, h⟩

lemma nodup_select {p : JobId → QueuedJob → Bool} : (s.select p).Nodup :=
  s.jobs.keys_nodup.filter _

lemma lookup_foldl {α : Type} {f : DeliveryState → α → DeliveryState} {items : List α}
    (hf : ∀ s, ∀ item ∈ items, s.jobs.lookup jobId = some job →
      (f s item).jobs.lookup jobId = some job) :
    ∀ {s : DeliveryState}, s.jobs.lookup jobId = some job →
      (items.foldl f s).jobs.lookup jobId = some job := by
  induction items with
  | nil => exact fun h => h
  | cons item items ih =>
      intro s h
      refine ih (fun s item hitem => hf s item (List.mem_cons_of_mem _ hitem)) ?_
      exact hf s item List.mem_cons_self h

lemma lookup_publishRepairJob_of_ne {job' : QueuedJob} (hjob : s.jobs.lookup jobId = some job)
    (hne : jobId ≠ k) {order : ℤ} :
    (s.publishRepairJob names k job' order reads).jobs.lookup jobId = some job := by
  unfold publishRepairJob
  split_ifs
  · rw [lookup_setJob_of_ne hne, hjob]
  · cases publishMasterLeverageRepair s.markers (names.text k) job'.userId job'.asset order 100000
      reads.sloSeconds reads.redisTime with
    | error _ => exact hjob
    | ok markers =>
      dsimp only
      rw [lookup_setJob_of_ne hne]
      exact hjob

section Rests

variable {job' : QueuedJob} (hjob : s.jobs.lookup jobId = some job)
  (hrests : job.state.waiting = false)

include hjob hrests

lemma lookup_markSuperseded_of_rests : (s.markSuperseded k).jobs.lookup jobId = some job := by
  unfold markSuperseded
  split_ifs with hwaiting
  · rw [lookup_setJob_of_ne, hjob]
    rintro rfl
    rw [hjob] at hwaiting
    simp [hrests] at hwaiting
  · exact hjob

lemma lookup_prepareDelivery_of_rests (hne : jobId ≠ k) (pub : PublishReads) :
    (s.prepareDelivery k job' pub).1.jobs.lookup jobId = some job := by
  obtain heq | heq := prepareDelivery_cases s k job' pub <;> rw [heq]
  · rw [lookup_setJob_of_ne hne, hjob]
  · exact lookup_foldl (fun _ _ _ h => lookup_markSuperseded_of_rests h hrests) hjob

lemma lookup_publishJob_of_rests (hne : jobId ≠ k) (pub : PublishReads) :
    (s.publishJob names k job' pub).jobs.lookup jobId = some job := by
  unfold publishJob
  split_ifs
  · rw [lookup_setJob_of_ne hne, hjob]
  · have hprepared : (s.prepareDelivery k job' pub).1.jobs.lookup jobId = some job :=
      lookup_prepareDelivery_of_rests hjob hrests hne pub
    obtain heq | heq := prepareDelivery_cases s k job' pub <;> rw [heq] at hprepared ⊢
    · exact hprepared
    · unfold enqueued
      rw [lookup_setJob_of_ne hne]
      exact hprepared

lemma lookup_repairJob_of_rests (hne : jobId ≠ k) :
    (s.repairJob names k reads).jobs.lookup jobId = some job := by
  unfold repairJob
  cases hk : s.jobs.lookup k with
  | none => exact hjob
  | some job' =>
    have hprepared : (s.prepareDelivery k job' (reads.job k)).1.jobs.lookup jobId = some job :=
      lookup_prepareDelivery_of_rests hjob hrests hne (reads.job k)
    dsimp only
    obtain heq | heq := prepareDelivery_cases s k job' (reads.job k) <;> rw [heq] at hprepared ⊢
    · exact hprepared
    · dsimp only
      cases job'.evidence with
      | none => exact lookup_publishJob_of_rests hprepared hrests hne _
      | some order => exact lookup_publishRepairJob_of_ne hprepared hne

lemma lookup_expireStaleStrategyJobs_of_rests :
    (s.expireStaleStrategyJobs reads).jobs.lookup jobId = some job := by
  refine lookup_foldl (fun s k hk h => ?_) hjob
  rw [lookup_setJob_of_ne, h]
  rintro rfl
  obtain ⟨job', hjob', hp⟩ := mem_select.1 (Backlog.mem_of_mem_oldest hk)
  obtain rfl : job = job' := Option.some.inj (hjob.symm.trans hjob')
  simp [hrests] at hp

end Rests

/-! ## The stages of a pass -/

/-- The second stage of a pass. -/
def replayCompletedRepairs (s : DeliveryState) (reads : PassReads) : DeliveryState :=
  (s.replayRows reads).foldl (fun s jobId => s.replayRepair jobId reads) s

/-- The third stage of a pass. -/
def publishStaleRows (names : JobText) (s : DeliveryState) (reads : PassReads) : DeliveryState :=
  (s.staleRows reads).foldl (fun s jobId => s.repairJob names jobId reads) s

lemma repairStream_eq : s.repairStream names reads =
    publishStaleRows names ((s.expireStaleStrategyJobs reads).replayCompletedRepairs reads) reads := by
  unfold repairStream repairItems replayCompletedRepairs publishStaleRows
  dsimp only
  rw [List.foldl_append, List.foldl_map, List.foldl_map]
  rfl

lemma lookup_replayRepair_of_ne (h : jobId ≠ k) :
    (s.replayRepair k reads).jobs.lookup jobId = s.jobs.lookup jobId := by
  unfold replayRepair
  cases s.jobs.lookup k with
  | none => rfl
  | some job =>
    cases hevidence : job.evidence with
    | none => simp only [hevidence]
    | some order =>
      simp only [hevidence]
      exact lookup_setJob_of_ne h

lemma lookup_replayCompletedRepairs_of_not_mem (hjob : s.jobs.lookup jobId = some job)
    (h : jobId ∉ s.replayRows reads) :
    (s.replayCompletedRepairs reads).jobs.lookup jobId = some job := by
  refine lookup_foldl (fun s k hk hrow => ?_) hjob
  rw [lookup_replayRepair_of_ne, hrow]
  rintro rfl
  exact h hk

lemma lookup_publishStaleRows_of_rests (hjob : s.jobs.lookup jobId = some job)
    (hrests : job.state.waiting = false) :
    (publishStaleRows names s reads).jobs.lookup jobId = some job := by
  refine lookup_foldl (fun s k hk hrow => lookup_repairJob_of_rests hrow hrests ?_) hjob
  rintro rfl
  obtain ⟨job', hjob', hp⟩ := mem_select.1 (Backlog.mem_of_mem_oldest hk)
  obtain rfl : job = job' := Option.some.inj (hjob.symm.trans hjob')
  simp [QueuedJob.claimable, hrests] at hp

/-- A row that does not wait is left alone unless its repair is replayed. -/
lemma lookup_repairStream_of_rests (hjob : s.jobs.lookup jobId = some job)
    (hrests : job.state.waiting = false)
    (h : jobId ∉ (s.expireStaleStrategyJobs reads).replayRows reads) :
    (s.repairStream names reads).jobs.lookup jobId = some job := by
  rw [repairStream_eq]
  have hexpired : (s.expireStaleStrategyJobs reads).jobs.lookup jobId = some job :=
    lookup_expireStaleStrategyJobs_of_rests hjob hrests
  have hreplayed := lookup_replayCompletedRepairs_of_not_mem hexpired h
  exact lookup_publishStaleRows_of_rests hreplayed hrests

/-! ## Replays -/

/-- A replay records the repair and its account. -/
lemma replayRepair_of_evidence (hs : s.markers.Ok) (hjob : s.jobs.lookup jobId = some job) {order : ℤ}
    (hevidence : job.evidence = some order) :
    (s.replayRepair jobId reads).jobs.lookup jobId =
        some { job with context := markRepairAccounted job.context order, updatedAt := s.clock } ∧
      (s.replayRepair jobId reads).Recorded job := by
  have hpos : ¬ order ≤ 0 := not_le.2 (evidence_pos hevidence).2
  unfold replayRepair
  simp only [hjob, hevidence, recordMasterLeverageRepaired, if_neg hpos]
  refine ⟨?_, recorded_of_repaired hevidence (repaired_repairMarker hs.accounted)⟩
  rw [lookup_setJob, if_pos rfl, hjob]
  rfl

lemma clock_replayRepair : (s.replayRepair k reads).clock = s.clock := by
  unfold replayRepair
  cases s.jobs.lookup k with
  | none => rfl
  | some job =>
    cases hevidence : job.evidence with
    | none => simp only [hevidence]
    | some order => simp only [hevidence]; rfl

lemma clock_foldl_replayRepair (rows : List JobId) : ∀ s : DeliveryState,
    (rows.foldl (fun s jobId => s.replayRepair jobId reads) s).clock = s.clock := by
  induction rows with
  | nil => exact fun _ => rfl
  | cons k rows ih => exact fun s => (ih _).trans clock_replayRepair

/-- A replay changes the state of no job. -/
lemma state_replayRepair (hjob : (s.replayRepair k reads).jobs.lookup jobId = some job) :
    ∃ job', s.jobs.lookup jobId = some job' ∧ job'.state = job.state := by
  by_cases hne : jobId = k
  · subst hne
    unfold replayRepair at hjob
    cases hrow : s.jobs.lookup jobId with
    | none => simp [hrow] at hjob
    | some job' =>
      cases hevidence : job'.evidence with
      | none =>
          simp only [hrow, hevidence] at hjob
          exact ⟨job', rfl, by rw [Option.some.inj hjob]⟩
      | some order =>
          simp only [hrow, hevidence] at hjob
          rw [lookup_setJob, if_pos rfl, hrow] at hjob
          exact ⟨job', rfl, by rw [← Option.some.inj hjob]⟩
  · rw [lookup_replayRepair_of_ne hne] at hjob
    exact ⟨job, hjob, rfl⟩

/-- Replays of jobs that do not wait carry the time. -/
lemma stamped_foldl_replayRepair {rows : List JobId} : ∀ {s : DeliveryState}, s.markers.Ok →
    (∀ k ∈ rows, ∀ job, s.jobs.lookup k = some job → job.state.waiting = false) →
    Stamped names s (rows.foldl (fun s jobId => s.replayRepair jobId reads) s) := by
  induction rows with
  | nil => exact fun _ _ => .refl _
  | cons k rows ih =>
      intro s hs hrests
      have hkept : Keeps names s (s.replayRepair k reads) := keeps_replayRepair hs
      refine (stamped_replayRepair hs (hrests k List.mem_cons_self)).trans
        (ih hkept.markers fun k' hk' job hjob => ?_)
      obtain ⟨job', hjob', hstate⟩ := state_replayRepair hjob
      rw [← hstate]
      exact hrests k' (List.mem_cons_of_mem _ hk') job' hjob'

lemma keeps_replayCompletedRepairs (hs : s.markers.Ok) :
    Keeps names s (s.replayCompletedRepairs reads) :=
  keeps_foldl (fun _ _ _ hs => keeps_replayRepair hs) hs

lemma waiting_of_owesAccount (h : owesAccount job = true) : job.state.waiting = false := by
  simp only [owesAccount, Bool.and_eq_true, Bool.or_eq_true, decide_eq_true_eq] at h
  obtain ⟨⟨hstate | hstate, -⟩, -⟩ := h <;> rw [hstate] <;> rfl

lemma mem_replayRows (h : k ∈ s.replayRows reads) :
    ∃ job, s.jobs.lookup k = some job ∧ owesAccount job = true := by
  obtain ⟨job, hjob, hp⟩ := mem_select.1 (Backlog.mem_of_mem_oldest h)
  exact ⟨job, hjob, (Bool.and_eq_true _ _ ▸ hp).1⟩

lemma stamped_replayCompletedRepairs (hs : s.markers.Ok) :
    Stamped names s (s.replayCompletedRepairs reads) := by
  refine stamped_foldl_replayRepair hs fun k hk job hjob => ?_
  obtain ⟨job', hjob', howes⟩ := mem_replayRows hk
  obtain rfl : job = job' := Option.some.inj (hjob.symm.trans hjob')
  exact waiting_of_owesAccount howes

lemma stamped_foldl_repairJob {rows : List JobId} : ∀ {s : DeliveryState}, s.markers.Ok →
    Stamped names s (rows.foldl (fun s jobId => s.repairJob names jobId reads) s) := by
  induction rows with
  | nil => exact fun _ => .refl _
  | cons k rows ih =>
      intro s hs
      have hkept : Keeps names s (s.repairJob names k reads) := keeps_repairJob hs
      exact (stamped_repairJob hs).trans (ih hkept.markers)

lemma stamped_repairStream (hs : s.markers.Ok) : Stamped names s (s.repairStream names reads) := by
  rw [repairStream_eq]
  have hexpired : Keeps names s (s.expireStaleStrategyJobs reads) := keeps_expireStaleStrategyJobs hs
  have hreplayed : Keeps names _ ((s.expireStaleStrategyJobs reads).replayCompletedRepairs reads) :=
    keeps_replayCompletedRepairs hexpired.markers
  exact (stamped_expireStaleStrategyJobs.trans
    (stamped_replayCompletedRepairs hexpired.markers)).trans
      (stamped_foldl_repairJob hreplayed.markers)

/-- A row among the replays is settled by them. -/
lemma replayCompletedRepairs_of_mem (names : JobText) (hs : s.markers.Ok)
    (hmem : jobId ∈ s.replayRows reads) (hjob : s.jobs.lookup jobId = some job) {order : ℤ}
    (hevidence : job.evidence = some order) :
    (s.replayCompletedRepairs reads).jobs.lookup jobId =
        some { job with context := markRepairAccounted job.context order, updatedAt := s.clock } ∧
      (s.replayCompletedRepairs reads).Recorded job := by
  have hnodup : (s.replayRows reads).Nodup := Backlog.nodup_oldest nodup_select
  unfold replayCompletedRepairs
  obtain ⟨earlier, later, heq⟩ := List.append_of_mem hmem
  rw [heq] at hnodup ⊢
  have hearlier : jobId ∉ earlier := fun h =>
    (List.disjoint_of_nodup_append hnodup) h List.mem_cons_self
  have hlater : jobId ∉ later := (List.nodup_cons.1 (List.nodup_append.1 hnodup).2.1).1
  rw [List.foldl_append, List.foldl_cons]
  set mid := earlier.foldl (fun s jobId => s.replayRepair jobId reads) s with hmid
  have hmarkers : Keeps names s mid := keeps_foldl (fun _ _ _ hs => keeps_replayRepair hs) hs
  have hrow : mid.jobs.lookup jobId = some job := by
    refine lookup_foldl (fun s k hk h => ?_) hjob
    rw [lookup_replayRepair_of_ne, h]
    rintro rfl
    exact hearlier hk
  have hclock : mid.clock = s.clock := clock_foldl_replayRepair earlier s
  obtain ⟨hwritten, hrecorded⟩ := @replayRepair_of_evidence mid jobId job reads hmarkers.markers hrow
    order hevidence
  have hkept : Keeps names mid (mid.replayRepair jobId reads) := keeps_replayRepair hmarkers.markers
  have hrest : Keeps names (mid.replayRepair jobId reads)
      (later.foldl (fun s jobId => s.replayRepair jobId reads) (mid.replayRepair jobId reads)) :=
    keeps_foldl (fun _ _ _ hs => keeps_replayRepair hs) hkept.markers
  refine ⟨?_, hrecorded.mono hrest.watermarks (.refl _)⟩
  rw [← hclock]
  refine lookup_foldl (fun s k hk h => ?_) hwritten
  rw [lookup_replayRepair_of_ne, h]
  rintro rfl
  exact hlater hk

end HyperCopy.DeliveryState

import HyperCopy.Delivery.Republish

/-!
# Progress without the stream

While Redis is away a worker takes the oldest job it can claim from the database, again and again.
A round ends the job, or it uses up one of its attempts, so every job is reached after as many
rounds as the jobs that are not newer have attempts left (`exists_reached`), whatever the rounds
read and however the clock moves between them.  What no worker can claim is released first: every
active job waits, or has a lease that ends (`active_job_reached`).

Two ends of an attempt do not use it up: a RISEx job that is deferred for resolution, or for its
window, keeps its place.  Rounds that end so are left out, and with reason: the oldest job can be
deferred in every round.
-/

namespace HyperCopy

open Transition DeliveryState

/-- The attempts a waiting job has left, and the wait itself. -/
def QueuedJob.budget (job : QueuedJob) : ℕ :=
  if job.state.waiting then 1 + (maxJobRetries - job.attemptCount) else 0

/-- One round of a worker that has nothing to do: `_next_database_job_id`, with the expiry in front
of its loop, and `handle_job_id`. -/
structure FallbackRound where
  clock : ℕ
  expires : Bool
  reads : PassReads
  handle : HandleReads
  outcome : AttemptEnd

/-- The steps a round tries. -/
def FallbackRound.ops (round : FallbackRound) (worker : WorkerId) : List DeliveryOp :=
  .tick round.clock :: (if round.expires then [.expire round.reads] else []) ++
    [.takeFromDatabase worker round.reads, .load worker, .refuse worker round.handle,
      .claim worker, .finish worker round.outcome]

/-- The attempt ends the job or counts. -/
def AttemptEnd.counts : AttemptEnd → Bool
  | finish state => !state.active
  | retryOrDead _ => true
  | windowUnavailable | deferForResolution => false

/-- No row is locked by anybody else, and an attempt counts. -/
structure FallbackRound.Counts (round : FallbackRound) : Prop where
  free : ∀ jobId, round.reads.locked jobId = false
  outcome : round.outcome.counts = true

namespace DeliveryState

variable {names : JobText} {s s' s'' : DeliveryState} {jobId k : JobId} {job : QueuedJob}
  {worker : WorkerId}

/-! ## Steps that only end jobs -/

/-- The rows that differ are skipped, and nothing is claimed or taken. -/
structure SkipsOnly (s s' : DeliveryState) : Prop where
  rows : ∀ jobId, s'.jobs.lookup jobId = s.jobs.lookup jobId ∨
    ∃ job job', s.jobs.lookup jobId = some job ∧ s'.jobs.lookup jobId = some job' ∧
      job'.state = .skipped ∧ job'.createdAt = job.createdAt
  claims : s'.claims = s.claims
  workers : s'.workers = s.workers
  clock : s'.clock = s.clock

lemma SkipsOnly.refl (s : DeliveryState) : SkipsOnly s s := ⟨fun _ => Or.inl rfl, rfl, rfl, rfl⟩

lemma SkipsOnly.trans (h : SkipsOnly s s') (h' : SkipsOnly s' s'') : SkipsOnly s s'' := by
  refine ⟨fun jobId => ?_, h'.claims.trans h.claims, h'.workers.trans h.workers,
    h'.clock.trans h.clock⟩
  obtain heq | ⟨job', job'', hjob', hjob'', hskipped, hcreated⟩ := h'.rows jobId
  · rw [heq]
    exact h.rows jobId
  · right
    obtain heq | ⟨job, mid, hjob, hmid, -, hcreated'⟩ := h.rows jobId
    · exact ⟨job', job'', heq ▸ hjob', hjob'', hskipped, hcreated⟩
    · obtain rfl : job' = mid := Option.some.inj (hjob'.symm.trans hmid)
      exact ⟨job, job'', hjob, hjob'', hskipped, hcreated.trans hcreated'⟩

lemma skipsOnly_foldl {α : Type} {f : DeliveryState → α → DeliveryState} {items : List α}
    (hf : ∀ s item, SkipsOnly s (f s item)) :
    ∀ {s : DeliveryState}, SkipsOnly s (items.foldl f s) := by
  induction items with
  | nil => exact .refl _
  | cons item items ih => exact (hf _ item).trans ih

lemma skipsOnly_skip : SkipsOnly s (s.setJob k .skip) := by
  refine ⟨fun jobId => ?_, rfl, rfl, rfl⟩
  by_cases hid : jobId = k
  · subst hid
    rw [lookup_setJob, if_pos rfl]
    cases hjob : s.jobs.lookup jobId with
    | none => exact Or.inl rfl
    | some job => exact Or.inr ⟨job, _, rfl, rfl, rfl, rfl⟩
  · exact Or.inl (lookup_setJob_of_ne hid)

lemma skipsOnly_markSuperseded : SkipsOnly s (s.markSuperseded k) := by
  unfold markSuperseded
  split_ifs
  · exact skipsOnly_skip
  · exact .refl s

lemma skipsOnly_expireStaleStrategyJobs {reads : PassReads} :
    SkipsOnly s (s.expireStaleStrategyJobs reads) :=
  skipsOnly_foldl fun _ _ => skipsOnly_skip

/-! ## A worker with a job -/

/-- What `handle_job_id` tries with the job a worker has selected. -/
def handleJob (names : JobText) (s : DeliveryState) (worker : WorkerId) (handle : HandleReads)
    (outcome : AttemptEnd) : DeliveryState :=
  [.load worker, .refuse worker handle, .claim worker, .finish worker outcome].foldl
    (attempt (deliveryStep names)) s

lemma lookup_putWorker (s : DeliveryState) (worker : WorkerId) (phase : WorkerPhase) :
    (s.putWorker worker phase).workers.lookup worker = some phase :=
  AList.lookup_insert _

lemma lookup_dropWorker (s : DeliveryState) (worker : WorkerId) :
    (s.dropWorker worker).workers.lookup worker = none :=
  AList.lookup_erase _ _

/-- What is left of a round once the worker has nothing to do. -/
lemma foldl_attempt_of_free (h : s.workers.lookup worker = none) (handle : HandleReads)
    (outcome : AttemptEnd) :
    [.refuse worker handle, .claim worker, .finish worker outcome].foldl
        (attempt (deliveryStep names)) s = s ∧
      [.claim worker, .finish worker outcome].foldl (attempt (deliveryStep names)) s = s := by
  have hrefuse : deliveryStep names s (.refuse worker handle) = none := by
    simp only [deliveryStep, refuse, h]
  have hclaim : deliveryStep names s (.claim worker) = none := by
    simp only [deliveryStep, claim, h]
  have hfinish : deliveryStep names s (.finish worker outcome) = none := by
    simp only [deliveryStep, finish, h]
  simp only [List.foldl_cons, List.foldl_nil, attempt_of_eq_none hrefuse,
    attempt_of_eq_none hclaim, attempt_of_eq_none hfinish, and_self]

lemma handleJob_of_free (h : s.workers.lookup worker = none) (handle : HandleReads)
    (outcome : AttemptEnd) : handleJob names s worker handle outcome = s := by
  have hload : deliveryStep names s (.load worker) = none := by
    simp only [deliveryStep, load, h]
  rw [handleJob, List.foldl_cons, attempt_of_eq_none hload]
  exact (foldl_attempt_of_free h handle outcome).1

/-- A job that has ended is left alone. -/
lemma handleJob_of_ended (hphase : s.workers.lookup worker = some (.selected k))
    (hjob : s.jobs.lookup k = some job) (hended : job.state.active = false) (handle : HandleReads)
    (outcome : AttemptEnd) : handleJob names s worker handle outcome = s.dropWorker worker := by
  have hload : deliveryStep names s (.load worker) = some (s.dropWorker worker) := by
    simp only [deliveryStep, load, hphase, hjob, hended, Bool.false_eq_true, if_false]
  rw [handleJob, List.foldl_cons, attempt_of_eq_some hload]
  exact (foldl_attempt_of_free (lookup_dropWorker s worker) handle outcome).1

/-- What a worker has done with a job it could claim. -/
structure Handled (s t : DeliveryState) (worker : WorkerId) (k : JobId) (job : QueuedJob) : Prop where
  free : t.workers.lookup worker = none
  clock : t.clock = s.clock
  others : ∀ i, i ≠ k → t.jobs.lookup i = s.jobs.lookup i
  row : ∃ job', t.jobs.lookup k = some job' ∧ job'.createdAt = job.createdAt ∧
    job'.budget < job.budget ∧
      (job'.state = .skipped ∧ t.claims = s.claims ∨ t.claims = k :: s.claims)

lemma budget_pos (h : job.claimable s.clock = true) : 0 < job.budget := by
  simp only [QueuedJob.claimable, Bool.and_eq_true] at h
  rw [QueuedJob.budget, if_pos h.1]
  omega

/-- An attempt that counts leaves fewer of them. -/
lemma budget_endAttempt_lt (hclaimable : job.claimable s.clock = true) {outcome : AttemptEnd}
    (hcounts : outcome.counts = true) {claimed : QueuedJob}
    (hattempt : claimed.attemptCount = job.attemptCount + 1)
    {row : QueuedJob} (hrow : row.attemptCount = job.attemptCount + 1) {now : ℕ} :
    (row.endAttempt claimed now outcome).budget < job.budget := by
  have hpos : 0 < job.budget := budget_pos hclaimable
  cases outcome with
  | finish state =>
      have hnot : state.waiting = false := by
        cases state <;> simp [AttemptEnd.counts, JobState.active] at hcounts <;> rfl
      simpa [QueuedJob.budget, QueuedJob.endAttempt, hnot] using hpos
  | retryOrDead delay =>
      simp only [QueuedJob.endAttempt]
      split_ifs with hmax
      · exact hpos
      · simp only [QueuedJob.claimable, Bool.and_eq_true] at hclaimable
        have hjob : job.budget = 1 + (maxJobRetries - job.attemptCount) := if_pos hclaimable.1
        rw [hjob]
        show 1 + (maxJobRetries - row.attemptCount) < 1 + (maxJobRetries - job.attemptCount)
        omega
  | windowUnavailable | deferForResolution => cases hcounts

lemma handled_handleJob (hphase : s.workers.lookup worker = some (.selected k))
    (hjob : s.jobs.lookup k = some job) (hclaimable : job.claimable s.clock = true)
    (handle : HandleReads) {outcome : AttemptEnd} (hcounts : outcome.counts = true) :
    Handled s (handleJob names s worker handle outcome) worker k job := by
  have hwaiting : job.state.waiting = true := by
    simp only [QueuedJob.claimable, Bool.and_eq_true] at hclaimable
    exact hclaimable.1
  have hactive : job.state.active = true := by
    cases hstate : job.state <;> rw [hstate] at hwaiting <;> first | rfl | cases hwaiting
  have hload : deliveryStep names s (.load worker) =
      some (s.putWorker worker (.loaded k job)) := by
    simp only [deliveryStep, load, hphase, hjob, hactive, if_true]
  set loaded := s.putWorker worker (.loaded k job) with hloaded
  have hholds : loaded.workers.lookup worker = some (.loaded k job) := lookup_putWorker ..
  have hrow : loaded.jobs.lookup k = some job := hjob
  rw [handleJob, List.foldl_cons, attempt_of_eq_some hload]
  by_cases haccepts : handle.accepts = true
  · have hrefuse : deliveryStep names loaded (.refuse worker handle) = none := by
      simp only [deliveryStep, refuse, hholds, haccepts, if_true]
    set claimed := job.claim job worker s.clock with hclaimed
    have hclaim : deliveryStep names loaded (.claim worker) = some
        { (loaded.setJob k fun _ => claimed).putWorker worker (.running k claimed) with
          claims := k :: s.claims } := by
      have hnow : job.claimable loaded.clock = true := hclaimable
      simp only [deliveryStep, claim, hholds, hrow, hnow, if_true]
      rfl
    set running : DeliveryState :=
      { (loaded.setJob k fun _ => claimed).putWorker worker (.running k claimed) with
        claims := k :: s.claims } with hrunning
    have hruns : running.workers.lookup worker = some (.running k claimed) := lookup_putWorker ..
    have hterminal : outcome.terminal = true := by
      cases outcome with
      | finish state => exact hcounts
      | retryOrDead | windowUnavailable | deferForResolution => rfl
    have hfinish : deliveryStep names running (.finish worker outcome) =
        some ((running.setJob k fun job =>
          job.endAttempt claimed s.clock outcome).dropWorker worker) := by
      simp only [deliveryStep, finish, hruns, hterminal, if_true]
      rfl
    rw [List.foldl_cons, attempt_of_eq_none hrefuse, List.foldl_cons, attempt_of_eq_some hclaim,
      List.foldl_cons, attempt_of_eq_some hfinish, List.foldl_nil]
    have hclaimedRow : running.jobs.lookup k = some { claimed with updatedAt := s.clock } := by
      show (loaded.setJob k fun _ => claimed).jobs.lookup k = _
      rw [lookup_setJob, if_pos rfl, hrow]
      rfl
    refine ⟨lookup_dropWorker .., rfl, fun i hi => ?_, ?_⟩
    · show (running.setJob k _).jobs.lookup i = _
      rw [lookup_setJob_of_ne hi]
      exact lookup_setJob_of_ne hi
    · refine ⟨{ QueuedJob.endAttempt { claimed with updatedAt := s.clock } claimed s.clock outcome with
        updatedAt := s.clock }, ?_, ?_, ?_, Or.inr rfl⟩
      · show (running.setJob k _).jobs.lookup k = _
        rw [lookup_setJob, if_pos rfl, hclaimedRow]
        rfl
      · exact QueuedJob.sameJob_endAttempt.createdAt
      · exact budget_endAttempt_lt hclaimable hcounts rfl rfl
  · have hrefuse : deliveryStep names loaded (.refuse worker handle) =
        some ((loaded.setJob k .skip).dropWorker worker) := by
      simp only [deliveryStep, refuse, hholds, if_neg haccepts]
    rw [List.foldl_cons, attempt_of_eq_some hrefuse,
      (foldl_attempt_of_free (lookup_dropWorker ..) handle outcome).2]
    refine ⟨lookup_dropWorker .., rfl, fun i hi => lookup_setJob_of_ne hi, ?_⟩
    refine ⟨{ job.skip with updatedAt := s.clock }, ?_, rfl, budget_pos hclaimable, Or.inl ⟨rfl, rfl⟩⟩
    show (loaded.setJob k .skip).jobs.lookup k = _
    rw [lookup_setJob, if_pos rfl, hrow]
    rfl

/-! ## One look into the database -/

/-- What a worker has done that has found job `k`. -/
structure Served (s t : DeliveryState) (worker : WorkerId) (k : JobId) (job : QueuedJob) : Prop where
  free : t.workers.lookup worker = none
  clock : t.clock = s.clock
  others : ∀ i, i ≠ k → t.jobs.lookup i = s.jobs.lookup i ∨
    ∃ job job', s.jobs.lookup i = some job ∧ t.jobs.lookup i = some job' ∧
      job'.state = .skipped ∧ job'.createdAt = job.createdAt
  row : ∃ job', t.jobs.lookup k = some job' ∧ job'.createdAt = job.createdAt ∧
    job'.budget < job.budget ∧
      (job'.state = .skipped ∧ t.claims = s.claims ∨ t.claims = k :: s.claims)

/-- The job that is found is handed to the worker and handled, or refused. -/
lemma served_of_oldest {reads : PassReads} {handle : HandleReads} {outcome : AttemptEnd}
    {rest : List JobId} (hfree : s.workers.lookup worker = none)
    (holdest : Backlog.oldest s.createdAt 1 (s.eligible reads) = k :: rest)
    (hjob : s.jobs.lookup k = some job) (hclaimable : job.claimable s.clock = true)
    (hcounts : outcome.counts = true) :
    Served s ((attempt (deliveryStep names) s (.takeFromDatabase worker reads)).handleJob names
      worker handle outcome) worker k job := by
  obtain heq | heq := prepareDelivery_cases s k job (reads.job k)
  · have htake : deliveryStep names s (.takeFromDatabase worker reads) =
        some (s.setJob k .skip) := by
      simp only [deliveryStep, takeFromDatabase, hfree, holdest, hjob, Option.map_some, heq]
    have hidle : (s.setJob k .skip).workers.lookup worker = none := hfree
    rw [attempt_of_eq_some htake, handleJob_of_free hidle]
    refine ⟨hfree, rfl, fun i hi => Or.inl (lookup_setJob_of_ne hi), ?_⟩
    refine ⟨{ job.skip with updatedAt := s.clock }, ?_, rfl, budget_pos hclaimable,
      Or.inl ⟨rfl, rfl⟩⟩
    rw [lookup_setJob, if_pos rfl, hjob]
    rfl
  · set mid := (if job.isStrategy then (reads.job k).intent.getD [] else []).foldl markSuperseded s
      with hmid
    have hskips : SkipsOnly s mid := skipsOnly_foldl fun _ _ => skipsOnly_markSuperseded
    set marked := (mid.setJob k fun job =>
      { job with context := markRepairPending job.origin job.context }).putWorker worker (.selected k)
      with hmarked
    have htake : deliveryStep names s (.takeFromDatabase worker reads) = some marked := by
      simp only [deliveryStep, takeFromDatabase, hfree, holdest, hjob, Option.map_some, heq]
      rfl
    have hphase : marked.workers.lookup worker = some (.selected k) := lookup_putWorker ..
    have hothers : ∀ i, i ≠ k → marked.jobs.lookup i = mid.jobs.lookup i :=
      fun i hi => lookup_setJob_of_ne hi
    have hclock : marked.clock = s.clock := hskips.clock
    have hclaims : marked.claims = s.claims := hskips.claims
    rw [attempt_of_eq_some htake]
    obtain hsame | ⟨old, job', hold, hjob', hskipped, hcreated⟩ := hskips.rows k
    · -- the row is as it was: the worker goes on with it
      have hrow : marked.jobs.lookup k = some { job with
          context := markRepairPending job.origin job.context, updatedAt := mid.clock } := by
        show (mid.setJob k _).jobs.lookup k = _
        rw [lookup_setJob, if_pos rfl, hsame, hjob]
        rfl
      have hhandled := @handled_handleJob names marked k _ worker hphase hrow
        (by rw [hclock]; exact hclaimable) handle outcome hcounts
      refine ⟨hhandled.free, hhandled.clock.trans hclock, fun i hi => ?_, ?_⟩
      · rw [hhandled.others i hi, hothers i hi]
        exact hskips.rows i
      · obtain ⟨job', hjob', hcreated, hbudget, hend⟩ := hhandled.row
        rw [hclaims] at hend
        exact ⟨job', hjob', hcreated, hbudget, hend⟩
    · -- the intent has superseded itself: the worker finds an ended job
      obtain rfl : job = old := Option.some.inj (hjob.symm.trans hold)
      set ended : QueuedJob := { job' with
        context := markRepairPending job'.origin job'.context, updatedAt := mid.clock } with hended
      have hrow : marked.jobs.lookup k = some ended := by
        show (mid.setJob k _).jobs.lookup k = _
        rw [lookup_setJob, if_pos rfl, hjob']
        rfl
      have hstate : ended.state = .skipped := hskipped
      have hzero : ended.budget = 0 := by
        rw [QueuedJob.budget, hstate]
        rfl
      rw [handleJob_of_ended hphase hrow (by rw [hstate]; rfl)]
      refine ⟨lookup_dropWorker .., hclock, fun i hi => ?_, ?_⟩
      · have hskip := hskips.rows i
        rw [← hothers i hi] at hskip
        exact hskip
      · exact ⟨ended, hrow, hcreated, hzero ▸ budget_pos hclaimable, Or.inl ⟨hskipped, hclaims⟩⟩

/-- A worker finds nothing, or the oldest job it can claim. -/
lemma served_or_eq {reads : PassReads} {handle : HandleReads} {outcome : AttemptEnd}
    (hfree : s.workers.lookup worker = none) (hcounts : outcome.counts = true) :
    s.eligible reads = [] ∧
        (attempt (deliveryStep names) s (.takeFromDatabase worker reads)).handleJob names
          worker handle outcome = s ∨
      ∃ k job, s.jobs.lookup k = some job ∧ job.claimable s.clock = true ∧
        (∀ i ∈ s.eligible reads, s.createdAt k ≤ s.createdAt i) ∧
        Served s ((attempt (deliveryStep names) s (.takeFromDatabase worker reads)).handleJob names
          worker handle outcome) worker k job := by
  have hlength := @Backlog.length_oldest _ _ _ s.createdAt 1 (s.eligible reads)
  cases holdest : Backlog.oldest s.createdAt 1 (s.eligible reads) with
  | nil =>
      left
      rw [holdest, List.length_nil] at hlength
      have hempty : s.eligible reads = [] := List.length_eq_zero_iff.1 (by omega)
      have htake : deliveryStep names s (.takeFromDatabase worker reads) = none := by
        simp only [deliveryStep, takeFromDatabase, hfree, holdest]
      rw [attempt_of_eq_none htake]
      exact ⟨hempty, handleJob_of_free hfree handle outcome⟩
  | cons k rest =>
      right
      have hk : k ∈ Backlog.oldest s.createdAt 1 (s.eligible reads) := by
        rw [holdest]
        exact List.mem_cons_self
      obtain ⟨job, hjob, hp⟩ := mem_select.1 (Backlog.mem_of_mem_oldest hk)
      have hclaimable : job.claimable s.clock = true := by
        simp only [Bool.and_eq_true] at hp
        exact hp.1
      refine ⟨k, job, hjob, hclaimable, fun i hi => ?_,
        served_of_oldest hfree holdest hjob hclaimable hcounts⟩
      by_cases hserved : i ∈ Backlog.oldest s.createdAt 1 (s.eligible reads)
      · rw [holdest] at hserved hlength
        have hrest : rest = [] := by
          rw [List.length_cons] at hlength
          exact List.length_eq_zero_iff.1 (by omega)
        rw [hrest] at hserved
        rw [List.mem_singleton.1 hserved]
      · exact Backlog.le_of_not_mem_oldest hi hserved hk

/-! ## One round -/

/-- The budget of the job's row, zero without one. -/
def budgetAt (s : DeliveryState) (jobId : JobId) : ℕ := (s.jobs.lookup jobId).elim 0 QueuedJob.budget

/-- The attempts left on the waiting jobs that are not newer, the job itself included, and one more
for each of them. -/
def attemptsBefore (s : DeliveryState) (jobId : JobId) : ℕ :=
  Backlog.load s.createdAt s.budgetAt s.jobs.keys.toFinset jobId

/-- No job is lost or gets older, and no attempt is gained. -/
structure Spends (s s' : DeliveryState) : Prop where
  ages : ∀ i, (s'.jobs.lookup i).map QueuedJob.createdAt = (s.jobs.lookup i).map QueuedJob.createdAt
  budget : ∀ i, s'.budgetAt i ≤ s.budgetAt i

lemma Spends.refl (s : DeliveryState) : Spends s s := ⟨fun _ => rfl, fun _ => le_rfl⟩

lemma Spends.trans (h : Spends s s') (h' : Spends s' s'') : Spends s s'' :=
  ⟨fun i => (h'.ages i).trans (h.ages i), fun i => (h'.budget i).trans (h.budget i)⟩

lemma budgetAt_eq (hjob : s.jobs.lookup k = some job) : s.budgetAt k = job.budget := by
  rw [budgetAt, hjob]
  rfl

lemma budget_of_skipped (h : job.state = .skipped) : job.budget = 0 := by
  rw [QueuedJob.budget, h]
  rfl

/-- What an ended or unchanged row spends. -/
lemma spends_row {i : JobId} (h : s'.jobs.lookup i = s.jobs.lookup i ∨
      ∃ job job', s.jobs.lookup i = some job ∧ s'.jobs.lookup i = some job' ∧
        job'.state = .skipped ∧ job'.createdAt = job.createdAt) :
    (s'.jobs.lookup i).map QueuedJob.createdAt = (s.jobs.lookup i).map QueuedJob.createdAt ∧
      s'.budgetAt i ≤ s.budgetAt i := by
  obtain heq | ⟨job, job', hjob, hjob', hskipped, hcreated⟩ := h
  · rw [budgetAt, budgetAt, heq]
    exact ⟨rfl, le_rfl⟩
  · rw [budgetAt_eq hjob', budget_of_skipped hskipped, hjob, hjob', Option.map_some,
      Option.map_some, hcreated]
    exact ⟨rfl, Nat.zero_le _⟩

lemma SkipsOnly.spends (h : SkipsOnly s s') : Spends s s' :=
  ⟨fun i => (spends_row (h.rows i)).1, fun i => (spends_row (h.rows i)).2⟩

lemma Served.spends {t : DeliveryState} (h : Served s t worker k job)
    (hjob : s.jobs.lookup k = some job) : Spends s t := by
  obtain ⟨job', hjob', hcreated, hbudget, -⟩ := h.row
  have hrow : ∀ i, (t.jobs.lookup i).map QueuedJob.createdAt =
      (s.jobs.lookup i).map QueuedJob.createdAt ∧ t.budgetAt i ≤ s.budgetAt i := by
    intro i
    by_cases hi : i = k
    · subst hi
      rw [budgetAt_eq hjob', budgetAt_eq hjob, hjob, hjob', Option.map_some, Option.map_some,
        hcreated]
      exact ⟨rfl, hbudget.le⟩
    · exact spends_row (h.others i hi)
  exact ⟨fun i => (hrow i).1, fun i => (hrow i).2⟩

lemma Spends.createdAt (h : Spends s s') : s'.createdAt = s.createdAt := by
  funext i
  have hage := h.ages i
  unfold DeliveryState.createdAt
  cases hs : s.jobs.lookup i with
  | none =>
      rw [hs, Option.map_none, Option.map_eq_none_iff] at hage
      rw [hage]
  | some job =>
      rw [hs, Option.map_some, Option.map_eq_some_iff] at hage
      obtain ⟨job', hjob', hcreated⟩ := hage
      rw [hjob']
      exact hcreated

lemma Spends.keys (h : Spends s s') : s'.jobs.keys.toFinset = s.jobs.keys.toFinset := by
  ext i
  have hage := congrArg Option.isSome (h.ages i)
  rw [Option.isSome_map, Option.isSome_map] at hage
  simp only [List.mem_toFinset, ← AList.mem_keys, ← AList.lookup_isSome]
  rw [hage]

/-- What a job waits for does not grow. -/
lemma Spends.attemptsBefore_le (h : Spends s s') (jobId : JobId) :
    s'.attemptsBefore jobId ≤ s.attemptsBefore jobId := by
  unfold DeliveryState.attemptsBefore
  rw [h.createdAt, h.keys]
  exact Finset.sum_le_sum fun i _ => h.budget i

/-- It shrinks with every job that is found and not newer. -/
lemma Served.attemptsBefore_lt {t : DeliveryState} (h : Served s t worker k job)
    (hjob : s.jobs.lookup k = some job) (hage : s.createdAt k ≤ s.createdAt jobId) :
    t.attemptsBefore jobId < s.attemptsBefore jobId := by
  obtain ⟨job', hjob', -, hbudget, -⟩ := h.row
  rw [← budgetAt_eq hjob, ← budgetAt_eq hjob'] at hbudget
  have hkey : ({k} : Finset JobId) ⊆ s.jobs.keys.toFinset := by
    rw [Finset.singleton_subset_iff, List.mem_toFinset]
    exact AList.mem_keys.1 (AList.lookup_isSome.1 (by rw [hjob]; rfl))
  have hload := @Backlog.load_add_card_le _ _ _ s.createdAt _ s.budgetAt t.budgetAt
    s.jobs.keys.toFinset {k} jobId (fun i _ => (h.spends hjob).budget i) hkey
    (fun i hi => by rwa [Finset.mem_singleton.1 hi])
    (fun i hi => by rwa [Finset.mem_singleton.1 hi])
  rw [Finset.card_singleton] at hload
  unfold DeliveryState.attemptsBefore
  rw [(h.spends hjob).createdAt, (h.spends hjob).keys]
  omega

lemma Served.claims {t : DeliveryState} (h : Served s t worker k job) :
    ∃ claims, t.claims = claims ++ s.claims := by
  obtain ⟨-, -, -, -, ⟨-, hclaims⟩ | hclaims⟩ := h.row
  · exact ⟨[], hclaims⟩
  · exact ⟨[k], hclaims⟩

/-- The job has been skipped, or claimed since. -/
def Reached (s s' : DeliveryState) (jobId : JobId) : Prop :=
  ∃ claims, s'.claims = claims ++ s.claims ∧
    (jobId ∈ claims ∨ ∃ job, s'.jobs.lookup jobId = some job ∧ job.state = .skipped)

lemma reached_of_skipped (claims : List JobId) {job' : QueuedJob}
    (hclaims : s'.claims = claims ++ s.claims) (hjob' : s'.jobs.lookup jobId = some job')
    (hskipped : job'.state = .skipped) : Reached s s' jobId :=
  ⟨claims, hclaims, Or.inr ⟨job', hjob', hskipped⟩⟩

/-- What is found is reached. -/
lemma Served.reached {t : DeliveryState} (h : Served s t worker k job) : Reached s t k := by
  obtain ⟨job', hjob', -, -, ⟨hskipped, hclaims⟩ | hclaims⟩ := h.row
  · exact reached_of_skipped [] hclaims hjob' hskipped
  · exact ⟨[k], hclaims, Or.inl List.mem_cons_self⟩

/-- The state after a round. -/
def afterRound (names : JobText) (worker : WorkerId) (s : DeliveryState) (round : FallbackRound) :
    DeliveryState :=
  (round.ops worker).foldl (attempt (deliveryStep names)) s

/-- The state in which a round looks for a job. -/
def beforeLook (s : DeliveryState) (round : FallbackRound) : DeliveryState :=
  let s := { s with clock := max s.clock round.clock }
  if round.expires then s.expireStaleStrategyJobs round.reads else s

lemma skipsOnly_beforeLook {round : FallbackRound} :
    SkipsOnly { s with clock := max s.clock round.clock } (s.beforeLook round) := by
  unfold beforeLook
  split_ifs
  · exact skipsOnly_expireStaleStrategyJobs
  · exact .refl _

lemma afterRound_eq {round : FallbackRound} : s.afterRound names worker round =
    (attempt (deliveryStep names) (s.beforeLook round)
      (.takeFromDatabase worker round.reads)).handleJob names worker round.handle
        round.outcome := by
  have htick : attempt (deliveryStep names) s (.tick round.clock) =
      { s with clock := max s.clock round.clock } := by
    by_cases hclock : s.clock ≤ round.clock
    · have hstep : deliveryStep names s (.tick round.clock) = some { s with clock := round.clock } :=
        if_pos hclock
      rw [attempt_of_eq_some hstep, max_eq_right hclock]
    · have hstep : deliveryStep names s (.tick round.clock) = none := if_neg hclock
      rw [attempt_of_eq_none hstep, max_eq_left (by omega)]
  unfold afterRound FallbackRound.ops handleJob beforeLook
  rw [List.cons_append, List.foldl_cons, htick, List.foldl_append]
  by_cases hexpires : round.expires = true
  · rw [if_pos hexpires, if_pos hexpires]
    rfl
  · rw [if_neg hexpires, if_neg hexpires]
    rfl

/-- A round reaches the job, or there is less to wait for. -/
lemma reached_or_attemptsBefore_lt (hfree : s.workers.lookup worker = none)
    (hjob : s.jobs.lookup jobId = some job) (hclaimable : job.claimable s.clock = true)
    {round : FallbackRound} (hcounts : round.Counts) :
    (s.afterRound names worker round).workers.lookup worker = none ∧
      s.clock ≤ (s.afterRound names worker round).clock ∧
      (Reached s (s.afterRound names worker round) jobId ∨
        (∃ claims, (s.afterRound names worker round).claims = claims ++ s.claims) ∧
        (s.afterRound names worker round).jobs.lookup jobId = some job ∧
        (s.afterRound names worker round).attemptsBefore jobId < s.attemptsBefore jobId) := by
  set look := s.beforeLook round with hlook
  have hskips : SkipsOnly { s with clock := max s.clock round.clock } look := skipsOnly_beforeLook
  have hclaims : look.claims = s.claims := hskips.claims
  have hclock : s.clock ≤ look.clock := hskips.clock ▸ le_max_left _ _
  have hidle : look.workers.lookup worker = none := hskips.workers ▸ hfree
  have hspends : Spends s look := ⟨hskips.spends.ages, hskips.spends.budget⟩
  have hmem : look.jobs.lookup jobId = s.jobs.lookup jobId → jobId ∈ look.eligible round.reads := by
    intro hsame
    refine mem_select.2 ⟨job, hsame.trans hjob, ?_⟩
    rw [claimable_mono hclock hclaimable, hcounts.free]
    rfl
  rw [afterRound_eq]
  obtain ⟨hempty, heq⟩ | ⟨k, found, hfound, hready, hage, hserved⟩ :=
    @served_or_eq names look worker round.reads round.handle round.outcome hidle hcounts.outcome
  · -- nothing waits: the job has expired
    rw [heq]
    refine ⟨hidle, hclock, Or.inl ?_⟩
    obtain hsame | ⟨old, job', -, hjob', hskipped, -⟩ := hskips.rows jobId
    · exact absurd (hmem hsame) (hempty ▸ List.not_mem_nil)
    · exact reached_of_skipped [] hclaims hjob' hskipped
  · refine ⟨hserved.free, hserved.clock.symm ▸ hclock, ?_⟩
    obtain ⟨claims, hnew⟩ := hserved.claims
    rw [hclaims] at hnew
    by_cases hid : jobId = k
    · obtain ⟨claims, hnew, hend⟩ := hserved.reached
      rw [hclaims] at hnew
      exact Or.inl ⟨claims, hnew, hid ▸ hend⟩
    · obtain hkept | ⟨-, job', -, hjob', hskipped, -⟩ := hserved.others jobId hid
      · obtain hsame | ⟨-, job', -, hjob', hskipped, -⟩ := hskips.rows jobId
        · exact Or.inr ⟨⟨claims, hnew⟩, (hkept.trans hsame).trans hjob,
            (hserved.attemptsBefore_lt hfound (hage jobId (hmem hsame))).trans_le
              (hspends.attemptsBefore_le jobId)⟩
        · exact Or.inl (reached_of_skipped claims hnew (hkept.trans hjob') hskipped)
      · exact Or.inl (reached_of_skipped claims hnew hjob' hskipped)

/-- As many rounds as there are attempts in front of the job reach it. -/
lemma exists_reached {rounds : List FallbackRound} (hfree : s.workers.lookup worker = none)
    (hjob : s.jobs.lookup jobId = some job) (hclaimable : job.claimable s.clock = true)
    (hcounts : ∀ round ∈ rounds, round.Counts) (henough : s.attemptsBefore jobId ≤ rounds.length) :
    ∃ n, Reached s ((rounds.take n).foldl (afterRound names worker) s) jobId := by
  induction rounds generalizing s with
  | nil =>
      -- the job itself has an attempt left
      have hpos := budget_pos hclaimable
      have hkey : jobId ∈ s.jobs.keys.toFinset.filter fun i => s.createdAt i ≤ s.createdAt jobId := by
        rw [Finset.mem_filter, List.mem_toFinset]
        exact ⟨AList.mem_keys.1 (AList.lookup_isSome.1 (by rw [hjob]; rfl)), le_rfl⟩
      have hle : s.budgetAt jobId ≤ s.attemptsBefore jobId :=
        Finset.single_le_sum (fun i _ => Nat.zero_le _) hkey
      rw [budgetAt_eq hjob] at hle
      simp only [List.length_nil] at henough
      omega
  | cons round rounds ih =>
      obtain ⟨hfree', hclock, hreached | ⟨⟨claims, hclaims⟩, hjob', hlt⟩⟩ :=
        @reached_or_attemptsBefore_lt names s jobId job worker hfree hjob hclaimable round
          (hcounts round List.mem_cons_self)
      · exact ⟨1, hreached⟩
      · rw [List.length_cons] at henough
        obtain ⟨n, later, hlater, hend⟩ := ih hfree' hjob' (claimable_mono hclock hclaimable)
          (fun round hround => hcounts round (List.mem_cons_of_mem _ hround)) (by omega)
        refine ⟨n + 1, later ++ claims, ?_, hend.imp_left (List.mem_append_left _)⟩
        rw [List.take_succ_cons, List.foldl_cons, hlater, hclaims, List.append_assoc]

/-! ## From any state of a run -/

/-- When an active job can be claimed or released at the latest. -/
def waitsUntil (job : QueuedJob) : ℕ :=
  max (job.lockedUntil.elim 0 (· + 1)) (job.nextAttemptAt.getD 0)

/-- The lease of the job is released, and its delay goes by. -/
def released (names : JobText) (s : DeliveryState) (jobId : JobId) (now : ℕ) : DeliveryState :=
  [.tick now, .releaseStale jobId, .tick (now + 60)].foldl (attempt (deliveryStep names)) s

/-- A released job is dead, or it can be claimed. -/
lemma dead_or_claimable_released (names : JobText) (hsound : job.Sound)
    (hjob : s.jobs.lookup jobId = some job)
    (hactive : job.state.active = true) {now : ℕ} (hnow : s.clock ≤ now)
    (hwait : waitsUntil job ≤ now) :
    (s.released names jobId now).workers = s.workers ∧
      ∃ job', (s.released names jobId now).jobs.lookup jobId = some job' ∧
        (job'.state = .dead ∨ job'.claimable (s.released names jobId now).clock = true) := by
  have htick : deliveryStep names s (.tick now) = some { s with clock := now } := if_pos hnow
  have hlater (s' : DeliveryState) (hclock : s'.clock = now) :
      deliveryStep names s' (.tick (now + 60)) = some { s' with clock := now + 60 } :=
    if_pos (by omega)
  have hdelay : job.nextAttemptAt.getD 0 ≤ now := (le_max_right _ _).trans hwait
  unfold released
  rw [List.foldl_cons, attempt_of_eq_some htick, List.foldl_cons]
  by_cases hprocessing : job.state = .processing
  · obtain ⟨lease, hlease⟩ := Option.isSome_iff_exists.1 (hsound.leased hprocessing)
    have hover : lease < now := by
      have hle := (le_max_left _ _).trans hwait
      rw [hlease] at hle
      exact hle
    set row : QueuedJob := { job with
      state := if job.attemptCount < maxJobRetries then .retrying else .dead
      owner := none
      lockedUntil := none
      nextAttemptAt := some (now + min (2 ^ max job.attemptCount 1) 60)
      enqueuedAt := none
      updatedAt := now } with hrow
    have hrelease : ∃ s', deliveryStep names { s with clock := now } (.releaseStale jobId) =
        some s' ∧ s'.clock = now ∧ s'.workers = s.workers ∧ s'.jobs.lookup jobId = some row := by
      refine ⟨{ s with clock := now }.setJob jobId fun job => { job with
        state := if job.attemptCount < maxJobRetries then .retrying else .dead
        owner := none
        lockedUntil := none
        nextAttemptAt := some (now + min (2 ^ max job.attemptCount 1) 60)
        enqueuedAt := none }, ?_, rfl, rfl, ?_⟩
      · simp only [deliveryStep, releaseStaleJob, hjob, Option.bind_some, hprocessing, hlease,
          Option.any_some, hover, decide_true, Bool.and_self, if_true]
      · rw [lookup_setJob, if_pos rfl, hjob]
        rfl
    obtain ⟨s', hstep, hclock, hworkers, hjob'⟩ := hrelease
    rw [attempt_of_eq_some hstep, List.foldl_cons, attempt_of_eq_some (hlater s' hclock),
      List.foldl_nil]
    refine ⟨hworkers, row, hjob', ?_⟩
    by_cases hretries : job.attemptCount < maxJobRetries
    · right
      have hstate : row.state = .retrying := if_pos hretries
      have hdue : now + min (2 ^ max job.attemptCount 1) 60 ≤ now + 60 := by omega
      show (row.state.waiting && decide _) = true
      rw [hstate, decide_eq_true hdue]
      rfl
    · exact Or.inl (if_neg hretries)
  · have hidle : deliveryStep names { s with clock := now } (.releaseStale jobId) = none := by
      simp only [deliveryStep, releaseStaleJob, hjob, Option.bind_some, hprocessing, decide_false,
        Bool.false_and, Bool.false_eq_true, if_false]
    rw [attempt_of_eq_none hidle, List.foldl_cons, attempt_of_eq_some (hlater _ rfl),
      List.foldl_nil]
    refine ⟨rfl, job, hjob, Or.inr ?_⟩
    have hwaiting : job.state.waiting = true := by
      cases hstate : job.state with
      | queued | retrying => rfl
      | processing => exact absurd hstate hprocessing
      | done | skipped | dead =>
          rw [hstate] at hactive
          cases hactive
    have hdue : job.due (now + 60) = true := by
      unfold QueuedJob.due
      cases hnext : job.nextAttemptAt with
      | none => rfl
      | some at' =>
          rw [hnext, Option.getD_some] at hdelay
          rw [Option.all_some, decide_eq_true_eq]
          omega
    show (job.state.waiting && job.due (now + 60)) = true
    rw [hwaiting, hdue]
    rfl

end DeliveryState

/-- **No job is stranded.**  From every state of a run, whatever has happened to the stream and to
the workers, and with Redis away from then on: once its lease is released and its delay is over, an
active job is dead, or a worker that has nothing to do claims it or ends it, while nobody else
locks a row, within as many rounds as the waiting jobs that are not newer have attempts left, and
one more for each of them. -/
theorem active_job_reached (names : JobText) (ops : List DeliveryOp) (s : DeliveryState)
    (hrun : run (deliveryStep names) .initial ops = some s) (jobId : JobId) (job : QueuedJob)
    (hjob : s.jobs.lookup jobId = some job) (hactive : job.state.active = true)
    (worker : WorkerId) (hfree : s.workers.lookup worker = none) (now : ℕ) (hnow : s.clock ≤ now)
    (hwait : waitsUntil job ≤ now) (rounds : List FallbackRound)
    (hcounts : ∀ round ∈ rounds, round.Counts)
    (henough : (s.released names jobId now).attemptsBefore jobId ≤ rounds.length) :
    (∃ job', (s.released names jobId now).jobs.lookup jobId = some job' ∧ job'.state = .dead) ∨
      ∃ n, Reached (s.released names jobId now)
        ((rounds.take n).foldl (afterRound names worker) (s.released names jobId now)) jobId := by
  have hinv : Invariant names s := invariant_of_run hrun
  obtain ⟨hworkers, job', hjob', hdead | hclaimable⟩ :=
    dead_or_claimable_released names (hinv.sound jobId job hjob) hjob hactive hnow hwait
  · exact Or.inl ⟨job', hjob', hdead⟩
  · rw [← hworkers] at hfree
    exact Or.inr (exists_reached hfree hjob' hclaimable hcounts henough)

/-- A worker claims the repair and is gone. -/
def abandonedRepair : List DeliveryOp :=
  [.create 0 closingRepair, .takeFromDatabase 3 quietReads, .load 3, .claim 3]

/-- A job whose worker has died. -/
def abandonedRow : QueuedJob :=
  { closingRepair with
    state := .processing
    owner := some 3
    lockedUntil := some jobLeaseSeconds
    attemptCount := 1
    context := { closedPosition with repairPending := some true } }

/-- Every attempt fails. -/
def failingRound : FallbackRound := ⟨0, true, quietReads, ⟨true, true, true⟩, .retryOrDead 0⟩

theorem active_job_reached_sample : ∃ s,
    run (deliveryStep unaryText) .initial abandonedRepair = some s ∧
      ((∃ job', (s.released unaryText 0 1000).jobs.lookup 0 = some job' ∧ job'.state = .dead) ∨
        ∃ n, Reached (s.released unaryText 0 1000)
          (((List.replicate 5 failingRound).take n).foldl (afterRound unaryText 4)
            (s.released unaryText 0 1000)) 0) := by
  have hend : (run (deliveryStep unaryText) .initial abandonedRepair).any (fun s =>
      decide (s.jobs.lookup 0 = some abandonedRow) && decide (s.workers.lookup 4 = none) &&
        decide (s.clock = 0) && decide ((s.released unaryText 0 1000).attemptsBefore 0 ≤ 5)) =
          true := by
    decide +kernel
  obtain ⟨s, hrun, hs⟩ := (Option.any_eq_true _ _).1 hend
  simp only [Bool.and_eq_true, decide_eq_true_eq] at hs
  obtain ⟨⟨⟨hjob, hfree⟩, hclock⟩, henough⟩ := hs
  refine ⟨s, hrun, active_job_reached unaryText abandonedRepair s hrun 0 abandonedRow hjob rfl 4
    hfree 1000 (by omega) (by decide) (List.replicate 5 failingRound) ?_ henough⟩
  intro round hround
  rw [List.eq_of_mem_replicate hround]
  exact ⟨fun _ => rfl, rfl⟩

end HyperCopy

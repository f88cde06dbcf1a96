import HyperCopy.Delivery.Passes

/-!
# Every repair is accounted for

The stream records a repair when it publishes the job.  A worker that takes the job from the
database instead leaves the account owed, and it stays owed until a pass of `repair_stream` has
replayed it: `claimed_repair_accounted` says that it is never lost, whatever crashes and whoever
writes an old context back, and `owed_account_settled` that passes settle it, 500 accounts at a
time, the longest untouched first.
-/

namespace HyperCopy

open Transition DeliveryState

/-- **No repair without its account.**  In every run of the delivery, with lost and repeated
messages, workers that stop anywhere, transactions that are rolled back after their effects on
Redis and sessions that write old copies of a row: every entry of the stream is a job whose repair
is recorded, and a repair that has ever been claimed is recorded or its row says that it is owed. -/
theorem claimed_repair_accounted (names : JobText) (ops : List DeliveryOp) (s : DeliveryState)
    (hrun : run (deliveryStep names) .initial ops = some s) (jobId : JobId) (job : QueuedJob)
    (order : ℤ) (hjob : s.jobs.lookup jobId = some job) (hevidence : job.evidence = some order)
    (htaken : jobId ∈ s.claims ∨ names.text jobId ∈ s.markers.stream) :
    s.markers.Repaired (missingMember job.userId job.asset) order ∨
      (job.context.pending = true ∧ names.text jobId ∉ s.markers.stream) := by
  have hinv : Invariant names s := invariant_of_run hrun
  by_cases hstream : names.text jobId ∈ s.markers.stream
  · left
    obtain ⟨jobId', job', htext, hjob', hrecorded⟩ := hinv.stream _ hstream
    have hparse := names.parse_text jobId
    rw [htext, names.parse_text] at hparse
    obtain rfl : jobId' = jobId := Option.some.inj hparse
    obtain rfl : job = job' := Option.some.inj (hjob.symm.trans hjob')
    exact hrecorded order hevidence
  · obtain ⟨job', hjob', hrecorded | hpending⟩ := hinv.claims jobId (htaken.resolve_right hstream)
    · obtain rfl : job = job' := Option.some.inj (hjob.symm.trans hjob')
      exact Or.inl (hrecorded order hevidence)
    · obtain rfl : job = job' := Option.some.inj (hjob.symm.trans hjob')
      exact Or.inr ⟨hpending, hstream⟩

/-! ### A repair that a worker takes from the database -/

/-- Job ids in unary. -/
def unaryText : JobText where
  text jobId := String.ofList (List.replicate (jobId + 1) '1')
  parse entry := if entry.length = 0 then none else some (entry.length - 1)
  parse_text jobId := by simp
  text_ne_empty jobId h := by simpa using congrArg String.length h

/-- A position of the master that is closed, seen by the seventh snapshot. -/
def closedPosition : RepairContext := ⟨.number 0, .missing, .number 7, none, none⟩

/-- A job that repairs the leverage of a closed position. -/
def closingRepair : QueuedJob where
  userId := "u"
  asset := "BTC"
  origin := .copy .reconcile
  state := .queued
  owner := none
  lockedUntil := none
  attemptCount := 0
  nextAttemptAt := none
  enqueuedAt := none
  createdAt := 0
  updatedAt := 0
  context := closedPosition

/-- Nothing is locked, refused or superseded. -/
def quietReads : PassReads where
  job _ := ⟨false, true, true, some []⟩
  locked _ := false
  unresolved _ := false
  sloSeconds := 60
  redisTime := 0

/-- The worker does the repair while Redis is away. -/
def repairWithoutRedis : List DeliveryOp :=
  [.create 0 closingRepair, .takeFromDatabase 3 quietReads, .load 3, .claim 3,
    .finish 3 (.finish .done), .tick 1]

/-- What is read of the state behind it. -/
def repairedRow : QueuedJob :=
  { closingRepair with
    state := .done
    attemptCount := 1
    context := { closedPosition with repairPending := some true } }

theorem claimed_repair_accounted_sample : ∃ s,
    run (deliveryStep unaryText) .initial repairWithoutRedis = some s ∧
      (s.markers.Repaired (missingMember "u" "BTC") 7 ∨
        (repairedRow.context.pending = true ∧ unaryText.text 0 ∉ s.markers.stream)) := by
  have hend : (run (deliveryStep unaryText) .initial repairWithoutRedis).any (fun s =>
      decide (s.jobs.lookup 0 = some repairedRow) && decide (0 ∈ s.claims)) = true := by
    decide +kernel
  obtain ⟨s, hrun, hs⟩ := (Option.any_eq_true _ _).1 hend
  simp only [Bool.and_eq_true, decide_eq_true_eq] at hs
  exact ⟨s, hrun, claimed_repair_accounted unaryText repairWithoutRedis s hrun 0 repairedRow 7 hs.1
    (by decide +kernel) (Or.inl hs.2)⟩

/-! ## Settlement -/

namespace DeliveryState

/-- A pass of `repair_stream` at a later time. -/
def passAt (names : JobText) (s : DeliveryState) (pass : ℕ × PassReads) : DeliveryState :=
  { s with clock := max s.clock pass.1 }.repairStream names pass.2

/-- The accounts that are owed and were touched no later than the one of `jobId`. -/
def owedBefore (s : DeliveryState) (jobId : JobId) : List JobId :=
  s.select fun k job => owesAccount job && decide (s.updatedAt k ≤ s.updatedAt jobId)

/-- The account is settled. -/
structure Settled (s : DeliveryState) (jobId : JobId) (job : QueuedJob) : Prop where
  row : ∃ job', s.jobs.lookup jobId = some job' ∧ job'.state = job.state ∧
    job'.state.waiting = false ∧ job'.context.pending = false
  recorded : s.Recorded job

section Settlement

variable {names : JobText} {s₀ s : DeliveryState} {jobId k : JobId} {job : QueuedJob}
  {pass : ℕ × PassReads} {passes : List (ℕ × PassReads)}

/-- A row is the one of the start, or has been written since. -/
def Aged (s₀ s : DeliveryState) : Prop :=
  s₀.clock ≤ s.clock ∧ ∀ k job, s.jobs.lookup k = some job →
    s₀.jobs.lookup k = some job ∨ s₀.clock ≤ job.updatedAt

lemma keeps_passAt (hs : s.markers.Ok) : Keeps names s (s.passAt names pass) := by
  have hticked : Keeps names s { s with clock := max s.clock pass.1 } :=
    ⟨⟨.refl _, fun _ job hjob => ⟨job, hjob, .refl _, id, id⟩⟩, hs, fun _ h => Or.inl h,
      fun _ job hjob => ⟨job, hjob⟩, rfl, rfl⟩
  exact hticked.trans (keeps_repairStream hs)

/-- A row that a pass has not written is unchanged. -/
lemma passAt_rows (hs : s.markers.Ok) (k : JobId) :
    (s.passAt names pass).jobs.lookup k = s.jobs.lookup k ∨
      ∃ job, (s.passAt names pass).jobs.lookup k = some job ∧ s.clock ≤ job.updatedAt := by
  have hstamped : Stamped names { s with clock := max s.clock pass.1 } (s.passAt names pass) :=
    stamped_repairStream hs
  obtain heq | ⟨old, job, -, hjob, hwritten⟩ := hstamped.rows k
  · exact Or.inl heq
  · refine Or.inr ⟨job, hjob, ?_⟩
    rw [hwritten.updatedAt]
    exact le_max_left _ _

lemma Aged.passAt (h : Aged s₀ s) (hs : s.markers.Ok) : Aged s₀ (s.passAt names pass) := by
  have hstamped : Stamped names { s with clock := max s.clock pass.1 } (s.passAt names pass) :=
    stamped_repairStream hs
  refine ⟨?_, fun k job hjob => ?_⟩
  · rw [hstamped.clock]
    exact h.1.trans (le_max_left _ _)
  · obtain heq | ⟨job', hjob', hwritten⟩ := @passAt_rows names s pass hs k
    · rw [heq] at hjob
      exact h.2 k job hjob
    · obtain rfl : job = job' := Option.some.inj (hjob.symm.trans hjob')
      exact Or.inr (h.1.trans hwritten)

/-- The state in which a pass looks for the accounts that are owed. -/
def expiredAt (s : DeliveryState) (pass : ℕ × PassReads) : DeliveryState :=
  { s with clock := max s.clock pass.1 }.expireStaleStrategyJobs pass.2

lemma passAt_eq : s.passAt names pass =
    publishStaleRows names ((s.expiredAt pass).replayCompletedRepairs pass.2) pass.2 :=
  repairStream_eq

lemma markersOk_expiredAt (names : JobText) (hs : s.markers.Ok) : (s.expiredAt pass).markers.Ok := by
  have hkept : Keeps names { s with clock := max s.clock pass.1 } (s.expiredAt pass) :=
    keeps_expireStaleStrategyJobs hs
  exact hkept.markers

/-- A pass settles the accounts it replays. -/
lemma settled_of_mem (hs : s.markers.Ok) (hjob : s.jobs.lookup jobId = some job)
    (howes : owesAccount job = true) {order : ℤ} (hevidence : job.evidence = some order)
    (hmem : jobId ∈ (s.expiredAt pass).replayRows pass.2) :
    (s.passAt names pass).Settled jobId job := by
  have hrests : job.state.waiting = false := waiting_of_owesAccount howes
  have hexpired : (s.expiredAt pass).jobs.lookup jobId = some job :=
    lookup_expireStaleStrategyJobs_of_rests hjob hrests
  have hok : (s.expiredAt pass).markers.Ok := markersOk_expiredAt names hs
  obtain ⟨hrow, hrecorded⟩ := replayCompletedRepairs_of_mem names hok hmem hexpired hevidence
  have hreplayed : Keeps names _ ((s.expiredAt pass).replayCompletedRepairs pass.2) :=
    keeps_replayCompletedRepairs hok
  have hpublished : Keeps names _ (publishStaleRows names _ pass.2) :=
    keeps_foldl (fun _ _ _ hs => keeps_repairJob hs) hreplayed.markers
  rw [passAt_eq]
  exact ⟨⟨_, lookup_publishStaleRows_of_rests hrow hrests, rfl, hrests, rfl⟩,
    hrecorded.mono hpublished.watermarks (.refl _)⟩

/-- What is settled stays settled. -/
lemma Settled.passAt (h : s.Settled jobId job) (hs : s.markers.Ok) :
    (s.passAt names pass).Settled jobId job := by
  obtain ⟨⟨job', hjob', hstate, hrests, hpending⟩, hrecorded⟩ := h
  refine ⟨⟨job', ?_, hstate, hrests, hpending⟩,
    hrecorded.mono (keeps_passAt hs).watermarks (.refl _)⟩
  refine lookup_repairStream_of_rests hjob' hrests fun hmem => ?_
  obtain ⟨job'', hjob'', howes⟩ := mem_replayRows hmem
  have hsame : (s.expiredAt pass).jobs.lookup jobId = some job' :=
    lookup_expireStaleStrategyJobs_of_rests hjob' hrests
  obtain rfl : job' = job'' := Option.some.inj (hsame.symm.trans hjob'')
  simp [owesAccount, hpending] at howes

lemma Settled.foldl (h : s.Settled jobId job) (hs : s.markers.Ok) :
    (passes.foldl (DeliveryState.passAt names) s).Settled jobId job := by
  induction passes generalizing s with
  | nil => exact h
  | cons pass passes ih => exact ih (h.passAt hs) (keeps_passAt hs).markers

/-! ### How many passes it takes -/

/-- The accounts of the start that no pass has come to yet. -/
def untouched (s₀ s : DeliveryState) (jobId : JobId) : Finset JobId :=
  (s₀.owedBefore jobId).toFinset.filter fun k => s.jobs.lookup k = s₀.jobs.lookup k

lemma updatedAt_eq (hjob : s.jobs.lookup jobId = some job) :
    s.updatedAt jobId = toLex (job.updatedAt, job.createdAt) := by
  unfold updatedAt createdAt
  rw [hjob]
  rfl

lemma updatedAt_le {job' : QueuedJob} (hjob : s.jobs.lookup jobId = some job)
    (hjob' : s.jobs.lookup k = some job') (h : s.updatedAt k ≤ s.updatedAt jobId) :
    job'.updatedAt ≤ job.updatedAt := by
  rw [updatedAt_eq hjob, updatedAt_eq hjob', Prod.Lex.toLex_le_toLex] at h
  obtain hlt | ⟨heq, -⟩ := h
  · exact hlt.le
  · exact heq.le

/-- A pass that does not come to an account has settled as many older ones as it can. -/
lemma card_untouched_passAt (hs : s.markers.Ok)
    (hsound : ∀ k job, s.jobs.lookup k = some job → job.Sound) (haged : Aged s₀ s)
    (hjob₀ : s₀.jobs.lookup jobId = some job) (hjob : s.jobs.lookup jobId = some job)
    (howes : owesAccount job = true) (hlater : job.updatedAt < s₀.clock)
    (hfree : ∀ k, pass.2.locked k = false)
    (hleft : jobId ∉ (s.expiredAt pass).replayRows pass.2) :
    (untouched s₀ (s.passAt names pass) jobId).card + passLimit ≤ (untouched s₀ s jobId).card := by
  have hexpired : (s.expiredAt pass).jobs.lookup jobId = some job :=
    lookup_expireStaleStrategyJobs_of_rests hjob (waiting_of_owesAccount howes)
  have hwaits : jobId ∈ (s.expiredAt pass).select fun k job =>
      owesAccount job && !pass.2.locked k :=
    mem_select.2 ⟨job, hexpired, by rw [howes, hfree]; rfl⟩
  have hfull : ((s.expiredAt pass).replayRows pass.2).length = passLimit :=
    Backlog.length_oldest_of_not_mem hwaits hleft
  have hnodup : ((s.expiredAt pass).replayRows pass.2).Nodup := Backlog.nodup_oldest nodup_select
  -- a row that old has not been written since the start
  have hold : ∀ k job', job'.updatedAt ≤ job.updatedAt → s.jobs.lookup k = some job' →
      s₀.jobs.lookup k = some job' := by
    intro k job' hle hrow
    refine (haged.2 k job' hrow).resolve_right ?_
    omega
  have hserved : ∀ k ∈ (s.expiredAt pass).replayRows pass.2, ∃ job',
      s.jobs.lookup k = some job' ∧ s₀.jobs.lookup k = some job' ∧ owesAccount job' = true ∧
        s₀.updatedAt k ≤ s₀.updatedAt jobId := by
    intro k hk
    obtain ⟨job', hrow, howes'⟩ := mem_replayRows hk
    have hkey : (s.expiredAt pass).updatedAt k ≤ (s.expiredAt pass).updatedAt jobId :=
      Backlog.le_of_not_mem_oldest hwaits hleft hk
    have hle : job'.updatedAt ≤ job.updatedAt := updatedAt_le hexpired hrow hkey
    have hstamped : Stamped names { s with clock := max s.clock pass.1 } (s.expiredAt pass) :=
      stamped_expireStaleStrategyJobs
    have hsame : s.jobs.lookup k = some job' := by
      obtain heq | ⟨old, job'', -, hjob'', hwritten⟩ := hstamped.rows k
      · exact heq.symm.trans hrow
      · obtain rfl : job' = job'' := Option.some.inj (hrow.symm.trans hjob'')
        have hclock : s.clock ≤ job'.updatedAt := by
          rw [hwritten.updatedAt]
          exact le_max_left _ _
        have := haged.1
        omega
    refine ⟨job', hsame, hold k job' hle hsame, howes', ?_⟩
    rw [updatedAt_eq hexpired, updatedAt_eq hrow] at hkey
    rwa [updatedAt_eq hjob₀, updatedAt_eq (hold k job' hle hsame)]
  have hsub : ((s.expiredAt pass).replayRows pass.2).toFinset ⊆ untouched s₀ s jobId := by
    intro k hk
    obtain ⟨job', hsame, hstart, howes', hkey⟩ := hserved k (List.mem_toFinset.1 hk)
    refine Finset.mem_filter.2 ⟨List.mem_toFinset.2 (mem_select.2 ⟨job', hstart, ?_⟩), ?_⟩
    · rw [howes', decide_eq_true hkey]
      rfl
    · rw [hsame, hstart]
  have hafter : untouched s₀ (s.passAt names pass) jobId ⊆
      untouched s₀ s jobId \ ((s.expiredAt pass).replayRows pass.2).toFinset := by
    intro k hk
    obtain ⟨hmem, hrow⟩ := Finset.mem_filter.1 hk
    obtain ⟨job', hstart, hp⟩ := mem_select.1 (List.mem_toFinset.1 hmem)
    simp only [Bool.and_eq_true, decide_eq_true_eq] at hp
    have hle : job'.updatedAt ≤ job.updatedAt := updatedAt_le hjob₀ hstart hp.2
    have hsame : s.jobs.lookup k = some job' := by
      obtain heq | ⟨job'', hjob'', hwritten⟩ := @passAt_rows names s pass hs k
      · rw [← heq, hrow, hstart]
      · rw [hrow, hstart] at hjob''
        obtain rfl := Option.some.inj hjob''
        have := haged.1
        omega
    refine Finset.mem_sdiff.2 ⟨Finset.mem_filter.2 ⟨hmem, by rw [hsame, hstart]⟩, fun hreplayed => ?_⟩
    have hpending : job'.context.pending = true := by
      have howes' := hp.1
      simp only [owesAccount, Bool.and_eq_true] at howes'
      exact howes'.2
    obtain ⟨order, hevidence⟩ :=
      Option.isSome_iff_exists.1 ((hsound k job' hsame).evident hpending)
    have hsettled : (s.passAt names pass).Settled k job' :=
      settled_of_mem hs hsame hp.1 hevidence (List.mem_toFinset.1 hreplayed)
    obtain ⟨⟨job'', hjob'', -, -, hnot⟩, -⟩ := hsettled
    rw [hrow, hstart] at hjob''
    obtain rfl := Option.some.inj hjob''
    rw [hpending] at hnot
    cases hnot
  have hcard : ((s.expiredAt pass).replayRows pass.2).toFinset.card = passLimit := by
    rw [List.toFinset_card_of_nodup hnodup, hfull]
  calc (untouched s₀ (s.passAt names pass) jobId).card + passLimit
      ≤ (untouched s₀ s jobId \ ((s.expiredAt pass).replayRows pass.2).toFinset).card +
          ((s.expiredAt pass).replayRows pass.2).toFinset.card := by
        rw [hcard]
        exact Nat.add_le_add_right (Finset.card_le_card hafter) _
    _ = (untouched s₀ s jobId).card := Finset.card_sdiff_add_card_eq_card hsub

/-- An account that is owed is settled by the passes, or there are as many older ones. -/
lemma settled_passes (hinv : ∀ k job, s.jobs.lookup k = some job → job.Sound) (hs : s.markers.Ok)
    (haged : Aged s₀ s) (hjob₀ : s₀.jobs.lookup jobId = some job)
    (hjob : s.jobs.lookup jobId = some job) (howes : owesAccount job = true) {order : ℤ}
    (hevidence : job.evidence = some order) (hlater : job.updatedAt < s₀.clock)
    (hfree : ∀ pass ∈ passes, ∀ k, pass.2.locked k = false)
    (henough : (untouched s₀ s jobId).card ≤ passLimit * passes.length) :
    (passes.foldl (DeliveryState.passAt names) s).Settled jobId job := by
  induction passes generalizing s with
  | nil =>
      -- the account itself is among the untouched ones
      have hmem : jobId ∈ untouched s₀ s jobId := by
        refine Finset.mem_filter.2 ⟨List.mem_toFinset.2 (mem_select.2 ⟨job, hjob₀, ?_⟩), ?_⟩
        · rw [howes, decide_eq_true le_rfl]
          rfl
        · rw [hjob, hjob₀]
      have hpos := Finset.card_pos.2 ⟨jobId, hmem⟩
      simp only [List.length_nil] at henough
      omega
  | cons pass passes ih =>
      have hkept : Keeps names s (s.passAt names pass) := keeps_passAt hs
      rw [List.foldl_cons]
      by_cases hmem : jobId ∈ (s.expiredAt pass).replayRows pass.2
      · exact (settled_of_mem hs hjob howes hevidence hmem).foldl hkept.markers
      · have hcard : (untouched s₀ (s.passAt names pass) jobId).card + passLimit ≤
            (untouched s₀ s jobId).card :=
          card_untouched_passAt hs hinv haged hjob₀ hjob howes hlater
            (hfree pass List.mem_cons_self) hmem
        rw [List.length_cons, Nat.mul_succ] at henough
        refine ih (fun k job' hjob' => ?_) hkept.markers (haged.passAt hs) ?_
          (fun pass' hpass' => hfree pass' (List.mem_cons_of_mem _ hpass')) (by omega)
        · obtain ⟨old, hold⟩ := hkept.keys k job' hjob'
          obtain ⟨job'', hjob'', -, hsound, -⟩ := hkept.jobs k old hold
          obtain rfl : job' = job'' := Option.some.inj (hjob'.symm.trans hjob'')
          exact hsound (hinv k old hold)
        · exact lookup_repairStream_of_rests hjob (waiting_of_owesAccount howes) hmem

end Settlement

end DeliveryState

/-- **Owed accounts are settled.**  From every state of a run, a repair that has ended with its
account owed is settled by the passes of `repair_stream` that come strictly after its last write,
each at its own time and with whatever it reads while nobody else locks a row, as soon as they are
enough for the accounts that were touched no later: the repair is recorded and its row owes
nothing. -/
theorem owed_account_settled (names : JobText) (ops : List DeliveryOp) (s : DeliveryState)
    (hrun : run (deliveryStep names) .initial ops = some s) (jobId : JobId) (job : QueuedJob)
    (hjob : s.jobs.lookup jobId = some job) (howes : owesAccount job = true)
    (hlater : job.updatedAt < s.clock) (passes : List (ℕ × PassReads))
    (hfree : ∀ pass ∈ passes, ∀ k, pass.2.locked k = false)
    (henough : (s.owedBefore jobId).length ≤ passLimit * passes.length) :
    ∃ order, job.evidence = some order ∧
      (passes.foldl (passAt names) s).markers.Repaired (missingMember job.userId job.asset) order ∧
      ∃ job', (passes.foldl (passAt names) s).jobs.lookup jobId = some job' ∧
        job'.state = job.state ∧ job'.context.pending = false := by
  have hinv : Invariant names s := invariant_of_run hrun
  have hpending : job.context.pending = true := by
    simp only [owesAccount, Bool.and_eq_true] at howes
    exact howes.2
  obtain ⟨order, hevidence⟩ :=
    Option.isSome_iff_exists.1 ((hinv.sound jobId job hjob).evident hpending)
  have hcard : (untouched s s jobId).card ≤ passLimit * passes.length :=
    (Finset.card_filter_le _ _).trans ((List.toFinset_card_le _).trans henough)
  have haged : Aged s s := ⟨le_rfl, fun _ _ h => Or.inl h⟩
  obtain ⟨⟨job', hjob', hstate, -, hsettled⟩, hrecorded⟩ : Settled _ jobId job :=
    settled_passes hinv.sound hinv.markers haged hjob hjob howes hevidence hlater
      hfree hcard
  exact ⟨order, hevidence, hrecorded order hevidence, job', hjob', hstate, hsettled⟩

theorem owed_account_settled_sample : ∃ s,
    run (deliveryStep unaryText) .initial repairWithoutRedis = some s ∧
      ∃ order, repairedRow.evidence = some order ∧
        ([(5, quietReads)].foldl (passAt unaryText) s).markers.Repaired (missingMember "u" "BTC")
          order ∧
        ∃ job', ([(5, quietReads)].foldl (passAt unaryText) s).jobs.lookup 0 = some job' ∧
          job'.state = .done ∧ job'.context.pending = false := by
  have hend : (run (deliveryStep unaryText) .initial repairWithoutRedis).any (fun s =>
      decide (s.jobs.lookup 0 = some repairedRow) && decide (s.clock = 1) &&
        decide ((s.owedBefore 0).length ≤ 500)) = true := by
    decide +kernel
  obtain ⟨s, hrun, hs⟩ := (Option.any_eq_true _ _).1 hend
  simp only [Bool.and_eq_true, decide_eq_true_eq] at hs
  refine ⟨s, hrun, owed_account_settled unaryText repairWithoutRedis s hrun 0 repairedRow hs.1.1
    (by decide +kernel) ?_ [(5, quietReads)] ?_ hs.2⟩
  · rw [hs.1.2]
    decide
  · intro pass hpass k
    obtain rfl : pass = (5, quietReads) := by simpa using hpass
    rfl

end HyperCopy

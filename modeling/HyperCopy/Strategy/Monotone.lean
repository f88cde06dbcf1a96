import HyperCopy.Strategy.Evolution

/-!
# Intents are authorised in causal order

While at most `intentScanLimit` strategy jobs of a user and asset exist since the start of a
destination epoch, the scan sees all of them.  Authorisations of that key then never go back in
order and never pick up a job that was marked superseded (`strategy_intents_monotone`): an
authorisation is refused whenever a newer intent is in the table, and a mark is only ever made
for a reason that lasts.

Coalescing is weaker.  A publish that passes skips every older job that it *read* waiting; a job
inserted between its reads and its flush keeps waiting (`older_intent_stays_queued`), and so do the
older ones behind a publish that is itself refused.  Such a job is stopped by its authorisation.
-/

namespace HyperCopy

open Transition

/-! ## The invariant of every run -/

/-- The invariant of a run. -/
structure StrategyInv (s : StrategyState) : Prop where
  history : JobHistoryInv s.destination
  authorized : ∀ j u a e o, StrategyEvent.authorized j u a e o ∈ s.events →
    ∃ job epoch, s.job j = some job ∧ job.userId = u ∧ job.asset = a ∧
      job.origin.isStrategy = true ∧ positiveIntentOrder job.toStrategyRow = some o ∧
      s.destination.db.epochs.lookup e = some epoch ∧ epoch.startedAt ≤ job.createdAt
  superseded : ∀ j, StrategyEvent.superseded j ∈ s.events → Superseded s j
  marks : ∀ p task, s.publishers.lookup p = some task →
    ∀ entry ∈ publishMarks task, Superseded s entry.1

/-- What an authorisation records. -/
lemma authorize_eq {s s' : StrategyState} {cloid : ExecutionId} {network : Network}
    {asset : Asset} {provider : ExecutionProvider}
    (hstep : strategyStep s (.authorize cloid network asset provider) = some s') :
    s' = s ∨ ∃ j job d evidence, s.job j = some job ∧
      userDestinationState s.destination.db job.userId = .ok d ∧
      job.executionEpochId = some d.epochId ∧ job.origin.isStrategy = true ∧
      currentIntent j job d s.jobs = .ok evidence ∧
      s' = { s with
        events := .authorized j job.userId job.asset d.epochId evidence.intentOrder ::
          s.events } := by
  simp only [strategyStep] at hstep
  split at hstep
  · exact Or.inl (Option.some.inj hstep).symm
  · exact Or.inl (Option.some.inj hstep).symm
  · rename_i j job d evidence hok
    obtain ⟨hjob, hd, hbound, horigin, hcurrent⟩ := currentStrategyIntentForCloid_eq_ok hok
    exact Or.inr ⟨j, job, d, evidence, hjob, hd, hbound, horigin, hcurrent,
      (Option.some.inj hstep).symm⟩

/-- What a publish reads. -/
lemma readIntents_eq {s s' : StrategyState} {p : PublisherId} {j : JobId}
    (hstep : strategyStep s (.readIntents p j) = some s') :
    ∃ job d, s.job j = some job ∧ job.origin.isStrategy = true ∧
      job.executionEpochId.isSome = true ∧
      userDestinationState s.destination.db job.userId = .ok d ∧
      s' = { s with publishers := s.publishers.insert p ⟨j, job, d, s.jobs⟩ } := by
  simp only [strategyStep] at hstep
  split at hstep
  · rename_i job hp hjob
    split_ifs at hstep with hstrategy
    split at hstep
    · cases hstep
    · rename_i d hd
      exact ⟨job, d, hjob, hstrategy.1, hstrategy.2, hd, (Option.some.inj hstep).symm⟩
  · cases hstep

/-- **What a publish marks is stale for good**, when it reads. -/
lemma publishMarks_superseded {s : StrategyState} (h : JobHistoryInv s.destination) {j : JobId}
    {job : StrategyJob} (hjob : s.job j = some job) (horigin : job.origin.isStrategy = true)
    (hbound : job.executionEpochId.isSome = true) {d : UserDestinationState}
    (hd : userDestinationState s.destination.db job.userId = .ok d)
    {entry : JobId × StrategyJob} (hentry : entry ∈ publishMarks ⟨j, job, d, s.jobs⟩) :
    Superseded s entry.1 := by
  obtain ⟨row, hrow, hstart⟩ := startedAt_of_active h hd
  obtain ⟨bound, hbound⟩ := Option.isSome_iff_exists.1 hbound
  unfold publishMarks at hentry
  split at hentry
  · -- refused: the published job itself
    rename_i reason hrefused
    obtain rfl := List.mem_singleton.1 hentry
    refine ⟨job, hjob, ?_⟩
    have hforeign : (job.followerNetworkText ≠ .known d.network ∨ job.createdAt < d.startedAt) →
        Outdated s j job := by
      intro hmismatch
      by_cases hsame : bound = d.epochId
      · obtain ⟨-, e, -, -, he, -, -, -, -, hnetwork, hstartedAt⟩ :=
          userDestinationState_eq_ok.1 hd
        subst hsame
        refine .foreign hbound he (Or.inr ?_)
        rw [← hnetwork, ← hstartedAt]
        exact hmismatch
      · obtain ⟨e, he, hclosed⟩ := epoch_closed_of_ne_active h.bound h.db.toEpochInv
          (StrategyState.job_eq_some.1 hjob).1 hbound hd hsame
        exact .foreign hbound he (Or.inl hclosed)
    rcases currentIntent_eq_error hrefused with hnone | hnetwork | hearly | hnewer
    · exact .noEvidence hnone
    · exact hforeign (Or.inl hnetwork)
    · exact hforeign (Or.inr hearly)
    · obtain ⟨evidence, hevidence, ⟨k, later⟩, hscan, hne, hlater⟩ := hnewer
      obtain ⟨hmem, hwindow⟩ := of_mem_intentRows hscan
      obtain ⟨huser, hasset, hstrategy, hsince⟩ := inWindow_eq_true.1 hwindow
      exact .overtaken hevidence (StrategyState.mem_jobs.1 hmem) hne huser hasset hstrategy hlater
        hrow (Or.inl (by rw [hstart]; exact hsince))
  · -- accepted: an older job that the published one overtakes
    rename_i evidence hcurrent
    obtain ⟨hevidence, -, hsince, -⟩ := currentIntent_eq_ok hcurrent
    obtain ⟨hscan, hmarked⟩ := List.mem_filter.1 hentry
    obtain ⟨hmem, hwindow⟩ := of_mem_intentRows hscan
    obtain ⟨huser, hasset, -, -⟩ := inWindow_eq_true.1 hwindow
    simp only [Bool.and_eq_true, decide_eq_true_eq] at hmarked
    obtain ⟨⟨hne, -⟩, holder⟩ := hmarked
    obtain ⟨k, candidate⟩ := entry
    dsimp only at hmem huser hasset hne holder hscan ⊢
    refine ⟨candidate, StrategyState.mem_jobs.1 hmem, ?_⟩
    by_cases hok : ∃ evidence', jobEvidence candidate = .ok evidence'
    · obtain ⟨evidence', hevidence'⟩ := hok
      have hcandidate := (jobEvidence_eq_ok hevidence').2
      have horder := (jobEvidence_eq_ok hevidence).2
      refine .overtaken hevidence' hjob (Ne.symm hne) huser.symm hasset.symm horigin ?_
        (by rw [huser]; exact hrow) (Or.inl (by rw [hstart]; exact hsince))
      simp only [olderIntent, hcandidate, decide_eq_true_eq] at holder
      unfold NewerIntent
      rw [horder]
      exact holder
    · exact .noEvidence fun evidence' h' => hok ⟨evidence', h'⟩

lemma StrategyInv.step {s s' : StrategyState} {op : StrategyOp} (h : StrategyInv s)
    (hstep : strategyStep s op = some s') : StrategyInv s' := by
  have hevolves := strategyStep_evolves h.history hstep
  have hauthorized : ∀ j u a e o, StrategyEvent.authorized j u a e o ∈ s.events →
      ∃ job epoch, s'.job j = some job ∧ job.userId = u ∧ job.asset = a ∧
        job.origin.isStrategy = true ∧ positiveIntentOrder job.toStrategyRow = some o ∧
        s'.destination.db.epochs.lookup e = some epoch ∧ epoch.startedAt ≤ job.createdAt := by
    intro j u a e o hevent
    obtain ⟨job, epoch, hjob, hu, ha, horigin, ho, he, hsince⟩ := h.authorized j u a e o hevent
    obtain ⟨job', hjob', hkeep⟩ := hevolves.jobs j job hjob
    obtain ⟨epoch', he', hsame⟩ := hevolves.epochs e epoch he
    refine ⟨job', epoch', hjob', ?_, ?_, ?_, ?_, he', ?_⟩
    · rw [hkeep.destination.userId, hu]
    · rw [hkeep.asset, ha]
    · rw [hkeep.origin, horigin]
    · rw [hkeep.intentOrder, ho]
    · rw [hsame.startedAt, hkeep.destination.createdAt]
      exact hsince
  have hsuperseded : ∀ j, StrategyEvent.superseded j ∈ s.events → Superseded s' j :=
    fun j hevent => (h.superseded j hevent).step h.history hevolves
  have hmarks : ∀ p task, s.publishers.lookup p = some task →
      ∀ entry ∈ publishMarks task, Superseded s' entry.1 :=
    fun p task htask entry hentry => (h.marks p task htask entry hentry).step h.history hevolves
  -- steps that leave the events and the publishers alone
  have hframe : s'.events = s.events → s'.publishers = s.publishers → StrategyInv s' := by
    intro hevents hpublishers
    refine ⟨hevolves.history, ?_, ?_, ?_⟩
    · rw [hevents]
      exact hauthorized
    · rw [hevents]
      exact hsuperseded
    · rw [hpublishers]
      exact hmarks
  cases op with
  | destination action =>
      obtain ⟨d, hd, rfl⟩ := Option.map_eq_some_iff.1 hstep
      exact hframe rfl rfl
  | insert j row =>
      simp only [strategyStep] at hstep
      split_ifs at hstep
      obtain rfl := Option.some.inj hstep
      exact hframe rfl rfl
  | journal cloid execution =>
      simp only [strategyStep] at hstep
      split_ifs at hstep
      obtain rfl := Option.some.inj hstep
      exact hframe rfl rfl
  | write j state =>
      obtain rfl := Option.some.inj hstep
      exact hframe rfl rfl
  | readIntents p j =>
      obtain ⟨job, d, hjob, horigin, hbound, hd, rfl⟩ := readIntents_eq hstep
      refine ⟨hevolves.history, hauthorized, hsuperseded, ?_⟩
      intro p' task htask entry hentry
      rcases Table.lookup_insert_cases htask with ⟨-, rfl⟩ | htask
      · exact (publishMarks_superseded h.history hjob horigin hbound hd hentry).step h.history
          hevolves
      · exact hmarks p' task htask entry hentry
  | flush p =>
      obtain ⟨task, htask, rfl⟩ := Option.map_eq_some_iff.1 hstep
      refine ⟨hevolves.history, ?_, ?_, ?_⟩
      · intro j u a e o hevent
        rcases List.mem_append.1 hevent with hmark | hevent
        · obtain ⟨entry, -, heq⟩ := List.mem_map.1 hmark
          cases heq
        · exact hauthorized j u a e o hevent
      · intro j hevent
        rcases List.mem_append.1 hevent with hmark | hevent
        · obtain ⟨entry, hentry, heq⟩ := List.mem_map.1 hmark
          obtain rfl := StrategyEvent.superseded.inj heq
          exact hmarks p task htask entry hentry
        · exact hsuperseded j hevent
      · intro p' task' htask' entry hentry
        exact hmarks p' task' (Table.lookup_of_erase htask') entry hentry
  | rollback p =>
      obtain rfl := Option.some.inj hstep
      refine ⟨hevolves.history, hauthorized, hsuperseded, ?_⟩
      intro p' task' htask' entry hentry
      exact hmarks p' task' (Table.lookup_of_erase htask') entry hentry
  | authorize cloid network asset provider =>
      rcases authorize_eq hstep with rfl | ⟨j, job, d, evidence, hjob, hd, hbound, horigin, hcurrent, rfl⟩
      · exact h
      · refine ⟨hevolves.history, ?_, ?_, hmarks⟩
        · intro j' u a e o hevent
          rcases List.mem_cons.1 hevent with heq | hevent
          · obtain ⟨rfl, rfl, rfl, rfl, rfl⟩ := StrategyEvent.authorized.inj heq
            obtain ⟨hevidence, -, hsince, -⟩ := currentIntent_eq_ok hcurrent
            obtain ⟨-, epoch, -, -, he, -, -, -, -, -, hstart⟩ := userDestinationState_eq_ok.1 hd
            refine ⟨job, epoch, hjob, rfl, rfl, horigin, (jobEvidence_eq_ok hevidence).2, he, ?_⟩
            rw [← hstart]
            exact hsince
          · exact hauthorized j' u a e o hevent
        · intro j' hevent
          rcases List.mem_cons.1 hevent with heq | hevent
          · cases heq
          · exact hsuperseded j' hevent

lemma strategyInv_initial : StrategyInv .initial where
  history := jobHistoryInv_initial
  authorized := by simp [StrategyState.initial]
  superseded := by simp [StrategyState.initial]
  marks := by simp [StrategyState.initial]

/-! ## A key whose window fits the scan -/

/-- While epoch `e` is the active one of user `u`, no more strategy jobs of the user and asset
exist since its start than the scan reads. -/
def smallKey (u : UserId) (a : Asset) (e : EpochId) (s : StrategyState) : Bool :=
  match userDestinationState s.destination.db u with
  | .ok d => d.epochId ≠ e ||
      (s.jobs.filter fun entry => inWindow u a d.startedAt entry.2).length ≤ intentScanLimit
  | .error _ => true

lemma windowSmall_of_smallKey {u : UserId} {a : Asset} {e : EpochId} {s : StrategyState}
    (h : smallKey u a e s = true) {d : UserDestinationState}
    (hd : userDestinationState s.destination.db u = .ok d) (he : d.epochId = e) :
    WindowSmall s.jobs u a d.startedAt := by
  simpa [smallKey, hd, he, WindowSmall] using h

/-- The order a later event of the key may stand in to an earlier one. -/
def CausalOrder (u : UserId) (a : Asset) (e : EpochId) (later earlier : StrategyEvent) : Prop :=
  ∀ j o, later = .authorized j u a e o →
    earlier ≠ .superseded j ∧ ∀ j' o', earlier = .authorized j' u a e o' → o' ≤ o

/-- The invariant for the intents of one market under one epoch. -/
structure KeyInv (u : UserId) (a : Asset) (e : EpochId) (s : StrategyState) : Prop where
  inv : StrategyInv s
  small : ∀ p task, s.publishers.lookup p = some task → task.job.userId = u →
    task.job.asset = a → task.destination.epochId = e →
    WindowSmall task.read u a task.destination.startedAt
  causal : s.events.Pairwise (CausalOrder u a e)

/-- An authorisation is not older than one of its key, and its job was not superseded. -/
lemma causalOrder_of_authorized {s : StrategyState} (h : StrategyInv s) {j : JobId}
    {job : StrategyJob} {d : UserDestinationState} {evidence : StrategyIntentEvidence}
    (hjob : s.job j = some job) (hd : userDestinationState s.destination.db job.userId = .ok d)
    (hbound : job.executionEpochId = some d.epochId)
    (hcurrent : currentIntent j job d s.jobs = .ok evidence) {u : UserId} {a : Asset}
    {e : EpochId} (hsmall : smallKey u a e s = true) {earlier : StrategyEvent}
    (hearlier : earlier ∈ s.events) :
    CausalOrder u a e (.authorized j job.userId job.asset d.epochId evidence.intentOrder)
      earlier := by
  intro j₀ o heq
  obtain ⟨rfl, rfl, rfl, rfl, rfl⟩ := StrategyEvent.authorized.inj heq
  have hwindow := windowSmall_of_smallKey hsmall hd rfl
  obtain ⟨hevidence, -, -, hnewest⟩ := currentIntent_eq_ok hcurrent
  have horder := (jobEvidence_eq_ok hevidence).2
  refine ⟨?_, ?_⟩
  · rintro rfl
    obtain ⟨job', hjob', hout⟩ := h.superseded j hearlier
    obtain rfl : job = job' := Option.some.inj (hjob.symm.trans hjob')
    exact hout.not_current h.history hd hbound hwindow hcurrent
  · rintro j' o' rfl
    obtain ⟨job', epoch, hjob', hu, ha, horigin, ho', he, hsince⟩ :=
      h.authorized j' job.userId job.asset d.epochId o' hearlier
    by_cases hj : j' = j
    · subst hj
      obtain rfl : job = job' := Option.some.inj (hjob.symm.trans hjob')
      exact (Option.some.inj (ho'.symm.trans horder)).le
    · obtain ⟨-, e', -, -, he', -, -, -, -, -, hstart⟩ := userDestinationState_eq_ok.1 hd
      obtain rfl : epoch = e' := Option.some.inj (he.symm.trans he')
      have hin : inWindow job.userId job.asset d.startedAt job' = true :=
        inWindow_eq_true.2 ⟨hu, ha, horigin, by rw [hstart]; exact hsince⟩
      have hseen := mem_intentRows_of_small hwindow (StrategyState.mem_jobs.2 hjob') hin
      have hnot := hnewest (j', job') hseen hj
      unfold NewerIntent at hnot
      rw [ho'] at hnot
      exact not_lt.1 hnot

lemma KeyInv.step {u : UserId} {a : Asset} {e : EpochId} {s s' : StrategyState} {op : StrategyOp}
    (h : KeyInv u a e s) (hsmall : smallKey u a e s = true)
    (hstep : strategyStep s op = some s') : KeyInv u a e s' := by
  have hinv := h.inv.step hstep
  have hframe : s'.events = s.events → s'.publishers = s.publishers → KeyInv u a e s' := by
    intro hevents hpublishers
    refine ⟨hinv, ?_, ?_⟩
    · rw [hpublishers]
      exact h.small
    · rw [hevents]
      exact h.causal
  cases op with
  | destination action =>
      obtain ⟨d, hd, rfl⟩ := Option.map_eq_some_iff.1 hstep
      exact hframe rfl rfl
  | insert j row =>
      simp only [strategyStep] at hstep
      split_ifs at hstep
      obtain rfl := Option.some.inj hstep
      exact hframe rfl rfl
  | journal cloid execution =>
      simp only [strategyStep] at hstep
      split_ifs at hstep
      obtain rfl := Option.some.inj hstep
      exact hframe rfl rfl
  | write j state =>
      obtain rfl := Option.some.inj hstep
      exact hframe rfl rfl
  | readIntents p j =>
      obtain ⟨job, d, -, -, -, hd, rfl⟩ := readIntents_eq hstep
      refine ⟨hinv, ?_, h.causal⟩
      intro p' task htask hu ha he
      rcases Table.lookup_insert_cases htask with ⟨-, rfl⟩ | htask
      · subst hu
        exact windowSmall_of_smallKey hsmall hd he
      · exact h.small p' task htask hu ha he
  | flush p =>
      obtain ⟨task, htask, rfl⟩ := Option.map_eq_some_iff.1 hstep
      refine ⟨hinv, fun p' task' htask' => h.small p' task' (Table.lookup_of_erase htask'), ?_⟩
      have hmark : ∀ later ∈ (publishMarks task).map fun entry =>
          StrategyEvent.superseded entry.1, ∀ earlier, CausalOrder u a e later earlier := by
        intro later hlater earlier j o heq
        obtain ⟨entry, -, rfl⟩ := List.mem_map.1 hlater
        cases heq
      refine List.pairwise_append.2 ⟨?_, h.causal, fun later hlater x _ => hmark later hlater x⟩
      exact List.pairwise_of_forall_mem_list fun later hlater x _ => hmark later hlater x
  | rollback p =>
      obtain rfl := Option.some.inj hstep
      exact ⟨hinv, fun p' task' htask' => h.small p' task' (Table.lookup_of_erase htask'), h.causal⟩
  | authorize cloid network asset provider =>
      rcases authorize_eq hstep with rfl | ⟨j, job, d, evidence, hjob, hd, hbound, horigin, hcurrent, rfl⟩
      · exact h
      · refine ⟨hinv, h.small, List.pairwise_cons.2 ⟨fun earlier hearlier => ?_, h.causal⟩⟩
        exact causalOrder_of_authorized h.inv hjob hd hbound hcurrent hsmall hearlier

/-! ## Every run -/

/-- **Strategy intents are authorised in causal order.**  In every interleaving of insertions,
publishes, authorisations, destination changes and other writes, for every user, asset and epoch
whose window fits the scan: the orders of the authorised submissions never decrease; a job that
was marked superseded is never authorised afterwards; and a publish that passes leaves every job
of the key that it read waiting with an older order skipped. -/
theorem strategy_intents_monotone {u : UserId} {a : Asset} {e : EpochId} {ops : List StrategyOp}
    {s : StrategyState} (hrun : run strategyStep .initial ops = some s)
    (hsmall : RunMeets strategyStep (fun s _ => smallKey u a e s = true) .initial ops) :
    (s.events.Pairwise fun later earlier => ∀ j o j' o', later = .authorized j u a e o →
      earlier = .authorized j' u a e o' → o' ≤ o) ∧
    (s.events.Pairwise fun later earlier => ∀ j o, later = .authorized j u a e o →
      earlier ≠ .superseded j) ∧
    ∀ p task evidence s', s.publishers.lookup p = some task → task.job.userId = u →
      task.job.asset = a → task.destination.epochId = e → publishVerdict task = .ok evidence →
      strategyStep s (.flush p) = some s' →
      ∀ k candidate o, (k, candidate) ∈ task.read →
        inWindow u a task.destination.startedAt candidate = true → k ≠ task.jobId →
        candidate.state.waiting = true → positiveIntentOrder candidate.toStrategyRow = some o →
        o < evidence.intentOrder → ∃ job, s'.job k = some job ∧ job.state = .skipped := by
  have hinit : KeyInv u a e .initial := by
    refine ⟨strategyInv_initial, ?_, ?_⟩
    · simp [StrategyState.initial]
    · simp [StrategyState.initial]
  have h : KeyInv u a e s :=
    run_invariant_of_meets (fun _ _ _ hs hop hstep => hs.step hop hstep) hinit hsmall hrun
  refine ⟨?_, ?_, ?_⟩
  · exact h.causal.imp fun hcausal j o j' o' hlater hearlier => (hcausal j o hlater).2 j' o' hearlier
  · exact h.causal.imp fun hcausal j o hlater => (hcausal j o hlater).1
  · intro p task evidence s' htask hu ha he hverdict hstep k candidate o hread hwindow hne hwaiting
      horder hlt
    have hscan : (k, candidate) ∈
        intentRows task.read task.job.userId task.job.asset task.destination.startedAt := by
      rw [hu, ha]
      exact mem_intentRows_of_small (h.small p task htask hu ha he) hread hwindow
    have hmark : (k, candidate) ∈ publishMarks task := by
      unfold publishMarks
      rw [hverdict]
      refine List.mem_filter.2 ⟨hscan, ?_⟩
      simp [olderIntent, hne, hwaiting, horder, hlt]
    obtain ⟨job, hjob, -⟩ := h.inv.marks p task htask _ hmark
    obtain ⟨hd, hrow⟩ := StrategyState.job_eq_some.1 hjob
    obtain ⟨task', htask', rfl⟩ := Option.map_eq_some_iff.1 hstep
    obtain rfl : task = task' := Option.some.inj (htask.symm.trans htask')
    obtain ⟨row', hrow', hskipped⟩ := flush_skips (Or.inl ⟨_, hmark, rfl⟩) hrow
    exact ⟨⟨job.toDestinationJob, row'⟩, StrategyState.job_eq_some.2 ⟨hd, hrow'⟩, hskipped⟩

/-! ## Three intents of one market -/

/-- User 0 sets a Hyperliquid testnet destination, epoch 1. -/
def openTestnet : List StrategyOp :=
  [.destination ⟨1, .addUser 0 .hyperliquid .testnet 1⟩,
   .destination ⟨2, .setDestination 0 ⟨.hyperliquid, .testnet, some 7, some 1⟩
     ⟨.verifiedFlat, [], []⟩ 1⟩]

/-- An intent of user 0 on asset 0 with the given order is inserted and bound. -/
def insertIntent (now : ℕ) (jobId : JobId) (order : ℚ) : List StrategyOp :=
  [.destination ⟨now, .createJob jobId 0 none now (.known .testnet) (.known .hyperliquid)⟩,
   .insert jobId ⟨0, .event, .queued, some order, none, some 5⟩,
   .destination ⟨now + 1, .bindJob jobId (some 7, some 1) 9⟩]

/-- A publish and the submission of its job. -/
def submitIntent (jobId : JobId) (cloid : ExecutionId) : List StrategyOp :=
  [.readIntents 0 jobId, .flush 0, .write jobId .processing,
   .journal cloid ⟨jobId, some 1, some .hyperliquid, some .testnet⟩,
   .authorize cloid .testnet 0 .hyperliquid]

/-- Intent 1 is submitted; 3 and 2 arrive in that order, and 3 is about to be published. -/
def intentRun : List StrategyOp :=
  openTestnet ++ insertIntent 3 11 1 ++ submitIntent 11 21 ++ insertIntent 5 13 3 ++
    insertIntent 7 12 2 ++ [.readIntents 0 13]

/-- Intent 2 arrives while the publish of 3 has read and not flushed. -/
def lateIntentRun : List StrategyOp :=
  openTestnet ++ insertIntent 3 13 3 ++ [.readIntents 0 13] ++ insertIntent 5 12 2

/-- Intent 2 is published when 3 is there already. -/
def refusedIntentRun : List StrategyOp :=
  openTestnet ++ insertIntent 3 11 1 ++ insertIntent 5 12 2 ++ insertIntent 7 13 3 ++
    [.readIntents 0 12]

/-- Publisher 0 is about to publish intent 3 of the key, and has read intent 2 waiting. -/
def readsOlderWaiting (s : StrategyState) : Bool :=
  (s.publishers.lookup 0).any fun task =>
    task.job.userId = 0 && task.job.asset = 0 && task.destination.epochId = 1 &&
      task.jobId = 13 && ((publishVerdict task).toOption.map (·.intentOrder)) = some 3 &&
      task.read.any fun entry => entry.1 = 12 && inWindow 0 0 task.destination.startedAt entry.2 &&
        entry.2.state.waiting && positiveIntentOrder entry.2.toStrategyRow = some 2

lemma intentRun_rows : (run strategyStep .initial intentRun).map (fun s =>
    (s.events, readsOlderWaiting s)) = some ([.authorized 11 0 0 1 1], true) := by
  decide +kernel

lemma intentRun_small :
    RunMeets strategyStep (fun s _ => smallKey 0 0 1 s = true) .initial intentRun := by
  decide +kernel

/-- The publish of intent 3 skips intent 2, which it read. -/
theorem strategy_intents_monotone_published :
    ∃ s, run strategyStep .initial intentRun = some s ∧ s.events = [.authorized 11 0 0 1 1] ∧
      ∃ s' job, strategyStep s (.flush 0) = some s' ∧ s'.job 12 = some job ∧
        job.state = .skipped := by
  obtain ⟨s, hrun, hrows⟩ := Option.map_eq_some_iff.1 intentRun_rows
  obtain ⟨hevents, hreads⟩ := Prod.mk.inj hrows
  obtain ⟨task, htask, hreads⟩ := (Option.any_eq_true _ _).1 hreads
  simp only [Bool.and_eq_true, decide_eq_true_eq, List.any_eq_true] at hreads
  obtain ⟨⟨⟨⟨⟨hu, ha⟩, he⟩, hj⟩, hverdict⟩, ⟨k, candidate⟩, hread, hcandidate⟩ := hreads
  obtain ⟨⟨⟨hk, hwindow⟩, hwaiting⟩, horder⟩ := hcandidate
  dsimp only at hk hwindow hwaiting horder
  cases hok : publishVerdict task with
  | error reason =>
      rw [hok] at hverdict
      cases hverdict
  | ok evidence =>
      rw [hok] at hverdict
      have horder3 : evidence.intentOrder = 3 := Option.some.inj hverdict
      have hstep : strategyStep s (.flush 0) = some (flushPublish s 0 task) := by
        simp only [strategyStep, htask, Option.map_some]
      obtain ⟨job, hjob, hskipped⟩ :=
        (strategy_intents_monotone hrun intentRun_small).2.2 0 task evidence _ htask hu ha he hok
          hstep k candidate 2 hread hwindow (by rw [hk, hj]; decide) hwaiting horder
          (by rw [horder3]; decide)
      rw [hk] at hjob
      exact ⟨s, hrun, hevents, _, job, hstep, hjob, hskipped⟩

/-- The verdict of a publish that has read. -/
def publishPasses (s : StrategyState) (p : PublisherId) : Bool :=
  (s.publishers.lookup p).any fun task => (publishVerdict task).isOk

/-- A publish, flushed now, leaves an older job of its key waiting. -/
def leavesOlderWaiting (s : StrategyState) (p : PublisherId) : Bool :=
  match s.publishers.lookup p, strategyStep s (.flush p) with
  | some task, some s' => s'.jobs.any fun entry =>
      inWindow task.job.userId task.job.asset task.destination.startedAt entry.2 &&
        entry.1 ≠ task.jobId && entry.2.state.waiting &&
        match positiveIntentOrder entry.2.toStrategyRow,
          positiveIntentOrder task.job.toStrategyRow with
        | some older, some order => older < order
        | _, _ => false
  | _, _ => false

/-- **A publish that returns leaves an older intent of its key in the queue**: one that was
inserted after it read, and any when it is refused itself. -/
theorem older_intent_stays_queued :
    (∃ s, run strategyStep .initial lateIntentRun = some s ∧
      RunMeets strategyStep (fun s _ => smallKey 0 0 1 s = true) .initial lateIntentRun ∧
      publishPasses s 0 = true ∧ leavesOlderWaiting s 0 = true) ∧
    ∃ s, run strategyStep .initial refusedIntentRun = some s ∧
      RunMeets strategyStep (fun s _ => smallKey 0 0 1 s = true) .initial refusedIntentRun ∧
      publishPasses s 0 = false ∧ leavesOlderWaiting s 0 = true := by
  have hlate : (run strategyStep .initial lateIntentRun).map (fun s =>
      (publishPasses s 0, leavesOlderWaiting s 0)) = some (true, true) := by decide +kernel
  have hrefused : (run strategyStep .initial refusedIntentRun).map (fun s =>
      (publishPasses s 0, leavesOlderWaiting s 0)) = some (false, true) := by decide +kernel
  obtain ⟨s, hrun, hs⟩ := Option.map_eq_some_iff.1 hlate
  obtain ⟨s', hrun', hs'⟩ := Option.map_eq_some_iff.1 hrefused
  obtain ⟨hpasses, hleft⟩ := Prod.mk.inj hs
  obtain ⟨hpasses', hleft'⟩ := Prod.mk.inj hs'
  exact ⟨⟨s, hrun, by decide +kernel, hpasses, hleft⟩,
    ⟨s', hrun', by decide +kernel, hpasses', hleft'⟩⟩

end HyperCopy

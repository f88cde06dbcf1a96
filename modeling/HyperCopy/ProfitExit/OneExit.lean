import HyperCopy.Executor.AtMostOnce
import HyperCopy.ProfitExit.LifecycleSteps

/-!
# The evaluation decides a cycle once at a time

The steps of the evaluation and of the destinations keep the invariant of
`ProfitExit.LifecycleLaws`, so it holds in every run.  The evaluation looks at the newest decision
of a cycle only; that this is enough is `settled_of_memory`.
-/

namespace HyperCopy

/-- A decision that all others are older than is the latest one. -/
lemma latestDecision_of_newest {ds : List ProfitExitDecision} {d : ProfitExitDecision} (hd : d ∈ ds)
    (hnewest : ∀ d' ∈ ds, d' = d ∨ d'.decidedAt < d.decidedAt) : latestDecision ds = some d := by
  induction ds with
  | nil => cases hd
  | cons e es ih =>
      have hrest : ∀ d' ∈ es, d' = d ∨ d'.decidedAt < d.decidedAt :=
        fun d' hd' => hnewest d' (List.mem_cons_of_mem _ hd')
      by_cases hmem : d ∈ es
      · simp only [latestDecision, ih hmem hrest]
        obtain rfl | hlt := hnewest e List.mem_cons_self
        · split_ifs <;> rfl
        · rw [if_pos]
          simp [ProfitExitDecision.newer, hlt]
      · obtain rfl | hmem' := List.mem_cons.1 hd
        · simp only [latestDecision]
          split
          · rfl
          · rename_i best hbest
            have hbestMem := latestDecision_mem hbest
            obtain rfl | hlt := hrest best hbestMem
            · exact absurd hbestMem hmem
            · rw [if_neg]
              simp only [ProfitExitDecision.newer, Bool.or_eq_true, Bool.and_eq_true,
                decide_eq_true_eq, not_or, not_and]
              omega
        · exact absurd hmem' hmem

namespace ExitSystem

variable {venue : Venue} {ttl : ℕ} {profitExitJobId : DecisionId → JobId} {s s' : ExitSystem}

/-! ## Destinations -/

lemma ExitInv.openEpoch {userId : UserId} {destination : ActiveDestination} (hinv : ExitInv venue s)
    (h : s.openEpoch userId destination = some s') : ExitInv venue s' := by
  unfold ExitSystem.openEpoch at h
  split_ifs at h with hused
  obtain rfl := Option.some.inj h
  set s' : ExitSystem := { s with
    active := Function.update s.active userId (some destination)
    epochs := destination.epochId :: s.epochs } with hs'
  -- the epoch of a scope there has been is not the one that opens
  have hactive : ∀ scope user destination', s.ScopeTrue scope → s'.active user = some destination' →
      destination'.epochId = scope.executionEpochId → s.active user = some destination' := by
    intro scope user destination' hscope hd heq
    by_cases huser : user = userId
    · subst huser
      rw [hs'] at hd
      simp only [Function.update_self, Option.some.injEq] at hd
      subst hd
      exact absurd (heq ▸ hscope.epoch) hused
    · rw [hs'] at hd
      simpa only [Function.update_of_ne huser] using hd
  have hlater : Later s s' := by
    refine later_of_same rfl (fun scope hscope => ?_) fun scope hscope hclosed => ?_
    · refine ⟨List.mem_cons_of_mem _ hscope.epoch, hscope.provider, fun destination' hd heq => ?_⟩
      exact hscope.destination destination' (hactive scope _ destination' hscope hd heq) heq
    · intro destination' hd heq
      exact hclosed destination' (hactive scope _ destination' hscope hd heq) heq
  refine hinv.frame rfl rfl rfl rfl hlater (fun user destination' hd => ?_) fun evaluation he =>
    EvaluationTrue.later (hinv.evaluation evaluation he) hlater rfl
  by_cases huser : user = userId
  · subst huser
    rw [hs'] at hd
    simp only [Function.update_self, Option.some.injEq] at hd
    subst hd
    exact List.mem_cons_self
  · rw [hs'] at hd
    simp only [Function.update_of_ne huser] at hd
    exact List.mem_cons_of_mem _ (hinv.active user destination' hd)

lemma ExitInv.closeEpoch (hinv : ExitInv venue s) (userId : UserId) :
    ExitInv venue (s.closeEpoch userId) := by
  have hactive : ∀ user destination, (s.closeEpoch userId).active user = some destination →
      s.active user = some destination := by
    intro user destination hd
    by_cases huser : user = userId
    · subst huser
      simp [ExitSystem.closeEpoch] at hd
    · simpa only [ExitSystem.closeEpoch, Function.update_of_ne huser] using hd
  have hlater : Later s (s.closeEpoch userId) := by
    refine later_of_same rfl (fun scope hscope => ⟨hscope.epoch, hscope.provider, ?_⟩) ?_
    · exact fun destination hd => hscope.destination destination (hactive _ _ hd)
    · exact fun scope _ hclosed destination hd => hclosed destination (hactive _ _ hd)
  exact hinv.frame rfl rfl rfl rfl hlater (fun user destination hd => hinv.active user destination
    (hactive user destination hd)) fun evaluation he =>
      EvaluationTrue.later (hinv.evaluation evaluation he) hlater rfl

/-! ## The evaluation -/

/-- The evaluation goes on with what is true. -/
lemma ExitInv.goOn (hinv : ExitInv venue s) (mode : ProfitExitFeatureMode) {stage : EvaluationStage}
    (hstage : s.EvaluationTrue stage) : ExitInv venue (s.goOn mode stage) := by
  have hlater : Later s (s.goOn mode stage) :=
    later_of_same rfl (fun _ hscope => scopeTrue_of_same (s := s) rfl rfl hscope)
      fun _ _ hclosed => closed_of_same (s := s) rfl hclosed
  refine hinv.frame rfl rfl rfl rfl hlater hinv.active fun evaluation he => ?_
  obtain rfl := Option.some.inj he
  exact EvaluationTrue.later hstage hlater rfl

/-- Where the latest operational decision of a cycle does not block it, all its exits have ended. -/
lemma settled_of_memory (hinv : ExitInv venue s) {scope : ProfitExitScope} {cycle : SourceCycleId}
    {destination : ActiveDestination} (hactive : s.active scope.userId = some destination)
    (hepoch : destination.epochId = scope.executionEpochId)
    (hmemory : ∀ m, operationalProfitExitMemory s.decisionRows scope (some cycle) = some m →
      m.intentState.any (·.blocks) = false)
    {id : DecisionId} {d : ProfitExitIntent} {job : JobId} (hd : s.IsExit id d job)
    (hscope : d.scope = scope) (hcycle : d.sourceCycleId = cycle) : s.Settled d job := by
  have hbooks := hinv.books
  have hbound := hbooks.bound id d job hd
  by_contra hopen
  -- an exit that has not ended is the newest of its cycle, so the memory finds it
  have hnewest : s.Newest id d := by
    intro id' d' job' hd' hscope' hcycle' hne
    obtain ⟨hlt, -⟩ | ⟨-, hsettled⟩ := hbooks.order id' id d' d job' job hd' hd hscope' hcycle' hne
    · exact hlt
    · exact absurd hsettled hopen
  have hfound : ∀ intent, d.intentState = some intent → intent.operational = true →
      intent.blocks = false := by
    intro intent hintent hoperational
    have hmem : d.toProfitExitDecision ∈ memoryRows s.decisionRows scope (some cycle) := by
      refine mem_memoryRows.2 ⟨?_, hscope, ?_, fun c hc => ?_⟩
      · refine List.mem_map.2 ⟨⟨id, d⟩, ?_, rfl⟩
        exact AList.mem_lookup_iff.1 hd.row
      · simp [ProfitExitDecision.operational, hbound.action, hintent, hoperational]
      · obtain rfl := Option.some.inj hc
        exact hcycle
    have hlatest : operationalProfitExitMemory s.decisionRows scope (some cycle) =
        some d.toProfitExitDecision := by
      refine latestDecision_of_newest hmem fun m hm => ?_
      obtain ⟨hrow, hmscope, hmop, hmcycle⟩ := mem_memoryRows.1 hm
      obtain ⟨⟨id', d'⟩, hentry, rfl⟩ := List.mem_map.1 hrow
      have hlookup : s.decisions.lookup id' = some d' := AList.mem_lookup_iff.2 hentry
      by_cases hid : id' = id
      · subst hid
        obtain rfl := Option.some.inj (hlookup.symm.trans hd.row)
        exact Or.inl rfl
      · right
        cases hjob : d'.copyJobId with
        | none =>
            have hnone := hbooks.recorded id' d' hlookup hjob
            simp [ProfitExitDecision.operational, hnone] at hmop
        | some job' =>
            exact hnewest id' d' job' ⟨hlookup, hjob⟩ (hmscope.trans hscope.symm)
              ((hmcycle cycle rfl).trans hcycle.symm) hid
    have hblocks := hmemory _ hlatest
    rw [hintent] at hblocks
    exact hblocks
  have htrue := hbound.intent
  unfold IntentTrue at htrue
  split at htrue
  · exact htrue
  · rename_i hintent
    exact absurd (hfound _ hintent rfl) (by decide)
  · rename_i hintent
    exact absurd (hfound _ hintent rfl) (by decide)
  · rename_i hintent
    exact hopen ⟨htrue.1, Or.inl ⟨hintent, htrue.2⟩⟩
  · rename_i hintent
    exact absurd (hfound _ hintent rfl) (by decide)
  · rename_i hintent
    obtain ⟨hover, hunfilled⟩ | hclosed := htrue
    · exact hopen ⟨hover, Or.inr ⟨hintent, hunfilled⟩⟩
    · rw [hscope] at hclosed
      exact hclosed destination hactive hepoch

lemma ExitInv.visit {userId : UserId} {asset : Asset} {cycle : SourceCycleId} {position : ℚ}
    {shadow : Bool} (hinv : ExitInv venue s)
    (h : s.visit userId asset cycle position shadow = some s') : ExitInv venue s' := by
  unfold ExitSystem.visit at h
  split at h
  · rename_i mode destination hevaluation hactive
    dsimp only at h
    split_ifs at h with hprovider hblocked
    obtain rfl := Option.some.inj h
    refine hinv.goOn mode ⟨⟨hinv.active _ _ hactive, not_not.1 hprovider, ?_⟩, ?_⟩
    · intro destination' hd heq
      obtain rfl := Option.some.inj (hactive.symm.trans hd)
      exact ⟨rfl, rfl⟩
    · rintro rfl id d job hd hscope hcycle
      refine settled_of_memory hinv hactive rfl (fun m hm => ?_) hd hscope hcycle
      · simp only [Bool.not_false, Bool.true_and, Bool.not_eq_true, hm, Option.any_some] at hblocked
        exact hblocked
  · cases h

/-! ## A new decision -/

lemma exit_of_insert {id id' : DecisionId} {d d' : ProfitExitIntent} {job : JobId}
    (hdecisions : s'.decisions = s.decisions.insert id d) (hd' : s'.IsExit id' d' job) :
    id' = id ∧ d' = d ∧ d.copyJobId = some job ∨ s.IsExit id' d' job := by
  have hrow := hd'.row
  rw [hdecisions] at hrow
  obtain ⟨rfl, rfl⟩ | hold := Table.lookup_insert_cases hrow
  · exact Or.inl ⟨rfl, rfl, hd'.job⟩
  · exact Or.inr ⟨hold, hd'.job⟩

/-- A decision is added.  Where it has a job, the exits of its cycle before it have ended. -/
lemma ExitBooks.insert {id : DecisionId} {d : ProfitExitIntent} (h : s.ExitBooks)
    (hlater : Later s s') (hfresh : s.decisions.lookup id = none)
    (hdecisions : s'.decisions = s.decisions.insert id d) (hid : d.id = id)
    (hscope : s.ScopeTrue d.scope) (hrecorded : d.copyJobId = none → d.intentState = none)
    (hkept : ∀ job id', s.contexts.lookup job = some id' → s'.contexts.lookup job = some id')
    (hcontexts : ∀ job id', s'.contexts.lookup job = some id' →
      s.contexts.lookup job = some id' ∨ id' = id ∧ d.copyJobId = some job)
    (hbound : ∀ job, d.copyJobId = some job → s'.Bound id d job)
    (hended : ∀ id' d' job', d.copyJobId ≠ none → s.IsExit id' d' job' → d'.scope = d.scope →
      d'.sourceCycleId = d.sourceCycleId → d'.decidedAt < d.decidedAt ∧ s.Settled d' job') :
    s'.ExitBooks := by
  have hrow : ∀ id' d', s'.decisions.lookup id' = some d' →
      id' = id ∧ d' = d ∨ s.decisions.lookup id' = some d' := by
    intro id' d' hd'
    rw [hdecisions] at hd'
    exact Table.lookup_insert_cases hd'
  have hold : ∀ id' d' job', s.IsExit id' d' job' → s'.IsExit id' d' job' := by
    intro id' d' job' hd'
    refine ⟨?_, hd'.job⟩
    rw [hdecisions, Table.lookup_insert_eq, if_neg]
    · exact hd'.row
    · rintro rfl
      rw [hd'.row] at hfresh
      cases hfresh
  refine ⟨?_, ?_, ?_, ?_, ?_, ?_⟩
  · intro id' d' hd'
    obtain ⟨rfl, rfl⟩ | hd' := hrow id' d' hd'
    · exact hid
    · exact h.id id' d' hd'
  · intro id' d' hd'
    obtain ⟨rfl, rfl⟩ | hd' := hrow id' d' hd'
    · exact hlater.scopes _ hscope
    · exact hlater.scopes _ (h.scope id' d' hd')
  · intro id' d' hd' hnone
    obtain ⟨rfl, rfl⟩ | hd' := hrow id' d' hd'
    · exact hrecorded hnone
    · exact h.recorded id' d' hd' hnone
  · intro id' d' job' hd'
    obtain ⟨rfl, rfl, hjob⟩ | hd' := exit_of_insert hdecisions hd'
    · exact hbound job' hjob
    · have hb := h.bound id' d' job' hd'
      exact hb.later hlater rfl rfl rfl (hkept job' id' hb.context)
        (hb.intent.later (h.scope id' d' hd'.row) hlater)
  · intro job' id' hjob'
    obtain hjob' | ⟨rfl, hjob'⟩ := hcontexts job' id' hjob'
    · obtain ⟨d', hd'⟩ := h.context job' id' hjob'
      exact ⟨d', hold id' d' job' hd'⟩
    · refine ⟨d, ?_, hjob'⟩
      rw [hdecisions]
      exact AList.lookup_insert _
  · intro id₁ id₂ d₁ d₂ job₁ job₂ hd₁ hd₂ hsame hcycle hne
    obtain ⟨rfl, rfl, hjob₁⟩ | hold₁ := exit_of_insert hdecisions hd₁
    · obtain ⟨rfl, -, -⟩ | hold₂ := exit_of_insert hdecisions hd₂
      · exact absurd rfl hne
      · obtain ⟨hlt, hsettled⟩ := hended id₂ d₂ job₂ (by simp [hjob₁]) hold₂ hsame.symm hcycle.symm
        exact Or.inr ⟨hlt, hsettled.later hlater⟩
    · obtain ⟨rfl, rfl, hjob₂⟩ | hold₂ := exit_of_insert hdecisions hd₂
      · obtain ⟨hlt, hsettled⟩ := hended id₁ d₁ job₁ (by simp [hjob₂]) hold₁ hsame hcycle
        exact Or.inl ⟨hlt, hsettled.later hlater⟩
      · exact (h.order id₁ id₂ d₁ d₂ job₁ job₂ hold₁ hold₂ hsame hcycle hne).imp
          (And.imp_right fun hsettled => hsettled.later hlater)
          (And.imp_right fun hsettled => hsettled.later hlater)

lemma enqueue_eq_some {e : ExecutorState} {now : ℕ} {id : JobId} {job : CopyJob}
    (h : executorStep venue s.executor ⟨now, .enqueue id job⟩ = some e) :
    s.executor.clock < now ∧ s.executor.jobs.lookup id = none ∧
      e = { s.executor with jobs := s.executor.jobs.insert id (queuedRow job), clock := now } := by
  obtain ⟨hclock, s₁, hop, rfl⟩ := executorStep_op h
  simp only [applyExecutorOp, enqueueJob] at hop
  split_ifs at hop with hbad
  obtain rfl := Option.some.inj hop
  simp only [Bool.or_eq_true, not_or, Option.isSome_iff_ne_none, not_not] at hbad
  exact ⟨hclock, hbad.1, rfl⟩

/-- A decision of its own kind, with the job that carries it out. -/
lemma ExitInv.decideExit {now : ℕ} {id : DecisionId} {evidence : ExitEvidence}
    {scope : ProfitExitScope} {cycle : SourceCycleId} {position : ℚ} {mode : ProfitExitFeatureMode}
    {job : JobId} {e : ExecutorState} (hinv : ExitInv venue s)
    (hstage : s.EvaluationTrue (.deciding scope cycle position false))
    (hfresh : s.decisions.lookup id = none)
    (hstep : executorStep venue s.executor ⟨now, .enqueue job (exitJob scope)⟩ = some e) :
    ExitInv venue ({ s with
      executor := e
      decisions := s.decisions.insert id
        (newDecision scope cycle id .closeProfit evidence (some job) now ttl)
      contexts := s.contexts.insert job id }.goOn mode (.publishing id job)) := by
  set d := newDecision scope cycle id .closeProfit evidence (some job) now ttl with hd
  set s' : ExitSystem := { s with
    executor := e
    decisions := s.decisions.insert id d
    contexts := s.contexts.insert job id }.goOn mode (.publishing id job) with hs'
  obtain ⟨hclock, hjob, rfl⟩ := enqueue_eq_some hstep
  have hlater : Later s s' := later_of_executor hinv.disciplined hstep rfl rfl
  -- the job is new, so nothing knows it yet
  have hnoContext : s.contexts.lookup job = none := by
    by_contra hsome
    obtain ⟨id', hid'⟩ := Option.ne_none_iff_exists'.1 hsome
    obtain ⟨d', hd'⟩ := hinv.books.context job id' hid'
    obtain ⟨row, hrow, -⟩ := (hinv.books.bound id' d' job hd').row
    rw [hrow] at hjob
    cases hjob
  have hkept : ∀ job' id', s.contexts.lookup job' = some id' →
      s'.contexts.lookup job' = some id' := by
    intro job' id' hid'
    change (s.contexts.insert job id).lookup job' = some id'
    rw [Table.lookup_insert_eq, if_neg]
    · exact hid'
    · rintro rfl
      rw [hid'] at hnoContext
      cases hnoContext
  have hended : ∀ id' d' job', s.IsExit id' d' job' → d'.scope = scope →
      d'.sourceCycleId = cycle → d'.decidedAt < now ∧ s.Settled d' job' := by
    intro id' d' job' hd' hscope hcycle
    exact ⟨lt_of_le_of_lt (hinv.books.bound id' d' job' hd').decided hclock,
      hstage.2 rfl id' d' job' hd' hscope hcycle⟩
  have hbooks : s'.ExitBooks := by
    refine hinv.books.insert (d := d) hlater hfresh rfl rfl hstage.1 (fun hnone => by cases hnone)
      hkept (fun job' id' hid' => ?_) (fun job' hjob' => ?_) fun id' d' job' _ => hended id' d' job'
    · obtain ⟨rfl, rfl⟩ | hold := Table.lookup_insert_cases hid'
      · exact Or.inr ⟨rfl, rfl⟩
      · exact Or.inl hold
    · obtain rfl := Option.some.inj hjob'
      exact ⟨rfl, AList.lookup_insert _, ⟨queuedRow (exitJob scope), AList.lookup_insert _, rfl⟩,
        le_refl now, trivial⟩
  have hexit : s'.IsExit id d job := ⟨AList.lookup_insert _, rfl⟩
  have hnewest : s'.Newest id d := by
    intro id' d' job' hd' hscope hcycle hne
    obtain ⟨heq, -, -⟩ | hold := exit_of_insert rfl hd'
    · exact absurd heq hne
    · exact (hended id' d' job' hold hscope hcycle).1
  refine ⟨hbooks, hinv.disciplined.executorStep hstep, hinv.active, ?_, ?_, ?_⟩
  · intro t id' u n stage a leg ht hcontext hleg
    obtain ⟨id₁, hid₁⟩ := Option.isSome_iff_exists.1 hcontext
    obtain ⟨rfl, rfl⟩ | hold := Table.lookup_insert_cases hid₁
    · obtain ⟨row, hrow, -⟩ := hinv.disciplined.coherent.jobOfUser ht
      rw [hrow] at hjob
      cases hjob
    · exact hinv.legs t id' u n stage a leg ht (by rw [hold]; rfl) hleg
  · intro t intent hset
    obtain ⟨id', u, n, stage, ht, hcontext, hbacked⟩ := hinv.uncommitted t intent hset
    obtain ⟨id₁, hid₁⟩ := Option.isSome_iff_exists.1 hcontext
    refine ⟨id', u, n, stage, ht, by rw [hkept id' id₁ hid₁]; rfl, ?_⟩
    cases intent <;> exact hbacked
  · intro evaluation he
    obtain rfl := Option.some.inj he
    exact ⟨d, hexit, hnewest⟩

/-- A decision that is only recorded. -/
lemma ExitInv.decideNote {now : ℕ} {id : DecisionId} {action : ProfitExitAction}
    {evidence : ExitEvidence} {scope : ProfitExitScope} {cycle : SourceCycleId} {position : ℚ}
    {shadow : Bool} {mode : ProfitExitFeatureMode} (hinv : ExitInv venue s)
    (hstage : s.EvaluationTrue (.deciding scope cycle position shadow))
    (hfresh : s.decisions.lookup id = none) :
    ExitInv venue ({ s with
      decisions := s.decisions.insert id
        (newDecision scope cycle id action evidence none now ttl) }.goOn mode .between) := by
  set d := newDecision scope cycle id action evidence none now ttl with hd
  set s' : ExitSystem :=
    { s with decisions := s.decisions.insert id d }.goOn mode .between with hs'
  have hlater : Later s s' :=
    later_of_same rfl (fun _ hscope => scopeTrue_of_same (s := s) rfl rfl hscope)
      fun _ _ hclosed => closed_of_same (s := s) rfl hclosed
  have hbooks : s'.ExitBooks :=
    hinv.books.insert (d := d) hlater hfresh rfl rfl hstage.1 (fun _ => rfl) (fun _ _ hid => hid)
      (fun _ _ hid => Or.inl hid) (fun _ hjob => by cases hjob) fun _ _ _ hjob => absurd rfl hjob
  refine ⟨hbooks, hinv.disciplined, hinv.active, hinv.legs, hinv.uncommitted, ?_⟩
  intro evaluation he
  obtain rfl := Option.some.inj he
  trivial

lemma ExitInv.decide {now : ℕ} {id : DecisionId} {action : ProfitExitAction}
    {evidence : ExitEvidence} (hinv : ExitInv venue s)
    (h : s.decide venue ttl profitExitJobId now id action evidence = some s') :
    ExitInv venue s' := by
  unfold ExitSystem.decide at h
  split at h
  · rename_i mode scope cycle position shadow hevaluation
    have hstage := hinv.evaluation _ hevaluation
    split_ifs at h with hstop hoperational
    · obtain rfl := Option.some.inj h
      exact hinv.goOn mode trivial
    · simp only [Bool.and_eq_true, decide_eq_true_eq, Bool.not_eq_eq_eq_not, Bool.not_true]
        at hoperational
      obtain ⟨⟨-, rfl⟩, rfl⟩ := hoperational
      obtain ⟨e, hstep, rfl⟩ := Option.map_eq_some_iff.1 h
      simp only [Bool.or_eq_true, not_or, Option.isSome_iff_ne_none, not_not] at hstop
      exact hinv.decideExit hstage hstop.2 hstep
    · obtain rfl := Option.some.inj h
      simp only [Bool.or_eq_true, not_or, Option.isSome_iff_ne_none, not_not] at hstop
      exact hinv.decideNote hstage hstop.2
  · cases h

/-! ## Publishing -/

/-- A job is refused only when the destination of its exit is not there any more. -/
lemma closed_of_refused {scope : ProfitExitScope} (hscope : s.ScopeTrue scope)
    (h : s.destinationMatches (exitJob scope) = false) : s.Closed scope := by
  intro destination hd heq
  obtain ⟨hprovider, hnetwork⟩ := hscope.destination destination hd heq
  have hd' : s.active (exitJob scope).market.userId = some destination := hd
  rw [destinationMatches, hd'] at h
  simp [exitJob, heq, hprovider, hnetwork] at h

/-- A job that is over stays over when a job is refused. -/
lemma jobOver_refuse {e : ExecutorState} {id : JobId} (h : JobOver e id) (job : JobId) :
    JobOver { e with jobs := Table.modify e.jobs job refusedRow } id := by
  refine ⟨?_, h.waiting⟩
  obtain ⟨row, hrow, hinactive⟩ := h.ended
  change ∃ row, (Table.modify e.jobs job refusedRow).lookup id = some row ∧
    row.state.active = false
  by_cases hid : id = job
  · subst hid
    exact ⟨refusedRow row, by rw [Table.lookup_modify_self, hrow]; rfl, rfl⟩
  · exact ⟨row, by rw [Table.lookup_modify_of_ne _ _ hid]; exact hrow, hinactive⟩

lemma ExitInv.publish {raises : Bool} (hinv : ExitInv venue s)
    (h : s.publish raises = some s') : ExitInv venue s' := by
  unfold ExitSystem.publish at h
  split at h
  · rename_i mode id job hevaluation
    split_ifs at h with hqueued
    · obtain rfl := Option.some.inj h
      exact hinv.goOn mode trivial
    obtain rfl := Option.some.inj h
    obtain ⟨d, hd, hnewest⟩ := hinv.evaluation _ hevaluation
    set s' : ExitSystem := { s with
      executor := { s.executor with jobs := Table.modify s.executor.jobs job refusedRow }
      decisions := Table.modify s.decisions id fun d =>
        { d with intentState := some .failed } }.goOn mode .between with hs'
    have hclosed : s.Closed d.scope := by
      obtain ⟨row, hrow, hjob⟩ := (hinv.books.bound id d job hd).row
      rw [hrow] at hqueued
      simp only [Option.all_some, Bool.or_eq_true, not_or, Bool.not_eq_true, hjob] at hqueued
      exact closed_of_refused (hinv.books.scope id d hd.row) hqueued.2
    have hkept : JobsKept s.executor.jobs s'.executor.jobs := JobsKept.modify fun _ => rfl
    have hlater : Later s s' :=
      ⟨le_refl _, hkept, fun _ hover => jobOver_refuse hover job, fun _ hfilled => hfilled, fun _ _ hunfilled => hunfilled,
        fun _ hscope => scopeTrue_of_same (s := s) rfl rfl hscope,
        fun _ _ hclosed => closed_of_same (s := s) rfl hclosed⟩
    have hbooks : s'.ExitBooks :=
      hinv.books.write hlater hd hnewest rfl rfl (Or.inr (closed_of_same (s := s) rfl hclosed))
    have hdisciplined : Disciplined venue s'.executor :=
      hinv.disciplined.step (@schedule_jobs venue s.executor 0 (.supersede job) _ hkept)
    refine ⟨hbooks, hdisciplined, hinv.active, hinv.legs, ?_, ?_⟩
    · intro t intent hset
      obtain ⟨id', u, n, stage, ht, hcontext, hbacked⟩ := hinv.uncommitted t intent hset
      refine ⟨id', u, n, stage, ht, hcontext, ?_⟩
      cases intent <;> exact hbacked
    · intro evaluation he
      obtain rfl := Option.some.inj he
      trivial
  · cases h

/-! ## Whole runs -/

theorem ExitInv.step {op : ExitOp} (hinv : ExitInv venue s)
    (h : exitStep venue ttl profitExitJobId s op = some s') : ExitInv venue s' := by
  have hsame : ∀ s' : ExitSystem, s'.executor = s.executor → s'.decisions = s.decisions →
      s'.contexts = s.contexts → s'.uncommitted = s.uncommitted → s'.active = s.active →
      s'.epochs = s.epochs → (∀ e, s'.evaluation = some e → s.EvaluationTrue e.stage) →
      ExitInv venue s' := by
    intro s' hexecutor hdecisions hcontexts huncommitted hactive hepochs hevaluation
    have hlater : Later s s' :=
      later_of_same hexecutor (fun _ hscope => scopeTrue_of_same hactive hepochs hscope)
        fun _ _ hclosed => closed_of_same hactive hclosed
    refine hinv.frame hexecutor hdecisions hcontexts huncommitted hlater ?_ fun e he =>
      EvaluationTrue.later (hevaluation e he) hlater hdecisions
    rw [hactive, hepochs]
    exact hinv.active
  cases op with
  | execute action => exact hinv.execute h
  | setMode mode =>
      obtain rfl := Option.some.inj h
      exact hsame _ rfl rfl rfl rfl rfl rfl hinv.evaluation
  | openEpoch userId destination => exact hinv.openEpoch h
  | closeEpoch userId =>
      obtain rfl := Option.some.inj h
      exact hinv.closeEpoch userId
  | beginEvaluation =>
      simp only [exitStep, ExitSystem.beginEvaluation] at h
      split_ifs at h
      obtain rfl := Option.some.inj h
      refine hsame _ rfl rfl rfl rfl rfl rfl fun e he => ?_
      obtain rfl := Option.some.inj he
      trivial
  | visit userId asset cycle position shadow => exact hinv.visit h
  | decide now id action evidence => exact hinv.decide h
  | publish raises => exact hinv.publish h
  | endEvaluation =>
      obtain rfl := Option.some.inj h
      exact hsame _ rfl rfl rfl rfl rfl rfl fun e he => by cases he

lemma exitInv_initial (venue : Venue) (lots : Market → ℤ) :
    ExitInv venue (ExitSystem.initial venue lots) where
  books :=
    { id := fun _ _ hd => by cases hd
      scope := fun _ _ hd => by cases hd
      recorded := fun _ _ hd => by cases hd
      bound := fun _ _ _ hd => by cases hd.row
      context := fun _ _ hid => by cases hid
      order := fun _ _ _ _ _ _ hd => by cases hd.row }
  disciplined := disciplined_initial venue lots
  active _ _ hd := by cases hd
  legs _ _ _ _ _ _ _ ht := by cases ht
  uncommitted _ _ hset := by cases hset
  evaluation _ he := by cases he

theorem exitInv_of_run {lots : Market → ℤ} {ops : List ExitOp}
    (h : Transition.run (exitStep venue ttl profitExitJobId) (ExitSystem.initial venue lots) ops =
      some s) : ExitInv venue s :=
  Transition.run_invariant (fun _ _ _ hinv hstep => hinv.step hstep) (exitInv_initial venue lots) h

end ExitSystem

section Results

variable {venue : Venue} {ttl : ℕ} {profitExitJobId : DecisionId → JobId} {lots : Market → ℤ}
  {ops : List ExitOp} {s : ExitSystem}

/-- **One exit of a source cycle at a time.**  Whatever the interleaving of evaluations, attempts,
crashes, retries and changes of the destination: of two exits of one scope and one source cycle, the
older is over.  Its job has ended and no attempt will work on it again, and either it is PARTIAL and
its fill is in the ledger, or it is FAILED and the row of its order, if there is one, is terminal
and not FILLED. -/
theorem one_exit_at_a_time
    (hrun : Transition.run (exitStep venue ttl profitExitJobId) (ExitSystem.initial venue lots) ops =
      some s) {id id' : DecisionId} {d d' : ProfitExitIntent} {job job' : JobId}
    (hd : s.decisions.lookup id = some d) (hjob : d.copyJobId = some job)
    (hd' : s.decisions.lookup id' = some d') (hjob' : d'.copyJobId = some job')
    (hscope : d.scope = d'.scope) (hcycle : d.sourceCycleId = d'.sourceCycleId) (hne : id ≠ id')
    (htime : d.decidedAt ≤ d'.decidedAt) :
    d.decidedAt < d'.decidedAt ∧ JobOver s.executor job ∧
      (d.intentState = some .partialExit ∧ Filled s.executor job ∨
        d.intentState = some .failed ∧ Unfilled s.executor job) := by
  have hinv := ExitSystem.exitInv_of_run hrun
  obtain ⟨hlt, hsettled⟩ | ⟨hgt, -⟩ :=
    hinv.books.order id id' d d' job job' ⟨hd, hjob⟩ ⟨hd', hjob'⟩ hscope hcycle hne
  · exact ⟨hlt, hsettled.jobOver, hsettled.result⟩
  · omega

/-- **What a decision says of itself is true.**  In every run a decision without a job is never
operational, and one with a job is bound to it in both directions.  If it is COMPLETED or PARTIAL,
its job is over and its fill is in the ledger; if it is FAILED, its job is over and the row of its
order, if there is one, is terminal and not FILLED, or its destination epoch is gone. -/
theorem intent_state_true
    (hrun : Transition.run (exitStep venue ttl profitExitJobId) (ExitSystem.initial venue lots) ops =
      some s) {id : DecisionId} {d : ProfitExitIntent} (hd : s.decisions.lookup id = some d) :
    (d.copyJobId = none → d.intentState = none) ∧
      ∀ job, d.copyJobId = some job →
        d.action = .closeProfit ∧ s.contexts.lookup job = some id ∧
        (∃ row, s.executor.jobs.lookup job = some row ∧ row.job = exitJob d.scope) ∧
        d.intentState ≠ none ∧
        (d.intentState = some .completed ∨ d.intentState = some .partialExit →
          JobOver s.executor job ∧ Filled s.executor job) ∧
        (d.intentState = some .failed →
          JobOver s.executor job ∧ Unfilled s.executor job ∨ s.Closed d.scope) := by
  have hbooks := (ExitSystem.exitInv_of_run hrun).books
  refine ⟨hbooks.recorded id d hd, fun job hjob => ?_⟩
  have hbound := hbooks.bound id d job ⟨hd, hjob⟩
  have htrue := hbound.intent
  refine ⟨hbound.action, hbound.context, hbound.row, fun hnone => ?_, ?_, fun hfailed => ?_⟩
  · simp [ExitSystem.IntentTrue, hnone] at htrue
  · rintro (hstate | hstate)
    · simpa [ExitSystem.IntentTrue, hstate] using htrue
    · simpa [ExitSystem.IntentTrue, hstate] using htrue
  · simpa [ExitSystem.IntentTrue, hfailed] using htrue

/-- **A cycle whose exit may have filled is not entered again.**  In every run, once the order of an
exit is FILLED or unresolved, and as long as its destination is the active one, the rows make the
reconciler hold the position the follower has for every non-zero target, and no strategy job of
the market with such a target gets an order planned, until another source cycle is proven. -/
theorem exited_cycle_not_rebought
    (hrun : Transition.run (exitStep venue ttl profitExitJobId) (ExitSystem.initial venue lots) ops =
      some s) {id : DecisionId} {d : ProfitExitIntent} {job : JobId} {order : Execution}
    {destination : ActiveDestination} (hd : s.decisions.lookup id = some d)
    (hjob : d.copyJobId = some job) (hrow : s.executor.executions.lookup ⟨job, .o⟩ = some order)
    (htouched : order.state = .filled ∨ order.state.terminal = false)
    (hactive : s.active d.scope.userId = some destination)
    (hepoch : destination.epochId = d.scope.executionEpochId) (events : List MasterEvent)
    (masterNetwork : Network) :
    (∀ boundary masterPosition position desired,
        CycleHeldBy (readCurrentSourceCycle events d.scope.asset masterNetwork boundary
          masterPosition) d.toProfitExitDecision → desired ≠ 0 →
        protectedReconcileTarget ⟨events, s.decisionRows⟩ d.scope masterNetwork boundary
          masterPosition position desired = position) ∧
      ∀ (copy : CopyJob) (current : ℚ) (r : AttemptReads), profitExitScope copy = some d.scope →
        copy.origin.isStrategy = true → r.evidence = ⟨events, s.decisionRows⟩ →
        CycleHeldBy (attemptCycle copy r) d.toProfitExitDecision →
        (∀ sized, sizeAttempt copy current r = .ok sized → sized.sizing.targetSize ≠ 0) →
        ∀ submission, planAttempt copy current r ≠ .submit submission := by
  have hbooks := (ExitSystem.exitInv_of_run hrun).books
  have hbound := hbooks.bound id d job ⟨hd, hjob⟩
  have hmem : d.toProfitExitDecision ∈ s.decisionRows :=
    List.mem_map.2 ⟨⟨id, d⟩, AList.mem_lookup_iff.1 hd, rfl⟩
  have hop : d.toProfitExitDecision.operational = true := by
    have htrue := hbound.intent
    unfold ExitSystem.IntentTrue at htrue
    split at htrue
    · exact htrue.elim
    · rename_i hstate
      simp [ProfitExitDecision.operational, hbound.action, hstate, ProfitExitIntentState.operational]
    · rename_i hstate
      simp [ProfitExitDecision.operational, hbound.action, hstate, ProfitExitIntentState.operational]
    · rename_i hstate
      simp [ProfitExitDecision.operational, hbound.action, hstate, ProfitExitIntentState.operational]
    · rename_i hstate
      simp [ProfitExitDecision.operational, hbound.action, hstate, ProfitExitIntentState.operational]
    -- a FAILED exit has no order like this while its epoch is active
    · obtain ⟨-, hunfilled⟩ | hclosed := htrue
      · obtain ⟨hterminal, hne⟩ := hunfilled order hrow
        obtain hfilled | hopen := htouched
        · exact absurd hfilled hne
        · rw [hterminal] at hopen
          cases hopen
      · exact absurd hepoch (hclosed destination hactive)
  refine ⟨fun boundary masterPosition position desired hheld hdesired => ?_, ?_⟩
  · exact protectedReconcileTarget_suppressed (hbooks.scope id d hd).provider hdesired hmem rfl hop
      hheld
  · intro copy current r hscope hstrategy hevidence hheld htarget submission
    exact planAttempt_ne_submit_of_held hscope hstrategy (hevidence ▸ hmem) rfl hop hheld htarget
      submission

end Results

/-! ## A stopped exit and a filled one

Two units bought at 100 stand at 120. -/

/-- A run over a long position of two units. -/
def exitRun (ops : List ExitOp) : Option ExitSystem :=
  Transition.run (exitStep hundredths 42 id) (ExitSystem.initial hundredths fun _ => 200) ops

/-- The decision of event 1's cycle. -/
def longExit (id now : ℕ) : ProfitExitIntent :=
  ExitSystem.newDecision ⟨0, 0, .hyperliquid, .mainnet, 0⟩ ⟨.mainnet, 0, 1⟩ id .closeProfit ⟨2, 38, true⟩
    (some id) now 42

/-- What an attempt for that exit reads. -/
def longExitReads (mode : ProfitExitFeatureMode) : ProfitExitReads :=
  { longReads with
    evidence := ⟨[], [(longExit 1 18).toProfitExitDecision]⟩
    decision := some (longExit 1 18)
    mode := mode }

/-- An evaluation that decides to exit. -/
def evaluateLong (now id : ℕ) : List ExitOp :=
  [.beginEvaluation, .visit 0 0 ⟨.mainnet, 0, 1⟩ 2 false,
    .decide now id .closeProfit ⟨2, 38, true⟩, .publish false, .endEvaluation]

/-- The first attempt at it, up to its plan. -/
def attemptLong (mode : ProfitExitFeatureMode) : List ExitOp :=
  [.setMode .on, .openEpoch 0 ⟨0, .hyperliquid, .mainnet⟩] ++ evaluateLong 18 1 ++
    [.setMode mode, .execute ⟨19, .claim 1 0 0⟩, .execute ⟨20, .acquire 0⟩,
      .execute ⟨21, .begin 0 (longExitReads mode)⟩]

/-- The feature is switched off before the attempt, and on again after it. -/
def stoppedExit : List ExitOp :=
  attemptLong .off ++ [.execute ⟨22, .close 0 0⟩, .setMode .on] ++ evaluateLong 30 2

/-- The exit goes out and fills. -/
def filledExit : List ExitOp :=
  attemptLong .on ++ [.execute ⟨22, .enterLeg 0 ⟨.unknown, none⟩⟩, .execute ⟨23, .placeIoc 0 true⟩,
    .execute ⟨24, .respond 0 (some ⟨.filled, some 2⟩)⟩, .execute ⟨25, .applyFill 0⟩,
    .execute ⟨26, .close 0 0⟩]

/-- The stopped exit is over when the cycle is decided again. -/
theorem one_exit_at_a_time_stopped : ∃ s, exitRun stoppedExit = some s ∧ JobOver s.executor 1 := by
  have hrun : (exitRun stoppedExit).any (fun s =>
      decide (s.decisions.lookup 1 = some { longExit 1 18 with intentState := some .failed } ∧
        s.decisions.lookup 2 = some (longExit 2 30))) = true := by
    decide +kernel
  obtain ⟨s, hs, hrows⟩ := (Option.any_eq_true _ _).1 hrun
  obtain ⟨hold, hnew⟩ := of_decide_eq_true hrows
  exact ⟨s, hs, (one_exit_at_a_time hs hold rfl hnew rfl rfl rfl (by decide) (by decide)).2.1⟩

/-- The filled exit is over, and its fill is in the ledger. -/
theorem intent_state_true_filled : ∃ s, exitRun filledExit = some s ∧ JobOver s.executor 1 ∧
    Filled s.executor 1 := by
  have hrun : (exitRun filledExit).any (fun s =>
      decide (s.decisions.lookup 1 = some { longExit 1 18 with intentState := some .completed })) =
        true := by
    decide +kernel
  obtain ⟨s, hs, hrow⟩ := (Option.any_eq_true _ _).1 hrun
  obtain ⟨-, -, -, -, hfilled, -⟩ := (intent_state_true hs (of_decide_eq_true hrow)).2 1 rfl
  exact ⟨s, hs, hfilled (Or.inl rfl)⟩

/-- The master still holds five units of the cycle that was exited; the follower stays flat. -/
theorem exited_cycle_not_rebought_filled : ∃ s, exitRun filledExit = some s ∧
    protectedReconcileTarget ⟨longRevalidation.masterEvents, s.decisionRows⟩
      ⟨0, 0, .hyperliquid, .mainnet, 0⟩ .mainnet (some 10) 5 0 1 = 0 := by
  have hrun : (exitRun filledExit).any (fun s =>
      decide (s.decisions.lookup 1 = some { longExit 1 18 with intentState := some .completed } ∧
        s.active 0 = some ⟨0, .hyperliquid, .mainnet⟩) &&
        (s.executor.executions.lookup ⟨1, .o⟩).any fun row => row.state = .filled) = true := by
    decide +kernel
  obtain ⟨s, hs, hrows⟩ := (Option.any_eq_true _ _).1 hrun
  obtain ⟨hdecision, horder⟩ := Bool.and_eq_true_iff.1 hrows
  obtain ⟨hd, hactive⟩ := of_decide_eq_true hdecision
  obtain ⟨order, hrow, hfilled⟩ := (Option.any_eq_true _ _).1 horder
  refine ⟨s, hs, (exited_cycle_not_rebought hs hd rfl hrow (Or.inl (of_decide_eq_true hfilled))
    hactive rfl longRevalidation.masterEvents .mainnet).1 (some 10) 5 0 1 ?_ one_ne_zero⟩
  intro c hc
  have hcycle : (readCurrentSourceCycle longRevalidation.masterEvents 0 .mainnet (some 10) 5).map
      (·.sourceCycleId) = some ⟨.mainnet, 0, 1⟩ := by
    decide +kernel
  rw [show readCurrentSourceCycle longRevalidation.masterEvents 0 .mainnet (some 10) 5 = some c
    from hc] at hcycle
  exact Option.some.inj hcycle

end HyperCopy

import HyperCopy.ProfitExit.IntentConsistency

/-!
# Decisions that are true, and those that are not

The evaluation makes a decision together with its job, and gives it up when the job is refused; both
keep the invariant of `ProfitExit.IntentConsistency`, so it holds in every run whose steps keep the
decisions true.  The runs at the end show what goes wrong in the others: a job that is skipped on
delivery or whose last lease runs out leaves its decision PENDING, a job that is refused after it
was executed, or whose order is called off although some of it has filled, makes its decision
FAILED.
-/

namespace HyperCopy

namespace ExitSystem

variable {venue : Venue} {ttl : ℕ} {profitExitJobId : DecisionId → JobId} {s s' : ExitSystem}
  {e : ExecutorState} {t : TaskId} {id : JobId}

/-! ## The evaluation -/

/-- A step that leaves the job path, the decisions and the sessions alone. -/
lemma ExitSound.frame (h : ExitSound venue s) (hinv : ExitInv venue s')
    (hexecutor : s'.executor = s.executor) (hdecisions : s'.decisions = s.decisions)
    (hcontexts : s'.contexts = s.contexts) (huncommitted : s'.uncommitted = s.uncommitted) :
    ExitSound venue s' := by
  have hexit : ∀ decision d id, s'.IsExit decision d id → s.IsExit decision d id :=
    fun decision d id hd => ⟨hdecisions ▸ hd.row, hd.job⟩
  refine ⟨hinv, ?_, ?_, ?_, ?_, ?_, ?_, ?_⟩
  · rw [hexecutor, hcontexts]
    exact h.orders
  · rw [hexecutor, hcontexts]
    exact h.sized
  · rw [hexecutor]
    exact fun decision d id hd => h.failed decision d id (hexit decision d id hd)
  · rw [hexecutor]
    exact fun decision d id hd => h.completed decision d id (hexit decision d id hd)
  · rw [hexecutor]
    exact fun decision d id hd => h.pending decision d id (hexit decision d id hd)
  · rw [hexecutor, huncommitted]
    intro t id u n c ht hpending
    refine h.closing t id u n c ht ?_
    unfold ExitSystem.pendingExit at hpending ⊢
    rw [hcontexts, hdecisions] at hpending
    exact hpending
  · rw [hexecutor, huncommitted]
    exact h.whole

/-- A new decision makes nobody else's PENDING. -/
lemma pendingExit_of_insert {decision : DecisionId} {d : ProfitExitIntent} (hbooks : s.ExitBooks)
    (hfresh : s.decisions.lookup decision = none)
    (hdecisions : s'.decisions = s.decisions.insert decision d)
    (hcontext : s'.contexts.lookup id = s.contexts.lookup id)
    (hpending : s'.pendingExit id = true) : s.pendingExit id = true := by
  obtain ⟨decision', d', hcontext', hrow, hstate⟩ := pendingExit_eq_true.1 hpending
  rw [hcontext] at hcontext'
  rw [hdecisions] at hrow
  obtain ⟨rfl, -⟩ | hold := Table.lookup_insert_cases hrow
  · obtain ⟨d₀, hd₀⟩ := hbooks.context id decision' hcontext'
    rw [hd₀.row] at hfresh
    cases hfresh
  · exact pendingExit_eq_true.2 ⟨decision', d', hcontext', hold, hstate⟩

/-- A job without a row becomes an exit's. -/
lemma OrdersTrue.addContext {contexts : Table JobId DecisionId} {job : JobId}
    {decision : DecisionId} (h : OrdersTrue e contexts) (hc : Coherent e)
    (hrows : ∀ k row, e.executions.lookup k = some row → k.jobId ≠ job) :
    OrdersTrue e (contexts.insert job decision) := by
  have hkept : ∀ k row, e.executions.lookup k = some row →
      (contexts.insert job decision).lookup k.jobId = contexts.lookup k.jobId :=
    fun k row hrow => AList.lookup_insert_ne (hrows k row hrow)
  refine ⟨h.called, ?_, ?_, h.quarantined, ?_⟩
  · intro k row hrow hcontext
    exact h.kind k row hrow (hkept k row hrow ▸ hcontext)
  · intro k row hrow hcontext
    exact h.unmatched k row hrow (hkept k row hrow ▸ hcontext)
  · intro t k market verdict seen ht
    have htrue := h.resolving t k market verdict seen ht
    obtain ⟨row, hrow, -⟩ := hc.tasks t _ ht
    cases verdict with
    | filled => trivial
    | terminal state => exact ⟨htrue.1, fun hcontext => htrue.2 (hkept k row hrow ▸ hcontext)⟩
    | quarantine => exact htrue

/-- An exit that has just been decided, with the job that carries it out. -/
lemma ExitSound.decideExit {now : ℕ} {decision : DecisionId} {evidence : ExitEvidence}
    {scope : ProfitExitScope} {cycle : SourceCycleId} {mode : ProfitExitFeatureMode} {job : JobId}
    (h : ExitSound venue s) (hfresh : s.decisions.lookup decision = none)
    (hstep : executorStep venue s.executor ⟨now, .enqueue job (exitJob scope)⟩ = some e)
    (hs' : s' = { s with
      executor := e
      decisions := s.decisions.insert decision
        (newDecision scope cycle decision .closeProfit evidence (some job) now ttl)
      contexts := s.contexts.insert job decision }.goOn mode (.publishing decision job))
    (hinv : ExitInv venue s') : ExitSound venue s' := by
  set d := newDecision scope cycle decision .closeProfit evidence (some job) now ttl with hd
  have hdisciplined := h.inv.disciplined
  have horders : OrdersTrue e s.contexts := by
    refine h.orders.step h.inv ?_ hstep
    rfl
  obtain ⟨-, hnone, heq⟩ := enqueue_eq_some hstep
  subst hs'
  -- nobody knows the job yet
  have hother : ∀ id u, JobOfUser s.executor.jobs id u → id ≠ job := by
    rintro id u ⟨row, hrow, -⟩ rfl
    rw [hrow] at hnone
    cases hnone
  have hrows : ∀ k row, e.executions.lookup k = some row → k.jobId ≠ job := by
    intro k row hrow
    rw [heq] at hrow
    obtain ⟨jobRow, hjob, -⟩ := hdisciplined.coherent.rows k row hrow
    exact hother k.jobId _ ⟨jobRow, hjob, rfl⟩
  have hcontext : ∀ id, id ≠ job →
      (s.contexts.insert job decision).lookup id = s.contexts.lookup id :=
    fun id hid => AList.lookup_insert_ne hid
  have hattempt : ∀ t id u n stage, e.tasks.lookup t = some (.attempt id u n stage) →
      s.executor.tasks.lookup t = some (.attempt id u n stage) ∧ id ≠ job := by
    intro t id u n stage ht
    rw [heq] at ht
    exact ⟨ht, hother id u (hdisciplined.coherent.jobOfUser ht)⟩
  refine ⟨hinv, horders.addContext (hdisciplined.executorStep hstep).coherent hrows, ?_, ?_, ?_, ?_,
    ?_, ?_⟩
  · intro t id u n stage a leg ht hexit hleg
    obtain ⟨hold, hid⟩ := hattempt t id u n stage ht
    have hsized := h.sized t id u n stage a leg hold (hcontext id hid ▸ hexit) hleg
    exact hsized.kept (by rw [heq]; rfl)
  · intro decision' d' id hd' hstate
    obtain ⟨-, rfl, -⟩ | hold := exit_of_insert rfl hd'
    · cases hstate
    · obtain ⟨hover, hnever⟩ := h.failed decision' d' id hold hstate
      exact ⟨hover.step hstep, hnever.step hdisciplined hover.noLeg hstep⟩
  · intro decision' d' id hd' hstate
    obtain ⟨-, rfl, -⟩ | hold := exit_of_insert rfl hd'
    · cases hstate
    · exact FilledWhole.step (h.completed decision' d' id hold hstate) hdisciplined hstep
  · intro decision' d' id hd' hstate
    obtain ⟨-, rfl, hjob⟩ | hold := exit_of_insert rfl hd'
    · obtain rfl := Option.some.inj hjob
      refine ⟨queuedRow (exitJob scope), ?_, rfl⟩
      change e.jobs.lookup job = _
      rw [heq]
      exact AList.lookup_insert _
    · obtain ⟨row, hrow, hactive⟩ := h.pending decision' d' id hold hstate
      refine ⟨row, ?_, hactive⟩
      change e.jobs.lookup id = _
      rw [heq]
      exact (AList.lookup_insert_ne (hother id _ ⟨row, hrow, rfl⟩)).trans hrow
  · intro t id u n c ht hpending
    obtain ⟨hold, hid⟩ := hattempt t id u n _ ht
    exact h.closing t id u n c hold
      (pendingExit_of_insert h.inv.books hfresh rfl (hcontext id hid) hpending)
  · intro t id u n stage ht hset
    obtain ⟨hold, hid⟩ := hattempt t id u n stage ht
    obtain ⟨hwhole, hflat⟩ := h.whole t id u n stage hold hset
    refine ⟨FilledWhole.step hwhole hdisciplined hstep, fun row hrow => ?_⟩
    have hledger : e.ledger = s.executor.ledger := by rw [heq]
    have hjobs : e.jobs.lookup id = s.executor.jobs.lookup id := by
      rw [heq]
      exact AList.lookup_insert_ne hid
    change (e.ledger row.job.market).size.value = 0
    rw [hledger]
    exact hflat row (hjobs ▸ hrow)

/-- A decision that is only recorded. -/
lemma ExitSound.decideNote {decision : DecisionId} {d : ProfitExitIntent}
    {mode : ProfitExitFeatureMode} (h : ExitSound venue s)
    (hfresh : s.decisions.lookup decision = none) (hjob : d.copyJobId = none)
    (hinv : ExitInv venue ({ s with decisions := s.decisions.insert decision d }.goOn mode .between)) :
    ExitSound venue ({ s with decisions := s.decisions.insert decision d }.goOn mode .between) := by
  set s' : ExitSystem :=
    { s with decisions := s.decisions.insert decision d }.goOn mode .between with hs'
  have hexit : ∀ decision' d' id, s'.IsExit decision' d' id → s.IsExit decision' d' id := by
    intro decision' d' id hd'
    obtain ⟨-, -, hsome⟩ | hold := exit_of_insert (s := s) rfl hd'
    · rw [hjob] at hsome
      cases hsome
    · exact hold
  have hdecisions : s'.decisions = s.decisions.insert decision d := rfl
  exact ⟨hinv, h.orders, h.sized,
    fun decision' d' id hd' => h.failed decision' d' id (hexit decision' d' id hd'),
    fun decision' d' id hd' => h.completed decision' d' id (hexit decision' d' id hd'),
    fun decision' d' id hd' => h.pending decision' d' id (hexit decision' d' id hd'),
    fun t id u n c ht hpending => h.closing t id u n c ht
      (pendingExit_of_insert h.inv.books hfresh hdecisions rfl hpending), h.whole⟩

lemma ExitSound.decide {now : ℕ} {decision : DecisionId} {action : ProfitExitAction}
    {evidence : ExitEvidence} (h : ExitSound venue s)
    (hdecide : s.decide venue ttl profitExitJobId now decision action evidence = some s') :
    ExitSound venue s' := by
  have hinv := h.inv.decide hdecide
  unfold ExitSystem.decide at hdecide
  split at hdecide
  · rename_i mode scope cycle position shadow hevaluation
    split_ifs at hdecide with hstop hoperational
    · obtain rfl := Option.some.inj hdecide
      exact h.frame hinv rfl rfl rfl rfl
    · simp only [Bool.and_eq_true, decide_eq_true_eq] at hoperational
      obtain ⟨-, rfl⟩ := hoperational
      obtain ⟨e, hstep, rfl⟩ := Option.map_eq_some_iff.1 hdecide
      simp only [Bool.or_eq_true, not_or, Option.isSome_iff_ne_none, not_not] at hstop
      exact h.decideExit hstop.2 hstep rfl hinv
    · obtain rfl := Option.some.inj hdecide
      simp only [Bool.or_eq_true, not_or, Option.isSome_iff_ne_none, not_not] at hstop
      exact h.decideNote hstop.2 rfl hinv
  · cases hdecide

/-! ## Publishing -/

lemma OrdersTrue.refuse {contexts : Table JobId DecisionId} (h : OrdersTrue e contexts)
    (job : JobId) :
    OrdersTrue { e with jobs := Table.modify e.jobs job refusedRow } contexts := by
  refine ⟨h.called, h.kind, h.unmatched, ?_, ?_⟩
  · exact fun k row hrow hstate => jobOver_refuse (h.quarantined k row hrow hstate) job
  · intro t k market verdict seen ht
    have htrue := h.resolving t k market verdict seen ht
    cases verdict with
    | filled => trivial
    | terminal => exact htrue
    | quarantine => exact jobOver_refuse htrue job

/-- A job that nobody works on is over once it is refused, and its order never fills. -/
lemma ExitSound.refused {decision : DecisionId} {d : ProfitExitIntent} {job : JobId}
    (h : ExitSound venue s) (hd : s.IsExit decision d job) (huntouched : s.untouched job = true) :
    JobOver { s.executor with jobs := Table.modify s.executor.jobs job refusedRow } job ∧
      NeverFills s.executor job := by
  have hbound := h.inv.books.bound decision d job hd
  obtain ⟨row, hrow, -⟩ := hbound.row
  obtain ⟨hidle, hcalled⟩ := Bool.and_eq_true_iff.1 huntouched
  refine ⟨⟨⟨refusedRow row, ?_, rfl⟩, fun t u n stage ht => ?_⟩, ?_⟩
  · change (Table.modify s.executor.jobs job refusedRow).lookup job = _
    rw [Table.lookup_modify_self, hrow]
    rfl
  · rw [Bool.not_eq_true', Table.any_eq_false] at hidle
    have hworks := hidle t _ ht
    cases stage with
    | waiting w => exact ⟨w, rfl⟩
    | locked | entering | journaled | inFlight | filled | closing =>
        simp [ExecutorTask.worksOn] at hworks
  · refine h.orders.neverFills h.inv.disciplined (by rw [hbound.context]; rfl) fun order horder => ?_
    rw [horder] at hcalled
    exact hcalled

lemma ExitSound.publish {raises : Bool} (h : ExitSound venue s)
    (huntouched : s.refusesUntouched raises = true) (hpublish : s.publish raises = some s') :
    ExitSound venue s' := by
  have hinv := h.inv.publish hpublish
  unfold ExitSystem.publish at hpublish
  split at hpublish
  · rename_i mode decision job hevaluation
    split_ifs at hpublish with hqueued
    · obtain rfl := Option.some.inj hpublish
      exact h.frame hinv rfl rfl rfl rfl
    obtain rfl := Option.some.inj hpublish
    obtain ⟨d, hd, -⟩ := h.inv.evaluation _ hevaluation
    have hrefused : s.untouched job = true := by
      rw [refusesUntouched, hevaluation] at huntouched
      simpa [hqueued] using huntouched
    obtain ⟨hover, hnever⟩ := h.refused hd hrefused
    set s' : ExitSystem := { s with
      executor := { s.executor with jobs := Table.modify s.executor.jobs job refusedRow }
      decisions := Table.modify s.decisions decision fun d =>
        { d with intentState := some .failed } }.goOn mode .between with hs'
    -- the refused exit is FAILED, the others are what they were
    have hexit : ∀ decision' d' id, s'.IsExit decision' d' id →
        decision' ≠ decision ∧ id ≠ job ∧ s.IsExit decision' d' id ∨
          id = job ∧ d'.intentState = some .failed := by
      intro decision' d' id hd'
      obtain ⟨hne, hold⟩ | ⟨rfl, d₀, hold, rfl⟩ := Table.lookup_modify_eq_some.1 hd'.row
      · refine Or.inl ⟨hne, ?_, hold, hd'.job⟩
        rintro rfl
        have hcontext := (h.inv.books.bound decision d id hd).context
        have hcontext' := (h.inv.books.bound decision' d' id ⟨hold, hd'.job⟩).context
        exact hne (Option.some.inj (hcontext'.symm.trans hcontext))
      · obtain rfl := Option.some.inj (hd.row.symm.trans hold)
        exact Or.inr ⟨Option.some.inj (hd'.job.symm.trans hd.job), rfl⟩
    refine ⟨hinv, h.orders.refuse job, ?_, ?_, ?_, ?_, ?_, ?_⟩
    · intro t id u n stage a leg ht hcontext hleg
      exact (h.sized t id u n stage a leg ht hcontext hleg).kept rfl
    · intro decision' d' id hd' hstate
      obtain ⟨-, -, hold⟩ | ⟨rfl, -⟩ := hexit decision' d' id hd'
      · obtain ⟨hover', hnever'⟩ := h.failed decision' d' id hold hstate
        exact ⟨jobOver_refuse hover' job, hnever'.rows, hnever'.orders⟩
      · exact ⟨hover, hnever.rows, hnever.orders⟩
    · intro decision' d' id hd' hstate
      obtain ⟨-, -, hold⟩ | ⟨-, hfailed⟩ := hexit decision' d' id hd'
      · exact h.completed decision' d' id hold hstate
      · cases hfailed.symm.trans hstate
    · intro decision' d' id hd' hstate
      obtain ⟨-, hid, hold⟩ | ⟨-, hfailed⟩ := hexit decision' d' id hd'
      · obtain ⟨row, hrow, hactive⟩ := h.pending decision' d' id hold hstate
        exact ⟨row, (Table.lookup_modify_of_ne _ _ hid).trans hrow, hactive⟩
      · cases hfailed.symm.trans hstate
    · intro t id u n c ht hpending
      refine h.closing t id u n c ht ?_
      obtain ⟨decision', d', hcontext, hrow, hstate⟩ := pendingExit_eq_true.1 hpending
      obtain ⟨-, hold⟩ | ⟨-, d₀, -, rfl⟩ := Table.lookup_modify_eq_some.1 hrow
      · exact pendingExit_eq_true.2 ⟨decision', d', hcontext, hold, hstate⟩
      · cases hstate
    · intro t id u n stage ht hset
      obtain ⟨hwhole, hflat⟩ := h.whole t id u n stage ht hset
      refine ⟨hwhole, fun row' hrow' => ?_⟩
      obtain ⟨-, hold⟩ | ⟨rfl, row, hold, rfl⟩ := Table.lookup_modify_eq_some.1 hrow'
      · exact hflat row' hold
      · exact hflat row hold
  · cases hpublish

/-! ## Whole runs -/

theorem ExitSound.step {op : ExitOp} (h : ExitSound venue s) (hkeeps : s.keepsConsistent op = true)
    (hstep : exitStep venue ttl profitExitJobId s op = some s') : ExitSound venue s' := by
  have hinv := h.inv.step hstep
  cases op with
  | execute action =>
      obtain ⟨hanswers, hpending⟩ := Bool.and_eq_true_iff.1 hkeeps
      exact h.execute hanswers hpending hstep
  | setMode mode =>
      obtain rfl := Option.some.inj hstep
      exact h.frame hinv rfl rfl rfl rfl
  | openEpoch userId destination =>
      simp only [exitStep, ExitSystem.openEpoch] at hstep
      split_ifs at hstep
      obtain rfl := Option.some.inj hstep
      exact h.frame hinv rfl rfl rfl rfl
  | closeEpoch userId =>
      obtain rfl := Option.some.inj hstep
      exact h.frame hinv rfl rfl rfl rfl
  | beginEvaluation =>
      simp only [exitStep, ExitSystem.beginEvaluation] at hstep
      split_ifs at hstep
      obtain rfl := Option.some.inj hstep
      exact h.frame hinv rfl rfl rfl rfl
  | visit userId asset cycle position shadow =>
      simp only [exitStep, ExitSystem.visit] at hstep
      split at hstep
      · split_ifs at hstep
        obtain rfl := Option.some.inj hstep
        exact h.frame hinv rfl rfl rfl rfl
      · cases hstep
  | decide now decision action evidence => exact h.decide hstep
  | publish raises => exact h.publish hkeeps hstep
  | endEvaluation =>
      obtain rfl := Option.some.inj hstep
      exact h.frame hinv rfl rfl rfl rfl

lemma exitSound_initial (venue : Venue) (lots : Market → ℤ) :
    ExitSound venue (ExitSystem.initial venue lots) where
  inv := exitInv_initial venue lots
  orders :=
    { called := fun _ _ horder => by cases horder
      kind := fun _ _ hrow => by cases hrow
      unmatched := fun _ _ hrow => by cases hrow
      quarantined := fun _ _ hrow => by cases hrow
      resolving := fun _ _ _ _ _ ht => by cases ht }
  sized _ _ _ _ _ _ _ ht := by cases ht
  failed _ _ _ hd := by cases hd.row
  completed _ _ _ hd := by cases hd.row
  pending _ _ _ hd := by cases hd.row
  closing _ _ _ _ _ ht := by cases ht
  whole _ _ _ _ _ ht := by cases ht

theorem exitSound_of_run {lots : Market → ℤ} {ops : List ExitOp}
    (hrun : Transition.run (exitStep venue ttl profitExitJobId) (ExitSystem.initial venue lots) ops =
      some s)
    (hkeeps : Transition.RunMeets (exitStep venue ttl profitExitJobId)
      (fun s op => s.keepsConsistent op = true) (ExitSystem.initial venue lots) ops) :
    ExitSound venue s :=
  Transition.run_invariant_of_meets (fun _ _ _ h hop hstep => h.step hop hstep)
    (exitSound_initial venue lots) hkeeps hrun

/-- A decision becomes COMPLETED with a ledger that has no position left. -/
lemma ExitSound.completed_flat {op : ExitOp} (h : ExitSound venue s)
    (hstep : exitStep venue ttl profitExitJobId s op = some s') {decision : DecisionId}
    {d' : ProfitExitIntent} (hd' : s'.IsExit decision d' id)
    (hstate : d'.intentState = some .completed)
    (hbefore : ∀ d, s.decisions.lookup decision = some d → d.intentState ≠ some .completed) :
    (s'.executor.ledger ⟨d'.scope.userId, d'.scope.asset⟩).size.value = 0 := by
  have hunchanged : s'.decisions = s.decisions → False := fun hdecisions =>
    hbefore d' (hdecisions ▸ hd'.row) hstate
  have hinv := h.inv.step hstep
  cases op with
  | execute action =>
      simp only [exitStep, ExitSystem.execute] at hstep
      split_ifs at hstep with hadmits
      obtain ⟨e, hexecutor, rfl⟩ := Option.map_eq_some_iff.1 hstep
      obtain hold | ⟨t, u, n, stage, d, intent, hd, hintent, ht, hset, hbacked, hop⟩ :=
        exit_of_follow h.inv hd'
      · exact absurd hstate (hbefore d' hold.row)
      obtain rfl := Option.some.inj (hintent.symm.trans hstate)
      obtain ⟨⟨state, rfl, -⟩, -⟩ := hbacked
      obtain ⟨-, hflat⟩ := h.whole t id u n _ ht hset
      obtain ⟨-, s₁, happly, heq⟩ := executorStep_op hexecutor
      obtain ⟨delay, hclose⟩ | ⟨reply, henter⟩ := hop
      · rw [follow_executor]
        obtain ⟨row', hrow', hjob'⟩ := (hinv.books.bound decision d' id hd').row
        rw [follow_executor] at hrow'
        obtain ⟨row, hrow, -⟩ := (h.inv.books.bound decision d id hd).row
        have hlater : Later s { s with executor := e } :=
          later_of_executor h.inv.disciplined hexecutor rfl rfl
        obtain ⟨row₁, hrow₁, hjob⟩ := hlater.jobs id row hrow
        obtain rfl := Option.some.inj (hrow'.symm.trans hrow₁)
        have hmarket : row.job.market = ⟨d'.scope.userId, d'.scope.asset⟩ := by
          rw [← hjob, hjob']
          rfl
        rw [hclose] at happly
        simp only [applyExecutorOp, closeAttempt, ht] at happly
        obtain rfl := Option.some.inj happly
        rw [heq, ← hmarket]
        exact hflat row hrow
      · rw [henter] at happly
        obtain ⟨id', u', n', a, leg, ht'⟩ := enterLeg_task happly
        cases Option.some.inj (ht.symm.trans ht')
  | setMode | closeEpoch | endEvaluation =>
      obtain rfl := Option.some.inj hstep
      exact (hunchanged rfl).elim
  | openEpoch userId destination =>
      simp only [exitStep, ExitSystem.openEpoch] at hstep
      split_ifs at hstep
      obtain rfl := Option.some.inj hstep
      exact (hunchanged rfl).elim
  | beginEvaluation =>
      simp only [exitStep, ExitSystem.beginEvaluation] at hstep
      split_ifs at hstep
      obtain rfl := Option.some.inj hstep
      exact (hunchanged rfl).elim
  | visit userId asset cycle position shadow =>
      simp only [exitStep, ExitSystem.visit] at hstep
      split at hstep
      · split_ifs at hstep
        obtain rfl := Option.some.inj hstep
        exact (hunchanged rfl).elim
      · cases hstep
  | decide now decision' action evidence =>
      simp only [exitStep, ExitSystem.decide] at hstep
      split at hstep
      · split_ifs at hstep
        · obtain rfl := Option.some.inj hstep
          exact (hunchanged rfl).elim
        · obtain ⟨e, -, rfl⟩ := Option.map_eq_some_iff.1 hstep
          obtain ⟨-, rfl, -⟩ | hold := exit_of_insert (s := s) rfl hd'
          · cases hstate
          · exact absurd hstate (hbefore d' hold.row)
        · obtain rfl := Option.some.inj hstep
          obtain ⟨-, rfl, -⟩ | hold := exit_of_insert (s := s) rfl hd'
          · cases hstate
          · exact absurd hstate (hbefore d' hold.row)
      · cases hstep
  | publish raises =>
      simp only [exitStep, ExitSystem.publish] at hstep
      split at hstep
      · split_ifs at hstep
        · obtain rfl := Option.some.inj hstep
          exact (hunchanged rfl).elim
        · obtain rfl := Option.some.inj hstep
          obtain ⟨-, hold⟩ | ⟨-, d, -, rfl⟩ := Table.lookup_modify_eq_some.1 hd'.row
          · exact absurd hstate (hbefore d' hold)
          · cases hstate
      · cases hstep

end ExitSystem

section Results

variable {venue : Venue} {ttl : ℕ} {profitExitJobId : DecisionId → JobId} {lots : Market → ℤ}
  {ops : List ExitOp} {s : ExitSystem}

/-- **What a profit exit says is true of its job and its order.**  In every run in which no step ends
the job of a PENDING decision behind it, no job is refused on publication once it has been worked
on, and no answer calls off an order that has matched something: a FAILED exit has no order that
filled or can fill, the order of a COMPLETED one has filled for all it requested, and the job of a
PENDING one is alive.  Where the next step makes a decision COMPLETED, the ledger is flat. -/
theorem exit_state_consistent
    (hrun : Transition.run (exitStep venue ttl profitExitJobId) (ExitSystem.initial venue lots) ops =
      some s)
    (hkeeps : Transition.RunMeets (exitStep venue ttl profitExitJobId)
      (fun s op => s.keepsConsistent op = true) (ExitSystem.initial venue lots) ops) :
    (∀ id d job, s.decisions.lookup id = some d → d.copyJobId = some job → s.Consistent d job) ∧
      ∀ op s' id d, exitStep venue ttl profitExitJobId s op = some s' →
        s'.decisions.lookup id = some d → d.intentState = some .completed →
        (∀ before, s.decisions.lookup id = some before →
          before.intentState ≠ some .completed) →
        (s'.executor.ledger ⟨d.scope.userId, d.scope.asset⟩).size.value = 0 := by
  have hsound := ExitSystem.exitSound_of_run hrun hkeeps
  refine ⟨fun id d job hd hjob => hsound.consistent ⟨hd, hjob⟩, ?_⟩
  intro op s' id d hstep hd hstate hbefore
  cases hjob : d.copyJobId with
  | none =>
      have hnone := (hsound.inv.step hstep).books.recorded id d hd hjob
      cases hnone.symm.trans hstate
  | some job => exact hsound.completed_flat hstep ⟨hd, hjob⟩ hstate hbefore

end Results

/-! ## Decisions that are not true

The long position of two units again, and one exit of it. -/

/-- The first half of an exit: it is decided, and not published yet. -/
def decideLong : List ExitOp :=
  [.setMode .on, .openEpoch 0 ⟨0, .hyperliquid, .mainnet⟩] ++ (evaluateLong 18 1).take 3

/-- The user links the destination again. -/
def relinkLong : ExitOp := .openEpoch 0 ⟨1, .hyperliquid, .mainnet⟩

/-- The repair of the stream finds the job stale. -/
def skippedExit : List ExitOp :=
  decideLong ++ [.publish false, .endEvaluation, relinkLong, .execute ⟨19, .supersede 1⟩]

/-- An attempt finds it stale. -/
def staleExit : List ExitOp :=
  decideLong ++ [.publish false, .endEvaluation, relinkLong, .execute ⟨19, .claim 1 0 0⟩,
    .execute ⟨20, .acquire 0⟩,
    .execute ⟨21, .begin 0 { longExitReads .on with destinationMatches := false }⟩,
    .execute ⟨22, .close 0 0⟩]

/-- Five attempts die with their workers. -/
def crashedExit : List ExitOp :=
  decideLong ++ [.publish false, .endEvaluation] ++ [19, 200, 400, 600, 800].flatMap fun now =>
    [.execute ⟨now, .claim 1 0 0⟩, .execute ⟨now + 1, .crash 0⟩,
      .execute ⟨now + 121, .releaseStale 1⟩]

/-- The attempt at the exit, up to the order at the exchange. -/
def orderLong (lots : ℕ) : List ExitOp :=
  [.execute ⟨19, .claim 1 0 0⟩, .execute ⟨20, .acquire 0⟩,
    .execute ⟨21, .begin 0 (longExitReads .on)⟩, .execute ⟨22, .enterLeg 0 ⟨.unknown, none⟩⟩,
    .execute ⟨23, .placeIoc 0 true⟩, .execute ⟨24, .fill ⟨1, .o⟩ lots⟩]

/-- The exit fills before the evaluation has published it. -/
def lateRefusal : List ExitOp :=
  decideLong ++ orderLong 200 ++ [.execute ⟨25, .respond 0 (some ⟨.filled, some 2⟩)⟩,
    .execute ⟨26, .applyFill 0⟩, .execute ⟨27, .close 0 0⟩, relinkLong, .publish false]

/-- What the second attempt reads, after an answer that was lost. -/
def againReads : ProfitExitReads :=
  let d : ProfitExitIntent := { longExit 1 18 with intentState := some .ambiguous }
  { longExitReads .on with
    evidence := ⟨[], [d.toProfitExitDecision]⟩
    decision := some d
    existing := some ⟨.unknown, false, 2, 597 / 5, true⟩ }

/-- Half of the order fills, and its status is that it was canceled. -/
def canceledExit : List ExitOp :=
  decideLong ++ [.publish false, .endEvaluation] ++ orderLong 100 ++ [.execute ⟨25, .respond 0 none⟩,
    .execute ⟨26, .close 0 0⟩, .execute ⟨27, .claim 1 0 0⟩, .execute ⟨28, .acquire 0⟩,
    .execute ⟨29, .begin 0 againReads⟩, .execute ⟨30, .enterLeg 0 ⟨.canceled, none⟩⟩,
    .execute ⟨31, .close 0 0⟩]

/-- The run ends with this decision of event 1's cycle, and with these rows. -/
def LeavesExit (ops : List ExitOp) (intent : ProfitExitIntentState) (rows : ExitSystem → Bool) :
    Prop :=
  ((exitRun ops).any fun s => (s.decisions.lookup 1).any (fun d =>
    d.copyJobId = some 1 && d.intentState = some intent) && rows s) = true

lemma LeavesExit.state {intent : ProfitExitIntentState} {rows : ExitSystem → Bool}
    {ops : List ExitOp} (h : LeavesExit ops intent rows) :
    ∃ s d, exitRun ops = some s ∧ s.decisions.lookup 1 = some d ∧ d.copyJobId = some 1 ∧
      d.intentState = some intent ∧ rows s = true := by
  obtain ⟨s, hs, hrows⟩ := (Option.any_eq_true _ _).1 h
  obtain ⟨hdecision, hrest⟩ := Bool.and_eq_true_iff.1 hrows
  obtain ⟨d, hd, hstate⟩ := (Option.any_eq_true _ _).1 hdecision
  simp only [Bool.and_eq_true, decide_eq_true_eq] at hstate
  exact ⟨s, d, hs, hd, hstate.1, hstate.2, hrest⟩

/-- An exit whose decision is not true of its job and its order. -/
def LeavesInconsistent (ops : List ExitOp) : Prop :=
  ∃ s d, exitRun ops = some s ∧ s.decisions.lookup 1 = some d ∧ d.copyJobId = some 1 ∧
    ¬ s.Consistent d 1

lemma inconsistent_of_stopped {ops : List ExitOp} (h : LeavesExit ops .pending fun s =>
    (s.executor.jobs.lookup 1).any fun row => !row.state.active) : LeavesInconsistent ops := by
  obtain ⟨s, d, hs, hd, hjob, hstate, hstopped⟩ := h.state
  refine ⟨s, d, hs, hd, hjob, fun hconsistent => ?_⟩
  obtain ⟨row, hrow, hactive⟩ := hconsistent.pending hstate
  simp [hrow, hactive] at hstopped

lemma inconsistent_of_filled {ops : List ExitOp} (h : LeavesExit ops .failed fun s =>
    (s.executor.executions.lookup ⟨1, .o⟩).any fun row => !row.state.calledOff) :
    LeavesInconsistent ops := by
  obtain ⟨s, d, hs, hd, hjob, hstate, hfilled⟩ := h.state
  refine ⟨s, d, hs, hd, hjob, fun hconsistent => ?_⟩
  obtain ⟨row, hrow, hnot⟩ := (Option.any_eq_true _ _).1 hfilled
  simp [((hconsistent.failed hstate).rows .o row hrow).1] at hnot

lemma inconsistent_of_matched {ops : List ExitOp} (h : LeavesExit ops .failed fun s =>
    (s.executor.orders.lookup ⟨1, .o⟩).any fun order => order.fill ≠ some 0) :
    LeavesInconsistent ops := by
  obtain ⟨s, d, hs, hd, hjob, hstate, hmatched⟩ := h.state
  refine ⟨s, d, hs, hd, hjob, fun hconsistent => ?_⟩
  obtain ⟨order, horder, hnot⟩ := (Option.any_eq_true _ _).1 hmatched
  simp [(hconsistent.failed hstate).orders .o order horder] at hnot

/-- The job of a PENDING decision ends behind it: skipped on delivery, by an attempt that comes too
late for the destination, or with its fifth lease.  And a decision is FAILED behind a fill: refused
after it was executed, or canceled after half of it has matched. -/
theorem exit_state_inconsistent :
    LeavesInconsistent skippedExit ∧ LeavesInconsistent staleExit ∧
      LeavesInconsistent crashedExit ∧ LeavesInconsistent lateRefusal ∧
      LeavesInconsistent canceledExit := by
  refine ⟨inconsistent_of_stopped ?_, inconsistent_of_stopped ?_, inconsistent_of_stopped ?_,
    inconsistent_of_filled ?_, inconsistent_of_matched ?_⟩
  all_goals
    unfold LeavesExit
    decide +kernel

/-- An exit that fills, before its attempt has closed. -/
def closingExit : List ExitOp :=
  decideLong ++ [.publish false, .endEvaluation] ++ orderLong 200 ++
    [.execute ⟨25, .respond 0 (some ⟨.filled, some 2⟩)⟩, .execute ⟨26, .applyFill 0⟩]

/-- Its decision is PENDING and its job alive, and with the close it is COMPLETED and the ledger
flat. -/
theorem exit_state_consistent_filled : ∃ s s', exitRun closingExit = some s ∧
    exitStep hundredths 42 id s (.execute ⟨27, .close 0 0⟩) = some s' ∧
    ExitSystem.JobAlive s.executor 1 ∧ (s'.executor.ledger ⟨0, 0⟩).size.value = 0 := by
  have hrun : (exitRun closingExit).any (fun s =>
      decide (s.decisions.lookup 1 = some (longExit 1 18)) &&
        (exitStep hundredths 42 id s (.execute ⟨27, .close 0 0⟩)).any fun s' =>
          s'.decisions.lookup 1 = some { longExit 1 18 with intentState := some .completed }) =
        true := by
    decide +kernel
  obtain ⟨s, hs, hrows⟩ := (Option.any_eq_true _ _).1 hrun
  obtain ⟨hdecision, hclose⟩ := Bool.and_eq_true_iff.1 hrows
  obtain ⟨s', hs', hcompleted⟩ := (Option.any_eq_true _ _).1 hclose
  have hd := of_decide_eq_true hdecision
  have hkeeps : Transition.RunMeets (exitStep hundredths 42 id)
      (fun s op => s.keepsConsistent op = true) (ExitSystem.initial hundredths fun _ => 200)
      closingExit := by
    decide +kernel
  obtain ⟨hconsistent, hflat⟩ := exit_state_consistent hs hkeeps
  refine ⟨s, s', hs, hs', (hconsistent 1 _ 1 hd rfl).pending rfl, ?_⟩
  refine hflat _ s' 1 _ hs' (of_decide_eq_true hcompleted) rfl fun before hbefore => ?_
  obtain rfl := Option.some.inj (hd.symm.trans hbefore)
  decide

end HyperCopy

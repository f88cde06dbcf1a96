import HyperCopy.ProfitExit.LifecycleLaws

/-!
# What an attempt does to its decision

Whatever intent state an attempt sets is true of what its session has seen (`IntentBacked`), and it
is written either when the outcome is still open, or together with the end of the job.
-/

namespace HyperCopy

section Plan

variable {job : CopyJob} {status : UserStatus} {r : ProfitExitReads}
  {intent : ProfitExitIntentState}

/-- A plan that gives up an exit has found no order of it, or not the exit the job is bound to. -/
lemma planProfitExit_intent (h : (planProfitExit job status r).intent = some intent) :
    intent = .ambiguous ∨ intent = .failed ∧
      (∃ reason, planProfitExit job status r = .settle (some .failed) .skipped reason) ∧
      (r.existing = none ∨ job.executionNetwork = some r.network ∧
        ∃ d, r.decision = some d ∧ (bindingOk job d r = false ∨ d.action ≠ .closeProfit)) := by
  unfold planProfitExit at h ⊢
  split at h
  · cases h
  split at h
  · cases h
  rename_i hprovider hnetwork
  have hnetwork' : job.executionNetwork = some r.network := by
    by_contra hne
    exact hnetwork (Or.inl hne)
  rw [if_neg hprovider, if_neg hnetwork]
  split at h
  · cases h
  rename_i hid
  rw [if_neg hid]
  split at h
  · cases h
  rename_i d hdecision
  split at h
  · rename_i hbinding
    obtain rfl := Option.some.inj h
    refine Or.inr ⟨rfl, ⟨_, if_pos hbinding⟩, Or.inr ⟨hnetwork', d, hdecision, Or.inl ?_⟩⟩
    simpa using hbinding
  split at h
  · rename_i hbinding haction
    obtain rfl := Option.some.inj h
    exact Or.inr ⟨rfl, ⟨_, by rw [if_neg hbinding, if_pos haction]⟩,
      Or.inr ⟨hnetwork', d, hdecision, Or.inr haction⟩⟩
  split at h
  · cases h
  rename_i hbinding haction hintent
  rw [if_neg hbinding, if_neg haction, if_neg hintent]
  split at h
  · rename_i existing hexisting
    left
    unfold recoverProfitExit at h
    split at h
    · simp only [ProfitExitPlan.intent] at h
      split_ifs at h
      exact (Option.some.inj h).symm
    split at h
    · exact (Option.some.inj h).symm
    · simp only [ProfitExitPlan.intent] at h
      split_ifs at h
      exact (Option.some.inj h).symm
  · rename_i hexisting
    right
    split at h
    · rename_i hambiguous
      obtain rfl := Option.some.inj h
      exact ⟨rfl, ⟨_, if_pos hambiguous⟩, Or.inl hexisting⟩
    rename_i hpending
    rw [if_neg hpending]
    split at h
    · obtain rfl := Option.some.inj h
      exact ⟨rfl, ⟨_, rfl⟩, Or.inl hexisting⟩
    · cases h

end Plan

/-- An outcome that ends an attempt is known, and is not a fill. -/
lemma afterOutcome_finish {a : Attempt} {leg : AttemptLeg} {o : OrderOutcome} {state : JobState}
    (h : afterOutcome a leg o = .closing (.finish state)) (ho : o.reported = true ∨ o.state.terminal) :
    state.active = false ∧ o.state.terminal = true ∧ o.state ≠ .filled := by
  obtain ⟨execution, filledSize⟩ := o
  cases execution <;> simp_all [afterOutcome, OrderOutcome.reported, ExecutionState.terminal]
  all_goals
    subst h
    rfl

lemma afterApply_finish {a : Attempt} {leg : AttemptLeg} {filledSize : Option ℚ} {size : ℚ} {n : ℕ}
    {state : JobState} (h : afterApply a leg filledSize size n = .closing (.finish state)) :
    state.active = false := by
  unfold afterApply at h
  split at h
  · cases h
    rfl
  split at h
  · cases h
    rfl
  split at h
  · cases h
    rfl
  · cases h

namespace ExitSystem

variable {venue : Venue} {ttl : ℕ} {profitExitJobId : DecisionId → JobId} {s s' : ExitSystem}
  {e e' : ExecutorState} {t : TaskId} {id id' : JobId} {u : UserId} {n : ℕ} {stage : Stage}
  {intent : ProfitExitIntentState}

/-! ## What is set is true -/

lemma stage_of_insert {tasks : Table TaskId ExecutorTask} {stage' : Stage}
    (h : (tasks.insert t (.attempt id u n stage)).lookup t = some (.attempt id u n stage')) :
    stage = stage' :=
  (ExecutorTask.attempt.inj (eq_of_lookup_insert h)).2.2.2.symm

/-- The job and the decision of an exit name each other. -/
lemma ExitBooks.bindingOk (h : s.ExitBooks) {decision : DecisionId} {d : ProfitExitIntent}
    (hd : s.IsExit decision d id) {r : ProfitExitReads} (hjob : r.jobId = id)
    (hnetwork : (exitJob d.scope).executionNetwork = some r.network) :
    bindingOk (exitJob d.scope) d r = true := by
  have hprovider := (h.scope decision d hd.row).provider
  have hnetwork' : d.scope.executionNetwork = r.network := Option.some.inj hnetwork
  simp [HyperCopy.bindingOk, exitJob, hd.job, hjob, hprovider, hnetwork']

lemma begin_backed (hinv : ExitInv venue s) {row : CopyJobRow} {reads : ProfitExitReads}
    {plan : ProfitExitPlan} (hreads : s.readsAgree id row.job reads = true)
    (hrow : s.executor.jobs.lookup id = some row) (hcontext : (s.contexts.lookup id).isSome = true)
    (hplan : exitPlan s.executor row.job reads = some plan) (hintent : plan.intent = some intent)
    (hstage : beginStage s.executor id row.job reads = some stage) :
    IntentBacked s.executor id stage intent := by
  obtain ⟨decision, d, hdecision, hd, hjob⟩ := hinv.books.origin hcontext hrow
  simp only [readsAgree, Bool.and_eq_true, decide_eq_true_eq] at hreads
  obtain ⟨⟨⟨⟨-, hid⟩, hread⟩, -⟩, -⟩ := hreads
  have hread' : reads.decision = some d := by
    rw [hread, hid, hdecision]
    exact hd.row
  unfold exitPlan at hplan
  split at hplan
  · rename_i status hattempt huser
    obtain rfl := Option.some.inj hplan
    unfold beginStage at hstage
    rw [hattempt, huser] at hstage
    dsimp only at hstage
    split at hstage
    · cases hstage
    rename_i hagree
    have hagree' : profitExitReadsAgree s.executor id row.job.market reads = true := by
      simpa using hagree
    simp only [profitExitReadsAgree, Bool.and_eq_true, decide_eq_true_eq] at hagree'
    obtain ⟨⟨hjobId, hexisting⟩, -⟩ := hagree'
    obtain rfl | ⟨rfl, ⟨reason, hsettle⟩, hnone | ⟨hnetwork, d', hd', hbad⟩⟩ :=
      planProfitExit_intent hintent
    · intro w hw
      subst hw
      split at hstage <;> cases hstage
    · rw [hsettle] at hstage
      obtain rfl := Option.some.inj hstage
      refine ⟨⟨_, rfl, rfl⟩, fun found hfound => ?_⟩
      rw [hnone, existingExecution, hfound] at hexisting
      cases hexisting
    · obtain rfl := Option.some.inj (hread'.symm.trans hd')
      rw [hjob] at hnetwork hbad
      obtain hbinding | haction := hbad
      · rw [hinv.books.bindingOk hd hjobId hnetwork] at hbinding
        cases hbinding
      · exact absurd (hinv.books.bound decision d id hd).action haction
  · cases hplan

/-- The outcome of the leg, once its row is written. -/
lemma leg_backed {a : Attempt} {leg : AttemptLeg} {o : OrderOutcome} {c : Closing} {row : Execution}
    (hnext : afterOutcome a leg o = .closing c) (ho : o.reported = true ∨ o.state.terminal)
    (hrow : e.executions.lookup ⟨id, .o⟩ = some row) (hstate : row.state = o.state) :
    IntentBacked e id (.closing c) (legIntent c) := by
  cases c with
  | retryOrDead => exact fun w hw => by cases hw
  | finish state =>
      obtain ⟨hinactive, hterminal, hne⟩ := afterOutcome_finish hnext ho
      refine ⟨⟨state, rfl, hinactive⟩, fun found hfound => ?_⟩
      obtain rfl := Option.some.inj (hrow.symm.trans hfound)
      rw [hstate]
      exact ⟨hterminal, hne⟩

lemma enterLeg_backed {reply : OrderOutcome} {now : ℕ} {a : Attempt} {leg : AttemptLeg} {c : Closing}
    (hstep : enterLeg venue s.executor t reply now = some e)
    (ht : s.executor.tasks.lookup t = some (.attempt id u n (.entering a leg)))
    (hkind : leg.kind = .o) (hnext : e.tasks.lookup t = some (.attempt id u n (.closing c))) :
    IntentBacked e id (.closing c) (legIntent c) := by
  unfold enterLeg at hstep
  rw [ht] at hstep
  dsimp only at hstep
  rw [hkind] at hstep
  split at hstep
  · rename_i row hrow
    split_ifs at hstep with hterminal hreported hunknown
    · obtain rfl := Option.some.inj hstep
      have hclosing := stage_of_insert hnext
      exact leg_backed hclosing (Or.inr hterminal) hrow rfl
    · obtain rfl := Option.some.inj hstep
      have hclosing := stage_of_insert hnext
      have hretry : afterOutcome a leg reply = .closing .retryOrDead := by
        simp [afterOutcome, hunknown]
      obtain rfl : Closing.retryOrDead = c := Stage.closing.inj (hretry.symm.trans hclosing)
      exact fun w hw => by cases hw
    · obtain ⟨row', hrow', rfl⟩ := Option.map_eq_some_iff.1 hstep
      have hclosing := stage_of_insert hnext
      obtain ⟨state, hassign, rfl⟩ := Option.map_eq_some_iff.1 hrow'
      refine leg_backed hclosing (Or.inl (by simpa using hreported)) (AList.lookup_insert _) ?_
      exact (ExecutionState.assign_eq_some.1 hassign).1
  · obtain rfl := Option.some.inj hstep
    cases stage_of_insert hnext

lemma respondLeg_backed {response : Option OrderOutcome} {now : ℕ} {a : Attempt} {leg : AttemptLeg}
    {c : Closing} (hstep : respondLeg s.executor t response now = some e)
    (ht : s.executor.tasks.lookup t = some (.attempt id u n (.inFlight a leg)))
    (hkind : leg.kind = .o) (hnext : e.tasks.lookup t = some (.attempt id u n (.closing c))) :
    IntentBacked e id (.closing c) (legIntent c) := by
  unfold respondLeg at hstep
  rw [ht] at hstep
  dsimp only at hstep
  rw [hkind] at hstep
  split at hstep
  · cases hstep
  rename_i row hrow
  split_ifs at hstep with hreported
  obtain ⟨row', hrow', rfl⟩ := Option.map_eq_some_iff.1 hstep
  have hclosing := stage_of_insert hnext
  obtain ⟨state, hassign, rfl⟩ := Option.map_eq_some_iff.1 hrow'
  refine leg_backed hclosing (Or.inl (by simpa using hreported)) (AList.lookup_insert _) ?_
  exact (ExecutionState.assign_eq_some.1 hassign).1

lemma applyFill_backed {now : ℕ} {a : Attempt} {leg : AttemptLeg} {filledSize filled : Option ℚ}
    {planned : ℚ} {size : LedgerDecimal} {c : Closing}
    (hstep : applyFill venue s.executor t now = some e)
    (ht : s.executor.tasks.lookup t = some (.attempt id u n (.filled a leg filledSize)))
    (hkind : leg.kind = .o) (hnext : e.tasks.lookup t = some (.attempt id u n (.closing c))) :
    IntentBacked e id (.closing c) (fillIntent planned filled size c) := by
  cases c with
  | retryOrDead => exact fun w hw => by cases hw
  | finish state =>
      unfold applyFill at hstep
      rw [ht] at hstep
      dsimp only at hstep
      rw [hkind] at hstep
      split at hstep
      · obtain rfl := Option.some.inj hstep
        cases stage_of_insert hnext
      rename_i row hrow
      split at hstep
      · obtain rfl := Option.some.inj hstep
        cases stage_of_insert hnext
      rename_i row' ledger' added happly
      obtain rfl := Option.some.inj hstep
      have hinactive := afterApply_finish (stage_of_insert hnext)
      obtain ⟨hfilled, happlied⟩ := applyFillToLedger_eq_some happly
      have hrow' : row'.state = .filled ∧ row'.ledgerAppliedAt.isSome = true := by
        obtain ⟨rfl, hmarked⟩ | ⟨rfl, -⟩ := happlied.row_eq
        · exact ⟨hfilled, hmarked⟩
        · exact ⟨hfilled, rfl⟩
      unfold fillIntent
      split_ifs
      · exact ⟨⟨state, rfl, hinactive⟩, row', AList.lookup_insert _, hrow'⟩
      · exact ⟨⟨state, rfl, hinactive⟩, row', AList.lookup_insert _, hrow'⟩

/-! ## What a step of the job path leaves alone -/

/-- The destinations, the contexts of the jobs and the evaluation stay. -/
structure SameFrame (s s' : ExitSystem) : Prop where
  contexts : s'.contexts = s.contexts
  active : s'.active = s.active
  epochs : s'.epochs = s.epochs
  evaluation : s'.evaluation = s.evaluation

lemma SameFrame.went (h : SameFrame s s') (e : ExecutorState) :
    SameFrame s { s' with executor := e } :=
  ⟨h.contexts, h.active, h.epochs, h.evaluation⟩

lemma sameFrame_refl (s : ExitSystem) : SameFrame s s :=
  ⟨rfl, rfl, rfl, rfl⟩

lemma sameFrame_setIntent (s : ExitSystem) (t : TaskId) (intent : ProfitExitIntentState) :
    SameFrame s (s.setIntent t intent) := by
  unfold setIntent
  split_ifs <;> exact ⟨rfl, rfl, rfl, rfl⟩

lemma sameFrame_commit (s : ExitSystem) (t : TaskId) : SameFrame s (s.commit t) := by
  unfold commit
  split <;> exact ⟨rfl, rfl, rfl, rfl⟩

lemma sameFrame_commit_setIntent (s : ExitSystem) (t : TaskId) (intent : ProfitExitIntentState) :
    SameFrame s ((s.commit t).setIntent t intent) := by
  have h := sameFrame_commit s t
  have h' := sameFrame_setIntent (s.commit t) t intent
  exact ⟨h'.contexts.trans h.contexts, h'.active.trans h.active, h'.epochs.trans h.epochs,
    h'.evaluation.trans h.evaluation⟩

lemma follow_frame (s : ExitSystem) (op : ExecutorOp) (e : ExecutorState) :
    SameFrame s (s.follow op e) := by
  cases op with
  | begin t reads =>
      unfold follow
      dsimp only
      split
      · exact (sameFrame_refl s).went e
      split
      · exact (sameFrame_refl s).went e
      split
      · exact (sameFrame_refl s).went e
      · exact (sameFrame_setIntent s t _).went e
  | enterLeg t reply =>
      unfold follow
      dsimp only
      split
      · exact (sameFrame_setIntent s t _).went e
      · exact (sameFrame_commit_setIntent s t _).went e
      · exact (sameFrame_commit s t).went e
  | respond t response =>
      unfold follow
      dsimp only
      split
      · exact (sameFrame_setIntent s t _).went e
      · exact (sameFrame_refl s).went e
  | applyFill t =>
      unfold follow
      dsimp only
      split
      · exact (sameFrame_setIntent s t _).went e
      · exact (sameFrame_refl s).went e
  | abandonFill t => exact (sameFrame_setIntent s t _).went e
  | close t delay => exact (sameFrame_commit s t).went e
  | crash | enqueue | claim | releaseStale | supersede | acquire | placeIoc | fill | reconcileRead
  | reconcileCommit | resolveRead | resolveCommit => exact ⟨rfl, rfl, rfl, rfl⟩

lemma follow_executor (s : ExitSystem) (op : ExecutorOp) (e : ExecutorState) :
    (s.follow op e).executor = e := by
  unfold follow
  dsimp only
  repeat' split
  all_goals rfl

/-! ## Setting and committing -/

lemma attemptOf_eq_some : e.attemptOf t = some (id, stage) ↔
    ∃ u n, e.tasks.lookup t = some (.attempt id u n stage) := by
  unfold ExecutorState.attemptOf
  constructor
  · intro h
    split at h
    · rename_i id' u n stage' ht
      obtain ⟨rfl, rfl⟩ := Prod.mk.inj (Option.some.inj h)
      exact ⟨u, n, ht⟩
    · cases h
  · rintro ⟨u, n, ht⟩
    rw [ht]

lemma decisionOf_eq_some {decision : DecisionId} : s.decisionOf t = some decision ↔
    ∃ id u n stage, s.executor.tasks.lookup t = some (.attempt id u n stage) ∧
      s.contexts.lookup id = some decision := by
  unfold decisionOf
  rw [Option.bind_eq_some_iff]
  constructor
  · rintro ⟨⟨id, stage⟩, hattempt, hcontext⟩
    obtain ⟨u, n, ht⟩ := attemptOf_eq_some.1 hattempt
    exact ⟨id, u, n, stage, ht, hcontext⟩
  · rintro ⟨id, u, n, stage, ht, hcontext⟩
    exact ⟨(id, stage), attemptOf_eq_some.2 ⟨u, n, ht⟩, hcontext⟩

@[simp] lemma setIntent_decisions (s : ExitSystem) (t : TaskId) (intent : ProfitExitIntentState) :
    (s.setIntent t intent).decisions = s.decisions := by
  unfold setIntent
  split_ifs <;> rfl

/-- What a set leaves uncommitted: the new intent of an exit's attempt, and the old ones. -/
lemma setIntent_uncommitted {t' : TaskId} {intent' : ProfitExitIntentState}
    (h : (s.setIntent t intent).uncommitted.lookup t' = some intent') :
    t' = t ∧ intent' = intent ∧ (s.decisionOf t).isSome = true ∨
      s.uncommitted.lookup t' = some intent' := by
  unfold setIntent at h
  split_ifs at h with hexit
  · obtain ⟨rfl, rfl⟩ | hold := Table.lookup_insert_cases h
    · exact Or.inl ⟨rfl, rfl, hexit⟩
    · exact Or.inr hold
  · exact Or.inr h

/-- A commit leaves nothing of its own session uncommitted. -/
lemma commit_uncommitted (hinv : ExitInv venue s) {t' : TaskId} {intent' : ProfitExitIntentState}
    (h : (s.commit t).uncommitted.lookup t' = some intent') :
    t' ≠ t ∧ s.uncommitted.lookup t' = some intent' := by
  unfold commit at h
  split at h
  · by_cases heq : t' = t
    · subst heq
      rw [AList.lookup_erase] at h
      cases h
    · exact ⟨heq, Table.lookup_of_erase h⟩
  · rename_i hnone
    refine ⟨?_, h⟩
    rintro rfl
    obtain ⟨id, u, n, stage, ht, hcontext, -⟩ := hinv.uncommitted _ _ h
    obtain ⟨decision, hdecision⟩ := Option.isSome_iff_exists.1 hcontext
    exact hnone decision intent' (decisionOf_eq_some.2 ⟨id, u, n, stage, ht, hdecision⟩) h

/-- A commit writes the intent that its session has set on the exit. -/
lemma commit_decisions (hinv : ExitInv venue s) : (s.commit t).decisions = s.decisions ∨
    ∃ decision d id u n stage intent, s.IsExit decision d id ∧
      s.executor.tasks.lookup t = some (.attempt id u n stage) ∧
      IntentBacked s.executor id stage intent ∧
      (s.commit t).decisions =
        Table.modify s.decisions decision fun d => { d with intentState := some intent } := by
  unfold commit
  split
  · rename_i decision intent hdecision hset
    right
    obtain ⟨id, u, n, stage, ht, hcontext⟩ := decisionOf_eq_some.1 hdecision
    obtain ⟨id', u', n', stage', ht', -, hbacked⟩ := hinv.uncommitted _ _ hset
    cases Option.some.inj (ht.symm.trans ht')
    obtain ⟨d, hd⟩ := hinv.books.context id decision hcontext
    exact ⟨decision, d, id, u, n, stage, intent, hd, ht, hbacked, rfl⟩
  · exact Or.inl rfl

/-- Every intent state that is set has seen the lock taken. -/
lemma IntentBacked.past (h : IntentBacked e id stage intent) (w : Option WorkerId) :
    stage ≠ .waiting w := by
  cases intent with
  | pending => exact h.elim
  | ambiguous => exact h w
  | partialExit | completed | failed =>
      obtain ⟨⟨state, rfl, -⟩, -⟩ := h
      simp

/-! ## A step of the job path -/

/-- What is set stays true until its session commits or is lost. -/
lemma backed_step {action : ExecutorAction} (hinv : ExitInv venue s)
    (hstep : executorStep venue s.executor action = some e)
    (h : s.uncommitted.lookup t = some intent)
    (hends : ¬ ((∃ delay, action.op = .close t delay) ∨ action.op = .crash t)) :
    Backed e s.contexts t intent := by
  obtain ⟨id, u, n, stage, ht, hcontext, hbacked⟩ := hinv.uncommitted t intent h
  obtain ⟨-, s₁, hop, heq⟩ := executorStep_op hstep
  have hmoved := tasks_of_op hop
  have htasks : e.tasks = s₁.tasks := by rw [heq]
  by_cases hactor : action.op.task = some t
  · obtain hend | ⟨hopen, stage', ht', hpast'⟩ := hmoved.goesOn hactor ht hbacked.past
    · exact absurd hend hends
    · refine ⟨id, u, n, stage', htasks ▸ ht', hcontext, ?_⟩
      cases intent with
      | pending => exact hbacked.elim
      | ambiguous => exact hpast'
      | partialExit | completed | failed =>
          obtain ⟨⟨state, rfl, -⟩, -⟩ := hbacked
          exact absurd rfl (hopen _)
  · refine ⟨id, u, n, stage, ?_, hcontext, ?_⟩
    · rw [htasks, hmoved.kept hactor]
      exact ht
    · cases intent with
      | pending => exact hbacked.elim
      | ambiguous => exact hbacked
      | partialExit | completed => exact ⟨hbacked.1, hbacked.2.step hinv.disciplined hstep⟩
      | failed =>
          refine ⟨hbacked.1, hbacked.2.step ?_ hinv.disciplined hstep⟩
          intro t' u' n' a leg ht'
          obtain ⟨⟨state, rfl, -⟩, -⟩ := hbacked
          obtain ⟨-, hstage⟩ := hinv.disciplined.coherent.alone ht (by simp) ht' (by simp)
          cases hstage

/-- The attempt that sets an intent state works on an exit. -/
lemma context_of_decisionOf (h : (s.decisionOf t).isSome = true)
    (ht : s.executor.tasks.lookup t = some (.attempt id u n stage)) :
    (s.contexts.lookup id).isSome = true := by
  obtain ⟨decision, hdecision⟩ := Option.isSome_iff_exists.1 h
  obtain ⟨id', u', n', stage', ht', hcontext⟩ := decisionOf_eq_some.1 hdecision
  cases Option.some.inj (ht.symm.trans ht')
  rw [hcontext]
  rfl

lemma commit_decisionOf (s : ExitSystem) (t : TaskId) : (s.commit t).decisionOf t = s.decisionOf t := by
  unfold commit
  split <;> rfl

/-- An attempt after a step of its own is the attempt it was. -/
lemma attempt_of_step {op : ExecutorOp} {id' : JobId} {u' : UserId} {n' : ℕ} {stage' : Stage}
    (hmoved : TasksMoved s.executor e op) (hop : op.task = some t)
    (ht : s.executor.tasks.lookup t = some (.attempt id u n stage)) (hpast : ∀ w, stage ≠ .waiting w)
    (ht' : e.tasks.lookup t = some (.attempt id' u' n' stage'))
    (hends : ¬ ((∃ delay, op = .close t delay) ∨ op = .crash t)) : id' = id ∧ u' = u ∧ n' = n := by
  obtain hend | ⟨-, stage'', hnext, -⟩ := hmoved.goesOn hop ht hpast
  · exact absurd hend hends
  · cases Option.some.inj (ht'.symm.trans hnext)
    exact ⟨rfl, rfl, rfl⟩

lemma enterLeg_task {reply : OrderOutcome} {now : ℕ} (h : enterLeg venue e t reply now = some e') :
    ∃ id u n a leg, e.tasks.lookup t = some (.attempt id u n (.entering a leg)) := by
  unfold enterLeg at h
  split at h
  · rename_i id u n a leg ht
    exact ⟨id, u, n, a, leg, ht⟩
  · cases h

lemma respondLeg_task {response : Option OrderOutcome} {now : ℕ}
    (h : respondLeg e t response now = some e') :
    ∃ id u n a leg, e.tasks.lookup t = some (.attempt id u n (.inFlight a leg)) := by
  unfold respondLeg at h
  split at h
  · rename_i id u n a leg ht
    exact ⟨id, u, n, a, leg, ht⟩
  · cases h

lemma abandonFill_task (h : abandonFill e t = some e') :
    ∃ id u n a leg filledSize, e.tasks.lookup t = some (.attempt id u n (.filled a leg filledSize)) := by
  unfold abandonFill at h
  split at h
  · rename_i id u n a leg filledSize ht
    exact ⟨id, u, n, a, leg, filledSize, ht⟩
  · cases h

lemma beginAttempt_eq_some {reads : ProfitExitReads} (h : beginAttempt venue e t reads = some e') :
    ∃ id u n row stage, e.tasks.lookup t = some (.attempt id u n .locked) ∧
      e.jobs.lookup id = some row ∧ beginStage e id row.job reads = some stage ∧
      e' = e.putTask t (.attempt id u n stage) := by
  unfold beginAttempt at h
  split at h
  · rename_i id u n ht
    split at h
    · cases h
    rename_i row hrow
    split_ifs at h
    obtain ⟨stage, hstage, rfl⟩ := Option.map_eq_some_iff.1 h
    exact ⟨id, u, n, row, stage, ht, hrow, hstage, rfl⟩
  · cases h

/-- What an attempt sets when it begins. -/
lemma begin_sets (hinv : ExitInv venue s) {reads : ProfitExitReads} {row : CopyJobRow}
    {plan : ProfitExitPlan} (hadmits : s.admits (.begin t reads) = true)
    (hbegin : beginAttempt venue s.executor t reads = some e)
    (hattempt : s.executor.attemptOf t = some (id, stage)) (hrow : s.executor.jobs.lookup id = some row)
    (hplan : exitPlan s.executor row.job reads = some plan) (hintent : plan.intent = some intent)
    (hexit : (s.decisionOf t).isSome = true) : Backed e s.contexts t intent := by
  obtain ⟨id', u, n, row', stage', ht, hrow', hstage, rfl⟩ := beginAttempt_eq_some hbegin
  obtain ⟨u', n', ht'⟩ := attemptOf_eq_some.1 hattempt
  cases Option.some.inj (ht.symm.trans ht')
  obtain rfl := Option.some.inj (hrow.symm.trans hrow')
  have hcontext := context_of_decisionOf hexit ht
  have hreads : s.readsAgree id row.job reads = true := by
    simpa only [admits, hattempt, hrow, Option.all_some] using hadmits
  refine ⟨id, u, n, stage', AList.lookup_insert _, hcontext, ?_⟩
  have hbacked := begin_backed hinv hreads hrow hcontext hplan hintent hstage
  exact hbacked

/-- What an attempt sets when its leg has ended. -/
lemma leg_sets (hinv : ExitInv venue s) {op : ExecutorOp} {now : ℕ} {a : Attempt} {leg : AttemptLeg}
    {c : Closing} {intent : Closing → ProfitExitIntentState}
    (hop : applyExecutorOp venue s.executor now op = some e) (htask : op.task = some t)
    (hends : ¬ ((∃ delay, op = .close t delay) ∨ op = .crash t))
    (ht : s.executor.tasks.lookup t = some (.attempt id u n stage))
    (hleg : stage.leg? = some (a, leg)) (hattempt : e.attemptOf t = some (id', .closing c))
    (hexit : (s.decisionOf t).isSome = true)
    (hbacked : leg.kind = .o → e.tasks.lookup t = some (.attempt id u n (.closing c)) →
      IntentBacked e id (.closing c) (intent c)) : Backed e s.contexts t (intent c) := by
  have hpast : ∀ w, stage ≠ .waiting w := by
    rintro w rfl
    cases hleg
  have hcontext := context_of_decisionOf hexit ht
  obtain ⟨u', n', ht'⟩ := attemptOf_eq_some.1 hattempt
  obtain ⟨rfl, rfl, rfl⟩ := attempt_of_step (tasks_of_op hop) htask ht hpast ht' hends
  exact ⟨_, _, _, _, ht', hcontext,
    hbacked (hinv.legs t _ _ _ _ a leg ht hcontext hleg).kind ht'⟩

lemma Backed.tick {contexts : Table JobId DecisionId} (h : Backed e contexts t intent) (now : ℕ) :
    Backed { e with clock := now } contexts t intent := by
  obtain ⟨id, u, n, stage, ht, hcontext, hbacked⟩ := h
  refine ⟨id, u, n, stage, ht, hcontext, ?_⟩
  cases intent <;> exact hbacked

/-- **Every intent state that is set is true**, whoever makes the step. -/
lemma follow_uncommitted {action : ExecutorAction} (hinv : ExitInv venue s)
    (hadmits : s.admits action.op = true) (hstep : executorStep venue s.executor action = some e)
    (h : (s.follow action.op e).uncommitted.lookup t = some intent) :
    Backed e s.contexts t intent := by
  obtain ⟨-, s₁, hop, heq⟩ := executorStep_op hstep
  have hkept : ¬ ((∃ delay, action.op = .close t delay) ∨ action.op = .crash t) →
      s.uncommitted.lookup t = some intent → Backed e s.contexts t intent :=
    fun hends hold => backed_step hinv hstep hold hends
  have hnow : ∀ {intent'}, Backed s₁ s.contexts t intent' → Backed e s.contexts t intent' :=
    fun hbacked => heq ▸ hbacked.tick action.now
  have hattempt : ∀ t', e.attemptOf t' = s₁.attemptOf t' := fun t' => by
    rw [heq]
    rfl
  cases hopEq : action.op with
  | begin t₀ reads =>
      rw [hopEq] at h hop hkept hadmits
      simp only [reduceCtorEq, exists_const, or_self, not_false_eq_true, forall_const] at hkept
      unfold follow at h
      dsimp only at h
      split at h
      · exact hkept h
      rename_i id stage hid
      split at h
      · exact hkept h
      rename_i plan hplan
      obtain ⟨row, hrow, hplan⟩ := Option.bind_eq_some_iff.1 hplan
      split at h
      · exact hkept h
      rename_i intent' hintent
      obtain ⟨rfl, rfl, hexit⟩ | hold := setIntent_uncommitted h
      · exact hnow (begin_sets hinv hadmits hop hid hrow hplan hintent hexit)
      · exact hkept hold
  | enterLeg t₀ reply =>
      rw [hopEq] at h hop hkept
      simp only [reduceCtorEq, exists_const, or_self, not_false_eq_true, forall_const] at hkept
      obtain ⟨id, u, n, a, leg, ht⟩ := enterLeg_task hop
      unfold follow at h
      dsimp only at h
      rw [hattempt] at h
      split at h
      · rename_i id' hclosing
        obtain ⟨rfl, rfl, hexit⟩ | hold := setIntent_uncommitted h
        · exact hnow (leg_sets hinv hop rfl (by simp) ht rfl hclosing hexit
            (enterLeg_backed hop ht))
        · exact hkept hold
      · rename_i id' c hclosing
        obtain ⟨rfl, rfl, hexit⟩ | hold := setIntent_uncommitted h
        · rw [commit_decisionOf] at hexit
          exact hnow (leg_sets hinv hop rfl (by simp) ht rfl hclosing hexit
            (enterLeg_backed hop ht))
        · exact hkept (commit_uncommitted hinv hold).2
      · exact hkept (commit_uncommitted hinv h).2
  | respond t₀ response =>
      rw [hopEq] at h hop hkept
      simp only [reduceCtorEq, exists_const, or_self, not_false_eq_true, forall_const] at hkept
      obtain ⟨id, u, n, a, leg, ht⟩ := respondLeg_task hop
      unfold follow at h
      dsimp only at h
      rw [hattempt] at h
      split at h
      · rename_i id' c hclosing
        obtain ⟨rfl, rfl, hexit⟩ | hold := setIntent_uncommitted h
        · exact hnow (leg_sets hinv hop rfl (by simp) ht rfl hclosing hexit
            (respondLeg_backed hop ht))
        · exact hkept hold
      · exact hkept h
  | applyFill t₀ =>
      rw [hopEq] at h hop hkept
      simp only [reduceCtorEq, exists_const, or_self, not_false_eq_true, forall_const] at hkept
      unfold follow at h
      dsimp only at h
      rw [hattempt] at h
      split at h
      · rename_i id a leg filledSize id' c hfilled hclosing
        obtain ⟨rfl, rfl, hexit⟩ | hold := setIntent_uncommitted h
        · obtain ⟨u, n, ht⟩ := attemptOf_eq_some.1 hfilled
          exact hnow (leg_sets hinv hop rfl (by simp) ht rfl hclosing hexit
            (applyFill_backed hop ht))
        · exact hkept hold
      · exact hkept h
  | abandonFill t₀ =>
      rw [hopEq] at h hop hkept
      simp only [reduceCtorEq, exists_const, or_self, not_false_eq_true, forall_const] at hkept
      obtain ⟨rfl, rfl, hexit⟩ | hold := setIntent_uncommitted h
      · obtain ⟨id, u, n, a, leg, filledSize, ht⟩ := abandonFill_task hop
        obtain hend | ⟨-, stage', ht', hpast⟩ := (tasks_of_op hop).goesOn rfl ht (by simp)
        · simp at hend
        · exact hnow ⟨id, u, n, stage', ht', context_of_decisionOf hexit ht, hpast⟩
      · exact hkept hold
  | close t₀ delay =>
      rw [hopEq] at h hkept
      obtain ⟨hne, hold⟩ := commit_uncommitted hinv h
      exact hkept (by simpa using Ne.symm hne) hold
  | crash t₀ =>
      rw [hopEq] at h hkept
      change (s.uncommitted.erase t₀).lookup t = some intent at h
      have hne : t ≠ t₀ := by
        rintro rfl
        rw [AList.lookup_erase] at h
        cases h
      exact hkept (by simpa using Ne.symm hne) (Table.lookup_of_erase h)
  | enqueue | claim | releaseStale | supersede | acquire | placeIoc | fill | reconcileRead
  | reconcileCommit | resolveRead | resolveCommit =>
      rw [hopEq] at h hkept
      exact hkept (by simp) h

/-- Before its leg has ended an attempt has left nothing but AMBIGUOUS. -/
lemma IntentBacked.ambiguous (h : IntentBacked e id stage intent) (hopen : ∀ c, stage ≠ .closing c) :
    intent = .ambiguous := by
  cases intent with
  | pending => exact h.elim
  | ambiguous => rfl
  | partialExit | completed | failed =>
      obtain ⟨⟨state, rfl, -⟩, -⟩ := h
      exact absurd rfl (hopen _)

/-- What is committed when the attempt closes is true of the job that has ended. -/
lemma close_true {action : ExecutorAction} {delay : ℕ} {d : ProfitExitIntent}
    (hinv : ExitInv venue s) (hstep : executorStep venue s.executor action = some s'.executor)
    (hop : action.op = .close t delay)
    (ht : s.executor.tasks.lookup t = some (.attempt id u n stage))
    (hbacked : IntentBacked s.executor id stage intent) :
    s'.IntentTrue { d with intentState := some intent } id := by
  have hover : ∀ state, stage = .closing (.finish state) → state.active = false →
      JobOver s'.executor id := by
    rintro state rfl hinactive
    obtain ⟨-, s₁, hclose, heq⟩ := executorStep_op hstep
    rw [hop] at hclose
    have hended := closeAttempt_over hinv.disciplined.coherent hclose ht hinactive
    rw [heq]
    exact ⟨hended.ended, hended.waiting⟩
  cases intent with
  | pending => trivial
  | ambiguous => trivial
  | partialExit | completed =>
      obtain ⟨⟨state, hstage, hinactive⟩, hfilled⟩ := hbacked
      exact ⟨hover state hstage hinactive, hfilled.step hinv.disciplined hstep⟩
  | failed =>
      obtain ⟨⟨state, hstage, hinactive⟩, hunfilled⟩ := hbacked
      refine Or.inl ⟨hover state hstage hinactive, hunfilled.step ?_ hinv.disciplined hstep⟩
      intro t' u' n' a leg ht'
      subst hstage
      obtain ⟨-, hother⟩ := hinv.disciplined.coherent.alone ht (by simp) ht' (by simp)
      cases hother

/-- **An intent state is written while the outcome is open, or with the end of the job.** -/
lemma follow_moved {action : ExecutorAction} (hinv : ExitInv venue s)
    (hstep : executorStep venue s.executor action = some e) :
    DecisionsMoved s (s.follow action.op e) := by
  have hexecutor := follow_executor s action.op e
  have hwrote : ∀ t, (∀ (d : ProfitExitIntent) id u n stage intent,
        s.executor.tasks.lookup t = some (.attempt id u n stage) →
        IntentBacked s.executor id stage intent →
        (s.follow action.op e).IntentTrue { d with intentState := some intent } id) →
      (s.follow action.op e).decisions = (s.commit t).decisions →
      DecisionsMoved s (s.follow action.op e) := by
    intro t htrue hcommit
    obtain hsame | ⟨decision, d, id, u, n, stage, intent, hd, ht, hbacked, hdecisions⟩ :=
      commit_decisions (t := t) hinv
    · exact .same (hcommit.trans hsame)
    · exact .wrote decision d id intent hd (not_jobOver_of_past ht hbacked.past)
        (hcommit.trans hdecisions) (htrue d id u n stage intent ht hbacked)
  cases hop : action.op with
  | enterLeg t reply =>
      rw [hop] at hwrote
      obtain ⟨-, s₁, henter, -⟩ := executorStep_op hstep
      rw [hop] at henter
      obtain ⟨id₀, u₀, n₀, a, leg, ht₀⟩ := enterLeg_task henter
      have htrue : ∀ (d : ProfitExitIntent) id u n stage intent,
          s.executor.tasks.lookup t = some (.attempt id u n stage) →
          IntentBacked s.executor id stage intent →
          (s.follow (.enterLeg t reply) e).IntentTrue { d with intentState := some intent } id := by
        intro d id u n stage intent ht hbacked
        cases Option.some.inj (ht.symm.trans ht₀)
        obtain rfl := hbacked.ambiguous (by simp)
        trivial
      by_cases hretry : ∃ id, e.attemptOf t = some (id, .closing .retryOrDead)
      · obtain ⟨id, hretry⟩ := hretry
        refine .same ?_
        simp [follow, hretry]
      · refine hwrote t htrue ?_
        unfold follow
        dsimp only
        split
        · rename_i id hclosing
          exact absurd ⟨id, hclosing⟩ hretry
        · simp
        · rfl
  | close t delay =>
      rw [hop] at hwrote hexecutor
      refine hwrote t (fun d id u n stage intent ht hbacked => ?_) rfl
      exact close_true hinv (by rw [hexecutor]; exact hstep) hop ht hbacked
  | begin t reads =>
      refine .same ?_
      unfold follow
      dsimp only
      split
      · rfl
      split
      · rfl
      split
      · rfl
      · simp
  | respond t response =>
      refine .same ?_
      unfold follow
      dsimp only
      split
      · simp
      · rfl
  | applyFill t =>
      refine .same ?_
      unfold follow
      dsimp only
      split
      · simp
      · rfl
  | abandonFill t => exact .same (by simp [follow])
  | crash | enqueue | claim | releaseStale | supersede | acquire | placeIoc | fill | reconcileRead
  | reconcileCommit | resolveRead | resolveCommit => exact .same rfl

/-- **A step of the job path keeps the invariant.** -/
theorem ExitInv.execute {action : ExecutorAction} (hinv : ExitInv venue s)
    (h : s.execute venue action = some s') : ExitInv venue s' := by
  unfold ExitSystem.execute at h
  split_ifs at h with hadmits
  obtain ⟨e, hstep, rfl⟩ := Option.map_eq_some_iff.1 h
  have hframe := follow_frame s action.op e
  have hexecutor := follow_executor s action.op e
  have hstep' : executorStep venue s.executor action = some (s.follow action.op e).executor := by
    rw [hexecutor]
    exact hstep
  have hlater := later_of_executor hinv.disciplined hstep' hframe.active hframe.epochs
  have hmoved := follow_moved hinv hstep
  refine ⟨hmoved.books hinv.books hlater hframe.contexts, ?_, ?_, ?_, ?_, ?_⟩
  · rw [hexecutor]
    exact hinv.disciplined.executorStep hstep
  · rw [hframe.active, hframe.epochs]
    exact hinv.active
  · rw [hexecutor, hframe.contexts]
    obtain ⟨-, actor, s₁, heffect, rfl⟩ := executorStep_effect hstep
    refine legs_step hinv.disciplined.coherent heffect (fun id row hexit hrow => ?_) hinv.legs
    obtain ⟨decision, d, -, -, hjob⟩ := hinv.books.origin hexit hrow
    rw [hjob]
    rfl
  · rw [hexecutor, hframe.contexts]
    exact fun t intent hset => follow_uncommitted hinv hadmits hstep hset
  · rw [hframe.evaluation]
    exact fun evaluation he => hmoved.evaluation hlater (hinv.evaluation evaluation he)

end ExitSystem

end HyperCopy

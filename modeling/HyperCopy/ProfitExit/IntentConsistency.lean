import HyperCopy.ProfitExit.ExitOrders

/-!
# A decision, its job and its order

Five routines move a profit exit: the attempts, the sweeper of stale leases, the retry limit, the
delivery that skips a job of an old destination, and the resolver.  Only the attempts write the
decision, so whoever else ends the job of a PENDING decision leaves it PENDING, and the
cycle stays blocked by an exit that nobody works on (`keepsPending`).  The evaluation writes FAILED
when it finds its job refused, without looking at what the job has done by then
(`refusesUntouched`).

In the runs without these steps, and without an answer that calls off an order that has matched
something, the decision says the truth: FAILED that nothing fills, COMPLETED that the whole order
filled and left no position, PENDING that the job is alive.
-/

namespace HyperCopy

/-- The job an attempt works on under the lock of its user. -/
def ExecutorTask.worksOn : ExecutorTask → Option JobId
  | .attempt _ _ _ (.waiting _) => none
  | .attempt id _ _ _ => some id
  | .reconcile _ _ _ | .resolve _ _ _ _ => none

namespace ExitSystem

/-! ## The steps that keep a decision true -/

/-- The decision of the job is PENDING. -/
def pendingExit (s : ExitSystem) (job : JobId) : Bool :=
  (s.contexts.lookup job).any fun id =>
    (s.decisions.lookup id).any fun d => d.intentState = some .pending

/-- The job of a PENDING decision is not skipped on delivery, its lease does not run out in its last
attempt, and its attempts are admitted. -/
def keepsPending (s : ExitSystem) : ExecutorOp → Bool
  | .supersede id => !s.pendingExit id
  | .releaseStale id =>
    !s.pendingExit id ||
      (s.executor.jobs.lookup id).all fun row => row.attemptCount < maxJobRetries
  | .begin t reads =>
    match s.executor.attemptOf t with
    | some (id, _) =>
      !s.pendingExit id || (s.executor.jobs.lookup id).all fun row =>
        (admitJob row.job reads.toAttemptReads).isNone
    | none => true
  | _ => true

/-- Nobody works on the job, and its order was not sent or was called off. -/
def untouched (s : ExitSystem) (job : JobId) : Bool :=
  !(Table.any s.executor.tasks fun _ task => task.worksOn = some job) &&
    (s.executor.executions.lookup ⟨job, .o⟩).all fun row => row.state.calledOff

/-- A job that is refused when it is published has not been touched. -/
def refusesUntouched (s : ExitSystem) (raises : Bool) : Bool :=
  match s.evaluation with
  | some ⟨_, .publishing _ job⟩ =>
    raises || (s.executor.jobs.lookup job).all (fun row => s.destinationMatches row.job) ||
      s.untouched job
  | _ => true

/-- No step ends an exit behind its decision. -/
def keepsConsistent (s : ExitSystem) : ExitOp → Bool
  | .execute action => s.answersTrue action.op && s.keepsPending action.op
  | .publish raises => s.refusesUntouched raises
  | _ => true

/-! ## The invariant -/

/-- The job is queued, being processed, or retried. -/
def JobAlive (e : ExecutorState) (id : JobId) : Prop :=
  ∃ row, e.jobs.lookup id = some row ∧ row.state.active = true

/-- What a decision says is true of its job and its orders. -/
structure Consistent (s : ExitSystem) (d : ProfitExitIntent) (job : JobId) : Prop where
  failed : d.intentState = some .failed → NeverFills s.executor job
  completed : d.intentState = some .completed → FilledWhole s.executor job
  pending : d.intentState = some .pending → JobAlive s.executor job

/-- The order of the job has filled for all it requested, and nothing is left of the position. -/
def FilledFlat (e : ExecutorState) (id : JobId) : Prop :=
  FilledWhole e id ∧ ∀ row, e.jobs.lookup id = some row → (e.ledger row.job.market).size.value = 0

/-- The invariant of a run whose steps keep its decisions true. -/
structure ExitSound (venue : Venue) (s : ExitSystem) : Prop where
  inv : ExitInv venue s
  orders : OrdersTrue s.executor s.contexts
  sized : ∀ t id u n stage a leg, s.executor.tasks.lookup t = some (.attempt id u n stage) →
    (s.contexts.lookup id).isSome = true → stage.leg? = some (a, leg) →
      LegSized s.executor id a leg
  failed : ∀ id d job, s.IsExit id d job → d.intentState = some .failed →
    JobOver s.executor job ∧ NeverFills s.executor job
  completed : ∀ id d job, s.IsExit id d job → d.intentState = some .completed →
    FilledWhole s.executor job
  pending : ∀ id d job, s.IsExit id d job → d.intentState = some .pending →
    JobAlive s.executor job
  /-- an attempt that ends has said so to its decision -/
  closing : ∀ t id u n c, s.executor.tasks.lookup t = some (.attempt id u n (.closing c)) →
    s.pendingExit id = true → (s.uncommitted.lookup t).isSome = true
  whole : ∀ t id u n stage, s.executor.tasks.lookup t = some (.attempt id u n stage) →
    s.uncommitted.lookup t = some .completed → FilledFlat s.executor id

variable {venue : Venue} {ttl : ℕ} {profitExitJobId : DecisionId → JobId} {s s' : ExitSystem}
  {e e' : ExecutorState} {t : TaskId} {id : JobId}

lemma ExitSound.consistent (h : ExitSound venue s) {decision : DecisionId} {d : ProfitExitIntent}
    (hd : s.IsExit decision d id) : s.Consistent d id :=
  ⟨fun hstate => (h.failed decision d id hd hstate).2, h.completed decision d id hd,
    h.pending decision d id hd⟩

lemma pendingExit_eq_true : s.pendingExit id = true ↔
    ∃ decision d, s.contexts.lookup id = some decision ∧ s.decisions.lookup decision = some d ∧
      d.intentState = some .pending := by
  simp [pendingExit, Option.any_eq_true]

/-- The job of a PENDING decision, seen from the decision. -/
lemma ExitBooks.pendingExit (h : s.ExitBooks) {decision : DecisionId} {d : ProfitExitIntent}
    (hd : s.IsExit decision d id) (hpending : d.intentState = some .pending) :
    s.pendingExit id = true :=
  pendingExit_eq_true.2 ⟨decision, d, (h.bound decision d id hd).context, hd.row, hpending⟩

/-- The job that names a decision is the job the decision names. -/
lemma ExitBooks.job_unique (h : s.ExitBooks) {decision : DecisionId} {d : ProfitExitIntent}
    {job : JobId} (hd : s.IsExit decision d job) (hcontext : s.contexts.lookup id = some decision) :
    id = job := by
  obtain ⟨d', hd'⟩ := h.context id decision hcontext
  obtain rfl := Option.some.inj (hd.row.symm.trans hd'.row)
  exact Option.some.inj (hd'.job.symm.trans hd.job)

/-! ## A job that stays alive -/

/-- A job stays alive, unless it is skipped, its last lease has run out, or an attempt closes it. -/
lemma JobAlive.of_op {now : ℕ} {op : ExecutorOp} (halive : JobAlive e id)
    (h : applyExecutorOp venue e now op = some e') (hsupersede : op ≠ .supersede id)
    (hrelease : op = .releaseStale id →
      ∀ row, e.jobs.lookup id = some row → row.attemptCount < maxJobRetries)
    (hclose : ∀ t u n c delay, op = .close t delay →
      e.tasks.lookup t ≠ some (.attempt id u n (.closing c))) : JobAlive e' id := by
  obtain ⟨row, hrow, hactive⟩ := halive
  have hsame : e'.jobs = e.jobs → JobAlive e' id := fun heq => ⟨row, heq ▸ hrow, hactive⟩
  -- another job is written, or this one with a state in which it is alive
  have hwrite : ∀ id' new, (id' = id → new.state.active = true) →
      e'.jobs = e.jobs.insert id' new → JobAlive e' id := by
    intro id' new hnew hjobs
    by_cases hid : id' = id
    · subst hid
      exact ⟨new, by rw [hjobs, AList.lookup_insert], hnew rfl⟩
    · refine ⟨row, ?_, hactive⟩
      rw [hjobs, AList.lookup_insert_ne (Ne.symm hid)]
      exact hrow
  cases op with
  | enqueue id' job =>
      simp only [applyExecutorOp, enqueueJob] at h
      split_ifs at h
      obtain rfl := Option.some.inj h
      exact hwrite id' _ (fun _ => rfl) rfl
  | claim id' worker task =>
      simp only [applyExecutorOp, claimJob] at h
      split at h
      · cases h
      split_ifs at h
      obtain rfl := Option.some.inj h
      exact hwrite id' _ (fun _ => rfl) rfl
  | releaseStale id' =>
      simp only [applyExecutorOp, releaseStaleJob] at h
      split at h
      · cases h
      rename_i row' hrow'
      split at h
      · obtain rfl := Option.some.inj h
        refine hwrite id' _ (fun hid => ?_) rfl
        subst hid
        rw [if_pos (hrelease rfl row' hrow')]
        rfl
      · cases h
  | supersede id' =>
      simp only [applyExecutorOp, supersedeJob] at h
      split at h
      · cases h
      split_ifs at h
      obtain rfl := Option.some.inj h
      exact hwrite id' _ (fun hid => absurd (by rw [hid]) hsupersede) rfl
  | acquire task =>
      simp only [applyExecutorOp, acquireLock] at h
      split at h
      · split at h
        · cases h
        split at h
        · obtain rfl := Option.some.inj h
          exact hsame rfl
        split_ifs at h with hlost
        · obtain rfl := Option.some.inj h
          exact hsame rfl
        · obtain rfl := Option.some.inj h
          refine hwrite _ _ (fun _ => ?_) rfl
          simp only [Bool.or_eq_true, decide_eq_true_eq, not_or, not_not] at hlost
          rw [hlost.1.2]
          rfl
      · cases h
  | close task delay =>
      simp only [applyExecutorOp, closeAttempt] at h
      split at h
      · rename_i id' u n c htask
        obtain rfl := Option.some.inj h
        refine ⟨row, ?_, hactive⟩
        change (Table.modify e.jobs id' _).lookup id = some row
        rw [Table.lookup_modify_of_ne]
        · exact hrow
        · rintro rfl
          exact hclose task u n c delay rfl htask
      · cases h
  | reconcileCommit task verifiedAt assets planned =>
      simp only [applyExecutorOp, reconcileCommit] at h
      split at h
      · split_ifs at h
        obtain ⟨jobs, hjobs, rfl⟩ := Option.map_eq_some_iff.1 h
        exact ⟨row, queueJobs_lookup hjobs hrow, hactive⟩
      · cases h
  | begin | enterLeg | placeIoc | respond | applyFill | abandonFill | crash | fill =>
      exact hsame (jobs_of_op h rfl)
  | reconcileRead | resolveRead | resolveCommit => exact hsame (jobs_of_op h rfl)

/-! ## What a step of the job path writes and sets -/

lemma decisionOf_of_attempt {u : UserId} {n : ℕ} {stage : Stage}
    (ht : s.executor.tasks.lookup t = some (.attempt id u n stage)) :
    s.decisionOf t = s.contexts.lookup id := by
  simp [decisionOf, attemptOf_eq_some.2 ⟨u, n, ht⟩]

/-- A commit writes what its session has set, or nothing. -/
lemma commit_wrote (s : ExitSystem) (t : TaskId) : (s.commit t).decisions = s.decisions ∨
    ∃ decision intent, s.decisionOf t = some decision ∧ s.uncommitted.lookup t = some intent ∧
      (s.commit t).decisions =
        Table.modify s.decisions decision fun d => { d with intentState := some intent } := by
  unfold commit
  split
  · rename_i decision intent hdecision hset
    exact Or.inr ⟨decision, intent, hdecision, hset, rfl⟩
  · exact Or.inl rfl

/-- A step of the job path writes a decision only where a session commits. -/
lemma follow_wrote (s : ExitSystem) (op : ExecutorOp) (e : ExecutorState) :
    (s.follow op e).decisions = s.decisions ∨
      ∃ t, ((∃ delay, op = .close t delay) ∨ ∃ reply, op = .enterLeg t reply) ∧
        (s.follow op e).decisions = (s.commit t).decisions := by
  cases op with
  | enterLeg t reply =>
      unfold follow
      dsimp only
      split
      · exact Or.inl (by simp)
      · exact Or.inr ⟨t, Or.inr ⟨reply, rfl⟩, by simp⟩
      · exact Or.inr ⟨t, Or.inr ⟨reply, rfl⟩, rfl⟩
  | close t delay => exact Or.inr ⟨t, Or.inl ⟨delay, rfl⟩, rfl⟩
  | begin t reads =>
      left
      unfold follow
      dsimp only
      split
      · rfl
      split
      · rfl
      split
      · rfl
      · simp
  | respond t response =>
      left
      unfold follow
      dsimp only
      split
      · simp
      · rfl
  | applyFill t =>
      left
      unfold follow
      dsimp only
      split
      · simp
      · rfl
  | abandonFill t => exact Or.inl (by simp [follow])
  | crash | enqueue | claim | releaseStale | supersede | acquire | placeIoc | fill | reconcileRead
  | reconcileCommit | resolveRead | resolveCommit => exact Or.inl rfl

/-- An exit after a step of the job path was one before it, as it is or with the intent state that
an attempt at its job has had set. -/
lemma exit_of_follow {op : ExecutorOp} (hinv : ExitInv venue s) {decision : DecisionId}
    {d' : ProfitExitIntent} (hd' : (s.follow op e).IsExit decision d' id) :
    s.IsExit decision d' id ∨ ∃ t u n stage d intent, s.IsExit decision d id ∧
      d'.intentState = some intent ∧ s.executor.tasks.lookup t = some (.attempt id u n stage) ∧
      s.uncommitted.lookup t = some intent ∧ IntentBacked s.executor id stage intent ∧
      ((∃ delay, op = .close t delay) ∨ ∃ reply, op = .enterLeg t reply) := by
  obtain hsame | ⟨t, hop, hcommit⟩ := follow_wrote s op e
  · exact Or.inl ⟨hsame ▸ hd'.row, hd'.job⟩
  obtain hsame | ⟨decision', intent, hdecision, hset, hmodify⟩ := commit_wrote s t
  · exact Or.inl ⟨(hcommit.trans hsame) ▸ hd'.row, hd'.job⟩
  have hrow := hd'.row
  rw [hcommit, hmodify] at hrow
  obtain ⟨-, hold⟩ | ⟨rfl, d, hold, rfl⟩ := Table.lookup_modify_eq_some.1 hrow
  · exact Or.inl ⟨hold, hd'.job⟩
  have hd : s.IsExit decision d id := ⟨hold, hd'.job⟩
  obtain ⟨id', u, n, stage, ht, -, hbacked⟩ := hinv.uncommitted t intent hset
  rw [decisionOf_of_attempt ht] at hdecision
  obtain rfl := hinv.books.job_unique hd hdecision
  exact Or.inr ⟨t, u, n, stage, d, intent, hd, rfl, ht, hset, hbacked, hop⟩

lemma setIntent_lookup_ne {t' : TaskId} {intent : ProfitExitIntentState} (h : t' ≠ t) :
    (s.setIntent t intent).uncommitted.lookup t' = s.uncommitted.lookup t' := by
  unfold setIntent
  split_ifs
  · exact AList.lookup_insert_ne h
  · rfl

lemma commit_lookup_ne {t' : TaskId} (h : t' ≠ t) :
    (s.commit t).uncommitted.lookup t' = s.uncommitted.lookup t' := by
  unfold commit
  split
  · exact AList.lookup_erase_ne h
  · rfl

/-- What the sessions of the others have set stays. -/
lemma follow_lookup_ne {op : ExecutorOp} (h : op.task ≠ some t) :
    (s.follow op e).uncommitted.lookup t = s.uncommitted.lookup t := by
  cases op with
  | begin t₀ reads =>
      have hne : t ≠ t₀ := fun heq => h (by rw [heq]; rfl)
      unfold follow
      dsimp only
      split
      · rfl
      split
      · rfl
      split
      · rfl
      · exact setIntent_lookup_ne hne
  | enterLeg t₀ reply =>
      have hne : t ≠ t₀ := fun heq => h (by rw [heq]; rfl)
      unfold follow
      dsimp only
      split
      · exact setIntent_lookup_ne hne
      · exact (setIntent_lookup_ne hne).trans (commit_lookup_ne hne)
      · exact commit_lookup_ne hne
  | respond t₀ response =>
      have hne : t ≠ t₀ := fun heq => h (by rw [heq]; rfl)
      unfold follow
      dsimp only
      split
      · exact setIntent_lookup_ne hne
      · rfl
  | applyFill t₀ =>
      have hne : t ≠ t₀ := fun heq => h (by rw [heq]; rfl)
      unfold follow
      dsimp only
      split
      · exact setIntent_lookup_ne hne
      · rfl
  | abandonFill t₀ =>
      have hne : t ≠ t₀ := fun heq => h (by rw [heq]; rfl)
      exact setIntent_lookup_ne hne
  | close t₀ delay =>
      have hne : t ≠ t₀ := fun heq => h (by rw [heq]; rfl)
      exact commit_lookup_ne hne
  | crash t₀ =>
      have hne : t ≠ t₀ := fun heq => h (by rw [heq]; rfl)
      exact AList.lookup_erase_ne hne
  | enqueue | claim | releaseStale | supersede | acquire | placeIoc | fill | reconcileRead
  | reconcileCommit | resolveRead | resolveCommit => rfl

/-! ## COMPLETED is set behind a whole fill -/

lemma legIntent_ne_completed (c : Closing) : legIntent c ≠ .completed := by
  cases c <;> simp [legIntent]

/-- COMPLETED has been set before, or is set now, behind a fill. -/
lemma follow_completed {op : ExecutorOp} (hinv : ExitInv venue s)
    (h : (s.follow op e).uncommitted.lookup t = some .completed) :
    s.uncommitted.lookup t = some .completed ∧
        ¬ ((∃ delay, op = .close t delay) ∨ op = .crash t) ∨
      op = .applyFill t ∧ ∃ id a leg filledSize id' c,
        s.executor.attemptOf t = some (id, .filled a leg filledSize) ∧
        e.attemptOf t = some (id', .closing c) ∧
        fillIntent a.plan.orderSize filledSize (e.ledger a.market).size c = .completed := by
  by_cases hop : op.task = some t
  · cases op with
    | begin t₀ reads =>
        obtain rfl := Option.some.inj hop
        left
        refine ⟨?_, by simp⟩
        unfold follow at h
        dsimp only at h
        split at h
        · exact h
        split at h
        · exact h
        rename_i plan hplan
        split at h
        · exact h
        rename_i intent hintent
        obtain ⟨-, hset, -⟩ | hold := setIntent_uncommitted h
        · obtain ⟨row, -, hplan⟩ := Option.bind_eq_some_iff.1 hplan
          unfold exitPlan at hplan
          split at hplan
          · obtain rfl := Option.some.inj hplan
            obtain rfl | ⟨rfl, -⟩ := planProfitExit_intent hintent
            · cases hset
            · cases hset
          · cases hplan
        · exact hold
    | enterLeg t₀ reply =>
        obtain rfl := Option.some.inj hop
        left
        refine ⟨?_, by simp⟩
        unfold follow at h
        dsimp only at h
        split at h
        · obtain ⟨-, hset, -⟩ | hold := setIntent_uncommitted h
          · exact absurd hset.symm (legIntent_ne_completed _)
          · exact hold
        · obtain ⟨-, hset, -⟩ | hold := setIntent_uncommitted h
          · exact absurd hset.symm (legIntent_ne_completed _)
          · exact (commit_uncommitted hinv hold).2
        · exact (commit_uncommitted hinv h).2
    | respond t₀ response =>
        obtain rfl := Option.some.inj hop
        left
        refine ⟨?_, by simp⟩
        unfold follow at h
        dsimp only at h
        split at h
        · obtain ⟨-, hset, -⟩ | hold := setIntent_uncommitted h
          · exact absurd hset.symm (legIntent_ne_completed _)
          · exact hold
        · exact h
    | applyFill t₀ =>
        obtain rfl := Option.some.inj hop
        unfold follow at h
        dsimp only at h
        split at h
        · rename_i id a leg filledSize id' c hfilled hclosing
          obtain ⟨-, hset, -⟩ | hold := setIntent_uncommitted h
          · exact Or.inr ⟨rfl, id, a, leg, filledSize, id', c, hfilled, hclosing, hset.symm⟩
          · exact Or.inl ⟨hold, by simp⟩
        · exact Or.inl ⟨h, by simp⟩
    | abandonFill t₀ =>
        obtain rfl := Option.some.inj hop
        obtain ⟨-, hset, -⟩ | hold := setIntent_uncommitted h
        · cases hset
        · exact Or.inl ⟨hold, by simp⟩
    | close t₀ delay =>
        obtain rfl := Option.some.inj hop
        exact absurd rfl (commit_uncommitted hinv h).1
    | crash t₀ =>
        obtain rfl := Option.some.inj hop
        change (s.uncommitted.erase t₀).lookup t₀ = _ at h
        rw [AList.lookup_erase] at h
        cases h
    | enqueue | releaseStale | supersede | fill => cases hop
    | claim | acquire | placeIoc | reconcileRead | reconcileCommit | resolveRead | resolveCommit =>
        exact Or.inl ⟨h, by simp⟩
  · left
    rw [follow_lookup_ne hop] at h
    refine ⟨h, ?_⟩
    rintro (⟨delay, rfl⟩ | rfl)
    · exact hop rfl
    · exact hop rfl

/-- No step but a close or a crash is one of an attempt that is closing. -/
lemma not_closing_of_effect {now : ℕ} {op : ExecutorOp} {u : UserId} {n : ℕ} {c : Closing}
    (h : ExecutorEffect venue e now op (some t) e') :
    e.tasks.lookup t ≠ some (.attempt id u n (.closing c)) := by
  intro ht
  cases h with
  | acquire _ id₀ u₀ n₀ n₁ w jobs' hjobs htask => cases Option.some.inj (ht.symm.trans htask)
  | begin _ id₀ u₀ n₀ row reads stage hop htask => cases Option.some.inj (ht.symm.trans htask)
  | leave _ id₀ u₀ n₀ stage c₀ htask hleg =>
      cases Option.some.inj (ht.symm.trans htask)
      cases hleg
  | replay _ id₀ u₀ n₀ a leg row htask => cases Option.some.inj (ht.symm.trans htask)
  | journal _ id₀ u₀ n₀ a leg htask => cases Option.some.inj (ht.symm.trans htask)
  | place _ id₀ u₀ n₀ a leg row reaches htask => cases Option.some.inj (ht.symm.trans htask)
  | record _ id₀ u₀ n₀ stage a leg row row' o hop htask hstage =>
      cases Option.some.inj (ht.symm.trans htask)
      obtain ⟨heq, -⟩ | heq := hstage <;> cases heq
  | apply _ id₀ u₀ n₀ a leg filledSize row row' ledger' added htask =>
      cases Option.some.inj (ht.symm.trans htask)
  | snapshot _ u₀ observed hop hfree hnone => cases ht.symm.trans hnone
  | query _ k row verdict hop hrow hfree hnone => cases ht.symm.trans hnone
  | reconcile _ u₀ observed seen verifiedAt assets jobs' htask =>
      cases Option.some.inj (ht.symm.trans htask)
  | resolve _ k market verdict seen row row' verifiedAt htask =>
      cases Option.some.inj (ht.symm.trans htask)

/-- What an attempt has closed behind stays while its lock is held. -/
lemma FilledFlat.others {action : ExecutorAction} {u : UserId} {n : ℕ} {c : Closing}
    (h : FilledFlat e id) (hd : Disciplined venue e)
    (ht : e.tasks.lookup t = some (.attempt id u n (.closing c)))
    (ht' : e'.tasks.lookup t = some (.attempt id u n (.closing c)))
    (hstep : executorStep venue e action = some e') : FilledFlat e' id := by
  obtain ⟨-, actor, s₁, heffect, rfl⟩ := executorStep_effect hstep
  have hactor : actor ≠ some t := by
    rintro rfl
    exact not_closing_of_effect heffect ht
  obtain ⟨-, hsame⟩ := heffect.others_kept hd.coherent hactor ht' rfl
  obtain ⟨hwhole, hflat⟩ := h
  refine ⟨FilledWhole.step hwhole hd hstep, fun row' hrow' => ?_⟩
  obtain ⟨row, hrow, huser⟩ := hd.coherent.jobOfUser ht
  obtain ⟨row₁, hrow₁, hjob⟩ := heffect.jobsKept id row hrow
  obtain rfl := Option.some.inj (hrow'.symm.trans hrow₁)
  rw [hjob]
  change (s₁.ledger row.job.market).size.value = 0
  rw [hsame.ledger _ huser]
  exact hflat row hrow

lemma fillIntent_completed {planned : ℚ} {filled : Option ℚ} {size : LedgerDecimal} {c : Closing}
    (h : fillIntent planned filled size c = .completed) :
    planned ≤ filled.getD 0 ∧ size.value = 0 := by
  cases c with
  | retryOrDead => cases h
  | finish state =>
      unfold fillIntent at h
      split_ifs at h with hpartial
      push Not at hpartial
      exact hpartial

/-- Applying a fill for the whole size leaves a row that has filled for all it requested. -/
lemma applyFill_whole {now : ℕ} {u : UserId} {n : ℕ} {a : Attempt} {leg : AttemptLeg}
    {filledSize : Option ℚ} (hd : Disciplined venue e)
    (hstep : applyFill venue e t now = some e')
    (ht : e.tasks.lookup t = some (.attempt id u n (.filled a leg filledSize)))
    (hkind : leg.kind = .o) (hsized : LegSized e id a leg)
    (hfilled : a.plan.orderSize ≤ filledSize.getD 0) : FilledWhole e' id := by
  obtain ⟨-, row, hrow, hstate, hsize⟩ := hd.stages t id u n _ ht
  rw [hkind] at hrow
  have hwhole : row.requestedSize ≤ row.filledSize.getD 0 := by
    rw [hsize]
    exact (hsized.row row hrow).trans hfilled
  unfold applyFill at hstep
  rw [ht] at hstep
  dsimp only at hstep
  rw [hkind, hrow] at hstep
  dsimp only at hstep
  split at hstep
  · obtain rfl := Option.some.inj hstep
    exact ⟨row, hrow, hstate, hwhole⟩
  · rename_i row' ledger' added happly
    obtain rfl := Option.some.inj hstep
    obtain ⟨-, hfill⟩ := applyFillToLedger_eq_some happly
    refine ⟨row', AList.lookup_insert _, ?_⟩
    obtain ⟨rfl, -⟩ | ⟨rfl, -⟩ := hfill.row_eq
    · exact ⟨hstate, hwhole⟩
    · exact ⟨hstate, hwhole⟩

section Step

variable {action : ExecutorAction}

lemma whole_step (h : ExitSound venue s) (hstep : executorStep venue s.executor action = some e)
    {u : UserId} {n : ℕ} {stage : Stage} (ht : e.tasks.lookup t = some (.attempt id u n stage))
    (hset : (s.follow action.op e).uncommitted.lookup t = some .completed) : FilledFlat e id := by
  obtain ⟨-, s₁, hop, heq⟩ := executorStep_op hstep
  have hmoved := tasks_of_op hop
  have htasks : e.tasks = s₁.tasks := by rw [heq]
  obtain ⟨hold, hends⟩ | ⟨happly, id', a, leg, filledSize, id'', c, hfilled, hclosing, hintent⟩ :=
    follow_completed h.inv hset
  · obtain ⟨id', u', n', stage', ht', -, ⟨state, rfl, -⟩, -⟩ := h.inv.uncommitted t _ hold
    by_cases htask : action.op.task = some t
    · obtain hend | ⟨hopen, -⟩ := hmoved.goesOn htask ht' (by simp)
      · exact absurd hend hends
      · exact absurd rfl (hopen _)
    · have hsame := hmoved.kept htask
      rw [← htasks, ht, ht'] at hsame
      cases Option.some.inj hsame
      exact (h.whole t id u n _ ht' hold).others h.inv.disciplined ht' ht hstep
  · obtain ⟨u', n', ht'⟩ := attemptOf_eq_some.1 hfilled
    rw [happly] at hop hmoved
    have hnext : s₁.tasks.lookup t = some (.attempt id u n stage) := htasks ▸ ht
    obtain ⟨rfl, rfl, rfl⟩ := attempt_of_step hmoved rfl ht' (by simp) hnext (by simp)
    -- COMPLETED is only set on an exit
    have hadmits : s.admits action.op = true := by
      rw [happly]
      rfl
    obtain ⟨id₁, u₁, n₁, stage₁, ht₁, hcontext, -⟩ := follow_uncommitted h.inv hadmits hstep hset
    cases Option.some.inj (ht.symm.trans ht₁)
    obtain ⟨hwhole, hflat⟩ := fillIntent_completed hintent
    have hkind := (h.inv.legs t _ _ _ _ a leg ht' hcontext rfl).kind
    have hsized := h.sized t _ _ _ _ a leg ht' hcontext rfl
    have hfill : FilledWhole s₁ id :=
      applyFill_whole h.inv.disciplined hop ht' hkind hsized hwhole
    refine ⟨by rw [heq]; exact hfill, fun row hrow => ?_⟩
    obtain ⟨job, hjob, hmarket⟩ := h.inv.disciplined.coherent.attempt_market ht' rfl
    have hjobs : s₁.jobs = s.executor.jobs := jobs_of_op hop rfl
    rw [show e.jobs = s.executor.jobs by rw [heq]; exact hjobs] at hrow
    obtain rfl := Option.some.inj (hjob.symm.trans hrow)
    rw [← hmarket]
    exact hflat

end Step

/-! ## An attempt that ends says so to its decision -/

/-- An attempt at a PENDING exit that is admitted tells its decision that it ends, or goes on. -/
lemma planProfitExit_tells {job : CopyJob} {status : UserStatus} {r : ProfitExitReads}
    {d : ProfitExitIntent} (hprovider : job.executionProvider = some .hyperliquid)
    (hnetwork : job.executionNetwork = some r.network) (hadapter : r.adapterNetwork = r.network)
    (hid : r.decisionId.isSome = true) (hd : r.decision = some d)
    (hpending : d.intentState = some .pending) :
    (planProfitExit job status r).intent.isSome = true ∨
      (∃ order, planProfitExit job status r = .submit order) ∨
      ∃ intent existing current, planProfitExit job status r = .recover intent existing current := by
  unfold planProfitExit
  rw [if_neg (not_not.2 hprovider), if_neg (by simp [hnetwork, hadapter]),
    if_neg (by simpa using Option.isSome_iff_ne_none.1 hid), hd]
  dsimp only
  split
  · exact Or.inl rfl
  split
  · exact Or.inl rfl
  split
  · rename_i hintent
    exact absurd hpending hintent.1
  split
  · rename_i existing hexisting
    unfold recoverProfitExit
    split
    · exact Or.inl (by simp [ProfitExitPlan.intent])
    split
    · exact Or.inl rfl
    · exact Or.inr (Or.inr ⟨_, existing, _, rfl⟩)
  · split
    · exact Or.inl rfl
    split
    · exact Or.inl rfl
    · rename_i order horder
      exact Or.inr (Or.inl ⟨order, rfl⟩)

/-- An attempt at a job that is admitted comes to its decision. -/
lemma planAttempt_exit {job : CopyJob} {current : ℚ} {r : AttemptReads}
    (horigin : job.origin = .aiProfitExit) (hadmitted : admitJob job r = none) :
    (∃ status, r.user = some status) ∧ planAttempt job current r = .profitExit := by
  have huser : r.user.isNone = false := by
    by_contra hnone
    rw [admitJob, if_pos (by simpa using hnone)] at hadmitted
    cases hadmitted
  obtain ⟨status, hstatus⟩ := Option.isSome_iff_exists.1 (by simpa using huser)
  refine ⟨⟨status, hstatus⟩, ?_⟩
  unfold planAttempt
  rw [hadmitted, hstatus]
  exact if_pos horigin

lemma setIntent_isSome (h : (s.decisionOf t).isSome = true) (intent : ProfitExitIntentState) :
    ((s.setIntent t intent).uncommitted.lookup t).isSome = true := by
  unfold setIntent
  rw [if_pos h, AList.lookup_insert]
  rfl

lemma begin_tells (hinv : ExitInv venue s) {reads : ProfitExitReads} {u : UserId} {n : ℕ}
    {c : Closing} (hadmits : s.admits (.begin t reads) = true)
    (hkeeps : s.keepsPending (.begin t reads) = true) (hpending : s.pendingExit id = true)
    (hbegin : beginAttempt venue s.executor t reads = some e')
    (ht' : e'.tasks.lookup t = some (.attempt id u n (.closing c))) :
    ((s.follow (.begin t reads) e).uncommitted.lookup t).isSome = true := by
  obtain ⟨id', u', n', row, stage, ht, hrow, hstage, rfl⟩ := beginAttempt_eq_some hbegin
  cases eq_of_lookup_insert ht'
  obtain ⟨decision, d, hcontext, hlookup, hstate⟩ := pendingExit_eq_true.1 hpending
  obtain ⟨decision', d', hcontext', hd, hjob⟩ :=
    hinv.books.origin (by rw [hcontext]; rfl) hrow
  obtain rfl := Option.some.inj (hcontext.symm.trans hcontext')
  obtain rfl := Option.some.inj (hlookup.symm.trans hd.row)
  have hattempt : s.executor.attemptOf t = some (id, .locked) := attemptOf_eq_some.2 ⟨u, n, ht⟩
  have hreads : s.readsAgree id row.job reads = true := by
    simpa only [admits, hattempt, hrow, Option.all_some] using hadmits
  have hadmitted : admitJob row.job reads.toAttemptReads = none := by
    simpa [keepsPending, hattempt, hpending, hrow] using hkeeps
  obtain ⟨⟨status, huser⟩, hplan⟩ : (∃ status, reads.user = some status) ∧
      planAttempt row.job (s.executor.ledger row.job.market).size.value reads.toAttemptReads =
        .profitExit :=
    planAttempt_exit (by rw [hjob]; rfl) hadmitted
  have hexitPlan : exitPlan s.executor row.job reads =
      some (planProfitExit row.job status reads) := by
    simp [exitPlan, hplan, huser]
  have hintent : (planProfitExit row.job status reads).intent.isSome = true := by
    simp only [readsAgree, Bool.and_eq_true, decide_eq_true_eq] at hreads
    obtain ⟨⟨⟨⟨-, hid⟩, hread⟩, -⟩, -⟩ := hreads
    have hnetwork : row.job.executionNetwork = some reads.network ∧
        reads.adapterNetwork = reads.network := by
      unfold admitJob at hadmitted
      rw [hjob] at hadmitted ⊢
      split_ifs at hadmitted with _ _ _ hfollower hadapter
      exact ⟨congrArg some (not_not.1 hfollower), not_not.1 hadapter⟩
    have hprovider : row.job.executionProvider = some .hyperliquid := by
      rw [hjob]
      exact congrArg some (hinv.books.scope decision d hd.row).provider
    have hdecisionId : reads.decisionId.isSome = true := by
      rw [hid, hcontext]
      rfl
    have hread' : reads.decision = some d := by
      rw [hread, hid, hcontext]
      exact hlookup
    obtain htells | ⟨order, hgoes⟩ | ⟨intent, existing, current, hgoes⟩ :
        (planProfitExit row.job status reads).intent.isSome = true ∨ _ :=
      planProfitExit_tells hprovider hnetwork.1 hnetwork.2 hdecisionId hread' hstate
    · exact htells
    · unfold beginStage at hstage
      rw [hplan, huser] at hstage
      dsimp only at hstage
      rw [hgoes] at hstage
      split_ifs at hstage
      cases Option.some.inj hstage
    · unfold beginStage at hstage
      rw [hplan, huser] at hstage
      dsimp only at hstage
      rw [hgoes] at hstage
      split_ifs at hstage
      cases Option.some.inj hstage
  obtain ⟨intent, hintent⟩ := Option.isSome_iff_exists.1 hintent
  have hexit : (s.decisionOf t).isSome = true := by
    rw [decisionOf_of_attempt ht, hcontext]
    rfl
  simpa [follow, hattempt, hrow, hexitPlan, hintent] using setIntent_isSome hexit intent

/-- **An attempt that is closing has said so to its decision**, while that is PENDING. -/
lemma closing_step {action : ExecutorAction} (h : ExitSound venue s)
    (hadmits : s.admits action.op = true) (hkeeps : s.keepsPending action.op = true)
    (hstep : executorStep venue s.executor action = some e) {u : UserId} {n : ℕ} {c : Closing}
    (ht' : e.tasks.lookup t = some (.attempt id u n (.closing c)))
    (hpending : s.pendingExit id = true) :
    ((s.follow action.op e).uncommitted.lookup t).isSome = true := by
  obtain ⟨-, s₁, hop, heq⟩ := executorStep_op hstep
  have hmoved := tasks_of_op hop
  have hnext : s₁.tasks.lookup t = some (.attempt id u n (.closing c)) := by
    rw [heq] at ht'
    exact ht'
  have hattempt : e.attemptOf t = some (id, .closing c) := attemptOf_eq_some.2 ⟨u, n, ht'⟩
  by_cases htask : action.op.task = some t
  · obtain ⟨hacquire, hlocked⟩ | ⟨-, n', stage, ht, hpast⟩ := past_of_op hop hnext (by simp)
    · cases hlocked
    have hexit : (s.decisionOf t).isSome = true := by
      obtain ⟨decision, d, hcontext, -, -⟩ := pendingExit_eq_true.1 hpending
      rw [decisionOf_of_attempt ht, hcontext]
      rfl
    have hsuits := suits_of_op hop htask ht
    cases hopEq : action.op with
    | begin t₀ reads =>
        rw [hopEq] at hop htask hadmits hkeeps
        obtain rfl := Option.some.inj htask
        exact begin_tells h.inv hadmits hkeeps hpending hop hnext
    | enterLeg t₀ reply =>
        rw [hopEq] at htask
        obtain rfl := Option.some.inj htask
        unfold follow
        dsimp only
        rw [hattempt]
        cases c with
        | retryOrDead => exact setIntent_isSome hexit _
        | finish state => exact setIntent_isSome (by rw [commit_decisionOf]; exact hexit) _
    | respond t₀ response =>
        rw [hopEq] at htask
        obtain rfl := Option.some.inj htask
        unfold follow
        dsimp only
        rw [hattempt]
        exact setIntent_isSome hexit _
    | applyFill t₀ =>
        rw [hopEq] at htask hsuits
        obtain rfl := Option.some.inj htask
        cases stage with
        | filled a leg filledSize =>
            have hfilled := attemptOf_eq_some.2 ⟨u, n', ht⟩
            simpa [follow, hfilled, hattempt] using setIntent_isSome hexit _
        | _ => cases hsuits
    | abandonFill t₀ =>
        rw [hopEq] at htask
        obtain rfl := Option.some.inj htask
        exact setIntent_isSome hexit _
    | placeIoc t₀ reaches =>
        rw [hopEq] at hop htask
        obtain rfl := Option.some.inj htask
        simp only [applyExecutorOp, callPlaceIoc] at hop
        split at hop
        · split at hop
          · cases hop
          obtain rfl := Option.some.inj hop
          cases eq_of_lookup_insert hnext
        · cases hop
    | close t₀ delay =>
        rw [hopEq] at hop htask hsuits
        obtain rfl := Option.some.inj htask
        obtain hend | ⟨hopen, -⟩ := hmoved.goesOn (hopEq ▸ rfl) ht hpast
        · simp only [applyExecutorOp, closeAttempt] at hop
          split at hop
          · obtain rfl := Option.some.inj hop
            exact absurd hnext (by simp [ExecutorState.dropTask])
          · cases hop
        · cases stage with
          | closing c₀ => exact absurd rfl (hopen c₀)
          | _ => cases hsuits
    | crash t₀ =>
        rw [hopEq] at hop htask
        obtain rfl := Option.some.inj htask
        rw [crash_lookup hop] at hnext
        cases hnext
    | acquire t₀ =>
        rw [hopEq] at hsuits
        cases stage with
        | waiting w => exact absurd rfl (hpast w)
        | _ => cases hsuits
    | enqueue | claim | releaseStale | supersede | fill | reconcileRead | reconcileCommit
    | resolveRead | resolveCommit =>
        rw [hopEq] at hsuits
        cases hsuits
  · rw [follow_lookup_ne htask]
    refine h.closing t id u n c ?_ hpending
    rw [← hmoved.kept htask]
    exact hnext

/-! ## A step of the job path -/

section Execute

variable {action : ExecutorAction} {decision : DecisionId} {d' : ProfitExitIntent}

/-- Nothing writes PENDING. -/
lemma pending_of_follow (hinv : ExitInv venue s) {op : ExecutorOp}
    (hd' : (s.follow op e).IsExit decision d' id) (hstate : d'.intentState = some .pending) :
    s.IsExit decision d' id := by
  obtain hold | ⟨t, u, n, stage, d, intent, -, hintent, -, -, hbacked, -⟩ := exit_of_follow hinv hd'
  · exact hold
  · obtain rfl := Option.some.inj (hintent.symm.trans hstate)
    exact hbacked.elim

lemma pendingExit_of_follow (hinv : ExitInv venue s) {op : ExecutorOp}
    (h : (s.follow op e).pendingExit id = true) : s.pendingExit id = true := by
  obtain ⟨decision, d', hcontext, hlookup, hstate⟩ := pendingExit_eq_true.1 h
  rw [(follow_frame s op e).contexts] at hcontext
  obtain ⟨d, hd⟩ := hinv.books.context id decision hcontext
  have hjob : d'.copyJobId = some id := by
    obtain hsame | ⟨t, -, hcommit⟩ := follow_wrote s op e
    · rw [hsame] at hlookup
      obtain rfl := Option.some.inj (hlookup.symm.trans hd.row)
      exact hd.job
    obtain hsame | ⟨decision', intent, -, -, hmodify⟩ := commit_wrote s t
    · rw [hcommit, hsame] at hlookup
      obtain rfl := Option.some.inj (hlookup.symm.trans hd.row)
      exact hd.job
    · rw [hcommit, hmodify] at hlookup
      obtain ⟨-, hold⟩ | ⟨rfl, d₀, hold, rfl⟩ := Table.lookup_modify_eq_some.1 hlookup
      · obtain rfl := Option.some.inj (hold.symm.trans hd.row)
        exact hd.job
      · obtain rfl := Option.some.inj (hold.symm.trans hd.row)
        exact hd.job
  exact hinv.books.pendingExit (pending_of_follow hinv ⟨hlookup, hjob⟩ hstate) hstate

/-- **A PENDING decision keeps its job.** -/
lemma pending_step (h : ExitSound venue s) (hkeeps : s.keepsPending action.op = true)
    (hstep : executorStep venue s.executor action = some e)
    (hd' : (s.follow action.op e).IsExit decision d' id) (hstate : d'.intentState = some .pending) :
    JobAlive e id := by
  obtain ⟨-, s₁, hop, heq⟩ := executorStep_op hstep
  have hd := pending_of_follow h.inv hd' hstate
  have hpending := h.inv.books.pendingExit hd hstate
  have halive : JobAlive s₁ id := by
    refine JobAlive.of_op (h.pending decision d' id hd hstate) hop ?_ ?_ ?_
    · intro hsupersede
      simp [keepsPending, hsupersede, hpending] at hkeeps
    · intro hrelease row hrow
      simpa [keepsPending, hrelease, hpending, hrow] using hkeeps
    · intro t u n c delay hclose ht
      -- what the attempt has set is written, and it is not PENDING
      obtain ⟨intent, hset⟩ := Option.isSome_iff_exists.1 (h.closing t id u n c ht hpending)
      have hcontext := (h.inv.books.bound decision d' id hd).context
      have hdecision : s.decisionOf t = some decision := (decisionOf_of_attempt ht).trans hcontext
      have hrow := hd'.row
      rw [hclose] at hrow
      simp only [follow, commit, hdecision, hset, Table.lookup_modify_self, hd.row, Option.map_some,
        Option.some.injEq] at hrow
      rw [← hrow] at hstate
      obtain ⟨id', u', n', stage', -, -, hbacked⟩ := h.inv.uncommitted t intent hset
      obtain rfl : intent = .pending := Option.some.inj hstate
      exact hbacked
  obtain ⟨row, hrow, hactive⟩ := halive
  exact ⟨row, by rw [heq]; exact hrow, hactive⟩

/-- **FAILED is written with the end of a job whose order never fills.** -/
lemma failed_step (h : ExitSound venue s) (hstep : executorStep venue s.executor action = some e)
    (hd' : (s.follow action.op e).IsExit decision d' id) (hstate : d'.intentState = some .failed) :
    JobOver e id ∧ NeverFills e id := by
  have hdisciplined := h.inv.disciplined
  obtain hold | ⟨t, u, n, stage, d, intent, hd, hintent, ht, hset, hbacked, hop⟩ :=
    exit_of_follow h.inv hd'
  · obtain ⟨hover, hnever⟩ := h.failed decision d' id hold hstate
    exact ⟨hover.step hstep, hnever.step hdisciplined hover.noLeg hstep⟩
  · obtain rfl := Option.some.inj (hintent.symm.trans hstate)
    obtain ⟨⟨state, rfl, hinactive⟩, hunfilled⟩ := hbacked
    obtain ⟨-, s₁, happly, heq⟩ := executorStep_op hstep
    obtain ⟨delay, hclose⟩ | ⟨reply, henter⟩ := hop
    · have hcontext : (s.contexts.lookup id).isSome = true := by
        rw [(h.inv.books.bound decision d id hd).context]
        rfl
      have hnever : NeverFills s.executor id :=
        h.orders.neverFills_of_unfilled hdisciplined hcontext hunfilled
          (not_jobOver_of_past ht (by simp))
      have hidle : ∀ t' u' n' stage', s.executor.tasks.lookup t' =
          some (.attempt id u' n' stage') → stage'.leg? = none := by
        intro t' u' n' stage' ht'
        by_cases hpast : ∃ w, stage' = .waiting w
        · obtain ⟨w, rfl⟩ := hpast
          rfl
        · push Not at hpast
          obtain ⟨-, rfl⟩ := hdisciplined.coherent.alone ht (by simp) ht' hpast
          rfl
      refine ⟨?_, hnever.step hdisciplined hidle hstep⟩
      rw [hclose] at happly
      have hended := closeAttempt_over hdisciplined.coherent happly ht hinactive
      rw [heq]
      exact ⟨hended.ended, hended.waiting⟩
    · rw [henter] at happly
      obtain ⟨id', u', n', a, leg, ht'⟩ := enterLeg_task happly
      cases Option.some.inj (ht.symm.trans ht')

/-- **COMPLETED is written behind a whole fill.** -/
lemma completed_step (h : ExitSound venue s) (hstep : executorStep venue s.executor action = some e)
    (hd' : (s.follow action.op e).IsExit decision d' id)
    (hstate : d'.intentState = some .completed) : FilledWhole e id := by
  obtain hold | ⟨t, u, n, stage, d, intent, hd, hintent, ht, hset, -, -⟩ :=
    exit_of_follow h.inv hd'
  · exact (h.completed decision d' id hold hstate).step h.inv.disciplined hstep
  · obtain rfl := Option.some.inj (hintent.symm.trans hstate)
    exact (h.whole t id u n stage ht hset).1.step h.inv.disciplined hstep

theorem ExitSound.execute (h : ExitSound venue s) (hanswers : s.answersTrue action.op = true)
    (hkeeps : s.keepsPending action.op = true) (hexecute : s.execute venue action = some s') :
    ExitSound venue s' := by
  have hinv := h.inv.execute hexecute
  unfold ExitSystem.execute at hexecute
  split_ifs at hexecute with hadmits
  obtain ⟨e, hstep, rfl⟩ := Option.map_eq_some_iff.1 hexecute
  have hexecutor := follow_executor s action.op e
  have hcontexts := (follow_frame s action.op e).contexts
  refine ⟨hinv, ?_, ?_, ?_, ?_, ?_, ?_, ?_⟩
  · rw [hexecutor, hcontexts]
    exact h.orders.step h.inv hanswers hstep
  · rw [hexecutor, hcontexts]
    obtain ⟨-, actor, s₁, heffect, heq⟩ := executorStep_effect hstep
    intro t id u n stage a leg ht hexit hleg
    rw [heq] at ht ⊢
    exact (sizes_step h.inv heffect h.sized t id u n stage a leg ht hexit hleg).kept rfl
  · rw [hexecutor]
    exact fun decision d' id hd' hstate => failed_step h hstep hd' hstate
  · rw [hexecutor]
    exact fun decision d' id hd' hstate => completed_step h hstep hd' hstate
  · rw [hexecutor]
    exact fun decision d' id hd' hstate => pending_step h hkeeps hstep hd' hstate
  · rw [hexecutor]
    exact fun t id u n c ht hpending =>
      closing_step h hadmits hkeeps hstep ht (pendingExit_of_follow h.inv hpending)
  · rw [hexecutor]
    exact fun t id u n stage ht hset => whole_step h hstep ht hset

end Execute

end ExitSystem

end HyperCopy

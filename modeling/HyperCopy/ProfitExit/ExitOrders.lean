import HyperCopy.ProfitExit.OneExit

/-!
# What the exchange has done with the orders of exits

FAILED lets a source cycle be copied again, so behind it no order may have filled.  The rows alone
do not say that: QUARANTINED is terminal and says nothing, and REJECTED or CANCELED is what an
answer said, which is worth as much as the answer.  `OrdersTrue` is what the rows of exits say of
the exchange while no answer calls an order off that has matched something
(`ExitSystem.answersTrue`), and `LegSized` is what an attempt orders, seen from the size its row
requests.
-/

namespace HyperCopy

/-- The outcomes that end an order without a fill. -/
def ExecutionState.calledOff : ExecutionState → Bool
  | rejected | canceled => true
  | submitting | unknown | quarantined | filled => false

namespace ExitSystem

/-- Where the outcome calls off the order of an exit, it reports no size, and the exchange has
nothing of the order or has matched nothing of it. -/
def callsOffUnmatched (s : ExitSystem) (k : Cloid) (o : OrderOutcome) : Bool :=
  !((s.contexts.lookup k.jobId).isSome && o.state.calledOff) ||
    (o.filledSize = none && (s.executor.orders.lookup k).all fun order => order.fill = some 0)

/-- What the exchange answers, or the resolver has asked it. -/
def answersTrue (s : ExitSystem) : ExecutorOp → Bool
  | .enterLeg t reply =>
    match s.executor.attemptOf t with
    | some (id, .entering _ leg) => s.callsOffUnmatched ⟨id, leg.kind⟩ reply
    | _ => true
  | .respond t (some response) =>
    match s.executor.attemptOf t with
    | some (id, .inFlight _ leg) => s.callsOffUnmatched ⟨id, leg.kind⟩ response
    | _ => true
  | .resolveRead _ k (.terminal state) => s.callsOffUnmatched k ⟨state, none⟩
  | _ => true

end ExitSystem

/-- The exchange has matched nothing of the order, and never will. -/
def Unmatched (s : ExecutorState) (k : Cloid) : Prop :=
  ∀ order, s.orders.lookup k = some order → order.fill = some 0

/-- No order of the job has filled or can fill any more. -/
structure NeverFills (s : ExecutorState) (id : JobId) : Prop where
  rows : ∀ kind row, s.executions.lookup ⟨id, kind⟩ = some row →
    row.state.calledOff = true ∧ row.filledSize = none
  orders : ∀ kind, Unmatched s ⟨id, kind⟩

/-- The order of the job has filled for all it requested. -/
def FilledWhole (s : ExecutorState) (id : JobId) : Prop :=
  ∃ row, s.executions.lookup ⟨id, .o⟩ = some row ∧ row.state = .filled ∧
    row.requestedSize ≤ row.filledSize.getD 0

/-! ## What a step does to orders and rows -/

section Steps

variable {venue : Venue} {s s' : ExecutorState} {now : ℕ} {op : ExecutorOp}
  {actor : Option TaskId} {k : Cloid}

/-- An order at the exchange was there before, as it is or not matched yet, or has just been
placed by the attempt that has journaled it. -/
lemma ExecutorEffect.order_backward (h : ExecutorEffect venue s now op actor s')
    {order' : ExchangeOrder} (horder' : s'.orders.lookup k = some order') :
    (∃ order, s.orders.lookup k = some order ∧ (order' = order ∨ order.fill = none)) ∨
      ∃ t id u n a leg, k = ⟨id, leg.kind⟩ ∧ k ∈ s'.calls ∧
        s.tasks.lookup t = some (.attempt id u n (.journaled a leg)) := by
  cases h with
  | place t id u n a leg row reaches htask hrow =>
      cases reaches with
      | false => exact Or.inl ⟨order', horder', Or.inl rfl⟩
      | true =>
          obtain ⟨rfl, -⟩ | hold := Table.lookup_insert_cases horder'
          · refine Or.inr ⟨t, id, u, n, a, leg, rfl, ?_, htask⟩
            exact List.mem_append_right _ (List.mem_singleton_self _)
          · exact Or.inl ⟨order', hold, Or.inl rfl⟩
  | fill k₀ order lots horder hfill =>
      obtain ⟨rfl, -⟩ | hold := Table.lookup_insert_cases horder'
      · exact Or.inl ⟨order, horder, Or.inr hfill⟩
      · exact Or.inl ⟨order', hold, Or.inl rfl⟩
  | schedule | acquire | begin | leave | replay | journal | record | apply =>
      exact Or.inl ⟨order', horder', Or.inl rfl⟩
  | snapshot | reconcile | query => exact Or.inl ⟨order', horder', Or.inl rfl⟩
  | resolve => exact Or.inl ⟨order', horder', Or.inl rfl⟩

/-- An order that has been called off stays unmatched, unless it is only about to be placed. -/
lemma Unmatched.step (h : Unmatched s k) (heffect : ExecutorEffect venue s now op actor s')
    (hidle : ∀ t id u n a leg, k = ⟨id, leg.kind⟩ →
      s.tasks.lookup t ≠ some (.attempt id u n (.journaled a leg))) : Unmatched s' k := by
  intro order' horder'
  obtain ⟨order, horder, rfl | hnone⟩ | ⟨t, id, u, n, a, leg, hk, -, htask⟩ :=
    heffect.order_backward horder'
  · exact h order' horder
  · rw [h order horder] at hnone
    cases hnone
  · exact absurd htask (hidle t id u n a leg hk)

/-- Whoever writes a row gives it this state. -/
inductive RowWritten (s : ExecutorState) (op : ExecutorOp) (k : Cloid) (row' : Execution) : Prop
  | journal (hstate : row'.state = .submitting)
  | record (t : TaskId) (id : JobId) (u : UserId) (n : ℕ) (stage : Stage) (a : Attempt)
      (leg : AttemptLeg) (row : Execution) (o : OrderOutcome)
      (hop : op = .enterLeg t o ∨ op = .respond t (some o) ∨ o.state = .unknown)
      (htask : s.tasks.lookup t = some (.attempt id u n stage))
      (hstage : stage = .entering a leg ∧ row.state.terminal = false ∨ stage = .inFlight a leg)
      (hk : k = ⟨id, leg.kind⟩) (hreported : o.reported = true) (hstate : row'.state = o.state)
      (hsize : row'.filledSize = o.filledSize)
  | apply (hstate : row'.state = .filled)
  | resolve (t : TaskId) (market : Market) (verdict : Verdict) (seen : List Cloid) (row : Execution)
      (htask : s.tasks.lookup t = some (.resolve k market verdict seen))
      (hstate : row'.state = (verdict.outcome row).state)
      (hsize : row'.filledSize = (verdict.outcome row).filledSize)

lemma ExecutorEffect.row_written (h : ExecutorEffect venue s now op actor s') {row' : Execution}
    (hrow' : s'.executions.lookup k = some row') :
    s.executions.lookup k = some row' ∨ RowWritten s op k row' := by
  cases h with
  | journal t id u n a leg htask hnone =>
      obtain ⟨rfl, rfl⟩ | hold := Table.lookup_insert_cases hrow'
      · exact Or.inr (.journal rfl)
      · exact Or.inl hold
  | record t id u n stage a leg old new o hop htask hstage hold hreported hnew =>
      obtain ⟨rfl, rfl⟩ | hkept := Table.lookup_insert_cases hrow'
      · obtain ⟨heq, -⟩ := persistOutcome_eq_some hnew
        refine Or.inr (.record t id u n stage a leg old o hop htask hstage rfl hreported ?_ ?_)
        · rw [heq]
        · rw [heq]
      · exact Or.inl hkept
  | apply t id u n a leg filledSize old new ledger' added htask hold happly =>
      obtain ⟨rfl, rfl⟩ | hkept := Table.lookup_insert_cases hrow'
      · obtain ⟨hfilled, hfill⟩ := applyFillToLedger_eq_some happly
        refine Or.inr (.apply ?_)
        obtain ⟨rfl, -⟩ | ⟨rfl, -⟩ := hfill.row_eq
        · exact hfilled
        · exact hfilled
      · exact Or.inl hkept
  | resolve t k₀ market verdict seen old new verifiedAt htask hold hopen hverified hnew =>
      obtain ⟨rfl, rfl⟩ | hkept := Table.lookup_insert_cases hrow'
      · obtain ⟨heq, -⟩ := persistOutcome_eq_some hnew
        refine Or.inr (.resolve t market verdict seen old htask ?_ ?_)
        · rw [heq]
        · rw [heq]
      · exact Or.inl hkept
  | schedule | acquire | begin | leave | replay | place | fill => exact Or.inl hrow'
  | snapshot | reconcile | query => exact Or.inl hrow'

/-- The resolver has taken a row before, or takes it now. -/
lemma ExecutorEffect.resolving (h : ExecutorEffect venue s now op actor s') {t : TaskId}
    {market : Market} {verdict : Verdict} {seen : List Cloid}
    (ht : s'.tasks.lookup t = some (.resolve k market verdict seen)) :
    s.tasks.lookup t = some (.resolve k market verdict seen) ∧ actor ≠ some t ∨
      op = .resolveRead t k verdict := by
  cases h with
  | query t₀ k₀ row verdict₀ hop hrow hfree hnone hopen =>
      by_cases heq : t = t₀
      · subst heq
        rw [ExecutorState.putTask, AList.lookup_insert] at ht
        cases ht
        exact Or.inr hop
      · have hne : some t₀ ≠ some t := fun h => heq (Option.some.inj h).symm
        exact Or.inl ⟨lookup_of_insert_ne hne ht, hne⟩
  | schedule jobs' tasks' hjobs htasks =>
      obtain hold | ⟨-, id, u, n, w, heq, -⟩ := htasks t _ ht
      · exact Or.inl ⟨hold, by simp⟩
      · cases heq
  | fill => exact Or.inl ⟨ht, by simp⟩
  | acquire t₀ | begin t₀ | leave t₀ | replay t₀ | journal t₀ | place t₀ | record t₀ | apply t₀
  | snapshot t₀ =>
      by_cases heq : t = t₀
      · subst heq
        rw [ExecutorState.putTask, AList.lookup_insert] at ht
        cases ht
      · have hne : some t₀ ≠ some t := fun h => heq (Option.some.inj h).symm
        exact Or.inl ⟨lookup_of_insert_ne hne ht, hne⟩
  | reconcile t₀ | resolve t₀ =>
      by_cases heq : t = t₀
      · subst heq
        exact absurd ht (by simp [ExecutorState.dropTask])
      · have hne : some t₀ ≠ some t := fun h => heq (Option.some.inj h).symm
        exact Or.inl ⟨Table.lookup_of_erase ht, hne⟩

end Steps

/-! ## What stays -/

section Kept

variable {venue : Venue} {e e' : ExecutorState} {id : JobId}

lemma calledOff_terminal {state : ExecutionState} (h : state.calledOff = true) :
    state.terminal = true := by
  cases state <;> first | rfl | cases h

/-- What never fills stays so, while nobody works on a leg of the job. -/
lemma NeverFills.step {action : ExecutorAction} (h : NeverFills e id) (hd : Disciplined venue e)
    (hidle : ∀ t u n stage, e.tasks.lookup t = some (.attempt id u n stage) → stage.leg? = none)
    (hstep : executorStep venue e action = some e') : NeverFills e' id := by
  obtain ⟨-, actor, s₁, heffect, rfl⟩ := executorStep_effect hstep
  refine ⟨fun kind row' hrow' => ?_, fun kind => ?_⟩
  · obtain ⟨row, hrow, hevolves⟩ | ⟨-, t, id', u, n, a, leg, -, hk, htask, -⟩ :=
      hd.row_backward heffect hrow'
    · obtain ⟨hcalled, hsize⟩ := h.rows kind row hrow
      obtain ⟨hstate, hkept, -⟩ := hevolves.terminal (calledOff_terminal hcalled)
      exact ⟨hstate ▸ hcalled, hkept.trans hsize⟩
    · obtain ⟨rfl, -⟩ := Cloid.mk.inj hk
      cases hidle t u n _ htask
  · have hnext : Unmatched s₁ ⟨id, kind⟩ := by
      refine (h.orders kind).step heffect fun t id' u n a leg hk htask => ?_
      obtain ⟨rfl, -⟩ := Cloid.mk.inj hk
      cases hidle t u n _ htask
    exact hnext

lemma JobOver.noLeg (h : JobOver e id) (t : TaskId) (u : UserId) (n : ℕ) (stage : Stage)
    (ht : e.tasks.lookup t = some (.attempt id u n stage)) : stage.leg? = none := by
  obtain ⟨w, rfl⟩ := h.waiting t u n stage ht
  rfl

lemma FilledWhole.step {action : ExecutorAction} (h : FilledWhole e id) (hd : Disciplined venue e)
    (hstep : executorStep venue e action = some e') : FilledWhole e' id := by
  obtain ⟨-, actor, s₁, heffect, rfl⟩ := executorStep_effect hstep
  obtain ⟨row, hrow, hfilled, hwhole⟩ := h
  obtain ⟨row', hrow', hevolves⟩ := hd.row_forward heffect hrow
  obtain ⟨hstate, hsize, -⟩ := hevolves.terminal (by rw [hfilled]; rfl)
  refine ⟨row', hrow', hstate.trans hfilled, ?_⟩
  rw [hevolves.requestedSize, hsize]
  exact hwhole

end Kept

/-! ## What the rows of exits say of the exchange -/

namespace ExitSystem

variable {venue : Venue} {s : ExitSystem} {e e' : ExecutorState} {k : Cloid}

/-- What the resolver has found out about an order is true of it. -/
def VerdictTrue (e : ExecutorState) (contexts : Table JobId DecisionId) (k : Cloid) :
    Verdict → Prop
  | .filled _ _ => True
  | .terminal state => state.calledOff = true ∧
      ((contexts.lookup k.jobId).isSome = true → Unmatched e k)
  | .quarantine _ => JobOver e k.jobId

/-- The orders of exits are of one kind, the exchange has matched nothing of those that were called
off, and only orders of jobs that are over were quarantined. -/
structure OrdersTrue (e : ExecutorState) (contexts : Table JobId DecisionId) : Prop where
  called : ∀ k order, e.orders.lookup k = some order → k ∈ e.calls
  kind : ∀ k row, e.executions.lookup k = some row → (contexts.lookup k.jobId).isSome = true →
    k.kind = .o
  unmatched : ∀ k row, e.executions.lookup k = some row →
    (contexts.lookup k.jobId).isSome = true → row.state.calledOff = true →
      row.filledSize = none ∧ Unmatched e k
  quarantined : ∀ k row, e.executions.lookup k = some row → row.state = .quarantined →
    JobOver e k.jobId
  resolving : ∀ t k market verdict seen,
    e.tasks.lookup t = some (.resolve k market verdict seen) → VerdictTrue e contexts k verdict

lemma callsOffUnmatched_iff {o : OrderOutcome} : s.callsOffUnmatched k o = true ↔
    ((s.contexts.lookup k.jobId).isSome = true → o.state.calledOff = true →
      o.filledSize = none ∧ Unmatched s.executor k) := by
  have horder : ((s.executor.orders.lookup k).all fun order => order.fill = some 0) = true ↔
      Unmatched s.executor k := by
    unfold Unmatched
    cases s.executor.orders.lookup k with
    | none => simp
    | some order => simp
  unfold callsOffUnmatched
  rw [Bool.or_eq_true, Bool.and_eq_true, horder, Bool.not_eq_true', Bool.and_eq_false_iff,
    decide_eq_true_eq]
  constructor
  · rintro ((hcontext | hstate) | hunmatched) hexit hcalled
    · rw [hexit] at hcontext
      cases hcontext
    · rw [hcalled] at hstate
      cases hstate
    · exact hunmatched
  · intro h
    by_cases hexit : (s.contexts.lookup k.jobId).isSome = true
    · by_cases hcalled : o.state.calledOff = true
      · exact Or.inr (h hexit hcalled)
      · exact Or.inl (Or.inr (by simpa using hcalled))
    · exact Or.inl (Or.inl (by simpa using hexit))

/-- An order whose row says more than SUBMITTING is not about to be placed. -/
lemma not_journaled_of_row (hd : Disciplined venue e) {row : Execution}
    (hrow : e.executions.lookup k = some row) (hstate : row.state ≠ .submitting) (t : TaskId)
    (id : JobId) (u : UserId) (n : ℕ) (a : Attempt) (leg : AttemptLeg) (hk : k = ⟨id, leg.kind⟩) :
    e.tasks.lookup t ≠ some (.attempt id u n (.journaled a leg)) := by
  intro ht
  obtain ⟨-, -, row', hrow', hsubmitting, -⟩ := hd.stages t id u n _ ht
  subst hk
  obtain rfl := Option.some.inj (hrow.symm.trans hrow')
  exact hstate hsubmitting

/-- Nor is one that the resolver has taken under the lock of its user. -/
lemma not_journaled_of_resolving (hc : Coherent e) {t' : TaskId} {market : Market}
    {verdict : Verdict} {seen : List Cloid}
    (ht' : e.tasks.lookup t' = some (.resolve k market verdict seen)) (t : TaskId) (id : JobId)
    (u : UserId) (n : ℕ) (a : Attempt) (leg : AttemptLeg) (hk : k = ⟨id, leg.kind⟩) :
    e.tasks.lookup t ≠ some (.attempt id u n (.journaled a leg)) := by
  intro ht
  subst hk
  obtain ⟨row, hrow, hmarket⟩ := hc.tasks t' _ ht'
  have hsame : market.userId = u := by
    rw [← hmarket, hc.row_market ht rfl hrow]
    exact hc.market_userId ht rfl
  obtain rfl := hc.exclusive t t' _ _ u ht ht' rfl (by rw [← hsame]; rfl)
  rw [ht] at ht'
  cases ht'

lemma resolveRead_eq_some {t : TaskId} {verdict : Verdict}
    (h : resolveRead e t k verdict = some e') :
    ∃ row, e.executions.lookup k = some row ∧ e.userLocked row.market.userId = false ∧
      resolverMayRecord e k verdict = true ∧ e'.orders = e.orders := by
  unfold resolveRead at h
  split at h
  · cases h
  rename_i row hrow
  split_ifs at h with hbusy hmay
  obtain rfl := Option.some.inj h
  simp only [Bool.or_eq_true, not_or, Bool.not_eq_true] at hbusy
  refine ⟨row, hrow, hbusy.1, ?_, rfl⟩
  simp only [Bool.or_eq_true, not_or, Bool.not_eq_true', Bool.not_eq_false] at hmay
  exact hmay.2

/-- A job that has ended is over, where nobody holds the lock of its user. -/
lemma jobOver_of_free (hc : Coherent e) {row : Execution} (hrow : e.executions.lookup k = some row)
    (hfree : e.userLocked row.market.userId = false)
    (hended : ((e.jobs.lookup k.jobId).any fun job => !job.state.active) = true) :
    JobOver e k.jobId := by
  obtain ⟨job, hjob, hmarket⟩ := hc.rows k row hrow
  refine ⟨⟨job, hjob, by simpa [hjob] using hended⟩, fun t u n stage ht => ?_⟩
  by_contra hnot
  have hpast : ∀ w, stage ≠ .waiting w := fun w hw => hnot ⟨w, hw⟩
  have huser : u = row.market.userId :=
    (hc.jobOfUser ht).unique ⟨job, hjob, by rw [← hmarket]⟩
  have hlocked : e.userLocked row.market.userId = true := by
    refine Table.any_eq_true.2 ⟨t, _, ht, ?_⟩
    simp [holds_of_ne_waiting hpast, huser]
  rw [hfree] at hlocked
  cases hlocked

section Step

variable {action : ExecutorAction}

/-- What has just been recorded of an order that is called off is true of it. -/
lemma recorded_unmatched (hanswers : s.answersTrue action.op = true)
    (hop : applyExecutorOp venue s.executor action.now action.op = some e) {t : TaskId} {id : JobId}
    {u : UserId} {n : ℕ} {stage : Stage} {a : Attempt} {leg : AttemptLeg} {row : Execution}
    {o : OrderOutcome}
    (hanswer : action.op = .enterLeg t o ∨ action.op = .respond t (some o) ∨ o.state = .unknown)
    (htask : s.executor.tasks.lookup t = some (.attempt id u n stage))
    (hstage : stage = .entering a leg ∧ row.state.terminal = false ∨ stage = .inFlight a leg)
    (hcontext : (s.contexts.lookup id).isSome = true) (hcalled : o.state.calledOff = true) :
    o.filledSize = none ∧ Unmatched s.executor ⟨id, leg.kind⟩ := by
  have hattempt : s.executor.attemptOf t = some (id, stage) := attemptOf_eq_some.2 ⟨u, n, htask⟩
  suffices htrue : s.callsOffUnmatched ⟨id, leg.kind⟩ o = true from
    callsOffUnmatched_iff.1 htrue hcontext hcalled
  obtain henter | hrespond | hunknown := hanswer
  · rw [henter] at hanswers hop
    obtain ⟨rfl, -⟩ | rfl := hstage
    · simpa only [answersTrue, hattempt] using hanswers
    · have hsuits := suits_of_op hop rfl htask
      cases hsuits
  · rw [hrespond] at hanswers hop
    obtain ⟨rfl, -⟩ | rfl := hstage
    · have hsuits := suits_of_op hop rfl htask
      cases hsuits
    · simpa only [answersTrue, hattempt] using hanswers
  · rw [hunknown] at hcalled
    cases hcalled

/-- What the resolver takes along is true when it starts. -/
lemma verdict_true (hinv : ExitInv venue s) (hanswers : s.answersTrue action.op = true)
    (hstep : executorStep venue s.executor action = some e) {t : TaskId} {verdict : Verdict}
    (hop : action.op = .resolveRead t k verdict) : VerdictTrue e s.contexts k verdict := by
  obtain ⟨-, s₁, hread, heq⟩ := executorStep_op hstep
  rw [hop] at hread hanswers
  obtain ⟨row, hrow, hfree, hmay, horders⟩ := resolveRead_eq_some hread
  have horders' : e.orders = s.executor.orders := by
    rw [heq]
    exact horders
  cases verdict with
  | filled => trivial
  | terminal state =>
      have hcalled : state.calledOff = true := by
        simp only [resolverMayRecord, Bool.or_eq_true, decide_eq_true_eq] at hmay
        obtain rfl | rfl := hmay <;> rfl
      refine ⟨hcalled, fun hcontext => ?_⟩
      unfold Unmatched
      rw [horders']
      exact (callsOffUnmatched_iff.1 hanswers hcontext hcalled).2
  | quarantine position =>
      exact (jobOver_of_free hinv.disciplined.coherent hrow hfree hmay).step hstep

theorem OrdersTrue.step (h : OrdersTrue s.executor s.contexts) (hinv : ExitInv venue s)
    (hanswers : s.answersTrue action.op = true)
    (hstep : executorStep venue s.executor action = some e) : OrdersTrue e s.contexts := by
  obtain ⟨-, s₁, hop, -⟩ := executorStep_op hstep
  obtain ⟨-, actor, s₂, heffect, heq⟩ := executorStep_effect hstep
  have hd := hinv.disciplined
  have hstays : ∀ k, Unmatched s.executor k → (∀ t id u n a leg, k = ⟨id, leg.kind⟩ →
      s.executor.tasks.lookup t ≠ some (.attempt id u n (.journaled a leg))) → Unmatched e k := by
    intro k hunmatched hidle
    have hnext : Unmatched s₂ k := hunmatched.step heffect hidle
    rw [heq]
    exact hnext
  have hresolving : ∀ t k market verdict seen,
      s.executor.tasks.lookup t = some (.resolve k market verdict seen) →
      VerdictTrue e s.contexts k verdict := by
    intro t k market verdict seen ht
    have htrue := h.resolving t k market verdict seen ht
    cases verdict with
    | filled => trivial
    | terminal state =>
        refine ⟨htrue.1, fun hcontext => ?_⟩
        exact hstays k (htrue.2 hcontext) (not_journaled_of_resolving hd.coherent ht)
    | quarantine position => exact JobOver.step htrue hstep
  have hwritten : ∀ k row', e.executions.lookup k = some row' →
      s.executor.executions.lookup k = some row' ∨ RowWritten s.executor action.op k row' := by
    intro k row' hrow'
    rw [heq] at hrow'
    exact heffect.row_written hrow'
  refine ⟨?_, ?_, ?_, ?_, ?_⟩
  · intro k order' horder'
    rw [heq] at horder' ⊢
    obtain ⟨order, horder, -⟩ | ⟨t, id, u, n, a, leg, -, hcalled, -⟩ :=
      heffect.order_backward horder'
    · obtain hcalls | ⟨t, id, u, n, a, leg, -, -, hcalls⟩ := heffect.calls_cases
      · exact hcalls ▸ h.called k order horder
      · exact hcalls ▸ List.mem_append_left _ (h.called k order horder)
    · exact hcalled
  · intro k row' hrow' hcontext
    rw [heq] at hrow'
    obtain ⟨row, hrow, -⟩ | ⟨-, t, id, u, n, a, leg, -, rfl, htask, -⟩ := hd.row_backward heffect hrow'
    · exact h.kind k row hrow hcontext
    · exact (hinv.legs t id u n _ a leg htask hcontext rfl).kind
  · intro k row' hrow' hcontext hcalled
    obtain hold | hnew := hwritten k row' hrow'
    · obtain ⟨hsize, hunmatched⟩ := h.unmatched k row' hold hcontext hcalled
      refine ⟨hsize, hstays k hunmatched (not_journaled_of_row hd hold ?_)⟩
      intro hstate
      rw [hstate] at hcalled
      cases hcalled
    · cases hnew with
      | journal hstate | apply hstate =>
          rw [hstate] at hcalled
          cases hcalled
      | record t id u n stage a leg row o hanswer htask hstage hk hreported hstate hsize =>
          subst hk
          rw [hstate] at hcalled
          obtain ⟨hnone, hunmatched⟩ :=
            recorded_unmatched hanswers hop hanswer htask hstage hcontext hcalled
          refine ⟨hsize.trans hnone, hstays _ hunmatched fun t' id' u' n' a' leg' hk' ht' => ?_⟩
          -- the attempt that has recorded the answer is the only one past the lock
          obtain ⟨rfl, -⟩ := Cloid.mk.inj hk'
          have hpast : ∀ w, stage ≠ .waiting w := by
            rintro w rfl
            obtain ⟨heq', -⟩ | heq' := hstage <;> cases heq'
          obtain ⟨-, heq'⟩ := hd.coherent.alone htask hpast ht' (by simp)
          subst heq'
          obtain ⟨heq', -⟩ | heq' := hstage <;> cases heq'
      | resolve t market verdict seen row htask hstate hsize =>
          have htrue := hresolving t k market verdict seen htask
          cases verdict with
          | filled =>
              rw [hstate] at hcalled
              cases hcalled
          | terminal state => exact ⟨hsize, htrue.2 hcontext⟩
          | quarantine =>
              rw [hstate] at hcalled
              cases hcalled
  · intro k row' hrow' hquarantined
    obtain hold | hnew := hwritten k row' hrow'
    · exact (h.quarantined k row' hold hquarantined).step hstep
    · cases hnew with
      | journal hstate | apply hstate =>
          rw [hquarantined] at hstate
          cases hstate
      | record t id u n stage a leg row o hanswer htask hstage hk hreported hstate hsize =>
          rw [hquarantined] at hstate
          simp [OrderOutcome.reported, ← hstate] at hreported
      | resolve t market verdict seen row htask hstate hsize =>
          have htrue := hresolving t k market verdict seen htask
          rw [hquarantined] at hstate
          cases verdict with
          | filled => cases hstate
          | terminal state =>
              obtain rfl : ExecutionState.quarantined = state := hstate
              exact absurd htrue.1 (by decide)
          | quarantine => exact htrue
  · intro t k market verdict seen ht
    rw [heq] at ht
    obtain ⟨hold, -⟩ | hread := heffect.resolving ht
    · exact hresolving t k market verdict seen hold
    · exact verdict_true hinv hanswers hstep hread

end Step

/-! ## What FAILED rests on -/

section Results

variable {contexts : Table JobId DecisionId} {id : JobId}

/-- Where the row of an exit is called off, or there is none, none of its orders fills. -/
lemma OrdersTrue.neverFills (h : OrdersTrue e contexts) (hd : Disciplined venue e)
    (hcontext : (contexts.lookup id).isSome = true)
    (hrows : ∀ row, e.executions.lookup ⟨id, .o⟩ = some row → row.state.calledOff = true) :
    NeverFills e id := by
  have hcalled : ∀ kind row, e.executions.lookup ⟨id, kind⟩ = some row →
      row.state.calledOff = true := by
    intro kind row hrow
    obtain rfl : kind = .o := h.kind ⟨id, kind⟩ row hrow hcontext
    exact hrows row hrow
  refine ⟨fun kind row hrow => ?_, fun kind order horder => ?_⟩
  · exact ⟨hcalled kind row hrow, (h.unmatched _ row hrow hcontext (hcalled kind row hrow)).1⟩
  · obtain ⟨row, hrow⟩ := Option.isSome_iff_exists.1 (hd.called _ (h.called _ order horder))
    exact (h.unmatched _ row hrow hcontext (hcalled kind row hrow)).2 order horder

/-- The row of an exit that is still worked on is not QUARANTINED. -/
lemma OrdersTrue.neverFills_of_unfilled (h : OrdersTrue e contexts) (hd : Disciplined venue e)
    (hcontext : (contexts.lookup id).isSome = true) (hunfilled : Unfilled e id)
    (hopen : ¬ JobOver e id) : NeverFills e id := by
  refine h.neverFills hd hcontext fun row hrow => ?_
  obtain ⟨hterminal, hne⟩ := hunfilled row hrow
  have hquarantined : row.state ≠ .quarantined :=
    fun hstate => hopen (h.quarantined _ row hrow hstate)
  cases hstate : row.state with
  | rejected | canceled => rfl
  | submitting | unknown =>
      rw [hstate] at hterminal
      cases hterminal
  | filled => exact absurd hstate hne
  | quarantined => exact absurd hstate hquarantined

end Results

/-! ## The size an attempt orders -/

/-- An attempt at an exit orders at least what the row of its leg requests. -/
structure LegSized (e : ExecutorState) (id : JobId) (a : Attempt) (leg : AttemptLeg) : Prop where
  order : leg.order.orderSize = a.plan.orderSize
  fresh : e.executions.lookup ⟨id, .o⟩ = none → 0 ≤ a.plan.orderSize
  row : ∀ row, e.executions.lookup ⟨id, .o⟩ = some row → row.requestedSize ≤ a.plan.orderSize

section Sizes

variable {now : ℕ} {op : ExecutorOp} {actor : Option TaskId} {id : JobId} {a : Attempt}
  {leg : AttemptLeg}

lemma LegSized.kept (h : LegSized e id a leg)
    (hrows : e'.executions.lookup ⟨id, .o⟩ = e.executions.lookup ⟨id, .o⟩) :
    LegSized e' id a leg :=
  ⟨h.order, by rw [hrows]; exact h.fresh, by rw [hrows]; exact h.row⟩

/-- An attempt at an exit begins with the size it has planned, or the one of the row it replays. -/
lemma legSized_of_begin {job : CopyJob} {reads : ProfitExitReads}
    (h : BeginsWith e id job reads a) (horigin : job.origin = .aiProfitExit) :
    LegSized e id a a.primaryLeg := by
  cases h with
  | submit submission hplan ha =>
      obtain ⟨-, -, -, -, hstrategy, -⟩ := planAttempt_submit_iff.1 hplan
      exact absurd horigin hstrategy
  | exit status order hattempt hagree hplan ha =>
      subst ha
      obtain ⟨hnone, d, -, hfresh⟩ := planProfitExit_goesOn.1 order hplan
      obtain ⟨-, -, o, -, hclose⟩ := planFreshProfitExit_ok hfresh
      refine ⟨rfl, fun _ => le_of_lt hclose.size_pos, fun row hrow => ?_⟩
      simp only [profitExitReadsAgree, Bool.and_eq_true, decide_eq_true_eq] at hagree
      rw [hnone, existingExecution, hrow] at hagree
      cases hagree.1.2
  | recover status intent existing current hattempt hagree hplan ha =>
      subst ha
      have hexisting := planProfitExit_goesOn.2 intent existing current hplan
      simp only [profitExitReadsAgree, Bool.and_eq_true, decide_eq_true_eq] at hagree
      rw [hexisting, existingExecution] at hagree
      obtain ⟨row, hrow, rfl⟩ := Option.map_eq_some_iff.1 hagree.1.2.symm
      refine ⟨rfl, fun hnone => ?_, fun row' hrow' => ?_⟩
      · rw [hrow] at hnone
        cases hnone
      · obtain rfl := Option.some.inj (hrow.symm.trans hrow')
        exact le_refl row.requestedSize

/-- The row of a leg requests at most the size that was planned. -/
lemma newExecution_requestedSize (hsize : leg.order.orderSize = a.plan.orderSize)
    (hpos : 0 ≤ a.plan.orderSize) (n : ℕ) (ledger : LedgerRow) :
    (newExecution a leg n ledger now).requestedSize ≤ a.plan.orderSize := by
  change roundSize leg.order.orderSize n ≤ a.plan.orderSize
  rw [hsize]
  exact (roundSize_le_abs _ _).trans_eq (abs_of_nonneg hpos)

lemma sizes_step (hinv : ExitInv venue s)
    (h : ExecutorEffect venue s.executor now op actor e)
    (hsized : ∀ t id u n stage a leg, s.executor.tasks.lookup t = some (.attempt id u n stage) →
      (s.contexts.lookup id).isSome = true → stage.leg? = some (a, leg) →
        LegSized s.executor id a leg) :
    ∀ t id u n stage a leg, e.tasks.lookup t = some (.attempt id u n stage) →
      (s.contexts.lookup id).isSome = true → stage.leg? = some (a, leg) → LegSized e id a leg := by
  intro t id u n stage a leg ht hexit hleg
  have hc := hinv.disciplined.coherent
  by_cases hactor : actor = some t
  · subst hactor
    cases h with
    | acquire =>
        cases eq_of_lookup_insert ht
        cases hleg
    | begin _ id₀ u₀ n₀ row reads stage₀ hop htask hjob hdecimals hstage =>
        cases eq_of_lookup_insert ht
        obtain ⟨c, rfl⟩ | ⟨b, rfl, hbegin⟩ := beginStage_cases hstage
        · cases hleg
        · obtain ⟨rfl, rfl⟩ := Prod.mk.inj (Option.some.inj hleg)
          obtain ⟨decision, d, -, -, hexitJob⟩ := hinv.books.origin hexit hjob
          exact (legSized_of_begin hbegin (by rw [hexitJob]; rfl)).kept rfl
    | leave =>
        cases eq_of_lookup_insert ht
        cases hleg
    | replay _ id₀ u₀ n₀ b leg₀ row htask hrow hfilled =>
        cases eq_of_lookup_insert ht
        obtain ⟨rfl, rfl⟩ := Prod.mk.inj (Option.some.inj hleg)
        exact (hsized t id u n _ _ _ htask hexit rfl).kept rfl
    | journal _ id₀ u₀ n₀ b leg₀ htask hrow =>
        cases eq_of_lookup_insert ht
        obtain ⟨rfl, rfl⟩ := Prod.mk.inj (Option.some.inj hleg)
        have hold := hsized t id u n _ _ _ htask hexit rfl
        have hkind := (hinv.legs t id u n _ _ _ htask hexit rfl).kind
        rw [hkind] at hrow
        refine ⟨hold.order, fun _ => hold.fresh hrow, fun row hrow' => ?_⟩
        rw [hkind] at hrow'
        obtain rfl := Option.some.inj ((AList.lookup_insert _).symm.trans hrow')
        exact newExecution_requestedSize hold.order (hold.fresh hrow) _ _
    | place _ id₀ u₀ n₀ b leg₀ row reaches htask hrow =>
        cases eq_of_lookup_insert ht
        obtain ⟨rfl, rfl⟩ := Prod.mk.inj (Option.some.inj hleg)
        exact (hsized t id u n _ _ _ htask hexit rfl).kept rfl
    | record _ id₀ u₀ n₀ stage₀ b leg₀ row row' o hop htask hstage hrow hreported hrow' =>
        cases eq_of_lookup_insert ht
        obtain ⟨-, hnext⟩ | ⟨-, c, hnext⟩ := afterOutcome_cases b leg₀ o
        · rw [hnext] at hleg
          obtain ⟨rfl, rfl⟩ := Prod.mk.inj (Option.some.inj hleg)
          have hold : LegSized s.executor id b leg₀ := by
            obtain ⟨rfl, -⟩ | rfl := hstage
            · exact hsized t id u n _ _ _ htask hexit rfl
            · exact hsized t id u n _ _ _ htask hexit rfl
          have hkind : leg₀.kind = .o := by
            obtain ⟨rfl, -⟩ | rfl := hstage
            · exact (hinv.legs t id u n _ _ _ htask hexit rfl).kind
            · exact (hinv.legs t id u n _ _ _ htask hexit rfl).kind
          rw [hkind] at hrow ⊢
          refine ⟨hold.order, fun hnone => ?_, fun row₁ hrow₁ => ?_⟩
          · exact absurd ((AList.lookup_insert _).symm.trans hnone) (by simp)
          · obtain rfl := Option.some.inj ((AList.lookup_insert _).symm.trans hrow₁)
            rw [(persistOutcome_eq_some hrow').1]
            exact hold.row row hrow
        · rw [hnext] at hleg
          cases hleg
    | apply _ id₀ u₀ n₀ b leg₀ filledSize row row' ledger' added htask hrow happly =>
        cases eq_of_lookup_insert ht
        have hold := hinv.legs t id u n _ _ _ htask hexit rfl
        obtain ⟨c, hnext⟩ | ⟨second, -, -, hsecond, -⟩ := afterApply_cases b leg₀ filledSize
          ledger'.size.value (venue.szDecimals b.market.asset)
        · rw [hnext] at hleg
          cases hleg
        · rw [hold.single.2] at hsecond
          cases hsecond
    | snapshot => cases eq_of_lookup_insert ht
    | query => cases eq_of_lookup_insert ht
    | reconcile => exact absurd ht (by simp [ExecutorState.dropTask])
    | resolve => exact absurd ht (by simp [ExecutorState.dropTask])
  · cases stage with
    | waiting | locked | closing => cases hleg
    | entering | journaled | inFlight | filled =>
        obtain ⟨hold, hsame⟩ := h.others_kept hc hactor ht rfl
        refine (hsized t id u n _ a leg hold hexit hleg).kept ?_
        exact hsame.executions id .o (hc.jobOfUser hold)

end Sizes

end ExitSystem

end HyperCopy

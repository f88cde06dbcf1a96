import HyperCopy.Executor.AtMostOnce

/-!
# The discipline of a reversal

An order that may add exposure is only sent on the own side of the ledger size or on a flat one,
and within one attempt the opening leg of a reversal only comes behind a close leg that has filled
for what it requested and is in the ledger.  Both are read off `LegReady`, which the attempts keep
from the moment they have a plan, whatever crashes, retries and overwritten ledgers lie between
them.

A job has more than one attempt, and each plans anew.  A ledger that a snapshot has overwritten
turns the reversal of a first attempt into a plain opening order in the second, and nobody looks at
the close leg that the first attempt has left.  `reopensBehindClose` is the look that is missing,
and in the runs that have it the job opens only behind its close leg.
-/

namespace HyperCopy

/-- The stage works on the close leg of a reversal. -/
def Stage.atCloseLeg : Stage → Bool
  | entering _ leg | journaled _ leg | inFlight _ leg | filled _ leg _ => leg.kind = .c
  | waiting _ | locked | closing _ => false

/-- The stage works on the opening leg of a reversal. -/
def Stage.atOpeningLeg : Stage → Bool
  | entering _ leg | journaled _ leg | inFlight _ leg | filled _ leg _ => leg.opening
  | waiting _ | locked | closing _ => false

/-- Where an attempt can go from its close leg: on with it, to its end, or to the opening leg. -/
inductive AfterCloseLeg (s' : ExecutorState) (t : TaskId) (id : JobId) (u : UserId) : Prop
  | gone (h : s'.tasks.lookup t = none)
  | stays (n : ℕ) (stage : Stage) (h : s'.tasks.lookup t = some (.attempt id u n stage))
      (hstage : stage.atCloseLeg = true)
  | ends (n : ℕ) (c : Closing) (h : s'.tasks.lookup t = some (.attempt id u n (.closing c)))
  | opens (n : ℕ) (a : Attempt) (leg : AttemptLeg)
      (h : s'.tasks.lookup t = some (.attempt id u n (.entering a leg)))
      (hopening : leg.opening = true) (hsettled : CloseSettled s' id)

/-! ## The opening leg of a job -/

/-- `_apply_fill_to_ledger` has nothing to add: the fill is marked as applied, attributed to the
ledger, or in the size that was read at the exchange after it. -/
def fillReflected (cloid : Cloid) (row : Execution) (ledger : LedgerRow) : Bool :=
  -- the time is only what the row would be marked with
  (applyFillToLedger cloid row ledger 0).any fun applied => !applied.2.2

/-- The close leg of the job has filled for at least what it requested, and its fill is applied to
the ledger or proven to be in it. -/
def CloseReflected (s : ExecutorState) (id : JobId) : Prop :=
  ∃ row filled, s.executions.lookup ⟨id, .c⟩ = some row ∧ row.filledSize = some filled ∧
    row.requestedSize ≤ filled ∧ fillReflected ⟨id, .c⟩ row (s.ledger row.market) = true

/-- The leg opens where the job has a close leg: it is the opening leg of the reversal, whichever
attempt has planned it. -/
def Reopens (s : ExecutorState) (id : JobId) (leg : AttemptLeg) : Prop :=
  leg.kind = .o ∧ leg.order.reduceOnly = false ∧ (s.executions.lookup ⟨id, .c⟩).isSome = true

instance (s : ExecutorState) (id : JobId) : Decidable (CloseReflected s id) :=
  decidable_of_iff
    ((s.executions.lookup ⟨id, .c⟩).any (fun row => row.filledSize.any (row.requestedSize ≤ ·) &&
      fillReflected ⟨id, .c⟩ row (s.ledger row.market)) = true) (by
      simp only [CloseReflected, Option.any_eq_true, Bool.and_eq_true, decide_eq_true_eq]
      grind)

instance (s : ExecutorState) (id : JobId) (leg : AttemptLeg) : Decidable (Reopens s id leg) :=
  inferInstanceAs (Decidable (_ ∧ _))

/-- An attempt that begins with the opening order of a job begins behind the close leg of the
job. -/
def reopensBehindClose (s : ExecutorState) (action : ExecutorAction) : Bool :=
  match action.op with
  | .begin t reads =>
    match s.tasks.lookup t with
    | some (.attempt id _ _ .locked) =>
      match s.jobs.lookup id with
      | some row =>
        match beginStage s id row.job reads with
        | some (.entering _ leg) =>
          s.executions.lookup ⟨id, .o⟩ = none → Reopens s id leg → CloseReflected s id
        | _ => true
      | none => true
    | _ => true
  | _ => true

/-- The opening order of a job goes out behind the close leg of the job. -/
def OpensBehindClose (venue : Venue) (s : ExecutorState) : Prop :=
  ∀ action s' id row, executorStep venue s action = some s' → s'.calls = s.calls ++ [⟨id, .o⟩] →
    s.executions.lookup ⟨id, .o⟩ = some row → row.reduceOnly = false →
    (s.executions.lookup ⟨id, .c⟩).isSome = true → CloseReflected s id

/-- What such a begin leaves with the attempt until it calls `place_ioc`. -/
def ReopenOk (s : ExecutorState) (id : JobId) : Stage → Prop
  | .entering _ leg =>
      s.executions.lookup ⟨id, .o⟩ = none → Reopens s id leg → CloseReflected s id
  | .journaled _ leg => Reopens s id leg → CloseReflected s id
  | .waiting _ | .locked | .inFlight _ _ | .filled _ _ _ | .closing _ => True

section

variable {venue : Venue} {s s' : ExecutorState} {now : ℕ} {op : ExecutorOp}
  {actor : Option TaskId}

/-- A leg that may add exposure is on the own side of the ledger size, or the ledger is flat. -/
lemma LegReady.adds {id : JobId} {a : Attempt} {leg : AttemptLeg} (h : LegReady venue s id a leg)
    (hadds : leg.order.reduceOnly = false) :
    AddsTo (s.ledger a.market).size.value leg.order.isBuy ∨ Flat venue s a.market := by
  cases h with
  | primary shape =>
      cases shape with
      | strategy shape => exact Or.inl (shape.adds hadds)
      | exit reduceOnly single kind current =>
          rw [Attempt.primaryLeg, reduceOnly] at hadds
          cases hadds
  | opening second hsecond hadds' hcurrent hclosed hflat => exact Or.inr hflat

lemma LegReady.closeSettled {id : JobId} {a : Attempt} {leg : AttemptLeg}
    (h : LegReady venue s id a leg) (hopening : leg.opening = true) : CloseSettled s id := by
  cases h with
  | primary shape => cases hopening
  | opening second hsecond hadds hcurrent hclosed hflat => exact hclosed

/-- At every stage of an opening leg its close leg is settled. -/
lemma StageOk.closeSettled {id : JobId} {stage : Stage} (h : StageOk venue s id stage)
    (hopening : stage.atOpeningLeg = true) : CloseSettled s id := by
  cases stage with
  | waiting | locked | closing => cases hopening
  | entering a leg => exact LegReady.closeSettled h hopening
  | journaled a leg | inFlight a leg | filled a leg filledSize =>
      exact LegReady.closeSettled h.1 hopening

/-- One step of an attempt from its close leg. -/
lemma afterCloseLeg_of_actor (hd : Disciplined venue s) {t : TaskId}
    (h : ExecutorEffect venue s now op (some t) s') {id : JobId} {u : UserId} {n : ℕ} {stage : Stage}
    (ht : s.tasks.lookup t = some (.attempt id u n stage)) (hstage : stage.atCloseLeg = true) :
    AfterCloseLeg s' t id u := by
  have hsettled := fun n stage ht' => (hd.step h).stages t id u n stage ht'
  cases h with
  | acquire _ id₀ u₀ n₀ n₁ w jobs' hjobs htask hfree =>
      cases Option.some.inj (ht.symm.trans htask)
      cases hstage
  | begin _ id₀ u₀ n₀ row reads stage₀ hop htask hjob hdecimals hbegin =>
      cases Option.some.inj (ht.symm.trans htask)
      cases hstage
  | leave _ id₀ u₀ n₀ stage₀ c htask hleg =>
      cases Option.some.inj (ht.symm.trans htask)
      exact .ends n c (AList.lookup_insert _)
  | replay _ id₀ u₀ n₀ a leg row htask hrow hfilled =>
      cases Option.some.inj (ht.symm.trans htask)
      exact .stays n _ (AList.lookup_insert _) hstage
  | journal _ id₀ u₀ n₀ a leg htask hrow =>
      cases Option.some.inj (ht.symm.trans htask)
      exact .stays n _ (AList.lookup_insert _) hstage
  | place _ id₀ u₀ n₀ a leg row reaches htask hrow =>
      cases Option.some.inj (ht.symm.trans htask)
      exact .stays n _ (AList.lookup_insert _) hstage
  | record _ id₀ u₀ n₀ stage₀ a leg row row' o hop htask hrecord hrow hreported hrow' =>
      cases Option.some.inj (ht.symm.trans htask)
      have hkind : leg.kind = .c := by
        obtain ⟨rfl, -⟩ | rfl := hrecord <;> simpa [Stage.atCloseLeg] using hstage
      obtain ⟨-, hnext⟩ | ⟨-, c, hnext⟩ := afterOutcome_cases a leg o
      · refine .stays n _ (AList.lookup_insert _) ?_
        rw [hnext]
        simpa [Stage.atCloseLeg] using hkind
      · exact .ends n c (by rw [← hnext]; exact AList.lookup_insert _)
  | apply _ id₀ u₀ n₀ a leg filledSize row row' ledger' added htask hrow happly =>
      cases Option.some.inj (ht.symm.trans htask)
      obtain ⟨c, hnext⟩ | ⟨second, hnext, -⟩ := afterApply_cases a leg filledSize
        ledger'.size.value (venue.szDecimals a.market.asset)
      · exact .ends n c (by rw [← hnext]; exact AList.lookup_insert _)
      · have hlookup : ((s.writeFill a.market ⟨id, leg.kind⟩ row' ledger' added).putTask t
            (.attempt id u n (afterApply a leg filledSize ledger'.size.value
              (venue.szDecimals a.market.asset)))).tasks.lookup t =
            some (.attempt id u n (.entering a ⟨.o, second, true⟩)) := by
          rw [← hnext]
          exact AList.lookup_insert _
        exact .opens n a _ hlookup rfl (LegReady.closeSettled (hsettled n _ hlookup) rfl)
  | snapshot _ u₀ observed hop hfree htask =>
      rw [ht] at htask
      cases htask
  | query _ k row verdict hop hrow hfree htask hopen =>
      rw [ht] at htask
      cases htask
  | reconcile _ u₀ observed seen verifiedAt assets jobs' htask hverified hjobs =>
      cases Option.some.inj (ht.symm.trans htask)
  | resolve _ k market verdict seen row row' verifiedAt htask hrow hopen hverified hrow' =>
      cases Option.some.inj (ht.symm.trans htask)

/-- A step of somebody else can only end the attempt. -/
lemma task_of_other (h : ExecutorEffect venue s now op actor s') {t : TaskId} {task : ExecutorTask}
    (hactor : actor ≠ some t) (ht : s.tasks.lookup t = some task) :
    s'.tasks.lookup t = none ∨ s'.tasks.lookup t = some task := by
  cases ht' : s'.tasks.lookup t with
  | none => exact Or.inl rfl
  | some task' =>
      obtain hold | hnone := h.other_task hactor ht'
      · exact Or.inr (by rw [← hold, ht])
      · rw [ht] at hnone
        cases hnone

/-- No step of an attempt starts from its last stage: it only ends. -/
lemma actor_ne_of_closing (h : ExecutorEffect venue s now op actor s') {t : TaskId} {id : JobId}
    {u : UserId} {n : ℕ} {c : Closing} (ht : s.tasks.lookup t = some (.attempt id u n (.closing c))) :
    actor ≠ some t := by
  rintro rfl
  cases h with
  | leave _ id₀ u₀ n₀ stage₀ c htask hleg =>
      cases Option.some.inj (ht.symm.trans htask)
      cases hleg
  | record _ id₀ u₀ n₀ stage₀ a leg row row' o hop htask hrecord hrow hreported hrow' =>
      cases Option.some.inj (ht.symm.trans htask)
      obtain ⟨hstage, -⟩ | hstage := hrecord <;> cases hstage
  | acquire _ _ _ _ _ _ _ _ htask => cases ht.symm.trans htask
  | begin _ _ _ _ _ _ _ _ htask => cases ht.symm.trans htask
  | replay _ _ _ _ _ _ _ htask => cases ht.symm.trans htask
  | journal _ _ _ _ _ _ htask => cases ht.symm.trans htask
  | place _ _ _ _ _ _ _ _ htask => cases ht.symm.trans htask
  | apply _ _ _ _ _ _ _ _ _ _ _ htask => cases ht.symm.trans htask
  | snapshot _ _ _ _ _ htask => cases ht.symm.trans htask
  | reconcile _ _ _ _ _ _ _ htask => cases ht.symm.trans htask
  | query _ _ _ _ _ _ _ htask => cases ht.symm.trans htask
  | resolve _ _ _ _ _ _ _ _ htask => cases ht.symm.trans htask

end

/-! ## Runs that open behind the close leg -/

section

variable {venue : Venue} {s s' : ExecutorState} {now : ℕ} {op : ExecutorOp}
  {actor : Option TaskId} {id : JobId}

/-- A fill that is marked as applied is reflected. -/
lemma CloseSettled.reflected (h : CloseSettled s id) : CloseReflected s id := by
  obtain ⟨row, filled, hrow, hstate, hfilled, hfull, hmarked⟩ := h
  refine ⟨row, filled, hrow, hfilled, hfull, ?_⟩
  simp [fillReflected, applyFillToLedger, hstate, hmarked]

/-- The close row and the ledger of its market decide. -/
lemma CloseReflected.mono (h : CloseReflected s id)
    (hclose : s'.executions.lookup ⟨id, .c⟩ = s.executions.lookup ⟨id, .c⟩)
    (hledger : ∀ row, s.executions.lookup ⟨id, .c⟩ = some row →
      s'.ledger row.market = s.ledger row.market) : CloseReflected s' id := by
  obtain ⟨row, filled, hrow, hfilled, hfull, hreflected⟩ := h
  refine ⟨row, filled, hclose.trans hrow, hfilled, hfull, ?_⟩
  rw [hledger row hrow]
  exact hreflected

/-- The steps of others leave the close leg and its ledger alone. -/
lemma ReopenOk.sameFor {u : UserId} {stage : Stage} (hc : Coherent s) (hsame : SameFor u s s')
    (hjob : JobOfUser s.jobs id u) (h : ReopenOk s id stage) : ReopenOk s' id stage := by
  have hrows := fun kind => hsame.executions id kind hjob
  have hreopens : ∀ leg, Reopens s' id leg → Reopens s id leg := fun leg hreopens => by
    simpa only [Reopens, hrows] using hreopens
  have hreflected : CloseReflected s id → CloseReflected s' id := fun hreflected =>
    hreflected.mono (hrows .c) fun row hrow => by
      obtain ⟨job, hjob', hmarket⟩ := hc.rows _ row hrow
      have hu : row.market.userId = u :=
        JobOfUser.unique ⟨job, hjob', by rw [hmarket]⟩ hjob
      exact hsame.ledger _ hu
  cases stage with
  | waiting | locked | inFlight | filled | closing => trivial
  | entering a leg =>
      exact fun hnone hleg => hreflected (h ((hrows .o).symm.trans hnone) (hreopens leg hleg))
  | journaled a leg => exact fun hleg => hreflected (h (hreopens leg hleg))

lemma reopensBehindClose_begin {t : TaskId} {reads : ProfitExitReads} {u : UserId} {n : ℕ}
    {row : CopyJobRow} {a : Attempt} {leg : AttemptLeg}
    (h : reopensBehindClose s ⟨now, .begin t reads⟩ = true)
    (ht : s.tasks.lookup t = some (.attempt id u n .locked)) (hjob : s.jobs.lookup id = some row)
    (hstage : beginStage s id row.job reads = some (.entering a leg)) :
    ReopenOk s id (.entering a leg) := by
  simpa only [reopensBehindClose, ht, hjob, hstage, decide_eq_true_eq, ReopenOk] using h

/-- A step of an attempt that began so keeps it. -/
lemma ReopenOk.of_actor (hd : Disciplined venue s)
    (hopens : ∀ t id u n stage, s.tasks.lookup t = some (.attempt id u n stage) →
      ReopenOk s id stage)
    {t : TaskId} (hguard : reopensBehindClose s ⟨now, op⟩ = true)
    (h : ExecutorEffect venue s now op (some t) s') {u : UserId} {n : ℕ} {stage : Stage}
    (ht : s'.tasks.lookup t = some (.attempt id u n stage)) : ReopenOk s' id stage := by
  have hok := (hd.step h).stages t id u n stage ht
  cases h with
  | begin _ id₀ u₀ n₀ row reads stage₀ hop htask hjob hdecimals hstage =>
      cases eq_of_lookup_insert ht
      subst hop
      obtain ⟨c, rfl⟩ | ⟨a, rfl, -⟩ := beginStage_cases hstage
      · trivial
      · have hbegun : ReopenOk s id (.entering a a.primaryLeg) :=
          reopensBehindClose_begin hguard htask hjob hstage
        exact hbegun
  | journal _ id₀ u₀ n₀ a leg htask hrow =>
      cases eq_of_lookup_insert ht
      -- the row of the opening order is written, the close row stands
      intro hreopens
      have hkind : leg.kind = .o := hreopens.1
      have hclose : ((s.putExecution ⟨id, leg.kind⟩ (newExecution a leg
          (venue.szDecimals a.market.asset) (s.ledger a.market) now)).putTask t
            (.attempt id u n (.journaled a leg))).executions.lookup ⟨id, .c⟩ =
          s.executions.lookup ⟨id, .c⟩ := by
        refine AList.lookup_insert_ne ?_
        simp [hkind]
      have hold : ReopenOk s id (.entering a leg) := hopens t id u n _ htask
      have hreflected := hold (hkind ▸ hrow) (by simpa only [Reopens, hclose] using hreopens)
      exact hreflected.mono hclose fun _ _ => rfl
  | apply _ id₀ u₀ n₀ a leg filledSize row row' ledger' added htask hrow happly =>
      cases eq_of_lookup_insert ht
      obtain ⟨c, hnext⟩ | ⟨second, hnext, -⟩ := afterApply_cases a leg filledSize
        ledger'.size.value (venue.szDecimals a.market.asset)
      · rw [hnext]
        trivial
      · rw [hnext] at hok ⊢
        exact fun _ _ => (LegReady.closeSettled hok rfl).reflected
  | record _ id₀ u₀ n₀ stage₀ a leg row row' o hop htask hstage hrow hreported hrow' =>
      cases eq_of_lookup_insert ht
      obtain ⟨-, hnext⟩ | ⟨-, c, hnext⟩ := afterOutcome_cases a leg o <;> rw [hnext] <;> trivial
  | acquire | leave | replay | place =>
      cases eq_of_lookup_insert ht
      trivial
  | snapshot | query => cases eq_of_lookup_insert ht
  | reconcile | resolve => exact absurd ht (by simp [ExecutorState.dropTask])

/-- The state of a run all of whose attempts began so. -/
structure ReopenState (venue : Venue) (s : ExecutorState) : Prop where
  disciplined : Disciplined venue s
  stages : ∀ t id u n stage, s.tasks.lookup t = some (.attempt id u n stage) → ReopenOk s id stage

lemma ReopenState.step (hr : ReopenState venue s) {action : ExecutorAction}
    (hguard : reopensBehindClose s action = true) (h : executorStep venue s action = some s') :
    ReopenState venue s' := by
  refine ⟨hr.disciplined.executorStep h, ?_⟩
  obtain ⟨-, actor, s₁, heffect, rfl⟩ := executorStep_effect h
  intro t id u n stage ht
  have hd := hr.disciplined.step heffect
  have hrows : RowsKept s₁ { s₁ with clock := action.now } := ⟨rfl, rfl, rfl⟩
  have hnext : ReopenOk s₁ id stage := by
    by_cases hactor : actor = some t
    · subst hactor
      exact .of_actor hr.disciplined hr.stages hguard heffect ht
    · cases stage with
      | waiting w => trivial
      | locked | closing | entering | journaled | inFlight | filled =>
          obtain ⟨hold, hsame⟩ := heffect.others_kept hr.disciplined.coherent hactor ht rfl
          exact (hr.stages t id u n _ hold).sameFor hr.disciplined.coherent hsame
            (hr.disciplined.coherent.jobOfUser hold)
  exact hnext.sameFor hd.coherent (hrows.sameFor u) (hd.coherent.jobOfUser ht)

/-- What a call of `place_ioc` finds in such a state. -/
lemma ReopenState.opensBehindClose (hr : ReopenState venue s) : OpensBehindClose venue s := by
  intro action s' id row hstep hcall hrow hadds hclose
  obtain ⟨-, actor, s₁, heffect, rfl⟩ := executorStep_effect hstep
  obtain heq | ⟨t, id₀, u, n, a, leg, -, htask, heq⟩ := heffect.calls_cases
  · exact absurd (hcall.symm.trans heq) (by simp)
  obtain ⟨rfl, hkind⟩ : id₀ = id ∧ leg.kind = .o := by simpa using heq.symm.trans hcall
  obtain ⟨-, -, row', hrow', -, -, hreduce⟩ := hr.disciplined.stages t id₀ u n _ htask
  obtain rfl : row = row' := Option.some.inj (hrow.symm.trans (hkind ▸ hrow'))
  exact hr.stages t id₀ u n _ htask ⟨hkind, hreduce.symm.trans hadds, hclose⟩

end

/-- **Reversal discipline.**  In every run of the job path: an order is sent without `reduce_only`
only while its attempt holds the user's lock and the ledger size is on the own side of the order
or smaller than one lot; an attempt works on the second leg of its plan only behind a close leg
that has filled for at least what it requested and is in the ledger; and an attempt that leaves
its close leg in any other way ends, without an order after it.  In every run whose attempts begin
with an opening order only behind the close leg of their job, the opening order of a job goes out
behind the close leg, whichever attempts have planned the two. -/
theorem reversal_discipline (venue : Venue) (lots : Market → ℤ) (actions : List ExecutorAction)
    (s : ExecutorState)
    (hrun : Transition.run (executorStep venue) (.initial venue lots) actions = some s) :
    (∀ action s' k, executorStep venue s action = some s' → s'.calls = s.calls ++ [k] →
      ∃ row, s.executions.lookup k = some row ∧ s.userLocked row.market.userId = true ∧
        (row.reduceOnly = false →
          AddsTo (s.ledger row.market).size.value row.isBuy ∨ Flat venue s row.market)) ∧
      (∀ t id u n stage, s.tasks.lookup t = some (.attempt id u n stage) → stage.atOpeningLeg = true →
        CloseSettled s id) ∧
      (∀ t id u n stage action s', s.tasks.lookup t = some (.attempt id u n stage) →
        stage.atCloseLeg = true → executorStep venue s action = some s' → AfterCloseLeg s' t id u) ∧
      (∀ t id u n c action s', s.tasks.lookup t = some (.attempt id u n (.closing c)) →
        executorStep venue s action = some s' →
          s'.tasks.lookup t = none ∨ s'.tasks.lookup t = some (.attempt id u n (.closing c))) ∧
      (Transition.RunMeets (executorStep venue) (fun s action => reopensBehindClose s action = true)
        (.initial venue lots) actions → OpensBehindClose venue s) := by
  have hd : Disciplined venue s := disciplined_of_run hrun
  refine ⟨?_, ?_, ?_, ?_, ?_⟩
  · intro action s' k hstep hcall
    obtain ⟨-, actor, s₁, heffect, rfl⟩ := executorStep_effect hstep
    obtain heq | ⟨t, id, u, n, a, leg, -, htask, heq⟩ := heffect.calls_cases
    · exact absurd (hcall.symm.trans heq) (by simp)
    · obtain rfl : ⟨id, leg.kind⟩ = k := by simpa using heq.symm.trans hcall
      obtain ⟨hready, -, row, hrow, -, hbuy, hreduce⟩ := hd.stages t id u n _ htask
      have hmarket : row.market = a.market := hd.coherent.row_market htask rfl hrow
      refine ⟨row, hrow, ?_, ?_⟩
      · rw [hmarket, hd.coherent.market_userId htask rfl]
        exact Table.any_eq_true.2 ⟨t, _, htask, by simp [ExecutorTask.holds]⟩
      · intro hadds
        rw [hmarket, hbuy]
        exact hready.adds (hreduce.symm.trans hadds)
  · intro t id u n stage ht hopening
    exact (hd.stages t id u n stage ht).closeSettled hopening
  · intro t id u n stage action s' ht hclose hstep
    obtain ⟨-, actor, s₁, heffect, rfl⟩ := executorStep_effect hstep
    have hafter : AfterCloseLeg s₁ t id u := by
      by_cases hactor : actor = some t
      · subst hactor
        exact afterCloseLeg_of_actor hd heffect ht hclose
      · obtain hnone | hsame := task_of_other heffect hactor ht
        · exact .gone hnone
        · exact .stays n stage hsame hclose
    cases hafter with
    | gone h => exact .gone h
    | stays n stage h hstage => exact .stays n stage h hstage
    | ends n c h => exact .ends n c h
    | opens n a leg h hopening hsettled => exact .opens n a leg h hopening hsettled
  · intro t id u n c action s' ht hstep
    obtain ⟨-, actor, s₁, heffect, rfl⟩ := executorStep_effect hstep
    exact task_of_other heffect (actor_ne_of_closing heffect ht) ht
  · intro hmeets
    have hinitial : ReopenState venue (.initial venue lots) :=
      ⟨disciplined_initial venue lots, fun t id u n stage ht => by
        simp [ExecutorState.initial] at ht⟩
    have hr : ReopenState venue s :=
      Transition.run_invariant_of_meets (fun _ _ _ hr hguard hstep => hr.step hguard hstep) hinitial
        hmeets hrun
    exact hr.opensBehindClose

/-! ## A position that is flipped -/

/-- Twenty units long when the master turns short: the close leg fills, and the opening leg is
journaled. -/
def flippedRun : List ExecutorAction :=
  [⟨1, .enqueue 1 (eventJob (-2))⟩, ⟨2, .claim 1 7 0⟩, ⟨3, .acquire 0⟩, ⟨4, .begin 0 eventReads⟩,
   ⟨5, .enterLeg 0 ⟨.unknown, none⟩⟩, ⟨6, .placeIoc 0 true⟩, ⟨7, .fill ⟨1, .c⟩ 2000⟩,
   ⟨8, .respond 0 (some ⟨.filled, some 20⟩)⟩, ⟨9, .applyFill 0⟩, ⟨10, .enterLeg 0 ⟨.unknown, none⟩⟩]

/-- The same position, but the answer to the close leg gets lost.  A snapshot that has seen its
fill overwrites the ledger, and the second attempt journals a plain opening order. -/
def overwrittenRun : List ExecutorAction :=
  [⟨1, .enqueue 1 (eventJob (-2))⟩, ⟨2, .claim 1 7 0⟩, ⟨3, .acquire 0⟩, ⟨4, .begin 0 eventReads⟩,
   ⟨5, .enterLeg 0 ⟨.unknown, none⟩⟩, ⟨6, .placeIoc 0 true⟩, ⟨7, .respond 0 none⟩, ⟨8, .close 0 2⟩,
   ⟨9, .fill ⟨1, .c⟩ 2000⟩, ⟨10, .reconcileRead 1 0 fun _ => 0⟩, ⟨12, .reconcileCommit 1 11 [0] []⟩,
   ⟨13, .claim 1 7 0⟩, ⟨14, .acquire 0⟩, ⟨15, .begin 0 eventReads⟩,
   ⟨16, .enterLeg 0 ⟨.unknown, none⟩⟩]

/-- The attempt calls `place_ioc` next. -/
def callOpening : ExecutorAction := ⟨20, .placeIoc 0 true⟩

/-- The call is for the opening order of job 1, which has a close leg. -/
def reopensJobOne (s : ExecutorState) : Bool :=
  (s.executions.lookup ⟨1, .o⟩).any (fun row => !row.reduceOnly) &&
    (s.executions.lookup ⟨1, .c⟩).isSome &&
    (executorStep hundredths s callOpening).any fun s' => s'.calls = s.calls ++ [⟨1, .o⟩]

lemma OpensBehindClose.closeReflected {s : ExecutorState} (h : OpensBehindClose hundredths s)
    (hreopens : reopensJobOne s = true) : CloseReflected s 1 := by
  simp only [reopensJobOne, Bool.and_eq_true, Option.any_eq_true, decide_eq_true_eq,
    Bool.not_eq_true'] at hreopens
  obtain ⟨⟨⟨row, hrow, hadds⟩, hclose⟩, s', hstep, hcall⟩ := hreopens
  exact h callOpening s' 1 row hstep hcall hrow hadds hclose

lemma flippedRun_reopens :
    (Transition.run (executorStep hundredths) (.initial hundredths fun _ => 2000) flippedRun).any
      reopensJobOne = true := by
  decide +kernel

/-- The opening leg goes out behind its close leg. -/
theorem reversal_discipline_flipped :
    ∃ s, Transition.run (executorStep hundredths) (.initial hundredths fun _ => 2000) flippedRun =
        some s ∧ reopensJobOne s = true ∧ CloseReflected s 1 := by
  obtain ⟨s, hrun, hreopens⟩ := (Option.any_eq_true _ _).1 flippedRun_reopens
  have hopens : OpensBehindClose hundredths s :=
    (reversal_discipline _ _ _ s hrun).2.2.2.2 (by decide +kernel)
  exact ⟨s, hrun, hreopens, hopens.closeReflected hreopens⟩

/-- The close leg of job 1 is ambiguous. -/
def closeUnknown (s : ExecutorState) : Bool :=
  (s.executions.lookup ⟨1, .c⟩).any fun row => row.state = .unknown

lemma overwrittenRun_reopens :
    (Transition.run (executorStep hundredths) (.initial hundredths fun _ => 2000) overwrittenRun).any
      (fun s => reopensJobOne s && closeUnknown s && !decide (CloseReflected s 1)) = true := by
  decide +kernel

/-- The opening order of a second attempt goes out while the close leg of the first is
ambiguous. -/
theorem reopens_past_ambiguous_close :
    ∃ s, Transition.run (executorStep hundredths) (.initial hundredths fun _ => 2000)
        overwrittenRun = some s ∧ closeUnknown s = true ∧ ¬ OpensBehindClose hundredths s := by
  obtain ⟨s, hrun, hs⟩ := (Option.any_eq_true _ _).1 overwrittenRun_reopens
  simp only [Bool.and_eq_true, Bool.not_eq_true', decide_eq_false_iff_not] at hs
  obtain ⟨⟨hreopens, hunknown⟩, hnot⟩ := hs
  exact ⟨s, hrun, hunknown, fun hopens => hnot (hopens.closeReflected hreopens)⟩

end HyperCopy

import HyperCopy.Executor.Step

/-!
# What a step of the job path can do

`ExecutorEffect` lists once what a step can do to the tables, with the guards the step has checked,
and `executorStep_effect` says that every step does one of these things.  The operations that only
move job rows and tasks are one effect: nothing proved about orders and ledger sizes depends on
which worker holds which job.
-/

namespace HyperCopy

/-- The jobs are still there, and still the same jobs. -/
def JobsKept (jobs jobs' : Table JobId CopyJobRow) : Prop :=
  ∀ id row, jobs.lookup id = some row → ∃ row', jobs'.lookup id = some row' ∧ row'.job = row.job

/-- A job of the user is in the table. -/
def JobOfUser (jobs : Table JobId CopyJobRow) (id : JobId) (userId : UserId) : Prop :=
  ∃ row, jobs.lookup id = some row ∧ row.job.market.userId = userId

/-- No task is new, but attempts that wait for the lock of the user of their job. -/
def TasksKept (jobs : Table JobId CopyJobRow) (tasks tasks' : Table TaskId ExecutorTask) : Prop :=
  ∀ t task, tasks'.lookup t = some task → tasks.lookup t = some task ∨
    tasks.lookup t = none ∧ ∃ id u n w, task = .attempt id u n (.waiting w) ∧ JobOfUser jobs id u

lemma JobsKept.refl (jobs : Table JobId CopyJobRow) : JobsKept jobs jobs :=
  fun _ row h => ⟨row, h, rfl⟩

lemma JobsKept.trans {jobs jobs' jobs'' : Table JobId CopyJobRow} (h : JobsKept jobs jobs')
    (h' : JobsKept jobs' jobs'') : JobsKept jobs jobs'' := by
  intro id row hrow
  obtain ⟨row', hrow', heq⟩ := h id row hrow
  obtain ⟨row'', hrow'', heq'⟩ := h' id row' hrow'
  exact ⟨row'', hrow'', heq'.trans heq⟩

lemma JobsKept.insert_new {jobs : Table JobId CopyJobRow} {id : JobId} (h : jobs.lookup id = none)
    (row : CopyJobRow) : JobsKept jobs (jobs.insert id row) := by
  intro id' row' hrow'
  refine ⟨row', ?_, rfl⟩
  rw [Table.lookup_insert_eq, if_neg]
  · exact hrow'
  · rintro rfl
    rw [h] at hrow'
    cases hrow'

lemma JobsKept.insert_old {jobs : Table JobId CopyJobRow} {id : JobId} {row row' : CopyJobRow}
    (h : jobs.lookup id = some row) (hjob : row'.job = row.job) :
    JobsKept jobs (jobs.insert id row') := by
  intro id₁ row₁ hrow₁
  rw [Table.lookup_insert_eq]
  by_cases hid : id₁ = id
  · subst hid
    obtain rfl := Option.some.inj (h.symm.trans hrow₁)
    exact ⟨row', by simp, hjob⟩
  · exact ⟨row₁, by simpa [hid] using hrow₁, rfl⟩

lemma JobsKept.modify {jobs : Table JobId CopyJobRow} {id : JobId} {f : CopyJobRow → CopyJobRow}
    (hf : ∀ row, (f row).job = row.job) : JobsKept jobs (Table.modify jobs id f) := by
  intro id₁ row₁ hrow₁
  rw [Table.lookup_modify]
  by_cases hid : id₁ = id
  · subst hid
    exact ⟨f row₁, by simp [hrow₁], hf row₁⟩
  · exact ⟨row₁, by simpa [hid] using hrow₁, rfl⟩

lemma JobOfUser.kept {jobs jobs' : Table JobId CopyJobRow} (hkept : JobsKept jobs jobs')
    {id : JobId} {u : UserId} (h : JobOfUser jobs id u) : JobOfUser jobs' id u := by
  obtain ⟨row, hrow, hu⟩ := h
  obtain ⟨row', hrow', heq⟩ := hkept id row hrow
  exact ⟨row', hrow', by rw [heq]; exact hu⟩

lemma TasksKept.refl (jobs : Table JobId CopyJobRow) (tasks : Table TaskId ExecutorTask) :
    TasksKept jobs tasks tasks :=
  fun _ _ h => Or.inl h

lemma TasksKept.erase (jobs : Table JobId CopyJobRow) (tasks : Table TaskId ExecutorTask)
    (t : TaskId) : TasksKept jobs tasks (tasks.erase t) := by
  intro t' task h
  by_cases ht : t' = t
  · subst ht
    simp at h
  · rw [AList.lookup_erase_ne ht] at h
    exact Or.inl h

lemma queueJobs_kept {planned : List PlannedJob} {jobs jobs' : Table JobId CopyJobRow}
    (h : queueJobs jobs planned = some jobs') : JobsKept jobs jobs' := by
  induction planned generalizing jobs with
  | nil =>
      obtain rfl := Option.some.inj h
      exact JobsKept.refl _
  | cons p ps ih =>
      simp only [queueJobs] at h
      split at h
      · cases h
      · rename_i hfresh
        have hnone : jobs.lookup p.id = none := by simpa using hfresh
        exact (JobsKept.insert_new hnone _).trans (ih h)

/-! ## The effects -/

/-- Everything a step does, beside moving the clock, and the task it is a step of. -/
inductive ExecutorEffect (venue : Venue) (s : ExecutorState) (now : ℕ) (op : ExecutorOp) :
    Option TaskId → ExecutorState → Prop
  /-- job rows and tasks that wait or end -/
  | schedule (jobs' : Table JobId CopyJobRow) (tasks' : Table TaskId ExecutorTask)
      (hjobs : JobsKept s.jobs jobs') (htasks : TasksKept jobs' s.tasks tasks') :
      ExecutorEffect venue s now op none { s with jobs := jobs', tasks := tasks' }
  | acquire (t : TaskId) (id : JobId) (u : UserId) (n n' : ℕ) (w : Option WorkerId)
      (jobs' : Table JobId CopyJobRow) (hjobs : JobsKept s.jobs jobs')
      (htask : s.tasks.lookup t = some (.attempt id u n (.waiting w)))
      (hfree : s.userLocked u = false) :
      ExecutorEffect venue s now op (some t) ({ s with jobs := jobs' }.putTask t (.attempt id u n' .locked))
  | begin (t : TaskId) (id : JobId) (u : UserId) (n : ℕ) (row : CopyJobRow)
      (reads : ProfitExitReads) (stage : Stage) (hop : op = .begin t reads)
      (htask : s.tasks.lookup t = some (.attempt id u n .locked))
      (hjob : s.jobs.lookup id = some row)
      (hdecimals : reads.spec.szDecimals = venue.szDecimals row.job.market.asset)
      (hstage : beginStage s id row.job reads = some stage) :
      ExecutorEffect venue s now op (some t) (s.putTask t (.attempt id u n stage))
  /-- a leg ends the attempt without writing anything -/
  | leave (t : TaskId) (id : JobId) (u : UserId) (n : ℕ) (stage : Stage) (c : Closing)
      (htask : s.tasks.lookup t = some (.attempt id u n stage)) (hleg : stage.inLeg = true) :
      ExecutorEffect venue s now op (some t) (s.putTask t (.attempt id u n (.closing c)))
  /-- a FILLED row is replayed -/
  | replay (t : TaskId) (id : JobId) (u : UserId) (n : ℕ) (a : Attempt) (leg : AttemptLeg)
      (row : Execution) (htask : s.tasks.lookup t = some (.attempt id u n (.entering a leg)))
      (hrow : s.executions.lookup ⟨id, leg.kind⟩ = some row) (hfilled : row.state = .filled)
      (hop : ∃ reply, op = .enterLeg t reply) :
      ExecutorEffect venue s now op (some t) (s.putTask t (.attempt id u n (.filled a leg row.filledSize)))
  | journal (t : TaskId) (id : JobId) (u : UserId) (n : ℕ) (a : Attempt) (leg : AttemptLeg)
      (htask : s.tasks.lookup t = some (.attempt id u n (.entering a leg)))
      (hrow : s.executions.lookup ⟨id, leg.kind⟩ = none) (hop : ∃ reply, op = .enterLeg t reply) :
      ExecutorEffect venue s now op (some t) ((s.putExecution ⟨id, leg.kind⟩ (newExecution a leg
        (venue.szDecimals a.market.asset) (s.ledger a.market) now)).putTask t
          (.attempt id u n (.journaled a leg)))
  | place (t : TaskId) (id : JobId) (u : UserId) (n : ℕ) (a : Attempt) (leg : AttemptLeg)
      (row : Execution) (reaches : Bool)
      (htask : s.tasks.lookup t = some (.attempt id u n (.journaled a leg)))
      (hrow : s.executions.lookup ⟨id, leg.kind⟩ = some row) :
      ExecutorEffect venue s now op (some t)
        ({ s with
            calls := s.calls ++ [(⟨id, leg.kind⟩ : Cloid)]
            orders := if reaches then s.orders.insert (⟨id, leg.kind⟩ : Cloid)
              (⟨row.market, row.isBuy, row.requestedSize, none⟩ : ExchangeOrder)
                else s.orders }.putTask t
          (.attempt id u n (.inFlight a leg)))
  /-- the outcome of a leg is written and looked at -/
  | record (t : TaskId) (id : JobId) (u : UserId) (n : ℕ) (stage : Stage) (a : Attempt)
      (leg : AttemptLeg) (row row' : Execution) (o : OrderOutcome)
      (hop : op = .enterLeg t o ∨ op = .respond t (some o) ∨ o.state = .unknown)
      (htask : s.tasks.lookup t = some (.attempt id u n stage))
      (hstage : stage = .entering a leg ∧ row.state.terminal = false ∨ stage = .inFlight a leg)
      (hrow : s.executions.lookup ⟨id, leg.kind⟩ = some row) (hreported : o.reported = true)
      (hrow' : persistOutcome row o now = some row')
      (hasked : stage = .entering a leg → op = .enterLeg t o)
      (htold : stage = .inFlight a leg → op = .respond t (some o) ∨ o.state = .unknown) :
      ExecutorEffect venue s now op (some t) ((s.putExecution ⟨id, leg.kind⟩ row').putTask t
        (.attempt id u n (afterOutcome a leg o)))
  | apply (t : TaskId) (id : JobId) (u : UserId) (n : ℕ) (a : Attempt) (leg : AttemptLeg)
      (filledSize : Option ℚ) (row row' : Execution) (ledger' : LedgerRow) (added : Bool)
      (htask : s.tasks.lookup t = some (.attempt id u n (.filled a leg filledSize)))
      (hrow : s.executions.lookup ⟨id, leg.kind⟩ = some row)
      (happly : applyFillToLedger ⟨id, leg.kind⟩ row (s.ledger a.market) now =
        some (row', ledger', added)) :
      ExecutorEffect venue s now op (some t)
        ((s.writeFill a.market ⟨id, leg.kind⟩ row' ledger' added).putTask t
          (.attempt id u n (afterApply a leg filledSize ledger'.size.value
            (venue.szDecimals a.market.asset))))
  | fill (k : Cloid) (order : ExchangeOrder) (lots : ℕ) (horder : s.orders.lookup k = some order)
      (hfill : order.fill = none) :
      ExecutorEffect venue s now op none (matchOrder venue s k order lots)
  | snapshot (t : TaskId) (u : UserId) (observed : Asset → ℚ)
      (hop : op = .reconcileRead t u observed) (hfree : s.userLocked u = false)
      (htask : s.tasks.lookup t = none) :
      ExecutorEffect venue s now op (some t) (s.putTask t (.reconcile u observed fun asset =>
        (s.unreflected ⟨u, asset⟩).map (·.1)))
  | reconcile (t : TaskId) (u : UserId) (observed : Asset → ℚ) (seen : Asset → List Cloid)
      (verifiedAt : ℕ) (assets : List Asset) (jobs' : Table JobId CopyJobRow)
      (htask : s.tasks.lookup t = some (.reconcile u observed seen))
      (hverified : s.clock < verifiedAt ∧ verifiedAt ≤ now) (hjobs : JobsKept s.jobs jobs') :
      ExecutorEffect venue s now op (some t)
        ({ s with
            jobs := jobs'
            ledger := reconciledLedger s u observed verifiedAt assets
            unreflected := reconciledUnreflected s u seen assets }.dropTask t)
  | query (t : TaskId) (k : Cloid) (row : Execution) (verdict : Verdict)
      (hop : op = .resolveRead t k verdict)
      (hrow : s.executions.lookup k = some row) (hfree : s.userLocked row.market.userId = false)
      (htask : s.tasks.lookup t = none) (hopen : row.state.terminal = false) :
      ExecutorEffect venue s now op (some t) (s.putTask t (.resolve k row.market verdict
        ((s.unreflected row.market).map (·.1))))
  | resolve (t : TaskId) (k : Cloid) (market : Market) (verdict : Verdict) (seen : List Cloid)
      (row row' : Execution) (verifiedAt : ℕ)
      (htask : s.tasks.lookup t = some (.resolve k market verdict seen))
      (hrow : s.executions.lookup k = some row) (hopen : row.state.terminal = false)
      (hverified : s.clock < verifiedAt ∧ verifiedAt ≤ now)
      (hrow' : persistOutcome row (verdict.outcome row) now = some row') :
      ExecutorEffect venue s now op (some t)
        (((syncLedger s market k verdict.position verifiedAt seen).putExecution k row').dropTask t)

/-! ## Every step has one of the effects -/

section Operations

variable {venue : Venue} {s s' : ExecutorState} {now : ℕ} {op : ExecutorOp}

lemma schedule_jobs {jobs' : Table JobId CopyJobRow} (h : JobsKept s.jobs jobs') :
    ExecutorEffect venue s now op none { s with jobs := jobs' } :=
  .schedule jobs' s.tasks h (TasksKept.refl _ _)

lemma schedule_drop (t : TaskId) : ExecutorEffect venue s now op none (s.dropTask t) :=
  .schedule s.jobs _ (JobsKept.refl _) (TasksKept.erase _ _ t)

lemma enqueueJob_effect {id : JobId} {job : CopyJob} (h : enqueueJob s id job = some s') :
    ExecutorEffect venue s now op none s' := by
  unfold enqueueJob at h
  split_ifs at h with hbad
  obtain rfl := Option.some.inj h
  simp only [Bool.or_eq_true, not_or, Option.isSome_iff_ne_none, not_not] at hbad
  exact schedule_jobs (JobsKept.insert_new hbad.1 _)

lemma claimJob_effect {id : JobId} {worker : WorkerId} {task : TaskId}
    (h : claimJob s id worker task now = some s') : ExecutorEffect venue s now op none s' := by
  unfold claimJob at h
  split at h
  · cases h
  rename_i row hrow
  split_ifs at h with htask hclaim
  obtain rfl := Option.some.inj h
  refine .schedule _ _ (JobsKept.insert_old hrow rfl) ?_
  intro t task' ht
  obtain ⟨rfl, rfl⟩ | hold := Table.lookup_insert_cases ht
  · exact Or.inr ⟨by simpa using htask, id, _, _, _, rfl, _, AList.lookup_insert s.jobs, rfl⟩
  · exact Or.inl hold

lemma releaseStaleJob_effect {id : JobId} (h : releaseStaleJob s id now = some s') :
    ExecutorEffect venue s now op none s' := by
  unfold releaseStaleJob at h
  split at h
  · cases h
  rename_i row hrow
  split at h
  · obtain rfl := Option.some.inj h
    exact schedule_jobs (JobsKept.insert_old hrow rfl)
  · cases h

lemma supersedeJob_effect {id : JobId} (h : supersedeJob s id = some s') :
    ExecutorEffect venue s now op none s' := by
  unfold supersedeJob at h
  split at h
  · cases h
  rename_i row hrow
  split_ifs at h with hactive
  obtain rfl := Option.some.inj h
  exact schedule_jobs (JobsKept.insert_old hrow rfl)

lemma acquireLock_effect {task : TaskId} (h : acquireLock s task now = some s') :
    ∃ actor, ExecutorEffect venue s now op actor s' := by
  unfold acquireLock at h
  split at h
  · rename_i id u n w htask
    split at h
    · cases h
    rename_i hfree
    split at h
    · obtain rfl := Option.some.inj h
      exact ⟨none, schedule_drop task⟩
    rename_i row hrow
    split_ifs at h with hlost
    · obtain rfl := Option.some.inj h
      exact ⟨none, schedule_drop task⟩
    · obtain rfl := Option.some.inj h
      refine ⟨some task, ?_⟩
      exact .acquire task id u n _ w _ (JobsKept.insert_old hrow rfl) htask (by simpa using hfree)
  · cases h

lemma beginAttempt_effect {task : TaskId} {reads : ProfitExitReads}
    (h : beginAttempt venue s task reads = some s') :
    ExecutorEffect venue s now (.begin task reads) (some task) s' := by
  unfold beginAttempt at h
  split at h
  · rename_i id u n htask
    split at h
    · cases h
    rename_i row hrow
    split_ifs at h with hdecimals
    obtain ⟨stage, hstage, rfl⟩ := Option.map_eq_some_iff.1 h
    exact .begin task id u n row reads stage rfl htask hrow (not_not.1 hdecimals) hstage
  · cases h

/-- The outcome a terminal row replays either fills the leg or ends the attempt. -/
lemma afterOutcome_cases (a : Attempt) (leg : AttemptLeg) (o : OrderOutcome) :
    (o.state = .filled ∧ afterOutcome a leg o = .filled a leg o.filledSize) ∨
      (o.state ≠ .filled ∧ ∃ c, afterOutcome a leg o = .closing c) := by
  obtain ⟨state, filledSize⟩ := o
  cases state <;> simp [afterOutcome]

lemma enterLeg_effect {task : TaskId} {reply : OrderOutcome}
    (h : enterLeg venue s task reply now = some s') :
    ExecutorEffect venue s now (.enterLeg task reply) (some task) s' := by
  unfold enterLeg at h
  split at h
  · rename_i id u n a leg htask
    dsimp only at h
    split at h
    · rename_i row hrow
      split_ifs at h with hterminal hreported hunknown
      · obtain rfl := Option.some.inj h
        obtain ⟨hfilled, hstage⟩ | ⟨-, c, hstage⟩ :=
          afterOutcome_cases a leg ⟨row.state, row.filledSize⟩
        · rw [hstage]
          exact .replay task id u n a leg row htask hrow hfilled ⟨reply, rfl⟩
        · rw [hstage]
          exact .leave task id u n _ c htask rfl
      · obtain rfl := Option.some.inj h
        have hstage : afterOutcome a leg reply = .closing .retryOrDead := by
          simp [afterOutcome, hunknown]
        rw [hstage]
        exact .leave task id u n _ _ htask rfl
      · obtain ⟨row', hrow', rfl⟩ := Option.map_eq_some_iff.1 h
        exact .record task id u n _ a leg row row' reply (Or.inl rfl) htask
          (Or.inl ⟨rfl, by simpa using hterminal⟩) hrow (by simpa using hreported) hrow'
          (fun _ => rfl) nofun
    · rename_i hrow
      obtain rfl := Option.some.inj h
      exact .journal task id u n a leg htask hrow ⟨reply, rfl⟩
  · cases h

lemma callPlaceIoc_effect {task : TaskId} {reaches : Bool}
    (h : callPlaceIoc s task reaches = some s') : ExecutorEffect venue s now op (some task) s' := by
  unfold callPlaceIoc at h
  split at h
  · rename_i id u n a leg htask
    dsimp only at h
    split at h
    · cases h
    rename_i row hrow
    obtain rfl := Option.some.inj h
    exact .place task id u n a leg row reaches htask hrow
  · cases h

lemma respondLeg_effect {task : TaskId} {response : Option OrderOutcome}
    (h : respondLeg s task response now = some s') :
    ExecutorEffect venue s now (.respond task response) (some task) s' := by
  unfold respondLeg at h
  split at h
  · rename_i id u n a leg htask
    dsimp only at h
    split at h
    · cases h
    rename_i row hrow
    split_ifs at h with hreported
    obtain ⟨row', hrow', rfl⟩ := Option.map_eq_some_iff.1 h
    have htold : ExecutorOp.respond task response = .respond task (some (response.getD
        ⟨.unknown, row.filledSize⟩)) ∨ (response.getD ⟨.unknown, row.filledSize⟩).state = .unknown := by
      cases response with
      | none => exact Or.inr rfl
      | some o => exact Or.inl rfl
    exact .record task id u n _ a leg row row' _ (Or.inr htold) htask (Or.inr rfl) hrow
      (by simpa using hreported) hrow' nofun fun _ => htold
  · cases h

lemma applyFill_effect {task : TaskId} (h : applyFill venue s task now = some s') :
    ExecutorEffect venue s now op (some task) s' := by
  unfold applyFill at h
  split at h
  · rename_i id u n a leg filledSize htask
    dsimp only at h
    split at h
    · obtain rfl := Option.some.inj h
      exact .leave task id u n _ _ htask rfl
    rename_i row hrow
    split at h
    · obtain rfl := Option.some.inj h
      exact .leave task id u n _ _ htask rfl
    rename_i row' ledger' added happly
    obtain rfl := Option.some.inj h
    exact .apply task id u n a leg filledSize row row' ledger' added htask hrow happly
  · cases h

lemma abandonFill_effect {task : TaskId} (h : abandonFill s task = some s') :
    ExecutorEffect venue s now op (some task) s' := by
  unfold abandonFill at h
  split at h
  · rename_i id u n a leg filledSize htask
    split_ifs at h with horigin
    obtain rfl := Option.some.inj h
    exact .leave task id u n _ _ htask rfl
  · cases h

lemma closeAttempt_effect {task : TaskId} {delay : ℕ} (h : closeAttempt s task now delay = some s') :
    ExecutorEffect venue s now op none s' := by
  unfold closeAttempt at h
  split at h
  · rename_i id u n c htask
    obtain rfl := Option.some.inj h
    refine .schedule _ _ (JobsKept.modify fun row => ?_) (TasksKept.erase _ _ task)
    unfold closedRow
    split
    · rfl
    · split_ifs <;> rfl
  · cases h

lemma crashTask_effect {task : TaskId} (h : crashTask s task = some s') :
    ExecutorEffect venue s now op none s' := by
  unfold crashTask at h
  split_ifs at h with htask
  obtain rfl := Option.some.inj h
  exact schedule_drop task

lemma fillOrder_effect {k : Cloid} {lots : ℕ} (h : fillOrder venue s k lots = some s') :
    ExecutorEffect venue s now op none s' := by
  unfold fillOrder at h
  split at h
  · cases h
  rename_i order horder
  split_ifs at h with hbad
  obtain rfl := Option.some.inj h
  simp only [Bool.or_eq_true, not_or, Option.isSome_iff_ne_none, not_not] at hbad
  exact .fill k order lots horder hbad.1

lemma reconcileRead_effect {task : TaskId} {userId : UserId} {observed : Asset → ℚ}
    (h : reconcileRead s task userId observed = some s') :
    ExecutorEffect venue s now (.reconcileRead task userId observed) (some task) s' := by
  unfold reconcileRead at h
  split_ifs at h with hbad
  obtain rfl := Option.some.inj h
  simp only [Bool.or_eq_true, not_or, Option.isSome_iff_ne_none, not_not] at hbad
  exact .snapshot task userId observed rfl (by simpa using hbad.1) hbad.2

lemma reconcileCommit_effect {task : TaskId} {verifiedAt : ℕ} {assets : List Asset}
    {planned : List PlannedJob}
    (h : reconcileCommit s task verifiedAt now assets planned = some s') :
    ExecutorEffect venue s now op (some task) s' := by
  unfold reconcileCommit at h
  split at h
  · rename_i userId observed seen htask
    split_ifs at h with htime hplanned
    obtain ⟨jobs', hjobs, rfl⟩ := Option.map_eq_some_iff.1 h
    push Not at htime
    exact .reconcile task userId observed seen verifiedAt assets jobs' htask htime
      (queueJobs_kept hjobs)
  · cases h

lemma resolveRead_effect {task : TaskId} {k : Cloid} {verdict : Verdict}
    (h : resolveRead s task k verdict = some s') :
    ExecutorEffect venue s now (.resolveRead task k verdict) (some task) s' := by
  unfold resolveRead at h
  split at h
  · cases h
  rename_i row hrow
  split_ifs at h with hbad hopen
  obtain rfl := Option.some.inj h
  simp only [Bool.or_eq_true, not_or, Option.isSome_iff_ne_none, not_not] at hbad hopen
  exact .query task k row verdict rfl hrow (by simpa using hbad.1) hbad.2 (by simpa using hopen.1)

lemma resolveCommit_effect {task : TaskId} {verifiedAt : ℕ}
    (h : resolveCommit s task verifiedAt now = some s') :
    ExecutorEffect venue s now op (some task) s' := by
  unfold resolveCommit at h
  split at h
  · rename_i k market verdict seen htask
    split at h
    · cases h
    rename_i row hrow
    split_ifs at h with hbad
    obtain ⟨row', hrow', rfl⟩ := Option.map_eq_some_iff.1 h
    push Not at hbad
    exact .resolve task k market verdict seen row row' verifiedAt htask hrow
      (by simpa using hbad.2.2) ⟨hbad.1, hbad.2.1⟩ hrow'
  · cases h

/-- **Every step has one of the effects**, at a later time. -/
theorem executorStep_effect {action : ExecutorAction} (h : executorStep venue s action = some s') :
    s.clock < action.now ∧
      ∃ actor t, ExecutorEffect venue s action.now action.op actor t ∧
        s' = { t with clock := action.now } := by
  unfold executorStep at h
  split_ifs at h with hclock
  obtain ⟨t, ht, rfl⟩ := Option.map_eq_some_iff.1 h
  suffices heffect : ∃ actor, ExecutorEffect venue s action.now action.op actor t by
    obtain ⟨actor, heffect⟩ := heffect
    exact ⟨hclock, actor, t, heffect, rfl⟩
  cases hop : action.op with
  | enqueue id job => exact ⟨_, enqueueJob_effect (by simpa [applyExecutorOp, hop] using ht)⟩
  | claim id worker task => exact ⟨_, claimJob_effect (by simpa [applyExecutorOp, hop] using ht)⟩
  | releaseStale id => exact ⟨_, releaseStaleJob_effect (by simpa [applyExecutorOp, hop] using ht)⟩
  | supersede id => exact ⟨_, supersedeJob_effect (by simpa [applyExecutorOp, hop] using ht)⟩
  | acquire task => exact acquireLock_effect (by simpa [applyExecutorOp, hop] using ht)
  | begin task reads => exact ⟨_, beginAttempt_effect (by simpa [applyExecutorOp, hop] using ht)⟩
  | enterLeg task reply => exact ⟨_, enterLeg_effect (by simpa [applyExecutorOp, hop] using ht)⟩
  | placeIoc task reaches => exact ⟨_, callPlaceIoc_effect (by simpa [applyExecutorOp, hop] using ht)⟩
  | respond task response => exact ⟨_, respondLeg_effect (by simpa [applyExecutorOp, hop] using ht)⟩
  | applyFill task => exact ⟨_, applyFill_effect (by simpa [applyExecutorOp, hop] using ht)⟩
  | abandonFill task => exact ⟨_, abandonFill_effect (by simpa [applyExecutorOp, hop] using ht)⟩
  | close task delay => exact ⟨_, closeAttempt_effect (by simpa [applyExecutorOp, hop] using ht)⟩
  | crash task => exact ⟨_, crashTask_effect (by simpa [applyExecutorOp, hop] using ht)⟩
  | fill cloid lots => exact ⟨_, fillOrder_effect (by simpa [applyExecutorOp, hop] using ht)⟩
  | reconcileRead task userId observed =>
      exact ⟨_, reconcileRead_effect (by simpa [applyExecutorOp, hop] using ht)⟩
  | reconcileCommit task verifiedAt assets planned =>
      exact ⟨_, reconcileCommit_effect (by simpa [applyExecutorOp, hop] using ht)⟩
  | resolveRead task cloid verdict =>
      exact ⟨_, resolveRead_effect (by simpa [applyExecutorOp, hop] using ht)⟩
  | resolveCommit task verifiedAt =>
      exact ⟨_, resolveCommit_effect (by simpa [applyExecutorOp, hop] using ht)⟩

end Operations

/-! ## Where an attempt begins -/

/-- The three ways to a plan: a submission, a fresh profit exit, and the replay of one. -/
inductive BeginsWith (s : ExecutorState) (id : JobId) (job : CopyJob) (reads : ProfitExitReads)
    (a : Attempt) : Prop
  | submit (submission : Submission)
      (hplan : planAttempt job (s.ledger job.market).size.value reads.toAttemptReads =
        .submit submission)
      (ha : a = ⟨job, submission.plan, submission.mark, submission.slippageBps⟩)
  | exit (status : UserStatus) (order : ProfitExitOrder)
      (hattempt : planAttempt job (s.ledger job.market).size.value reads.toAttemptReads =
        .profitExit)
      (hagree : profitExitReadsAgree s id job.market reads = true)
      (hplan : planProfitExit job status reads = .submit order)
      (ha : a = ⟨job, order.plan, order.mark, order.slippageBps⟩)
  | recover (status : UserStatus) (intent : Option ProfitExitIntentState)
      (existing : ExistingExecution) (current : ℚ)
      (hattempt : planAttempt job (s.ledger job.market).size.value reads.toAttemptReads =
        .profitExit)
      (hagree : profitExitReadsAgree s id job.market reads = true)
      (hplan : planProfitExit job status reads = .recover intent existing current)
      (ha : a = ⟨job, recoveryPlan job.market.asset existing current, existing.limitPx, 0⟩)

lemma BeginsWith.job_eq {s : ExecutorState} {id : JobId} {job : CopyJob} {reads : ProfitExitReads}
    {a : Attempt} (h : BeginsWith s id job reads a) : a.job = job := by
  cases h with
  | submit submission hplan ha => rw [ha]
  | exit status order hattempt hagree hplan ha => rw [ha]
  | recover status intent existing current hattempt hagree hplan ha => rw [ha]

lemma beginStage_cases {s : ExecutorState} {id : JobId} {job : CopyJob} {reads : ProfitExitReads}
    {stage : Stage} (h : beginStage s id job reads = some stage) :
    (∃ c, stage = .closing c) ∨
      ∃ a, stage = .entering a a.primaryLeg ∧ BeginsWith s id job reads a := by
  unfold beginStage at h
  split at h
  · exact Or.inl ⟨_, (Option.some.inj h).symm⟩
  · exact Or.inl ⟨_, (Option.some.inj h).symm⟩
  · rename_i submission hplan
    exact Or.inr ⟨_, (Option.some.inj h).symm, .submit submission hplan rfl⟩
  · cases h
  · rename_i status hattempt huser
    split at h
    · cases h
    rename_i hagree
    have hagree' : profitExitReadsAgree s id job.market reads = true := by simpa using hagree
    split at h
    · exact Or.inl ⟨_, (Option.some.inj h).symm⟩
    · exact Or.inl ⟨_, (Option.some.inj h).symm⟩
    · rename_i intent existing current hplan
      exact Or.inr ⟨_, (Option.some.inj h).symm,
        .recover status intent existing current hattempt hagree' hplan rfl⟩
    · rename_i order hplan
      exact Or.inr ⟨_, (Option.some.inj h).symm, .exit status order hattempt hagree' hplan rfl⟩

end HyperCopy

import HyperCopy.Executor.Effect

/-!
# The lock of a user protects the rows of the user

The advisory lock is modelled by the tasks that hold it, so mutual exclusion is an invariant of the
runs: `Coherent.exclusive`.  From it and from the foreign keys of the tables follows
`ExecutorEffect.others_kept`, the frame rule of the job path: as long as a task holds the lock of a
user, no step of another task touches a row, a submission or a ledger size of that user.  What an
attempt has established about its market therefore stays true until its own next step.
-/

namespace HyperCopy

/-- The plan a stage carries. -/
def Stage.attempt? : Stage → Option Attempt
  | waiting _ | locked | closing _ => none
  | entering a _ | journaled a _ | inFlight a _ | filled a _ _ => some a

/-- A lock has one holder. -/
def Exclusive (tasks : Table TaskId ExecutorTask) : Prop :=
  ∀ t t' task task' u, tasks.lookup t = some task → tasks.lookup t' = some task' →
    task.holds = some u → task'.holds = some u → t = t'

/-- An attempt works on its job, for the user of the job; the resolver on a row of its market. -/
def TaskCoherent (s : ExecutorState) : ExecutorTask → Prop
  | .attempt id u _ stage => ∃ row, s.jobs.lookup id = some row ∧ row.job.market.userId = u ∧
      ∀ a, stage.attempt? = some a → a.job = row.job
  | .reconcile _ _ _ => True
  | .resolve k market _ _ => ∃ row, s.executions.lookup k = some row ∧ row.market = market

/-- The tasks, the rows and the locks fit together. -/
structure Coherent (s : ExecutorState) : Prop where
  exclusive : Exclusive s.tasks
  tasks : ∀ t task, s.tasks.lookup t = some task → TaskCoherent s task
  rows : ∀ k row, s.executions.lookup k = some row →
    ∃ job, s.jobs.lookup k.jobId = some job ∧ row.market = job.job.market

/-- Nothing of the user has changed. -/
structure SameFor (u : UserId) (s s' : ExecutorState) : Prop where
  executions : ∀ id kind, JobOfUser s.jobs id u →
    s'.executions.lookup ⟨id, kind⟩ = s.executions.lookup ⟨id, kind⟩
  rows : ∀ k row, row.market.userId = u →
    (s'.executions.lookup k = some row ↔ s.executions.lookup k = some row)
  calls : ∀ id kind, JobOfUser s.jobs id u → ((⟨id, kind⟩ : Cloid) ∈ s'.calls ↔ ⟨id, kind⟩ ∈ s.calls)
  ledger : ∀ market, market.userId = u → s'.ledger market = s.ledger market

/-- The fields of a state that the lock of a user protects. -/
structure RowsKept (s s' : ExecutorState) : Prop where
  executions : s'.executions = s.executions
  calls : s'.calls = s.calls
  ledger : s'.ledger = s.ledger

lemma RowsKept.sameFor {s s' : ExecutorState} (h : RowsKept s s') (u : UserId) :
    SameFor u s s' where
  executions _ _ _ := by rw [h.executions]
  rows _ _ _ := by rw [h.executions]
  calls _ _ _ := by rw [h.calls]
  ledger _ _ := by rw [h.ledger]

lemma JobOfUser.unique {jobs : Table JobId CopyJobRow} {id : JobId} {u u' : UserId}
    (h : JobOfUser jobs id u) (h' : JobOfUser jobs id u') : u = u' := by
  obtain ⟨row, hrow, rfl⟩ := h
  obtain ⟨row', hrow', rfl⟩ := h'
  rw [Option.some.inj (hrow.symm.trans hrow')]

section Frame

variable {venue : Venue} {s s' : ExecutorState} {now : ℕ} {op : ExecutorOp}
  {actor : Option TaskId}

lemma Coherent.jobOfUser (hc : Coherent s) {t : TaskId} {id : JobId} {u : UserId} {n : ℕ}
    {stage : Stage} (h : s.tasks.lookup t = some (.attempt id u n stage)) :
    JobOfUser s.jobs id u := by
  obtain ⟨row, hrow, hu, -⟩ := hc.tasks t _ h
  exact ⟨row, hrow, hu⟩

/-- The market of an attempt belongs to the user it is locked for. -/
lemma Coherent.market_userId (hc : Coherent s) {t : TaskId} {id : JobId} {u : UserId} {n : ℕ}
    {stage : Stage} {a : Attempt} (h : s.tasks.lookup t = some (.attempt id u n stage))
    (ha : stage.attempt? = some a) : a.market.userId = u := by
  obtain ⟨row, -, hu, hjob⟩ := hc.tasks t _ h
  rw [Attempt.market, hjob a ha, hu]

/-- The execution rows of a job are rows of the market of its attempts. -/
lemma Coherent.row_market (hc : Coherent s) {t : TaskId} {id : JobId} {u : UserId} {n : ℕ}
    {stage : Stage} {a : Attempt} {kind : AttemptKind} {row : Execution}
    (h : s.tasks.lookup t = some (.attempt id u n stage)) (ha : stage.attempt? = some a)
    (hrow : s.executions.lookup ⟨id, kind⟩ = some row) : row.market = a.market := by
  obtain ⟨job, hjob, -, hattempt⟩ := hc.tasks t _ h
  obtain ⟨job', hjob', hmarket⟩ := hc.rows _ row hrow
  obtain rfl := Option.some.inj (hjob.symm.trans hjob')
  rw [hmarket, Attempt.market, hattempt a ha]

/-- A write to the row of one user's job changes nothing for another user. -/
lemma sameFor_putExecution (hc : Coherent s) {k : Cloid} {row' : Execution} {u u' : UserId}
    (hk : JobOfUser s.jobs k.jobId u') (hrow' : row'.market.userId = u') (hu : u ≠ u')
    (hrows : s'.executions = s.executions.insert k row')
    (hcalls : ∀ k' : Cloid, k'.jobId ≠ k.jobId → (k' ∈ s'.calls ↔ k' ∈ s.calls))
    (hledger : ∀ market : Market, market.userId = u → s'.ledger market = s.ledger market) :
    SameFor u s s' := by
  have hother : ∀ id, JobOfUser s.jobs id u → id ≠ k.jobId := by
    rintro id hid rfl
    exact hu (hid.unique hk)
  refine ⟨?_, ?_, ?_, hledger⟩
  · intro id kind hid
    rw [hrows, Table.lookup_insert_eq, if_neg]
    rintro rfl
    exact hother _ hid rfl
  · intro k₁ row₁ hrow₁
    rw [hrows, Table.lookup_insert_eq]
    split_ifs with hkey
    · subst hkey
      constructor
      · intro h
        obtain rfl := Option.some.inj h
        exact absurd (hrow₁.symm.trans hrow') hu
      · intro h
        obtain ⟨job, hjob, hmarket⟩ := hc.rows _ _ h
        exact absurd (JobOfUser.unique ⟨job, hjob, by rw [← hmarket]; exact hrow₁⟩ hk) hu
    · exact Iff.rfl
  · intro id kind hid
    exact hcalls ⟨id, kind⟩ (hother id hid)

end Frame

/-! ## The invariant -/

section Exclusive

variable {tasks : Table TaskId ExecutorTask} {t : TaskId} {old new : ExecutorTask}

lemma Exclusive.insert (h : Exclusive tasks)
    (hnew : ∀ u, new.holds = some u → ∀ t' task', tasks.lookup t' = some task' →
      task'.holds = some u → t' = t) : Exclusive (tasks.insert t new) := by
  intro t₁ t₂ task₁ task₂ u h₁ h₂ hu₁ hu₂
  obtain ⟨rfl, rfl⟩ | hold₁ := Table.lookup_insert_cases h₁
  · obtain ⟨rfl, rfl⟩ | hold₂ := Table.lookup_insert_cases h₂
    · rfl
    · exact (hnew u hu₁ t₂ task₂ hold₂ hu₂).symm
  · obtain ⟨rfl, rfl⟩ | hold₂ := Table.lookup_insert_cases h₂
    · exact hnew u hu₂ t₁ task₁ hold₁ hu₁
    · exact h t₁ t₂ task₁ task₂ u hold₁ hold₂ hu₁ hu₂

/-- A task that goes on under the lock it already holds. -/
lemma Exclusive.advance (h : Exclusive tasks) (hold : tasks.lookup t = some old)
    (hholds : new.holds = old.holds) : Exclusive (tasks.insert t new) :=
  h.insert fun u hu t' task' ht' hu' => h t' t task' old u ht' hold hu' (hholds ▸ hu)

/-- A task that takes a free lock. -/
lemma Exclusive.take {s : ExecutorState} (h : Exclusive s.tasks) {u : UserId}
    (hholds : new.holds = some u) (hfree : s.userLocked u = false) :
    Exclusive (s.tasks.insert t new) := by
  refine h.insert fun u' hu' t' task' ht' htask' => ?_
  obtain rfl := Option.some.inj (hholds.symm.trans hu')
  have hnot := Table.any_eq_false.1 hfree t' task' ht'
  simp [htask'] at hnot

lemma Exclusive.kept {jobs : Table JobId CopyJobRow} {tasks' : Table TaskId ExecutorTask}
    (h : Exclusive tasks) (hkept : TasksKept jobs tasks tasks') : Exclusive tasks' := by
  have hold : ∀ t task u, tasks'.lookup t = some task → task.holds = some u →
      tasks.lookup t = some task := by
    intro t task u ht hu
    obtain hold | ⟨-, id, u', n, w, rfl, -⟩ := hkept t task ht
    · exact hold
    · cases hu
  intro t₁ t₂ task₁ task₂ u h₁ h₂ hu₁ hu₂
  exact h t₁ t₂ task₁ task₂ u (hold t₁ task₁ u h₁ hu₁) (hold t₂ task₂ u h₂ hu₂) hu₁ hu₂

end Exclusive

section Coherent

variable {venue : Venue} {s s' : ExecutorState} {now : ℕ} {op : ExecutorOp}
  {actor : Option TaskId}

/-- No row disappears, and no row changes its market. -/
structure RowsExtend (s s' : ExecutorState) : Prop where
  jobs : JobsKept s.jobs s'.jobs
  kept : ∀ k row, s.executions.lookup k = some row →
    ∃ row', s'.executions.lookup k = some row' ∧ row'.market = row.market
  old : ∀ k row', s'.executions.lookup k = some row' →
    ∃ job, s.jobs.lookup k.jobId = some job ∧ row'.market = job.job.market

lemma TaskCoherent.extend (h : RowsExtend s s') {task : ExecutorTask} (ht : TaskCoherent s task) :
    TaskCoherent s' task := by
  cases task with
  | attempt id u n stage =>
      obtain ⟨row, hrow, hu, hjob⟩ := ht
      obtain ⟨row', hrow', heq⟩ := h.jobs id row hrow
      exact ⟨row', hrow', by rw [heq, hu], fun a ha => (hjob a ha).trans heq.symm⟩
  | reconcile u observed seen => trivial
  | resolve k market verdict seen =>
      obtain ⟨row, hrow, rfl⟩ := ht
      exact h.kept k row hrow

lemma Coherent.extend (hc : Coherent s) (h : RowsExtend s s') (hexclusive : Exclusive s'.tasks)
    (htasks : ∀ t task, s'.tasks.lookup t = some task →
      s.tasks.lookup t = some task ∨ TaskCoherent s' task) : Coherent s' := by
  refine ⟨hexclusive, ?_, ?_⟩
  · intro t task ht
    obtain hold | hnew := htasks t task ht
    · exact (hc.tasks t task hold).extend h
    · exact hnew
  · intro k row' hrow'
    obtain ⟨job, hjob, hmarket⟩ := h.old k row' hrow'
    obtain ⟨job', hjob', heq⟩ := h.jobs _ job hjob
    exact ⟨job', hjob', by rw [hmarket, heq]⟩

lemma Coherent.rowsExtend (hc : Coherent s) (hjobs : JobsKept s.jobs s'.jobs)
    (hrows : s'.executions = s.executions) : RowsExtend s s' where
  jobs := hjobs
  kept k row hrow := ⟨row, by rw [hrows]; exact hrow, rfl⟩
  old k row' hrow' := hc.rows k row' (by rw [← hrows]; exact hrow')

lemma Coherent.rowsExtend_insert (hc : Coherent s) {k : Cloid} {row' : Execution}
    (hjobs : s'.jobs = s.jobs) (hrows : s'.executions = s.executions.insert k row')
    (hmarket : ∃ job, s.jobs.lookup k.jobId = some job ∧ row'.market = job.job.market) :
    RowsExtend s s' where
  jobs := by rw [hjobs]; exact JobsKept.refl _
  kept k₁ row hrow := by
    rw [hrows, Table.lookup_insert_eq]
    split_ifs with hk
    · subst hk
      obtain ⟨job, hjob, hmarket⟩ := hmarket
      obtain ⟨job', hjob', hmarket'⟩ := hc.rows _ row hrow
      obtain rfl := Option.some.inj (hjob.symm.trans hjob')
      exact ⟨row', rfl, hmarket.trans hmarket'.symm⟩
    · exact ⟨row, hrow, rfl⟩
  old k₁ row₁ hrow₁ := by
    rw [hrows] at hrow₁
    obtain ⟨rfl, rfl⟩ | hold := Table.lookup_insert_cases hrow₁
    · exact hmarket
    · exact hc.rows k₁ row₁ hold

lemma persistOutcome_eq_some {row row' : Execution} {o : OrderOutcome}
    (h : persistOutcome row o now = some row') :
    row' = { row with
      state := o.state
      filledSize := o.filledSize
      resolvedAt := if o.state.terminal then some now else row.resolvedAt } ∧
    row.state.assign o.state = some o.state := by
  obtain ⟨state, hstate, rfl⟩ := Option.map_eq_some_iff.1 h
  obtain ⟨rfl, -⟩ := ExecutionState.assign_eq_some.1 hstate
  exact ⟨rfl, hstate⟩

lemma persistOutcome_market {row row' : Execution} {o : OrderOutcome}
    (h : persistOutcome row o now = some row') : row'.market = row.market := by
  rw [(persistOutcome_eq_some h).1]

lemma afterOutcome_attempt? (a : Attempt) (leg : AttemptLeg) (o : OrderOutcome) (b : Attempt)
    (h : (afterOutcome a leg o).attempt? = some b) : b = a := by
  obtain ⟨-, hstage⟩ | ⟨-, c, hstage⟩ := afterOutcome_cases a leg o
  · rw [hstage] at h
    exact (Option.some.inj h).symm
  · rw [hstage] at h
    cases h

/-- What an attempt does after a fill: it ends, or it goes on to the second leg of a reversal whose
close leg has passed the flat test. -/
lemma afterApply_cases (a : Attempt) (leg : AttemptLeg) (filledSize : Option ℚ) (size : ℚ) (n : ℕ) :
    (∃ c, afterApply a leg filledSize size n = .closing c) ∨
      ∃ second, afterApply a leg filledSize size n = .entering a ⟨.o, second, true⟩ ∧
        leg.opening = false ∧ a.plan.secondary = some second ∧
        (leg.kind = .c → closeLegFlattened (roundSize a.plan.orderSize n) filledSize size n) := by
  unfold afterApply
  split
  · exact Or.inl ⟨_, rfl⟩
  · rename_i hopening
    split
    · exact Or.inl ⟨_, rfl⟩
    · rename_i second hsecond
      split
      · exact Or.inl ⟨_, rfl⟩
      · rename_i hflat
        exact Or.inr ⟨second, rfl, by simpa using hopening, hsecond, by simpa using hflat⟩

lemma afterApply_attempt? (a : Attempt) (leg : AttemptLeg) (filledSize : Option ℚ) (size : ℚ)
    (n : ℕ) (b : Attempt) (h : (afterApply a leg filledSize size n).attempt? = some b) : b = a := by
  obtain ⟨c, hstage⟩ | ⟨second, hstage, -⟩ := afterApply_cases a leg filledSize size n
  · rw [hstage] at h
    cases h
  · rw [hstage] at h
    exact (Option.some.inj h).symm

lemma holds_of_ne_waiting {id : JobId} {u : UserId} {n : ℕ} {stage : Stage}
    (h : ∀ w, stage ≠ .waiting w) : (ExecutorTask.attempt id u n stage).holds = some u := by
  cases stage with
  | waiting w => exact absurd rfl (h w)
  | locked | entering | journaled | inFlight | filled | closing => rfl

/-- An attempt that goes on under its lock, on its own row. -/
lemma Coherent.advance (hc : Coherent s) {t : TaskId} {id : JobId} {u : UserId} {n : ℕ}
    {stage stage' : Stage} (htask : s.tasks.lookup t = some (.attempt id u n stage))
    (htasks : s'.tasks = s.tasks.insert t (.attempt id u n stage')) (hrows : RowsExtend s s')
    (hstage : ∀ w, stage ≠ .waiting w) (hstage' : ∀ w, stage' ≠ .waiting w)
    (hattempt : ∀ a, stage'.attempt? = some a → stage.attempt? = some a) : Coherent s' := by
  refine hc.extend hrows ?_ ?_
  · rw [htasks]
    refine hc.exclusive.advance htask ?_
    rw [holds_of_ne_waiting hstage, holds_of_ne_waiting hstage']
  · intro t' task ht'
    rw [htasks] at ht'
    obtain ⟨rfl, rfl⟩ | hold := Table.lookup_insert_cases ht'
    · have hold : TaskCoherent s (.attempt id u n stage') := by
        obtain ⟨row, hrow, hu, hjob⟩ := hc.tasks _ _ htask
        exact ⟨row, hrow, hu, fun a ha => hjob a (hattempt a ha)⟩
      exact Or.inr (hold.extend hrows)
    · exact Or.inl hold

/-- The market of the row an attempt writes is the one of its job. -/
lemma Coherent.attempt_market (hc : Coherent s) {t : TaskId} {id : JobId} {u : UserId} {n : ℕ}
    {stage : Stage} {a : Attempt} (htask : s.tasks.lookup t = some (.attempt id u n stage))
    (ha : stage.attempt? = some a) :
    ∃ job, s.jobs.lookup id = some job ∧ a.market = job.job.market := by
  obtain ⟨job, hjob, -, hattempt⟩ := hc.tasks t _ htask
  exact ⟨job, hjob, by rw [Attempt.market, hattempt a ha]⟩

/-- Tasks that end, and attempts that start to wait. -/
lemma Coherent.tasksKept (hc : Coherent s) (hrows : RowsExtend s s')
    (htasks : TasksKept s'.jobs s.tasks s'.tasks) : Coherent s' := by
  refine hc.extend hrows (hc.exclusive.kept htasks) ?_
  intro t task ht
  obtain hold | ⟨-, id, u, n, w, rfl, row, hrow, hu⟩ := htasks t task ht
  · exact Or.inl hold
  · exact Or.inr ⟨row, hrow, hu, by simp [Stage.attempt?]⟩

/-- A task that takes a free lock. -/
lemma Coherent.take (hc : Coherent s) {t : TaskId} {task : ExecutorTask} {u : UserId}
    (hrows : RowsExtend s s') (htasks : s'.tasks = s.tasks.insert t task)
    (hholds : task.holds = some u) (hfree : s.userLocked u = false)
    (htask : TaskCoherent s' task) : Coherent s' := by
  refine hc.extend hrows (by rw [htasks]; exact hc.exclusive.take hholds hfree) ?_
  intro t' task' ht'
  rw [htasks] at ht'
  obtain ⟨rfl, rfl⟩ | hold := Table.lookup_insert_cases ht'
  · exact Or.inr htask
  · exact Or.inl hold

theorem Coherent.step (hc : Coherent s) (h : ExecutorEffect venue s now op actor s') :
    Coherent s' := by
  cases h with
  | schedule jobs' tasks' hjobs htasks => exact hc.tasksKept (hc.rowsExtend hjobs rfl) htasks
  | acquire t id u n n' w jobs' hjobs htask hfree =>
      obtain ⟨row, hrow, hu⟩ := (hc.jobOfUser htask).kept hjobs
      exact hc.take (hc.rowsExtend hjobs rfl) rfl rfl hfree
        ⟨row, hrow, hu, by simp [Stage.attempt?]⟩
  | begin t id u n row reads stage hop htask hjob hdecimals hstage =>
      have hrows : RowsExtend s (s.putTask t (.attempt id u n stage)) :=
        hc.rowsExtend (JobsKept.refl _) rfl
      have hne : ∀ w, stage ≠ .waiting w := by
        rintro w rfl
        obtain ⟨c, hc'⟩ | ⟨a, ha, -⟩ := beginStage_cases hstage
        · cases hc'
        · cases ha
      refine hc.extend hrows (hc.exclusive.advance htask (by rw [holds_of_ne_waiting hne]; rfl)) ?_
      intro t' task ht'
      obtain ⟨rfl, rfl⟩ | hold := Table.lookup_insert_cases ht'
      · obtain ⟨row', hrow', hu, -⟩ := hc.tasks _ _ htask
        obtain rfl := Option.some.inj (hjob.symm.trans hrow')
        refine Or.inr ⟨row, hjob, hu, fun a ha => ?_⟩
        obtain ⟨c, rfl⟩ | ⟨b, rfl, hbegin⟩ := beginStage_cases hstage
        · cases ha
        · obtain rfl := Option.some.inj ha
          exact hbegin.job_eq
      · exact Or.inl hold
  | leave t id u n stage c htask hleg =>
      refine hc.advance htask rfl (hc.rowsExtend (JobsKept.refl _) rfl) ?_ (by simp)
        (by simp [Stage.attempt?])
      rintro w rfl
      cases hleg
  | replay t id u n a leg row htask hrow hfilled =>
      exact hc.advance htask rfl (hc.rowsExtend (JobsKept.refl _) rfl) (by simp) (by simp)
        fun _ h => h
  | journal t id u n a leg htask hrow =>
      exact hc.advance htask rfl (hc.rowsExtend_insert rfl rfl (hc.attempt_market htask rfl))
        (by simp) (by simp) fun _ h => h
  | place t id u n a leg row reaches htask hrow =>
      exact hc.advance htask rfl (hc.rowsExtend (JobsKept.refl _) rfl) (by simp) (by simp)
        fun _ h => h
  | record t id u n stage a leg row row' o hop htask hstage hrow hreported hrow' =>
      have ha : stage.attempt? = some a := by
        rcases hstage with ⟨rfl, -⟩ | rfl <;> rfl
      have hmarket : ∃ job, s.jobs.lookup id = some job ∧ row'.market = job.job.market := by
        rw [persistOutcome_market hrow']
        exact hc.rows _ row hrow
      refine hc.advance htask rfl (hc.rowsExtend_insert rfl rfl hmarket) ?_ ?_ ?_
      · rcases hstage with ⟨rfl, -⟩ | rfl <;> simp
      · intro w
        obtain ⟨-, hs⟩ | ⟨-, c, hs⟩ := afterOutcome_cases a leg o <;> simp [hs]
      · intro b hb
        rw [afterOutcome_attempt? a leg o b hb, ha]
  | apply t id u n a leg filledSize row row' ledger' added htask hrow happly =>
      obtain ⟨-, hfill⟩ := applyFillToLedger_eq_some happly
      have hmarket : ∃ job, s.jobs.lookup id = some job ∧ row'.market = job.job.market := by
        rw [hfill.market_eq]
        exact hc.rows _ row hrow
      have hne : ∀ w, afterApply a leg filledSize ledger'.size.value
          (venue.szDecimals a.market.asset) ≠ .waiting w := by
        intro w
        obtain ⟨c, hs⟩ | ⟨second, hs, -⟩ := afterApply_cases a leg filledSize ledger'.size.value
          (venue.szDecimals a.market.asset) <;> simp [hs]
      have hattempt : ∀ b, (afterApply a leg filledSize ledger'.size.value
          (venue.szDecimals a.market.asset)).attempt? = some b →
          (Stage.filled a leg filledSize).attempt? = some b := by
        intro b hb
        rw [afterApply_attempt? _ _ _ _ _ b hb]
        rfl
      exact hc.advance htask rfl (hc.rowsExtend_insert rfl rfl hmarket) (by simp) hne hattempt
  | fill k order lots horder hfill =>
      exact hc.tasksKept (hc.rowsExtend (JobsKept.refl _) rfl) (TasksKept.refl _ _)
  | snapshot t u observed hop hfree htask =>
      exact hc.take (hc.rowsExtend (JobsKept.refl _) rfl) rfl rfl hfree trivial
  | reconcile t u observed seen verifiedAt assets jobs' htask hverified hjobs =>
      exact hc.tasksKept (hc.rowsExtend hjobs rfl) (TasksKept.erase _ _ t)
  | query t k row verdict hop hrow hfree htask hopen =>
      exact hc.take (hc.rowsExtend (JobsKept.refl _) rfl) rfl rfl hfree ⟨row, hrow, rfl⟩
  | resolve t k market verdict seen row row' verifiedAt htask hrow hopen hverified hrow' =>
      have hmarket : ∃ job, s.jobs.lookup k.jobId = some job ∧ row'.market = job.job.market := by
        rw [persistOutcome_market hrow']
        exact hc.rows _ row hrow
      exact hc.tasksKept (hc.rowsExtend_insert rfl rfl hmarket) (TasksKept.erase _ _ t)

/-! ## The frame rule -/

lemma tasksKept_holder {jobs : Table JobId CopyJobRow} {tasks tasks' : Table TaskId ExecutorTask}
    (hkept : TasksKept jobs tasks tasks') {t : TaskId} {task : ExecutorTask} {u : UserId}
    (ht : tasks'.lookup t = some task) (hu : task.holds = some u) : tasks.lookup t = some task := by
  obtain hold | ⟨-, id, u', n, w, rfl, -⟩ := hkept t task ht
  · exact hold
  · cases hu

/-- A step never replaces the task of somebody else. -/
lemma ExecutorEffect.other_task (h : ExecutorEffect venue s now op actor s') {t : TaskId}
    {task : ExecutorTask} (hactor : actor ≠ some t) (ht : s'.tasks.lookup t = some task) :
    s.tasks.lookup t = some task ∨ s.tasks.lookup t = none := by
  cases h with
  | schedule jobs' tasks' hjobs htasks => exact (htasks t task ht).imp_right And.left
  | acquire | begin | leave | replay | journal | place | record | apply | snapshot | query =>
      left
      rwa [ExecutorState.putTask, AList.lookup_insert_ne] at ht
      rintro rfl
      exact hactor rfl
  | fill => exact Or.inl ht
  | reconcile t₀ | resolve t₀ =>
      left
      rwa [ExecutorState.dropTask, AList.lookup_erase_ne] at ht
      rintro rfl
      exact hactor rfl

/-- A step that writes no row, no submission and no ledger size. -/
lemma others_of_rowsKept {t : TaskId} {task : ExecutorTask} (u : UserId) (hrows : RowsKept s s')
    (hold : s.tasks.lookup t = some task) : s.tasks.lookup t = some task ∧ SameFor u s s' :=
  ⟨hold, hrows.sameFor u⟩

lemma lookup_of_insert_ne {tasks : Table TaskId ExecutorTask} {t t' : TaskId}
    {new task : ExecutorTask} (hne : some t ≠ some t') (h : (tasks.insert t new).lookup t' = some task) :
    tasks.lookup t' = some task := by
  rwa [AList.lookup_insert_ne] at h
  rintro rfl
  exact hne rfl

/-- The holder of a lock is not disturbed by a task that works for another user. -/
lemma Coherent.user_ne (hc : Coherent s) {t t' : TaskId} {task task' : ExecutorTask} {u u' : UserId}
    (hne : some t ≠ some t') (ht : s.tasks.lookup t = some task) (hu : task.holds = some u)
    (ht' : s.tasks.lookup t' = some task') (hu' : task'.holds = some u') : u' ≠ u := by
  rintro rfl
  exact hne (congrArg some (hc.exclusive t t' task task' u' ht ht' hu hu'))

lemma syncLedger_ledger_of_ne {market market' : Market} (k : Cloid) (position : Option ℚ)
    (verifiedAt : ℕ) (seen : List Cloid) (hne : market' ≠ market) :
    (syncLedger s market k position verifiedAt seen).ledger market' = s.ledger market' := by
  cases position with
  | none => rfl
  | some position => exact Function.update_of_ne hne _ _

/-- **Frame rule.**  While a task holds the lock of a user, the steps of the others leave the rows,
the submissions and the ledger sizes of the user alone. -/
theorem ExecutorEffect.others_kept (hc : Coherent s) (h : ExecutorEffect venue s now op actor s')
    {t : TaskId} {task : ExecutorTask} {u : UserId} (hactor : actor ≠ some t)
    (ht : s'.tasks.lookup t = some task) (hu : task.holds = some u) :
    s.tasks.lookup t = some task ∧ SameFor u s s' := by
  cases h with
  | schedule jobs' tasks' hjobs htasks =>
      exact others_of_rowsKept u ⟨rfl, rfl, rfl⟩ (tasksKept_holder htasks ht hu)
  | acquire | begin | leave | replay =>
      exact others_of_rowsKept u ⟨rfl, rfl, rfl⟩ (lookup_of_insert_ne hactor ht)
  | snapshot | query =>
      exact others_of_rowsKept u ⟨rfl, rfl, rfl⟩ (lookup_of_insert_ne hactor ht)
  | fill => exact others_of_rowsKept u ⟨rfl, rfl, rfl⟩ ht
  | journal t₀ id u₀ n a leg htask hrow =>
      have hold := lookup_of_insert_ne hactor ht
      have hne := hc.user_ne hactor htask rfl hold hu
      exact ⟨hold, sameFor_putExecution hc (k := ⟨id, leg.kind⟩) (hc.jobOfUser htask)
        (hc.market_userId htask rfl) hne rfl (fun _ _ => Iff.rfl) fun _ _ => rfl⟩
  | place t₀ id u₀ n a leg row reaches htask hrow =>
      have hold := lookup_of_insert_ne hactor ht
      have hne := hc.user_ne hactor htask rfl hold hu
      refine ⟨hold, fun _ _ _ => rfl, fun _ _ _ => Iff.rfl, ?_, fun _ _ => rfl⟩
      intro id' kind hid'
      have hkey : (⟨id', kind⟩ : Cloid) ≠ ⟨id, leg.kind⟩ := by
        rintro heq
        obtain ⟨rfl, -⟩ := Cloid.mk.inj heq
        exact hne (hid'.unique (hc.jobOfUser htask))
      simp [ExecutorState.putTask, hkey]
  | record t₀ id u₀ n stage a leg row row' o hop htask hstage hrow hreported hrow' =>
      have hold := lookup_of_insert_ne hactor ht
      have hholds : (ExecutorTask.attempt id u₀ n stage).holds = some u₀ := by
        rcases hstage with ⟨rfl, -⟩ | rfl <;> rfl
      have ha : stage.attempt? = some a := by
        rcases hstage with ⟨rfl, -⟩ | rfl <;> rfl
      have hne := hc.user_ne hactor htask hholds hold hu
      have hmarket : row'.market.userId = u₀ := by
        rw [persistOutcome_market hrow', hc.row_market htask ha hrow]
        exact hc.market_userId htask ha
      exact ⟨hold, sameFor_putExecution hc (k := ⟨id, leg.kind⟩) (hc.jobOfUser htask) hmarket hne rfl
        (fun _ _ => Iff.rfl) fun _ _ => rfl⟩
  | apply t₀ id u₀ n a leg filledSize row row' ledger' added htask hrow happly =>
      have hold := lookup_of_insert_ne hactor ht
      have hne := hc.user_ne hactor htask rfl hold hu
      obtain ⟨-, hfill⟩ := applyFillToLedger_eq_some happly
      have hmarket : row'.market.userId = u₀ := by
        rw [hfill.market_eq, hc.row_market htask rfl hrow]
        exact hc.market_userId htask rfl
      have hledger : ∀ market : Market, market.userId = u →
          Function.update s.ledger a.market ledger' market = s.ledger market := by
        rintro market rfl
        refine Function.update_of_ne ?_ _ _
        rintro rfl
        exact hne (hc.market_userId htask rfl)
      exact ⟨hold, sameFor_putExecution hc (k := ⟨id, leg.kind⟩) (hc.jobOfUser htask) hmarket hne
        rfl (fun _ _ => Iff.rfl) hledger⟩
  | reconcile t₀ u₀ observed seen verifiedAt assets jobs' htask hverified hjobs =>
      have hold := tasksKept_holder (TasksKept.erase s.jobs _ t₀) ht hu
      have hne := hc.user_ne hactor htask rfl hold hu
      refine ⟨hold, fun _ _ _ => rfl, fun _ _ _ => Iff.rfl, fun _ _ _ => Iff.rfl, ?_⟩
      rintro market rfl
      exact if_neg fun hmarket => hne hmarket.1
  | resolve t₀ k market verdict seen row row' verifiedAt htask hrow hopen hverified hrow' =>
      have hold := tasksKept_holder (TasksKept.erase s.jobs _ t₀) ht hu
      have hne := hc.user_ne hactor htask rfl hold hu
      obtain ⟨row₁, hrow₁, rfl⟩ := hc.tasks _ _ htask
      obtain rfl := Option.some.inj (hrow.symm.trans hrow₁)
      have hjob : JobOfUser s.jobs k.jobId row.market.userId := by
        obtain ⟨job, hjob, hmarket⟩ := hc.rows k row hrow
        exact ⟨job, hjob, by rw [hmarket]⟩
      have hmarket : row'.market.userId = row.market.userId := by
        rw [persistOutcome_market hrow']
      refine ⟨hold, sameFor_putExecution hc hjob hmarket hne rfl (fun _ _ => Iff.rfl) ?_⟩
      rintro market rfl
      refine syncLedger_ledger_of_ne k verdict.position verifiedAt seen ?_
      rintro rfl
      exact hne rfl

end Coherent

end HyperCopy

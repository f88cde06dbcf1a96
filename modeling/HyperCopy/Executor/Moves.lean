import HyperCopy.Executor.Attempts

/-!
# When a job is over

`ExecutorEffect` forgets which worker holds which job.  A job that has ended and that no attempt is
working on stays so (`JobOver.step`), and for that one has to know what an operation does to the
tasks, `tasks_of_op`, and to the state of a job, `ended_of_op`.  Once a job is over, what is
recorded about its orders is final.
-/

namespace HyperCopy

/-- The task that an operation is a step of. -/
def ExecutorOp.task : ExecutorOp → Option TaskId
  | claim _ _ task => some task
  | acquire task => some task
  | begin task _ => some task
  | enterLeg task _ => some task
  | placeIoc task _ => some task
  | respond task _ => some task
  | applyFill task => some task
  | abandonFill task => some task
  | close task _ => some task
  | crash task => some task
  | reconcileRead task _ _ => some task
  | reconcileCommit task _ _ _ => some task
  | resolveRead task _ _ => some task
  | resolveCommit task _ => some task
  | enqueue _ _ | releaseStale _ | supersede _ | fill _ _ => none

/-- A task begins, takes the lock for a job that is being processed, or goes on under its lock. -/
inductive TaskMove (s : ExecutorState) (t : TaskId) : ExecutorTask → Prop
  | start (task : ExecutorTask) (hfree : s.tasks.lookup t = none)
      (hwaits : ∀ id u n stage, task = .attempt id u n stage → ∃ w, stage = .waiting w) :
      TaskMove s t task
  | lock (id : JobId) (u : UserId) (n n' : ℕ) (w : Option WorkerId) (row : CopyJobRow)
      (hjob : s.jobs.lookup id = some row) (hstate : row.state = .processing)
      (htask : s.tasks.lookup t = some (.attempt id u n (.waiting w))) :
      TaskMove s t (.attempt id u n' .locked)
  | advance (id : JobId) (u : UserId) (n : ℕ) (stage stage' : Stage)
      (htask : s.tasks.lookup t = some (.attempt id u n stage)) (hpast : ∀ w, stage ≠ .waiting w)
      (hopen : ∀ c, stage ≠ .closing c) (hnext : ∀ w, stage' ≠ .waiting w) :
      TaskMove s t (.attempt id u n stage')

/-- The attempts that have taken the lock end by a close or a crash. -/
def TaskEnds (s : ExecutorState) (t : TaskId) (op : ExecutorOp) : Prop :=
  ∀ id u n stage, s.tasks.lookup t = some (.attempt id u n stage) →
    (∃ w, stage = .waiting w) ∨ (∃ delay, op = .close t delay) ∨ op = .crash t

/-- What an operation does to the tasks. -/
inductive TasksMoved (s s' : ExecutorState) (op : ExecutorOp) : Prop
  | same (hop : op.task = none) (htasks : s'.tasks = s.tasks)
  | ended (t : TaskId) (hop : op.task = some t) (htasks : s'.tasks = s.tasks.erase t)
      (hends : TaskEnds s t op)
  | moved (t : TaskId) (task : ExecutorTask) (hop : op.task = some t)
      (htasks : s'.tasks = s.tasks.insert t task) (hmove : TaskMove s t task)

section Tasks

variable {venue : Venue} {s s' : ExecutorState} {now : ℕ} {op : ExecutorOp} {t : TaskId}

lemma tasksMoved_advance {id : JobId} {u : UserId} {n : ℕ} {stage stage' : Stage}
    (hop : op.task = some t) (htask : s.tasks.lookup t = some (.attempt id u n stage))
    (htasks : s'.tasks = s.tasks.insert t (.attempt id u n stage'))
    (hpast : ∀ w, stage ≠ .waiting w) (hopen : ∀ c, stage ≠ .closing c)
    (hnext : ∀ w, stage' ≠ .waiting w) : TasksMoved s s' op :=
  .moved t _ hop htasks (.advance id u n stage stage' htask hpast hopen hnext)

lemma afterOutcome_ne_waiting (a : Attempt) (leg : AttemptLeg) (o : OrderOutcome)
    (w : Option WorkerId) : afterOutcome a leg o ≠ .waiting w := by
  obtain ⟨-, hstage⟩ | ⟨-, c, hstage⟩ := afterOutcome_cases a leg o <;> simp [hstage]

lemma afterApply_ne_waiting (a : Attempt) (leg : AttemptLeg) (filledSize : Option ℚ) (size : ℚ)
    (n : ℕ) (w : Option WorkerId) : afterApply a leg filledSize size n ≠ .waiting w := by
  obtain ⟨c, hstage⟩ | ⟨second, hstage, -⟩ := afterApply_cases a leg filledSize size n <;>
    simp [hstage]

lemma beginStage_ne_waiting {id : JobId} {job : CopyJob} {reads : ProfitExitReads} {stage : Stage}
    (h : beginStage s id job reads = some stage) (w : Option WorkerId) : stage ≠ .waiting w := by
  obtain ⟨c, rfl⟩ | ⟨a, rfl, -⟩ := beginStage_cases h <;> simp

lemma claimJob_tasks {id : JobId} {worker : WorkerId}
    (h : claimJob s id worker t now = some s') : TasksMoved s s' (.claim id worker t) := by
  unfold claimJob at h
  split at h
  · cases h
  split_ifs at h with hfree hclaim
  obtain rfl := Option.some.inj h
  refine .moved t _ rfl rfl (.start _ (by simpa using hfree) ?_)
  intro id' u n stage heq
  cases heq
  exact ⟨_, rfl⟩

lemma acquireLock_tasks (h : acquireLock s t now = some s') : TasksMoved s s' (.acquire t) := by
  unfold acquireLock at h
  split at h
  · rename_i id u n w htask
    have hends : TaskEnds s t (.acquire t) := by
      intro id' u' n' stage ht
      cases Option.some.inj (htask.symm.trans ht)
      exact Or.inl ⟨w, rfl⟩
    split at h
    · cases h
    split at h
    · obtain rfl := Option.some.inj h
      exact .ended t rfl rfl hends
    rename_i row hrow
    split_ifs at h with hlost
    · obtain rfl := Option.some.inj h
      exact .ended t rfl rfl hends
    · obtain rfl := Option.some.inj h
      simp only [Bool.or_eq_true, decide_eq_true_eq, not_or, not_not] at hlost
      exact .moved t _ rfl rfl (.lock id u n _ w row hrow hlost.1.2 htask)
  · cases h

lemma beginAttempt_tasks {reads : ProfitExitReads} (h : beginAttempt venue s t reads = some s') :
    TasksMoved s s' (.begin t reads) := by
  unfold beginAttempt at h
  split at h
  · rename_i id u n htask
    split at h
    · cases h
    split_ifs at h
    obtain ⟨stage, hstage, rfl⟩ := Option.map_eq_some_iff.1 h
    exact tasksMoved_advance rfl htask rfl (by simp) (by simp) (beginStage_ne_waiting hstage)
  · cases h

lemma enterLeg_tasks {reply : OrderOutcome} (h : enterLeg venue s t reply now = some s') :
    TasksMoved s s' (.enterLeg t reply) := by
  unfold enterLeg at h
  split at h
  · rename_i id u n a leg htask
    dsimp only at h
    split at h
    · split_ifs at h
      · obtain rfl := Option.some.inj h
        exact tasksMoved_advance rfl htask rfl (by simp) (by simp) (afterOutcome_ne_waiting _ _ _)
      · obtain rfl := Option.some.inj h
        exact tasksMoved_advance rfl htask rfl (by simp) (by simp) (afterOutcome_ne_waiting _ _ _)
      · obtain ⟨row', -, rfl⟩ := Option.map_eq_some_iff.1 h
        exact tasksMoved_advance rfl htask rfl (by simp) (by simp) (afterOutcome_ne_waiting _ _ _)
    · obtain rfl := Option.some.inj h
      exact tasksMoved_advance rfl htask rfl (by simp) (by simp) (by simp)
  · cases h

lemma callPlaceIoc_tasks {reaches : Bool} (h : callPlaceIoc s t reaches = some s') :
    TasksMoved s s' (.placeIoc t reaches) := by
  unfold callPlaceIoc at h
  split at h
  · rename_i id u n a leg htask
    dsimp only at h
    split at h
    · cases h
    obtain rfl := Option.some.inj h
    exact tasksMoved_advance rfl htask rfl (by simp) (by simp) (by simp)
  · cases h

lemma respondLeg_tasks {response : Option OrderOutcome}
    (h : respondLeg s t response now = some s') : TasksMoved s s' (.respond t response) := by
  unfold respondLeg at h
  split at h
  · rename_i id u n a leg htask
    dsimp only at h
    split at h
    · cases h
    split_ifs at h
    obtain ⟨row', -, rfl⟩ := Option.map_eq_some_iff.1 h
    exact tasksMoved_advance rfl htask rfl (by simp) (by simp) (afterOutcome_ne_waiting _ _ _)
  · cases h

lemma applyFill_tasks (h : applyFill venue s t now = some s') : TasksMoved s s' (.applyFill t) := by
  unfold applyFill at h
  split at h
  · rename_i id u n a leg filledSize htask
    dsimp only at h
    split at h
    · obtain rfl := Option.some.inj h
      exact tasksMoved_advance rfl htask rfl (by simp) (by simp) (by simp)
    split at h
    · obtain rfl := Option.some.inj h
      exact tasksMoved_advance rfl htask rfl (by simp) (by simp) (by simp)
    obtain rfl := Option.some.inj h
    exact tasksMoved_advance rfl htask rfl (by simp) (by simp) (afterApply_ne_waiting _ _ _ _ _)
  · cases h

lemma abandonFill_tasks (h : abandonFill s t = some s') : TasksMoved s s' (.abandonFill t) := by
  unfold abandonFill at h
  split at h
  · rename_i id u n a leg filledSize htask
    split_ifs at h
    obtain rfl := Option.some.inj h
    exact tasksMoved_advance rfl htask rfl (by simp) (by simp) (by simp)
  · cases h

lemma crash_lookup (h : applyExecutorOp venue s now (.crash t) = some s') :
    s'.tasks.lookup t = none := by
  simp only [applyExecutorOp, crashTask] at h
  split_ifs at h
  obtain rfl := Option.some.inj h
  exact AList.lookup_erase _ _

/-- What an operation does to the tasks. -/
lemma tasks_of_op (h : applyExecutorOp venue s now op = some s') : TasksMoved s s' op := by
  cases op with
  | enqueue id job =>
      simp only [applyExecutorOp, enqueueJob] at h
      split_ifs at h
      obtain rfl := Option.some.inj h
      exact .same rfl rfl
  | claim id worker task => exact claimJob_tasks h
  | releaseStale id =>
      simp only [applyExecutorOp, releaseStaleJob] at h
      split at h
      · cases h
      split at h
      · obtain rfl := Option.some.inj h
        exact .same rfl rfl
      · cases h
  | supersede id =>
      simp only [applyExecutorOp, supersedeJob] at h
      split at h
      · cases h
      split_ifs at h
      obtain rfl := Option.some.inj h
      exact .same rfl rfl
  | acquire task => exact acquireLock_tasks h
  | begin task reads => exact beginAttempt_tasks h
  | enterLeg task reply => exact enterLeg_tasks h
  | placeIoc task reaches => exact callPlaceIoc_tasks h
  | respond task response => exact respondLeg_tasks h
  | applyFill task => exact applyFill_tasks h
  | abandonFill task => exact abandonFill_tasks h
  | close task delay =>
      simp only [applyExecutorOp, closeAttempt] at h
      split at h
      · obtain rfl := Option.some.inj h
        exact .ended task rfl rfl fun _ _ _ _ _ => Or.inr (Or.inl ⟨delay, rfl⟩)
      · cases h
  | crash task =>
      simp only [applyExecutorOp, crashTask] at h
      split_ifs at h
      obtain rfl := Option.some.inj h
      exact .ended task rfl rfl fun _ _ _ _ _ => Or.inr (Or.inr rfl)
  | fill cloid lots =>
      simp only [applyExecutorOp, fillOrder] at h
      split at h
      · cases h
      split_ifs at h
      obtain rfl := Option.some.inj h
      exact .same rfl rfl
  | reconcileRead task userId observed =>
      simp only [applyExecutorOp, reconcileRead] at h
      split_ifs at h with hbad
      obtain rfl := Option.some.inj h
      simp only [Bool.or_eq_true, not_or, Option.isSome_iff_ne_none, not_not] at hbad
      refine .moved task _ rfl rfl (.start _ hbad.2 ?_)
      intro id u n stage heq
      cases heq
  | reconcileCommit task verifiedAt assets planned =>
      simp only [applyExecutorOp, reconcileCommit] at h
      split at h
      · rename_i u observed seen htask
        split_ifs at h
        obtain ⟨jobs, -, rfl⟩ := Option.map_eq_some_iff.1 h
        refine .ended task rfl rfl fun id u n stage ht => ?_
        cases Option.some.inj (htask.symm.trans ht)
      · cases h
  | resolveRead task cloid verdict =>
      simp only [applyExecutorOp, resolveRead] at h
      split at h
      · cases h
      split_ifs at h with hbad
      obtain rfl := Option.some.inj h
      simp only [Bool.or_eq_true, not_or, Option.isSome_iff_ne_none, not_not] at hbad
      refine .moved task _ rfl rfl (.start _ hbad.2 ?_)
      intro id u n stage heq
      cases heq
  | resolveCommit task verifiedAt =>
      simp only [applyExecutorOp, resolveCommit] at h
      split at h
      · rename_i k market verdict seen htask
        split at h
        · cases h
        split_ifs at h
        obtain ⟨row', -, rfl⟩ := Option.map_eq_some_iff.1 h
        refine .ended task rfl rfl fun id u n stage ht => ?_
        cases Option.some.inj (htask.symm.trans ht)
      · cases h

/-- The tasks of the others stay. -/
lemma TasksMoved.kept (h : TasksMoved s s' op) (hop : op.task ≠ some t) :
    s'.tasks.lookup t = s.tasks.lookup t := by
  cases h with
  | same _ htasks => rw [htasks]
  | ended t₀ ht₀ htasks _ =>
      have hne : t ≠ t₀ := fun heq => hop (heq ▸ ht₀)
      rw [htasks, AList.lookup_erase_ne hne]
  | moved t₀ task ht₀ htasks _ =>
      have hne : t ≠ t₀ := fun heq => hop (heq ▸ ht₀)
      rw [htasks, AList.lookup_insert_ne hne]

/-- The stage of an attempt that an operation is a step from.  A crash comes at any. -/
def ExecutorOp.suits : ExecutorOp → Stage → Bool
  | acquire _, .waiting _ | begin _ _, .locked | enterLeg _ _, .entering _ _ => true
  | placeIoc _ _, .journaled _ _ | respond _ _, .inFlight _ _ => true
  | applyFill _, .filled _ _ _ | abandonFill _, .filled _ _ _ | close _ _, .closing _ => true
  | crash _, _ => true
  | _, _ => false

/-- A step of an attempt is a step from its stage. -/
lemma suits_of_op (h : applyExecutorOp venue s now op = some s') (hop : op.task = some t)
    {id : JobId} {u : UserId} {n : ℕ} {stage : Stage}
    (ht : s.tasks.lookup t = some (.attempt id u n stage)) : op.suits stage = true := by
  cases op with
  | enqueue | releaseStale | supersede | fill => cases hop
  | crash => rfl
  | claim id' worker task =>
      obtain rfl := Option.some.inj hop
      simp only [applyExecutorOp, claimJob, ht, Option.isSome_some, if_true] at h
      split at h <;> cases h
  | reconcileRead task userId observed =>
      obtain rfl := Option.some.inj hop
      simp [applyExecutorOp, reconcileRead, ht] at h
  | resolveRead task cloid verdict =>
      obtain rfl := Option.some.inj hop
      simp only [applyExecutorOp, resolveRead, ht, Option.isSome_some, Bool.or_true, if_true] at h
      split at h <;> cases h
  | reconcileCommit task =>
      obtain rfl := Option.some.inj hop
      simp [applyExecutorOp, reconcileCommit, ht] at h
  | resolveCommit task =>
      obtain rfl := Option.some.inj hop
      simp [applyExecutorOp, resolveCommit, ht] at h
  | acquire task =>
      obtain rfl := Option.some.inj hop
      cases stage <;> first | rfl | simp [applyExecutorOp, acquireLock, ht] at h
  | begin task =>
      obtain rfl := Option.some.inj hop
      cases stage <;> first | rfl | simp [applyExecutorOp, beginAttempt, ht] at h
  | enterLeg task =>
      obtain rfl := Option.some.inj hop
      cases stage <;> first | rfl | simp [applyExecutorOp, enterLeg, ht] at h
  | placeIoc task =>
      obtain rfl := Option.some.inj hop
      cases stage <;> first | rfl | simp [applyExecutorOp, callPlaceIoc, ht] at h
  | respond task =>
      obtain rfl := Option.some.inj hop
      cases stage <;> first | rfl | simp [applyExecutorOp, respondLeg, ht] at h
  | applyFill task =>
      obtain rfl := Option.some.inj hop
      cases stage <;> first | rfl | simp [applyExecutorOp, applyFill, ht] at h
  | abandonFill task =>
      obtain rfl := Option.some.inj hop
      cases stage <;> first | rfl | simp [applyExecutorOp, abandonFill, ht] at h
  | close task =>
      obtain rfl := Option.some.inj hop
      cases stage <;> first | rfl | simp [applyExecutorOp, closeAttempt, ht] at h

/-- An attempt that is past the lock has just taken it, or was past it before. -/
lemma past_of_op (h : applyExecutorOp venue s now op = some s') {id : JobId} {u : UserId} {n : ℕ}
    {stage : Stage} (ht : s'.tasks.lookup t = some (.attempt id u n stage))
    (hpast : ∀ w, stage ≠ .waiting w) :
    op = .acquire t ∧ stage = .locked ∨ op ≠ .acquire t ∧
      ∃ n' stage', s.tasks.lookup t = some (.attempt id u n' stage') ∧ ∀ w, stage' ≠ .waiting w := by
  by_cases hop : op.task = some t
  · cases tasks_of_op h with
    | same hnone _ => exact absurd (hop.symm.trans hnone) (by simp)
    | ended t₀ ht₀ htasks _ =>
        obtain rfl := Option.some.inj (hop.symm.trans ht₀)
        rw [htasks, AList.lookup_erase] at ht
        cases ht
    | moved t₀ task ht₀ htasks hmove =>
        obtain rfl := Option.some.inj (hop.symm.trans ht₀)
        rw [htasks, AList.lookup_insert] at ht
        obtain rfl := Option.some.inj ht
        cases hmove with
        | start _ hfree hwaits =>
            obtain ⟨w, rfl⟩ := hwaits id u n stage rfl
            exact absurd rfl (hpast w)
        | lock _ _ n₀ _ w row hjob hstate htask =>
            -- the only step that a waiting attempt can take, and live through
            have hsuits := suits_of_op h hop htask
            cases op with
            | acquire => exact Or.inl ⟨by rw [Option.some.inj hop], rfl⟩
            | crash task =>
                obtain rfl := Option.some.inj hop
                have hgone := crash_lookup h
                rw [htasks, AList.lookup_insert] at hgone
                cases hgone
            | _ => cases hsuits
        | advance _ _ _ stage₀ _ htask hbefore _ _ =>
            refine Or.inr ⟨?_, n, stage₀, htask, hbefore⟩
            rintro rfl
            have hsuits := suits_of_op h hop htask
            cases stage₀ with
            | waiting w => exact hbefore w rfl
            | _ => cases hsuits
  · refine Or.inr ⟨fun heq => hop (by rw [heq]; rfl), n, stage, ?_, hpast⟩
    rw [← (tasks_of_op h).kept hop, ht]

/-- An attempt that is past the lock was past it before, or has found its job being processed. -/
lemma TasksMoved.past (h : TasksMoved s s' op) {id : JobId} {u : UserId} {n : ℕ} {stage : Stage}
    (ht : s'.tasks.lookup t = some (.attempt id u n stage)) (hpast : ∀ w, stage ≠ .waiting w) :
    (∃ n' stage', s.tasks.lookup t = some (.attempt id u n' stage') ∧
        ∀ w, stage' ≠ .waiting w) ∨
      ∃ row, s.jobs.lookup id = some row ∧ row.state = .processing := by
  cases h with
  | same _ htasks => exact Or.inl ⟨n, stage, htasks ▸ ht, hpast⟩
  | ended t₀ _ htasks _ => exact Or.inl ⟨n, stage, Table.lookup_of_erase (htasks ▸ ht), hpast⟩
  | moved t₀ task _ htasks hmove =>
      rw [htasks] at ht
      obtain ⟨rfl, rfl⟩ | hold := Table.lookup_insert_cases ht
      · cases hmove with
        | start _ hfree hwaits =>
            obtain ⟨w, rfl⟩ := hwaits id u n stage rfl
            exact absurd rfl (hpast w)
        | lock _ _ n₀ _ w row hjob hstate htask => exact Or.inr ⟨row, hjob, hstate⟩
        | advance _ _ _ stage₀ _ htask hbefore hopen => exact Or.inl ⟨n, stage₀, htask, hbefore⟩
      · exact Or.inl ⟨n, stage, hold, hpast⟩

/-- An attempt that has taken the lock goes on, and one that is closing closes or crashes. -/
lemma TasksMoved.goesOn (h : TasksMoved s s' op) (hop : op.task = some t) {id : JobId} {u : UserId}
    {n : ℕ} {stage : Stage} (ht : s.tasks.lookup t = some (.attempt id u n stage))
    (hpast : ∀ w, stage ≠ .waiting w) :
    ((∃ delay, op = .close t delay) ∨ op = .crash t) ∨ (∀ c, stage ≠ .closing c) ∧
      ∃ stage', s'.tasks.lookup t = some (.attempt id u n stage') ∧ ∀ w, stage' ≠ .waiting w := by
  cases h with
  | same hnone _ => exact absurd (hop.symm.trans hnone) (by simp)
  | ended t₀ ht₀ _ hends =>
      obtain rfl := Option.some.inj (hop.symm.trans ht₀)
      obtain ⟨w, hw⟩ | hends := hends id u n stage ht
      · exact absurd hw (hpast w)
      · exact Or.inl hends
  | moved t₀ task ht₀ htasks hmove =>
      obtain rfl := Option.some.inj (hop.symm.trans ht₀)
      cases hmove with
      | start _ hfree _ => exact absurd (ht.symm.trans hfree) (by simp)
      | lock _ _ _ _ w row _ _ htask =>
          cases Option.some.inj (ht.symm.trans htask)
          exact absurd rfl (hpast w)
      | advance _ _ _ stage₀ stage' htask _ hopen hnext =>
          cases Option.some.inj (ht.symm.trans htask)
          exact Or.inr ⟨hopen, stage', by rw [htasks, AList.lookup_insert], hnext⟩

end Tasks

/-! ## A job that is over -/

/-- The job has ended, and no attempt is past the lock with it. -/
structure JobOver (s : ExecutorState) (id : JobId) : Prop where
  ended : ∃ row, s.jobs.lookup id = some row ∧ row.state.active = false
  waiting : ∀ t u n stage, s.tasks.lookup t = some (.attempt id u n stage) → ∃ w, stage = .waiting w

section Over

variable {venue : Venue} {s s' : ExecutorState} {now : ℕ} {op : ExecutorOp} {id : JobId}

lemma ExecutorEffect.jobsKept {actor : Option TaskId} (h : ExecutorEffect venue s now op actor s') :
    JobsKept s.jobs s'.jobs := by
  cases h with
  | schedule jobs' tasks' hjobs htasks => exact hjobs
  | acquire t id u n n' w jobs' hjobs htask hfree => exact hjobs
  | reconcile t u observed seen verifiedAt assets jobs' htask hverified hjobs => exact hjobs
  | resolve | begin | leave | replay | journal | place | record | apply | fill | snapshot | query =>
      exact JobsKept.refl _

lemma queueJobs_lookup {planned : List PlannedJob} {jobs jobs' : Table JobId CopyJobRow}
    {row : CopyJobRow} (h : queueJobs jobs planned = some jobs') (hrow : jobs.lookup id = some row) :
    jobs'.lookup id = some row := by
  induction planned generalizing jobs with
  | nil =>
      obtain rfl := Option.some.inj h
      exact hrow
  | cons p ps ih =>
      simp only [queueJobs] at h
      split_ifs at h with hknown
      refine ih h ?_
      rw [Table.lookup_insert_eq, if_neg]
      · exact hrow
      · rintro rfl
        exact hknown (by rw [hrow]; rfl)

/-- The operations that write job rows. -/
def ExecutorOp.writesJobs : ExecutorOp → Bool
  | enqueue _ _ | claim _ _ _ | releaseStale _ | supersede _ | acquire _ | close _ _ => true
  | reconcileCommit _ _ _ _ => true
  | _ => false

lemma jobs_of_op (h : applyExecutorOp venue s now op = some s') (hop : op.writesJobs = false) :
    s'.jobs = s.jobs := by
  cases op with
  | enqueue | claim | releaseStale | supersede | acquire | close | reconcileCommit => cases hop
  | begin task reads =>
      simp only [applyExecutorOp, beginAttempt] at h
      split at h
      · split at h
        · cases h
        split_ifs at h
        obtain ⟨stage, -, rfl⟩ := Option.map_eq_some_iff.1 h
        rfl
      · cases h
  | enterLeg task reply =>
      simp only [applyExecutorOp, enterLeg] at h
      split at h
      · split at h
        · split_ifs at h
          · obtain rfl := Option.some.inj h
            rfl
          · obtain rfl := Option.some.inj h
            rfl
          · obtain ⟨row', -, rfl⟩ := Option.map_eq_some_iff.1 h
            rfl
        · obtain rfl := Option.some.inj h
          rfl
      · cases h
  | placeIoc task reaches =>
      simp only [applyExecutorOp, callPlaceIoc] at h
      split at h
      · split at h
        · cases h
        obtain rfl := Option.some.inj h
        rfl
      · cases h
  | respond task response =>
      simp only [applyExecutorOp, respondLeg] at h
      split at h
      · split at h
        · cases h
        split_ifs at h
        obtain ⟨row', -, rfl⟩ := Option.map_eq_some_iff.1 h
        rfl
      · cases h
  | applyFill task =>
      simp only [applyExecutorOp, applyFill] at h
      split at h
      · split at h
        · obtain rfl := Option.some.inj h
          rfl
        split at h
        · obtain rfl := Option.some.inj h
          rfl
        obtain rfl := Option.some.inj h
        rfl
      · cases h
  | abandonFill task =>
      simp only [applyExecutorOp, abandonFill] at h
      split at h
      · split_ifs at h
        obtain rfl := Option.some.inj h
        rfl
      · cases h
  | crash task =>
      simp only [applyExecutorOp, crashTask] at h
      split_ifs at h
      obtain rfl := Option.some.inj h
      rfl
  | fill cloid lots =>
      simp only [applyExecutorOp, fillOrder] at h
      split at h
      · cases h
      split_ifs at h
      obtain rfl := Option.some.inj h
      rfl
  | reconcileRead task userId observed =>
      simp only [applyExecutorOp, reconcileRead] at h
      split_ifs at h
      obtain rfl := Option.some.inj h
      rfl
  | resolveRead task cloid verdict =>
      simp only [applyExecutorOp, resolveRead] at h
      split at h
      · cases h
      split_ifs at h
      obtain rfl := Option.some.inj h
      rfl
  | resolveCommit task verifiedAt =>
      simp only [applyExecutorOp, resolveCommit] at h
      split at h
      · split at h
        · cases h
        split_ifs at h
        obtain ⟨row', -, rfl⟩ := Option.map_eq_some_iff.1 h
        rfl
      · cases h

/-- An ended job stays ended, unless an attempt at it is about to close. -/
lemma ended_of_op (h : applyExecutorOp venue s now op = some s')
    (hended : ∃ row, s.jobs.lookup id = some row ∧ row.state.active = false)
    (hclosing : ∀ t u n c, s.tasks.lookup t ≠ some (.attempt id u n (.closing c))) :
    ∃ row, s'.jobs.lookup id = some row ∧ row.state.active = false := by
  obtain ⟨row, hrow, hinactive⟩ := hended
  -- a write to a job in an active state is a write to another job
  have hother : ∀ id' row' new, s.jobs.lookup id' = some row' → row'.state.active = true →
      ∃ row, (s.jobs.insert id' new).lookup id = some row ∧ row.state.active = false := by
    intro id' row' new hrow' hactive
    refine ⟨row, ?_, hinactive⟩
    rw [Table.lookup_insert_eq, if_neg]
    · exact hrow
    · rintro rfl
      obtain rfl := Option.some.inj (hrow.symm.trans hrow')
      rw [hinactive] at hactive
      cases hactive
  have hsame : s'.jobs = s.jobs → ∃ row, s'.jobs.lookup id = some row ∧ row.state.active = false :=
    fun heq => ⟨row, heq ▸ hrow, hinactive⟩
  cases op with
  | enqueue id' job =>
      simp only [applyExecutorOp, enqueueJob] at h
      split_ifs at h with hbad
      obtain rfl := Option.some.inj h
      refine ⟨row, ?_, hinactive⟩
      change (s.jobs.insert id' _).lookup id = some row
      rw [Table.lookup_insert_eq, if_neg]
      · exact hrow
      · rintro rfl
        exact hbad (by rw [hrow]; rfl)
  | claim id' worker task =>
      simp only [applyExecutorOp, claimJob] at h
      split at h
      · cases h
      rename_i row' hrow'
      split_ifs at h with hfree hclaim
      obtain rfl := Option.some.inj h
      refine hother id' row' _ hrow' ?_
      simp only [Bool.and_eq_true, Bool.or_eq_true, decide_eq_true_eq] at hclaim
      obtain hstate | hstate := hclaim.1 <;> rw [hstate] <;> rfl
  | releaseStale id' =>
      simp only [applyExecutorOp, releaseStaleJob] at h
      split at h
      · cases h
      rename_i row' hrow'
      split at h
      · rename_i hstale
        obtain rfl := Option.some.inj h
        refine hother id' row' _ hrow' ?_
        simp only [Bool.and_eq_true, decide_eq_true_eq] at hstale
        rw [hstale.1]
        rfl
      · cases h
  | supersede id' =>
      simp only [applyExecutorOp, supersedeJob] at h
      split at h
      · cases h
      rename_i row' hrow'
      split_ifs at h with hactive
      obtain rfl := Option.some.inj h
      exact hother id' row' _ hrow' hactive
  | acquire task =>
      simp only [applyExecutorOp, acquireLock] at h
      split at h
      · split at h
        · cases h
        split at h
        · obtain rfl := Option.some.inj h
          exact hsame rfl
        rename_i row' hrow'
        split_ifs at h with hlost
        · obtain rfl := Option.some.inj h
          exact hsame rfl
        · obtain rfl := Option.some.inj h
          refine hother _ row' _ hrow' ?_
          simp only [Bool.or_eq_true, decide_eq_true_eq, not_or, not_not] at hlost
          rw [hlost.1.2]
          rfl
      · cases h
  | close task delay =>
      simp only [applyExecutorOp, closeAttempt] at h
      split at h
      · rename_i id' u n c htask
        obtain rfl := Option.some.inj h
        refine ⟨row, ?_, hinactive⟩
        change (Table.modify s.jobs id' _).lookup id = some row
        rw [Table.lookup_modify_of_ne]
        · exact hrow
        · rintro rfl
          exact hclosing task u n c htask
      · cases h
  | reconcileCommit task verifiedAt assets planned =>
      simp only [applyExecutorOp, reconcileCommit] at h
      split at h
      · split_ifs at h
        obtain ⟨jobs, hjobs, rfl⟩ := Option.map_eq_some_iff.1 h
        exact ⟨row, queueJobs_lookup hjobs hrow, hinactive⟩
      · cases h
  | begin | enterLeg | placeIoc | respond | applyFill | abandonFill | crash | fill =>
      exact hsame (jobs_of_op h rfl)
  | reconcileRead | resolveRead | resolveCommit => exact hsame (jobs_of_op h rfl)

lemma queueJobs_cases {planned : List PlannedJob} {jobs jobs' : Table JobId CopyJobRow}
    {row' : CopyJobRow} (h : queueJobs jobs planned = some jobs')
    (hrow' : jobs'.lookup id = some row') :
    jobs.lookup id = some row' ∨ ∃ p ∈ planned, row'.job = p.job := by
  induction planned generalizing jobs with
  | nil =>
      obtain rfl := Option.some.inj h
      exact Or.inl hrow'
  | cons p ps ih =>
      simp only [queueJobs] at h
      split_ifs at h
      obtain hold | ⟨q, hq, hjob⟩ := ih h
      · obtain ⟨-, rfl⟩ | hold' := Table.lookup_insert_cases hold
        · exact Or.inr ⟨p, List.mem_cons_self, rfl⟩
        · exact Or.inl hold'
      · exact Or.inr ⟨q, List.mem_cons_of_mem p hq, hjob⟩

/-- A job has been there, has just been queued, or comes from the reconciler. -/
lemma job_of_op (h : applyExecutorOp venue s now op = some s') {row' : CopyJobRow}
    (hrow' : s'.jobs.lookup id = some row') :
    (∃ row, s.jobs.lookup id = some row ∧ row'.job = row.job) ∨ op = .enqueue id row'.job ∨
      row'.job.origin = .reconcile := by
  -- a write to a job that is there leaves the job as it is
  have hold : ∀ {id' row new}, s.jobs.lookup id' = some row → s'.jobs = s.jobs.insert id' new →
      new.job = row.job → ∃ row, s.jobs.lookup id = some row ∧ row'.job = row.job := by
    intro id' row new hrow hjobs hjob
    rw [hjobs] at hrow'
    obtain ⟨rfl, rfl⟩ | hsame := Table.lookup_insert_cases hrow'
    · exact ⟨row, hrow, hjob⟩
    · exact ⟨row', hsame, rfl⟩
  have hsame : s'.jobs = s.jobs → ∃ row, s.jobs.lookup id = some row ∧ row'.job = row.job :=
    fun heq => ⟨row', heq ▸ hrow', rfl⟩
  cases op with
  | enqueue id' job =>
      simp only [applyExecutorOp, enqueueJob] at h
      split_ifs at h
      obtain rfl := Option.some.inj h
      obtain ⟨rfl, rfl⟩ | hold := Table.lookup_insert_cases hrow'
      · exact Or.inr (Or.inl rfl)
      · exact Or.inl ⟨row', hold, rfl⟩
  | claim id' worker task =>
      simp only [applyExecutorOp, claimJob] at h
      split at h
      · cases h
      rename_i row hrow
      split_ifs at h
      obtain rfl := Option.some.inj h
      exact Or.inl (hold hrow rfl rfl)
  | releaseStale id' =>
      simp only [applyExecutorOp, releaseStaleJob] at h
      split at h
      · cases h
      rename_i row hrow
      split at h
      · obtain rfl := Option.some.inj h
        exact Or.inl (hold hrow rfl rfl)
      · cases h
  | supersede id' =>
      simp only [applyExecutorOp, supersedeJob] at h
      split at h
      · cases h
      rename_i row hrow
      split_ifs at h
      obtain rfl := Option.some.inj h
      exact Or.inl (hold hrow rfl rfl)
  | acquire task =>
      simp only [applyExecutorOp, acquireLock] at h
      split at h
      · split at h
        · cases h
        split at h
        · obtain rfl := Option.some.inj h
          exact Or.inl (hsame rfl)
        rename_i row hrow
        split_ifs at h
        · obtain rfl := Option.some.inj h
          exact Or.inl (hsame rfl)
        · obtain rfl := Option.some.inj h
          exact Or.inl (hold hrow rfl rfl)
      · cases h
  | close task delay =>
      simp only [applyExecutorOp, closeAttempt] at h
      split at h
      · rename_i id' u n c htask
        obtain rfl := Option.some.inj h
        change (Table.modify s.jobs id' _).lookup id = some row' at hrow'
        rw [Table.lookup_modify] at hrow'
        split_ifs at hrow' with hid
        · obtain ⟨row, hrow, rfl⟩ := Option.map_eq_some_iff.1 hrow'
          refine Or.inl ⟨row, hid ▸ hrow, ?_⟩
          unfold closedRow
          split
          · rfl
          · split_ifs <;> rfl
        · exact Or.inl ⟨row', hrow', rfl⟩
      · cases h
  | reconcileCommit task verifiedAt assets planned =>
      simp only [applyExecutorOp, reconcileCommit] at h
      split at h
      · split_ifs at h with _ hall
        obtain ⟨jobs, hjobs, rfl⟩ := Option.map_eq_some_iff.1 h
        obtain hold | ⟨p, hp, hjob⟩ := queueJobs_cases hjobs hrow'
        · exact Or.inl ⟨row', hold, rfl⟩
        · simp only [Bool.not_eq_true', Bool.not_eq_false, List.all_eq_true] at hall
          have hmay := hall p hp
          simp only [reconcileMayQueue, Bool.and_eq_true, decide_eq_true_eq] at hmay
          refine Or.inr (Or.inr ?_)
          rw [hjob]
          exact hmay.1.1.1.1
      · cases h
  | begin | enterLeg | placeIoc | respond | applyFill | abandonFill | crash | fill =>
      exact Or.inl (hsame (jobs_of_op h rfl))
  | reconcileRead | resolveRead | resolveCommit => exact Or.inl (hsame (jobs_of_op h rfl))

lemma executorStep_op {action : ExecutorAction} (h : executorStep venue s action = some s') :
    s.clock < action.now ∧
      ∃ s₁, applyExecutorOp venue s action.now action.op = some s₁ ∧
        s' = { s₁ with clock := action.now } := by
  unfold executorStep at h
  split_ifs at h with hclock
  obtain ⟨s₁, hop, rfl⟩ := Option.map_eq_some_iff.1 h
  exact ⟨hclock, s₁, hop, rfl⟩

/-- The exchange is called by `placeIoc` and by nothing else. -/
lemma calls_of_step (h : executorStep venue s ⟨now, op⟩ = some s')
    (hop : ∀ t reaches, op ≠ .placeIoc t reaches) : s'.calls = s.calls := by
  obtain ⟨-, s₁, happly, hs₁⟩ := executorStep_op h
  obtain ⟨-, actor, s₂, heffect, rfl⟩ := executorStep_effect h
  cases heffect with
  | place t id u n a leg row reaches htask hrow =>
      exfalso
      have htasks : s₁.tasks = s.tasks.insert t (.attempt id u n (.inFlight a leg)) :=
        (congrArg ExecutorState.tasks hs₁).symm
      have ht' : s₁.tasks.lookup t = some (.attempt id u n (.inFlight a leg)) := by
        rw [htasks, AList.lookup_insert]
      have htask' : op.task = some t := by
        by_contra hother
        rw [(tasks_of_op happly).kept hother, htask] at ht'
        cases Option.some.inj ht'
      have hsuits := suits_of_op happly htask' htask
      cases op with
      | placeIoc t reaches => exact hop t reaches rfl
      | crash task =>
          obtain rfl := Option.some.inj htask'
          rw [crash_lookup happly] at ht'
          cases ht'
      | _ => cases hsuits
  | _ => rfl

/-- **A job that is over stays over.** -/
lemma JobOver.step {action : ExecutorAction} (h : JobOver s id)
    (hstep : executorStep venue s action = some s') : JobOver s' id := by
  obtain ⟨-, s₁, hop, rfl⟩ := executorStep_op hstep
  have hended : ∃ row, s₁.jobs.lookup id = some row ∧ row.state.active = false := by
    refine ended_of_op hop h.ended fun t u n c ht => ?_
    obtain ⟨w, hw⟩ := h.waiting t u n _ ht
    cases hw
  refine ⟨hended, fun t u n stage ht => ?_⟩
  by_contra hnot
  have hpast : ∀ w, stage ≠ .waiting w := fun w hw => hnot ⟨w, hw⟩
  obtain ⟨n', stage', hold, hbefore⟩ | ⟨row, hrow, hstate⟩ := (tasks_of_op hop).past ht hpast
  · obtain ⟨w, hw⟩ := h.waiting t u n' stage' hold
    exact hbefore w hw
  · obtain ⟨row', hrow', hinactive⟩ := h.ended
    obtain rfl := Option.some.inj (hrow.symm.trans hrow')
    rw [hstate] at hinactive
    cases hinactive

/-- Of the attempts at a job one at most is past the lock. -/
lemma Coherent.alone (hc : Coherent s) {t t' : TaskId} {u u' : UserId} {n n' : ℕ}
    {stage stage' : Stage} (ht : s.tasks.lookup t = some (.attempt id u n stage))
    (hpast : ∀ w, stage ≠ .waiting w) (ht' : s.tasks.lookup t' = some (.attempt id u' n' stage'))
    (hpast' : ∀ w, stage' ≠ .waiting w) : t' = t ∧ stage' = stage := by
  obtain rfl := (hc.jobOfUser ht).unique (hc.jobOfUser ht')
  obtain rfl := hc.exclusive t t' _ _ u ht ht' (holds_of_ne_waiting hpast)
    (holds_of_ne_waiting hpast')
  cases Option.some.inj (ht.symm.trans ht')
  exact ⟨rfl, rfl⟩

lemma not_jobOver_of_past {t : TaskId} {u : UserId} {n : ℕ} {stage : Stage}
    (ht : s.tasks.lookup t = some (.attempt id u n stage)) (hpast : ∀ w, stage ≠ .waiting w) :
    ¬ JobOver s id := by
  intro hover
  obtain ⟨w, hw⟩ := hover.waiting t u n stage ht
  exact hpast w hw

/-- An attempt that finishes its job ends it. -/
lemma closeAttempt_over (hc : Coherent s) {t : TaskId} {u : UserId} {n delay : ℕ} {state : JobState}
    (h : closeAttempt s t now delay = some s')
    (ht : s.tasks.lookup t = some (.attempt id u n (.closing (.finish state))))
    (hinactive : state.active = false) : JobOver s' id := by
  unfold closeAttempt at h
  rw [ht] at h
  obtain rfl := Option.some.inj h
  obtain ⟨row, hrow, -⟩ := hc.tasks t _ ht
  refine ⟨⟨closedRow row n (.finish state) now delay, ?_, hinactive⟩, ?_⟩
  · change (Table.modify s.jobs id _).lookup id = _
    rw [Table.lookup_modify_self, hrow]
    rfl
  · intro t' u' n' stage' ht'
    by_contra hnot
    have hpast : ∀ w, stage' ≠ .waiting w := fun w hw => hnot ⟨w, hw⟩
    have hold : s.tasks.lookup t' = some (.attempt id u' n' stage') := Table.lookup_of_erase ht'
    obtain ⟨rfl, -⟩ := hc.alone ht (by simp) hold hpast
    have hgone : (s.tasks.erase t').lookup t' = none := AList.lookup_erase _ _
    rw [show (s.tasks.erase t').lookup t' = some _ from ht'] at hgone
    cases hgone

/-! ## What is recorded about its order -/

/-- The order of the job has filled, and the fill is in the ledger. -/
def Filled (s : ExecutorState) (id : JobId) : Prop :=
  ∃ row, s.executions.lookup ⟨id, .o⟩ = some row ∧ row.state = .filled ∧
    row.ledgerAppliedAt.isSome = true

/-- The order of the job was never journaled, or its row is terminal and not FILLED.  It says nothing
of the exchange: where an answer was lost, a row that is CANCELED can hide a partial fill. -/
def Unfilled (s : ExecutorState) (id : JobId) : Prop :=
  ∀ row, s.executions.lookup ⟨id, .o⟩ = some row →
    row.state.terminal = true ∧ row.state ≠ .filled

lemma Filled.step {action : ExecutorAction} (h : Filled s id) (hd : Disciplined venue s)
    (hstep : executorStep venue s action = some s') : Filled s' id := by
  obtain ⟨-, actor, s₁, heffect, rfl⟩ := executorStep_effect hstep
  obtain ⟨row, hrow, hfilled, hmarked⟩ := h
  obtain ⟨row', hrow', hevolves⟩ := hd.row_forward heffect hrow
  refine ⟨row', hrow', ?_, hevolves.marked hmarked⟩
  rw [(hevolves.terminal (by rw [hfilled]; rfl)).1, hfilled]

/-- A row that is not FILLED stays so, and none is written, unless an attempt enters the leg. -/
lemma Unfilled.step {action : ExecutorAction} (h : Unfilled s id)
    (hidle : ∀ t u n a leg, s.tasks.lookup t ≠ some (.attempt id u n (.entering a leg)))
    (hd : Disciplined venue s) (hstep : executorStep venue s action = some s') :
    Unfilled s' id := by
  obtain ⟨-, actor, s₁, heffect, rfl⟩ := executorStep_effect hstep
  intro row' hrow'
  obtain ⟨row, hrow, hevolves⟩ | ⟨-, t, id', u, n, a, leg, -, hk, htask, -⟩ :=
    hd.row_backward heffect hrow'
  · obtain ⟨hterminal, hne⟩ := h row hrow
    rw [(hevolves.terminal hterminal).1]
    exact ⟨hterminal, hne⟩
  · obtain ⟨rfl, -⟩ := Cloid.mk.inj hk
    exact absurd htask (hidle t u n a leg)

lemma JobOver.idle (h : JobOver s id) (t : TaskId) (u : UserId) (n : ℕ) (a : Attempt)
    (leg : AttemptLeg) : s.tasks.lookup t ≠ some (.attempt id u n (.entering a leg)) := by
  intro ht
  obtain ⟨w, hw⟩ := h.waiting t u n _ ht
  cases hw

end Over

end HyperCopy

import HyperCopy.Risex.Submission

/-!
# What an action of the RISEx writer can do

`PhaseMove` lists what an attempt does to its own memory, `RisexRewrite` what any flush of a
loaded instance does to the row it belongs to, and `RisexEffect` what an action does to the
tables and the events.  `risexStep_effect` says that every action does one of these things; the
invariants of the runs are derived from it alone.

The one fact every flush shares is `spent`: no row is ever written back as a row that could be
claimed.
-/

namespace HyperCopy

open Fallible

/-- The row that `claim_risex_first_post` accepts. -/
def RisexExecution.Claimable (row : RisexExecution) : Prop :=
  row.state = .submitting ∧ row.submissionStatus = .prePostCommitted

/-- What a flush does to a row. -/
structure RisexRewrite (row row' : RisexExecution) : Prop where
  executionId : row'.executionId = row.executionId
  userId : row'.userId = row.userId
  asset : row'.asset = row.asset
  spent : ¬row'.Claimable
  unresolved : row'.state.unresolved = true → row.state.unresolved = true

lemma writeResponse_rewrite {seen : RisexExecution} (h : seen.submissionStatus ≠ .prePostCommitted)
    (row : RisexExecution) : RisexRewrite row (writeResponse seen row) :=
  ⟨rfl, rfl, rfl, fun hclaimable => h hclaimable.2, id⟩

lemma writeBlocked_rewrite (seen row : RisexExecution) :
    RisexRewrite row (writeBlocked seen row) := by
  refine ⟨rfl, rfl, rfl, ?_, ?_⟩
  · rintro ⟨hstate, -⟩
    cases hstate
  · intro hunresolved
    cases hunresolved

lemma terminal_of_caseATerminal {state : ExecutionState} (h : caseATerminal state = true) :
    state.terminal = true := by
  cases state <;> simp_all [caseATerminal, ExecutionState.terminal]

lemma writeSettled_rewrite {outcome : RisexSubmissionOutcome}
    (h : caseATerminal outcome.executionState = true) (seen row : RisexExecution) :
    RisexRewrite row (writeSettled outcome seen row) := by
  have hterminal := terminal_of_caseATerminal h
  refine ⟨rfl, rfl, rfl, ?_, ?_⟩
  · rintro ⟨hstate, -⟩
    have hsubmitting : outcome.executionState = .submitting := hstate
    rw [hsubmitting] at hterminal
    cases hterminal
  · intro hunresolved
    have hstate : outcome.executionState.unresolved = true := hunresolved
    simp [ExecutionState.unresolved, hterminal] at hstate

/-- The user and the asset of a job. -/
def RisexJob.market (job : RisexJob) : UserId × Asset := (job.userId, job.asset)

/-- The market of the execution. -/
def RisexExecution.market (row : RisexExecution) : UserId × Asset := (row.userId, row.asset)

/-- The user and the asset of the job with the given key. -/
def marketOf (jobs : Table JobId RisexJob) (jobId : JobId) : Option (UserId × Asset) :=
  (jobs.lookup jobId).map RisexJob.market

lemma marketOf_modify {jobs : Table JobId RisexJob} {jobId : JobId} {f : RisexJob → RisexJob}
    (hf : ∀ job, (f job).market = job.market) (j : JobId) :
    marketOf (Table.modify jobs jobId f) j = marketOf jobs j := by
  unfold marketOf
  rw [Table.lookup_modify]
  split_ifs with hj
  · subst hj
    cases jobs.lookup j with
    | none => rfl
    | some job => exact congrArg some (hf job)
  · rfl

/-! ## The effect of an action -/

/-- An action that only changes the memory of its attempt. -/
inductive PhaseMove (s : RisexState) (op : RisexOp) (t : RisexTaskId) (jobId : JobId)
    (job : RisexJob) : RisexPhase → RisexPhase → Prop
  | found : PhaseMove s op t jobId job .started (.prepared none)
  | checked (hop : op = .check t) (hnone : s.executions.lookup jobId = none)
      (hfree : unresolvedSameAsset s.executions job.userId job.asset none = false) :
      PhaseMove s op t jobId job .started .checked
  | signed (intent : RisexOrderIntent) (plan : RisexIocPlan) (request : RisexRequest) :
      PhaseMove s op t jobId job .checked (.signed intent plan request)
  | existing (intent : RisexOrderIntent) (plan : RisexIocPlan) (request : RisexRequest)
      (submission : RisexSubmission) :
      PhaseMove s op t jobId job (.signed intent plan request) (.prepared (some submission))
  | loaded (row : RisexExecution) (submission : RisexSubmission) :
      PhaseMove s op t jobId job (.prepared (some submission)) (.loaded row submission)
  | settling (submission : Option RisexSubmission) (row : RisexExecution)
      (outcome : RisexSubmissionOutcome) :
      PhaseMove s op t jobId job (.prepared submission) (.settling row outcome)

/-- What a step does. -/
inductive RisexEffect (s : RisexState) (op : RisexOp) : RisexState → Prop
  | finished (jobs : Table JobId RisexJob) (hjobs : ∀ j, marketOf jobs j = marketOf s.jobs j) :
      RisexEffect s op { s with jobs := jobs }
  | began (t : RisexTaskId) (jobId : JobId) (phase : RisexPhase)
      (hfree : s.tasks.lookup t = none)
      (hphase : phase = .started ∨ ∃ row outcome, phase = .settling row outcome) :
      RisexEffect s op { s with tasks := s.tasks.insert t ⟨jobId, phase, s.jobClaimed jobId⟩ }
  | ended (t : RisexTaskId) (jobs : Table JobId RisexJob)
      (hjobs : ∀ j, marketOf jobs j = marketOf s.jobs j) : RisexEffect s op (s.endTask t jobs)
  | moved (t : RisexTaskId) (task : RisexTask) (job : RisexJob) (phase : RisexPhase)
      (htask : s.tasks.lookup t = some task) (hjob : s.jobs.lookup task.jobId = some job)
      (hmove : PhaseMove s op t task.jobId job task.phase phase) :
      RisexEffect s op (s.toPhase t task phase)
  | inserted (t : RisexTaskId) (task : RisexTask) (job : RisexJob) (intent : RisexOrderIntent)
      (plan : RisexIocPlan) (request : RisexRequest) (row : RisexExecution)
      (submission : RisexSubmission) (htask : s.tasks.lookup t = some task)
      (hjob : s.jobs.lookup task.jobId = some job)
      (hphase : task.phase = .signed intent plan request)
      (hnone : s.executions.lookup task.jobId = none)
      (hnew : ∀ j r, s.executions.lookup j = some r → r.executionId ≠ row.executionId)
      (huser : row.userId = job.userId) (hasset : row.asset = job.asset) :
      RisexEffect s op { s.toPhase t task (.prepared (some submission)) with
        executions := s.executions.insert task.jobId row }
  | claimed (t : RisexTaskId) (task : RisexTask) (fence : FenceReads)
      (seen claimed row : RisexExecution) (submission : RisexSubmission)
      (htask : s.tasks.lookup t = some task) (hop : op = .claim t fence)
      (hphase : task.phase = .loaded seen submission) (hseen : seen.Claimable)
      (hrow : s.executions.lookup task.jobId = some row)
      (hid : row.executionId = submission.executionId)
      (hstatus : claimed.submissionStatus = .postInFlight) :
      RisexEffect s op { s.toPhase t task (.claimed claimed submission) with
        executions := Table.modify s.executions task.jobId (writeResponse claimed)
        events := .claimed submission.executionId task.jobId :: s.events }
  | posted (t : RisexTaskId) (task : RisexTask) (seen : RisexExecution)
      (submission : RisexSubmission) (htask : s.tasks.lookup t = some task)
      (hphase : task.phase = .claimed seen submission) :
      RisexEffect s op { s.toPhase t task (.posted seen submission) with
        events := .posted submission.executionId task.jobId submission.request.order ::
          s.events }
  | answered (t : RisexTaskId) (task : RisexTask) (seen answered : RisexExecution)
      (submission : RisexSubmission) (outcome : RisexSubmissionOutcome)
      (htask : s.tasks.lookup t = some task) (hphase : task.phase = .posted seen submission)
      (hstatus : answered.submissionStatus ≠ .prePostCommitted) :
      RisexEffect s op { s.toPhase t task (.settling answered outcome) with
        executions := Table.modify s.executions task.jobId (writeResponse answered) }
  | rewritten (t : RisexTaskId) (task : RisexTask) (jobs : Table JobId RisexJob)
      (f : RisexExecution → RisexExecution) (htask : s.tasks.lookup t = some task)
      (hjobs : ∀ j, marketOf jobs j = marketOf s.jobs j)
      (hrewrite : ∀ row, RisexRewrite row (f row)) :
      RisexEffect s op { s.endTask t jobs with
        executions := Table.modify s.executions task.jobId f }

/-! ## Every action has one of the effects -/

section

variable {normalized : Symbol → Symbol} {s s' : RisexState} {op : RisexOp} {t : RisexTaskId}
  {task : RisexTask} {job : RisexJob}

lemma withTask_eq_some {f : RisexTask → RisexJob → Option RisexState}
    (h : risexStep.withTask s t f = some s') :
    ∃ task job, s.tasks.lookup t = some task ∧ s.jobs.lookup task.jobId = some job ∧
      f task job = some s' := by
  obtain ⟨task, htask, h⟩ := Option.bind_eq_some_iff.1 h
  obtain ⟨job, hjob, h⟩ := Option.bind_eq_some_iff.1 h
  exact ⟨task, job, htask, hjob, h⟩

lemma beginStep_effect {jobId : JobId} (hfree : s.tasks.lookup t = none) :
    RisexEffect s op (beginStep s t jobId) := by
  unfold beginStep
  split
  · exact .finished _ (marketOf_modify fun _ => rfl)
  · exact .began t jobId _ hfree (Or.inr ⟨_, _, rfl⟩)
  · exact .began t jobId _ hfree (Or.inl rfl)

lemma checkStep_effect (htask : s.tasks.lookup t = some task)
    (hjob : s.jobs.lookup task.jobId = some job) (hphase : task.phase = .started) :
    RisexEffect s (.check t) (checkStep s t task job) := by
  have hfound : PhaseMove s (.check t) t task.jobId job task.phase (.prepared none) := by
    rw [hphase]
    exact .found
  unfold checkStep
  split_ifs with hnetwork hrow hpeer
  · exact .ended t s.jobs fun _ => rfl
  · exact .moved t task job _ htask hjob hfound
  · exact .moved t task job _ htask hjob hfound
  · refine .moved t task job _ htask hjob ?_
    rw [hphase]
    exact .checked rfl (by simpa using hrow) (by simpa using hpeer)

lemma persistStep_effect {newId : ExecutionId} {intent : RisexOrderIntent} {plan : RisexIocPlan}
    {request : RisexRequest} (htask : s.tasks.lookup t = some task)
    (hjob : s.jobs.lookup task.jobId = some job)
    (hphase : task.phase = .signed intent plan request) :
    RisexEffect s op (persistStep s t task job newId intent plan request) := by
  unfold persistStep
  split
  · exact .ended t s.jobs fun _ => rfl
  · rename_i executions row hpersist
    dsimp only
    rcases persist_eq_ok hpersist with ⟨hlookup, rfl⟩ |
      ⟨hnone, rfl, hunique, hid, huser, hasset, -, hverify⟩
    · split
      · exact .ended t s.jobs fun _ => rfl
      · refine .moved t task job _ htask hjob ?_
        rw [hphase]
        exact .existing intent plan request _
    · rw [hverify]
      refine .inserted t task job intent plan request row _ htask hjob hphase hnone ?_ huser
        hasset
      intro j r hr
      have hne := Table.any_eq_false.1 hunique j r hr
      simp only [Bool.or_eq_false_iff, decide_eq_false_iff_not] at hne
      rw [hid]
      exact hne.1.1

lemma loadStep_effect {submission : Option RisexSubmission}
    (htask : s.tasks.lookup t = some task) (hjob : s.jobs.lookup task.jobId = some job)
    (hphase : task.phase = .prepared submission) :
    RisexEffect s op (loadStep s t task job submission) := by
  unfold loadStep
  dsimp only
  split_ifs with hdestination
  · exact .ended t _ (marketOf_modify fun _ => rfl)
  · split
    · exact .ended t _ (marketOf_modify fun _ => rfl)
    · refine .moved t task job _ htask hjob ?_
      rw [hphase]
      exact .settling submission _ _
    · split
      · rename_i submission'
        refine .moved t task job _ htask hjob ?_
        rw [hphase]
        exact .loaded _ submission'
      · exact .ended t _ (marketOf_modify fun _ => rfl)
    · exact .ended t _ (marketOf_modify fun _ => rfl)

lemma claimStep_effect {fence : FenceReads} {seen : RisexExecution}
    {submission : RisexSubmission} (htask : s.tasks.lookup t = some task)
    (hphase : task.phase = .loaded seen submission) :
    RisexEffect s (.claim t fence) (claimStep s t task job fence seen submission) := by
  unfold claimStep
  split_ifs with hid
  · exact .ended t s.jobs fun _ => rfl
  · obtain ⟨row, hrow, hid⟩ := Option.map_eq_some_iff.1 (not_not.1 hid)
    split
    · exact .ended t s.jobs fun _ => rfl
    · unfold refusedStep
      split_ifs
      · exact .ended t s.jobs fun _ => rfl
      · exact .ended t _ (marketOf_modify fun _ => rfl)
    · rename_i blocked hclaim
      exact .rewritten t task _ (writeBlocked blocked) htask (marketOf_modify fun _ => rfl)
        (writeBlocked_rewrite blocked)
    · rename_i claimed hclaim
      obtain ⟨hstate, hstatus, -, rfl⟩ := claimRisexFirstPost_claimed hclaim
      exact .claimed t task fence seen _ row submission htask rfl hphase ⟨hstate, hstatus⟩ hrow
        hid rfl

lemma respondStep_effect {seen : RisexExecution} {submission : RisexSubmission}
    {response : RisexResponse} (htask : s.tasks.lookup t = some task)
    (hphase : task.phase = .posted seen submission) :
    RisexEffect s op (respondStep s t task seen response) := by
  unfold respondStep
  dsimp only
  split_ifs with hdefinitive
  · exact .answered t task seen _ submission _ htask hphase (by simp)
  · exact .rewritten t task _ _ htask (marketOf_modify fun _ => rfl)
      (writeResponse_rewrite (by simp))

lemma settleStep_effect {seen : RisexExecution} {outcome : RisexSubmissionOutcome}
    {baseline : Bool} (htask : s.tasks.lookup t = some task) :
    RisexEffect s op (settleStep s t task seen outcome baseline) := by
  unfold settleStep
  dsimp only
  split_ifs with hseen hbaseline hpeer houtcome
  · exact .ended t _ (marketOf_modify fun _ => rfl)
  · exact .ended t _ (marketOf_modify fun _ => rfl)
  · exact .ended t _ (marketOf_modify fun _ => rfl)
  · exact .ended t _ (marketOf_modify fun _ => rfl)
  · have hterminal : caseATerminal outcome.executionState = true := by
      simp only [Bool.or_eq_true, Bool.not_eq_true', not_or, Bool.not_eq_false] at houtcome
      exact houtcome.2
    exact .rewritten t task _ _ htask (marketOf_modify fun _ => rfl)
      (writeSettled_rewrite hterminal seen)

/-- **Every action does one of the things `RisexEffect` lists.** -/
theorem risexStep_effect (h : risexStep normalized s op = some s') : RisexEffect s op s' := by
  cases op with
  | begin t jobId =>
      simp only [risexStep] at h
      split_ifs at h with hbegin
      obtain rfl := Option.some.inj h
      simp only [Bool.and_eq_true, Option.isNone_iff_eq_none] at hbegin
      exact beginStep_effect hbegin.1
  | resolve t jobId outcome =>
      simp only [risexStep] at h
      split at h
      · rename_i row hfree hrow
        split_ifs at h with hguard
        obtain rfl := Option.some.inj h
        exact .began t jobId _ hfree (Or.inr ⟨row, outcome, rfl⟩)
      · cases h
  | check t =>
      obtain ⟨task, job, htask, hjob, h⟩ := withTask_eq_some h
      split at h
      · rename_i hphase
        obtain rfl := Option.some.inj h
        exact checkStep_effect htask hjob hphase
      · cases h
  | sign t reads preparation nonceAnchor nonceBitmapIndex =>
      obtain ⟨task, job, htask, hjob, h⟩ := withTask_eq_some h
      split at h
      · rename_i hphase
        split at h
        · obtain rfl := Option.some.inj h
          exact .ended t s.jobs fun _ => rfl
        · obtain rfl := Option.some.inj h
          refine .moved t task job _ htask hjob ?_
          rw [hphase]
          exact .signed _ _ _
      · cases h
  | persist t newId =>
      obtain ⟨task, job, htask, hjob, h⟩ := withTask_eq_some h
      split at h
      · rename_i intent plan request hphase
        obtain rfl := Option.some.inj h
        exact persistStep_effect htask hjob hphase
      · cases h
  | load t =>
      obtain ⟨task, job, htask, hjob, h⟩ := withTask_eq_some h
      split at h
      · rename_i submission hphase
        obtain rfl := Option.some.inj h
        exact loadStep_effect htask hjob hphase
      · cases h
  | refuseStrategy t =>
      obtain ⟨task, job, htask, hjob, h⟩ := withTask_eq_some h
      split at h
      · obtain rfl := Option.some.inj h
        exact .ended t _ (marketOf_modify fun _ => rfl)
      · cases h
  | claim t fence =>
      obtain ⟨task, job, htask, hjob, h⟩ := withTask_eq_some h
      split at h
      · rename_i seen submission hphase
        obtain rfl := Option.some.inj h
        exact claimStep_effect htask hphase
      · cases h
  | post t =>
      obtain ⟨task, job, htask, hjob, h⟩ := withTask_eq_some h
      split at h
      · rename_i seen submission hphase
        obtain rfl := Option.some.inj h
        exact .posted t task seen submission htask hphase
      · cases h
  | respond t response =>
      obtain ⟨task, job, htask, hjob, h⟩ := withTask_eq_some h
      split at h
      · rename_i seen submission hphase
        obtain rfl := Option.some.inj h
        exact respondStep_effect htask hphase
      · cases h
  | settle t baseline =>
      obtain ⟨task, job, htask, hjob, h⟩ := withTask_eq_some h
      split at h
      · rename_i seen outcome hphase
        obtain rfl := Option.some.inj h
        exact settleStep_effect htask
      · cases h
  | fail t =>
      obtain ⟨task, job, htask, hjob, h⟩ := withTask_eq_some h
      obtain rfl := Option.some.inj h
      exact .ended t s.jobs fun _ => rfl

end

end HyperCopy

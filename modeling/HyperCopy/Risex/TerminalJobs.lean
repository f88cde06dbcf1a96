import HyperCopy.Risex.JobWriters
import HyperCopy.Risex.Unresolved

/-!
# A job that has ended, and its execution

An execution that is `SUBMITTING` or `UNKNOWN` is settled through its job, so the job has to be live.
The writer itself ends a job only with its terminal execution, and the expiry of stale jobs leaves out
those with an unresolved execution.  The other writers end a job without a look at the execution:
`ExecutionResolved` is the condition that there is none that is unresolved.  It is also the job that
has to be live when its execution is inserted.
-/

namespace HyperCopy

open Transition Fallible

/-! ## The property -/

/-- No job is `DONE`, `SKIPPED` or `DEAD` while its execution is `SUBMITTING` or `UNKNOWN`. -/
structure TerminalJobs (s : RisexState) : Prop where
  resolved : ∀ jobId job row, s.jobs.lookup jobId = some job → s.executions.lookup jobId = some row →
    job.state.active = false → row.state.unresolved = false
  /-- An unresolved execution has a live job. -/
  live : ∀ jobId row, s.executions.lookup jobId = some row → row.state.unresolved = true →
    ∃ job, s.jobs.lookup jobId = some job ∧ job.state.active = true

namespace RisexJobSystem

/-- A failure of the job leads to another attempt. -/
def mayRetry (s : RisexJobSystem) (jobId : JobId) : Bool :=
  (s.writer.jobs.lookup jobId).all fun job => job.attemptCount < maxJobRetries

/-- The job of an attempt has no unresolved execution. -/
def attemptResolved (s : RisexJobSystem) (t : RisexTaskId) : Prop :=
  ∀ task ∈ s.attempt t, s.unresolved task.jobId = false

/-- The job is live, where the execution is a new one. -/
def insertsForLive (s : RisexJobSystem) (t : RisexTaskId) : Prop :=
  ∀ task ∈ s.attempt t, s.writer.executions.lookup task.jobId = none →
    ∀ job ∈ s.writer.jobs.lookup task.jobId, job.state.active = true

end RisexJobSystem

/-- What the steps of the RISEx writer may end and insert. -/
def WriterResolved (s : RisexJobSystem) : RisexOp → Prop
  | .refuseStrategy t => s.attemptResolved t
  | .persist t _ => s.insertsForLive t
  | .begin _ _ | .check _ | .sign _ _ _ _ _ | .load _ | .claim _ _ | .post _ | .respond _ _
  | .resolve _ _ _ | .settle _ _ | .fail _ => True

/-- A write that ends a job finds no unresolved execution of it, and an execution is inserted for a
live job. -/
def ExecutionResolved (normalized : Symbol → Symbol) (s : RisexJobSystem) : RisexJobOp → Prop
  | .writer op => WriterResolved s op ∧
      ∀ jobId ∈ RisexJobSystem.preparationRaises normalized s.writer op,
        s.mayRetry jobId = true ∨ s.unresolved jobId = false
  | .releaseStaleJob jobId => s.mayRetry jobId = true ∨ s.unresolved jobId = false
  | .refuseDestination jobId | .refuseNetworks jobId | .refuseMasterSource jobId
  | .markSuperseded jobId | .rollbackActivation jobId => s.unresolved jobId = false
  | .refuseContext t | .refuseCredential t _ => s.attemptResolved t
  | .failPreparation t _ => ∀ task ∈ s.attempt t,
      s.mayRetry task.jobId = true ∨ s.unresolved task.jobId = false
  | .tick _ | .claimJob _ | .expireStaleStrategyJob _ | .refuseWindow _ => True

instance (s : RisexJobSystem) (t : RisexTaskId) : Decidable (s.attemptResolved t) :=
  inferInstanceAs (Decidable (∀ task ∈ s.attempt t, s.unresolved task.jobId = false))

instance (s : RisexJobSystem) (t : RisexTaskId) : Decidable (s.insertsForLive t) :=
  inferInstanceAs (Decidable (∀ task ∈ s.attempt t, s.writer.executions.lookup task.jobId = none →
    ∀ job ∈ s.writer.jobs.lookup task.jobId, job.state.active = true))

instance (s : RisexJobSystem) (op : RisexOp) : Decidable (WriterResolved s op) :=
  match op with
  | .refuseStrategy t => inferInstanceAs (Decidable (s.attemptResolved t))
  | .persist t _ => inferInstanceAs (Decidable (s.insertsForLive t))
  | .begin _ _ | .check _ | .sign _ _ _ _ _ | .load _ | .claim _ _ | .post _ | .respond _ _
  | .resolve _ _ _ | .settle _ _ | .fail _ => isTrue trivial

instance (normalized : Symbol → Symbol) (s : RisexJobSystem) (op : RisexJobOp) :
    Decidable (ExecutionResolved normalized s op) :=
  match op with
  | .writer op => inferInstanceAs (Decidable (WriterResolved s op ∧
      ∀ jobId ∈ RisexJobSystem.preparationRaises normalized s.writer op,
        s.mayRetry jobId = true ∨ s.unresolved jobId = false))
  | .releaseStaleJob jobId =>
      inferInstanceAs (Decidable (s.mayRetry jobId = true ∨ s.unresolved jobId = false))
  | .refuseDestination jobId | .refuseNetworks jobId | .refuseMasterSource jobId
  | .markSuperseded jobId | .rollbackActivation jobId =>
      inferInstanceAs (Decidable (s.unresolved jobId = false))
  | .refuseContext t | .refuseCredential t _ => inferInstanceAs (Decidable (s.attemptResolved t))
  | .failPreparation t _ => inferInstanceAs (Decidable (∀ task ∈ s.attempt t,
      s.mayRetry task.jobId = true ∨ s.unresolved task.jobId = false))
  | .tick _ | .claimJob _ | .expireStaleStrategyJob _ | .refuseWindow _ => isTrue trivial

/-! ## The invariant -/

/-- The execution an attempt has loaded was not terminal. -/
def RisexPhase.openExecution : RisexPhase → Prop
  | .loaded seen _ | .claimed seen _ | .posted seen _ | .settling seen _ =>
      seen.state.terminal = false
  | .started | .checked | .signed _ _ _ | .prepared _ => True

/-- A RISEx job that another attempt may take. -/
def RisexJob.Live (job : RisexJob) : Prop :=
  job.state.active = true ∧ job.executionProvider = some .risex

/-- Every unresolved execution has a live job, and every attempt works on an open execution. -/
structure LiveJobs (s : RisexState) : Prop where
  live : ∀ jobId row, s.executions.lookup jobId = some row → row.state.unresolved = true →
    ∃ job, s.jobs.lookup jobId = some job ∧ job.Live
  phases : ∀ t task, s.tasks.lookup t = some task → task.phase.openExecution

lemma LiveJobs.terminalJobs {s : RisexState} (h : LiveJobs s) : TerminalJobs s := by
  refine ⟨fun jobId job row hjob hrow hended => ?_, fun jobId row hrow hunresolved => ?_⟩
  · by_contra hunresolved
    obtain ⟨job', hjob', hactive, -⟩ := h.live jobId row hrow (by simpa using hunresolved)
    obtain rfl := Option.some.inj (hjob.symm.trans hjob')
    rw [hended] at hactive
    cases hactive
  · obtain ⟨job, hjob, hactive, -⟩ := h.live jobId row hrow hunresolved
    exact ⟨job, hjob, hactive⟩

/-! ## Steps of the RISEx writer -/

section Writer

variable {normalized : Symbol → Symbol} {s s' : RisexState} {t : RisexTaskId} {task : RisexTask}
  {job : RisexJob}

/-- Where a step leaves an execution unresolved it was so before, or is new, and the job is still
live. -/
lemma LiveJobs.frame (h : LiveJobs s)
    (hrows : ∀ jobId row', s'.executions.lookup jobId = some row' → row'.state.unresolved = true →
      (∃ row, s.executions.lookup jobId = some row ∧ row.state.unresolved = true) ∧
        ∀ job, s.jobs.lookup jobId = some job → job.Live →
          ∃ job', s'.jobs.lookup jobId = some job' ∧ job'.Live)
    (htasks : ∀ t task, s'.tasks.lookup t = some task →
      s.tasks.lookup t = some task ∨ task.phase.openExecution) : LiveJobs s' := by
  refine ⟨fun jobId row' hrow' hunresolved' => ?_, fun t task htask => ?_⟩
  · obtain ⟨⟨row, hrow, hunresolved⟩, hjobs⟩ := hrows jobId row' hrow' hunresolved'
    obtain ⟨job, hjob, hlive⟩ := h.live jobId row hrow hunresolved
    exact hjobs job hjob hlive
  · rcases htasks t task htask with hold | hopen
    · exact h.phases t task hold
    · exact hopen

/-- Jobs that stay live under a change. -/
lemma modify_live {jobs : Table JobId RisexJob} {jobId : JobId} {f : RisexJob → RisexJob}
    (hf : ∀ job, jobs.lookup jobId = some job → job.Live → (f job).Live) {j : JobId}
    {job : RisexJob} (hjob : jobs.lookup j = some job) (hlive : job.Live) :
    ∃ job', (Table.modify jobs jobId f).lookup j = some job' ∧ job'.Live := by
  rw [Table.lookup_modify]
  split_ifs with hj
  · subst hj
    exact ⟨f job, by rw [hjob]; rfl, hf job hjob hlive⟩
  · exact ⟨job, hjob, hlive⟩

/-- A change of a job leaves the other jobs live. -/
lemma modify_live_of_ne {jobs : Table JobId RisexJob} {jobId : JobId} {f : RisexJob → RisexJob}
    {j : JobId} (hj : j ≠ jobId) {job : RisexJob} (hjob : jobs.lookup j = some job)
    (hlive : job.Live) :
    ∃ job', (Table.modify jobs jobId f).lookup j = some job' ∧ job'.Live := by
  rw [Table.lookup_modify_of_ne _ _ hj]
  exact ⟨job, hjob, hlive⟩

/-- An attempt begins, or changes its phase. -/
lemma LiveJobs.insertTask (h : LiveJobs s) (t : RisexTaskId) (task : RisexTask)
    (hopen : task.phase.openExecution) : LiveJobs { s with tasks := s.tasks.insert t task } := by
  refine h.frame (fun _ row hrow hunresolved => ⟨⟨row, hrow, hunresolved⟩, fun job hjob hlive =>
    ⟨job, hjob, hlive⟩⟩) fun t' task' htask' => ?_
  rcases Table.lookup_insert_cases htask' with ⟨-, rfl⟩ | hold
  · exact .inr hopen
  · exact .inl hold

lemma LiveJobs.toPhase (h : LiveJobs s) {phase : RisexPhase} (hopen : phase.openExecution) :
    LiveJobs (s.toPhase t task phase) :=
  h.insertTask t { task with phase := phase } hopen

lemma LiveJobs.endTask (h : LiveJobs s) : LiveJobs (s.endTask t s.jobs) :=
  h.frame (fun _ row hrow hunresolved => ⟨⟨row, hrow, hunresolved⟩, fun job hjob hlive =>
    ⟨job, hjob, hlive⟩⟩) fun _ _ htask => .inl (Table.lookup_of_erase htask)

/-- A change that keeps a job live. -/
lemma LiveJobs.modify (h : LiveJobs s) (jobId : JobId) {f : RisexJob → RisexJob}
    (hf : ∀ job, s.jobs.lookup jobId = some job → job.Live → (f job).Live) :
    LiveJobs { s with jobs := Table.modify s.jobs jobId f } :=
  h.frame (fun _ row hrow hunresolved => ⟨⟨row, hrow, hunresolved⟩, fun _ hjob hlive =>
    modify_live hf hjob hlive⟩) fun _ _ htask => .inl htask

/-- A change of a job whose execution is resolved. -/
lemma LiveJobs.modify_resolved (h : LiveJobs s) (jobId : JobId) {f : RisexJob → RisexJob}
    (hresolved : ∀ row, s.executions.lookup jobId = some row → row.state.unresolved = false) :
    LiveJobs { s with jobs := Table.modify s.jobs jobId f } := by
  refine h.frame (fun j row hrow hunresolved => ⟨⟨row, hrow, hunresolved⟩, fun job hjob hlive => ?_⟩)
    fun _ _ htask => .inl htask
  have hne : j ≠ jobId := by
    rintro rfl
    rw [hresolved row hrow] at hunresolved
    cases hunresolved
  exact modify_live_of_ne hne hjob hlive

lemma recover_finish {row : Option RisexExecution} {state : ExecutionState}
    (h : recoverRisexCaseAJob row = .finish state) : ∀ r, row = some r → r.state.unresolved = false := by
  rintro r rfl
  simp only [recoverRisexCaseAJob] at h
  split_ifs at h with hterminal
  · simp [ExecutionState.unresolved, hterminal]
  · split at h <;> cases h

lemma recover_open {row : RisexExecution} {recovery : CaseARecovery}
    (h : recoverRisexCaseAJob (some row) = recovery) (hopen : ∀ state, recovery ≠ .finish state) :
    row.state.terminal = false := by
  by_contra hterminal
  refine hopen row.state ?_
  rw [← h]
  simp only [recoverRisexCaseAJob]
  rw [if_pos (by simpa using hterminal)]

lemma LiveJobs.begin (h : LiveJobs s) {jobId : JobId} : LiveJobs (beginStep s t jobId) := by
  unfold beginStep
  split
  · rename_i state hrecover
    exact h.modify_resolved jobId (recover_finish hrecover)
  · rename_i outcome row hrecover hrow
    have hopen : row.state.terminal = false := by
      rw [hrow] at hrecover
      exact recover_open hrecover (by simp)
    exact h.insertTask t ⟨jobId, .settling row outcome, s.jobClaimed jobId⟩ hopen
  · exact h.insertTask t ⟨jobId, .started, s.jobClaimed jobId⟩ trivial

/-- A flush of an instance does not make its row unresolved. -/
lemma LiveJobs.rewrite (h : LiveJobs s) (jobId : JobId) {f : RisexExecution → RisexExecution}
    (hf : ∀ row, RisexRewrite row (f row)) :
    LiveJobs { s with executions := Table.modify s.executions jobId f } := by
  refine h.frame (fun j row' hrow' hunresolved' => ?_) fun _ _ htask => .inl htask
  obtain ⟨row, hrow, hunresolved, -⟩ := modify_keepsResolved hf j row' hrow' hunresolved'
  exact ⟨⟨row, hrow, hunresolved⟩, fun job hjob hlive => ⟨job, hjob, hlive⟩⟩

/-- A job that is ended in one transaction with its execution. -/
lemma LiveJobs.terminate (h : LiveJobs s) (jobId : JobId) {f : RisexExecution → RisexExecution}
    {g : RisexJob → RisexJob} (hf : ∀ row, RisexRewrite row (f row))
    (hresolved : ∀ row, (f row).state.unresolved = false) :
    LiveJobs { s with
      jobs := Table.modify s.jobs jobId g
      executions := Table.modify s.executions jobId f } := by
  refine (h.rewrite jobId hf).modify_resolved jobId fun row hrow => ?_
  have hmodified : (Table.modify s.executions jobId f).lookup jobId = some row := hrow
  rw [Table.lookup_modify_self] at hmodified
  obtain ⟨before, -, rfl⟩ := Option.map_eq_some_iff.1 hmodified
  exact hresolved before

/-- The events are history. -/
lemma LiveJobs.record (h : LiveJobs s) (events : List RisexEvent) :
    LiveJobs { s with events := events } :=
  ⟨h.live, h.phases⟩

lemma deferForResolution_live (hlive : job.Live) : (deferForResolution job).Live :=
  ⟨rfl, hlive.2⟩

lemma LiveJobs.defer (h : LiveJobs s) (jobId : JobId) :
    LiveJobs (s.endTask t (Table.modify s.jobs jobId deferForResolution)) :=
  (h.modify jobId fun _ _ hlive => deferForResolution_live hlive).endTask

lemma LiveJobs.check (h : LiveJobs s) : LiveJobs (checkStep s t task job) := by
  unfold checkStep
  split_ifs
  · exact h.endTask
  · exact h.toPhase trivial
  · exact h.toPhase trivial
  · exact h.toPhase trivial

/-- A new execution is one of a live job. -/
lemma LiveJobs.insert (h : LiveJobs s) {jobId : JobId} {row : RisexExecution}
    (hjob : s.jobs.lookup jobId = some job) (hlive : job.Live) :
    LiveJobs { s with executions := s.executions.insert jobId row } := by
  refine ⟨fun j row' hrow' hunresolved => ?_, h.phases⟩
  rcases Table.lookup_insert_cases hrow' with ⟨rfl, -⟩ | hold
  · exact ⟨job, hjob, hlive⟩
  · exact h.live j row' hold hunresolved

lemma persist_provider {executions executions' : RisexExecutions} {newId : ExecutionId}
    {jobId : JobId} {intent : RisexOrderIntent} {plan : RisexIocPlan} {request : RisexRequest}
    {row : RisexExecution}
    (h : persistRisexPrePostExecution executions newId jobId job intent plan request =
      .ok (executions', row)) : job.executionProvider = some .risex := by
  obtain ⟨hprovider, -⟩ := require_bind_eq_ok.1 h
  exact of_decide_eq_true hprovider

lemma LiveJobs.persist (h : LiveJobs s) {newId : ExecutionId} {intent : RisexOrderIntent}
    {plan : RisexIocPlan} {request : RisexRequest} (hjob : s.jobs.lookup task.jobId = some job)
    (hlive : s.executions.lookup task.jobId = none → job.state.active = true) :
    LiveJobs (persistStep s t task job newId intent plan request) := by
  unfold persistStep
  split
  · exact h.endTask
  · rename_i executions row hpersist
    have hexecutions : LiveJobs { s with executions := executions } := by
      rcases persist_eq_ok hpersist with ⟨-, rfl⟩ | ⟨hnone, rfl, -⟩
      · exact h
      · exact h.insert hjob ⟨hlive hnone, persist_provider hpersist⟩
    dsimp only
    split
    · exact hexecutions.endTask
    · exact hexecutions.toPhase trivial

lemma LiveJobs.load (h : LiveJobs s) {submission : Option RisexSubmission} :
    LiveJobs (loadStep s t task job submission) := by
  unfold loadStep
  dsimp only
  by_cases hdestination :
      job.executionProvider ≠ some .risex ∨ job.executionNetwork ≠ some .testnet
  · rw [if_pos hdestination]
    exact h.defer task.jobId
  · rw [if_neg hdestination]
    cases hrow : s.executions.lookup task.jobId with
    | none => exact h.defer task.jobId
    | some row =>
        cases hrecover : recoverRisexCaseAJob (some row) with
        | finish state =>
            have hfinish := recover_finish hrecover
            exact (h.modify_resolved task.jobId fun r hr => hfinish r (hrow ▸ hr)).endTask
        | settle outcome =>
            have hopen : row.state.terminal = false :=
              recover_open hrecover (by simp)
            exact h.toPhase hopen
        | proceed =>
            have hopen : row.state.terminal = false :=
              recover_open hrecover (by simp)
            cases submission with
            | none => exact h.defer task.jobId
            | some submission => exact h.toPhase hopen

lemma LiveJobs.claim (h : LiveJobs s) {fence : FenceReads} {seen : RisexExecution}
    {submission : RisexSubmission} :
    LiveJobs (claimStep s t task job fence seen submission) := by
  unfold claimStep
  by_cases hid : (s.executions.lookup task.jobId).map (·.executionId) ≠ some submission.executionId
  · rw [if_pos hid]
    exact h.endTask
  · rw [if_neg hid]
    split
    · exact h.endTask
    · unfold refusedStep
      split_ifs
      · exact h.endTask
      · exact h.defer task.jobId
    · rename_i blocked hclaim
      exact (h.terminate task.jobId (writeBlocked_rewrite blocked) fun _ => rfl).endTask
    · rename_i claimed hclaim
      obtain ⟨hstate, hstatus, -, rfl⟩ := claimRisexFirstPost_claimed hclaim
      have hopen : seen.state.terminal = false := by
        rw [hstate]
        rfl
      have hwritten := h.rewrite task.jobId (writeResponse_rewrite
        (show ({ seen with submissionStatus := .postInFlight } : RisexExecution).submissionStatus ≠
          .prePostCommitted by simp))
      have hphase : (RisexPhase.claimed { seen with submissionStatus := .postInFlight }
        submission).openExecution := hopen
      exact (hwritten.toPhase hphase).record _

lemma LiveJobs.respond (h : LiveJobs s) {seen : RisexExecution} {response : RisexResponse}
    (hopen : seen.state.terminal = false) : LiveJobs (respondStep s t task seen response) := by
  have hwritten : ∀ answered : RisexExecution, answered.submissionStatus ≠ .prePostCommitted →
      LiveJobs { s with
        executions := Table.modify s.executions task.jobId (writeResponse answered) } :=
    fun _ hstatus => h.rewrite task.jobId (writeResponse_rewrite hstatus)
  unfold respondStep
  dsimp only
  split_ifs
  · exact (hwritten _ (by simp)).toPhase hopen
  · exact (hwritten _ (by simp)).defer task.jobId

lemma LiveJobs.settle (h : LiveJobs s) {seen : RisexExecution} {outcome : RisexSubmissionOutcome}
    {baseline : Bool} (hopen : seen.state.terminal = false) :
    LiveJobs (settleStep s t task seen outcome baseline) := by
  unfold settleStep
  dsimp only
  rw [if_neg (by simp [hopen])]
  split_ifs with hbaseline hpeer houtcome
  · exact h.defer task.jobId
  · exact h.defer task.jobId
  · exact h.defer task.jobId
  · have hterminal : caseATerminal outcome.executionState = true := by
      simp only [Bool.or_eq_true, Bool.not_eq_true', not_or, Bool.not_eq_false] at houtcome
      exact houtcome.2
    have hresolved : outcome.executionState.unresolved = false := by
      simp [ExecutionState.unresolved, terminal_of_caseATerminal hterminal]
    exact (h.terminate task.jobId (writeSettled_rewrite hterminal seen)
      fun _ => hresolved).endTask

end Writer

/-! ## Steps of the system -/

section System

variable {normalized : Symbol → Symbol} {s s' : RisexJobSystem} {op : RisexJobOp} {jobId : JobId}
  {t : RisexTaskId}

lemma resolved_of_unresolved (h : s.unresolved jobId = false) (row : RisexExecution)
    (hrow : s.writer.executions.lookup jobId = some row) : row.state.unresolved = false := by
  simpa [RisexJobSystem.unresolved, hrow] using h

/-- **Step lemma of the writer.** -/
lemma LiveJobs.risexStep {op : RisexOp} {writer : RisexState} (h : LiveJobs s.writer)
    (hguard : ExecutionResolved normalized s (.writer op))
    (hstep : HyperCopy.risexStep normalized s.writer op = some writer) : LiveJobs writer := by
  obtain ⟨hguard, -⟩ := hguard
  cases op with
  | begin t jobId =>
      simp only [HyperCopy.risexStep] at hstep
      split_ifs at hstep
      obtain rfl := Option.some.inj hstep
      exact h.begin
  | resolve t jobId outcome =>
      simp only [HyperCopy.risexStep] at hstep
      split at hstep
      · rename_i row hfree hrow
        split_ifs at hstep with hresolve
        obtain rfl := Option.some.inj hstep
        have hopen : row.state.terminal = false := by
          have hunresolved := hresolve.2.1
          simp only [ExecutionState.unresolved, Bool.not_eq_true'] at hunresolved
          exact hunresolved
        exact h.insertTask t ⟨jobId, .settling row outcome, s.writer.jobClaimed jobId⟩ hopen
      · cases hstep
  | check t =>
      obtain ⟨task, job, htask, hjob, hstep⟩ := withTask_eq_some hstep
      split at hstep
      · obtain rfl := Option.some.inj hstep
        exact h.check
      · cases hstep
  | sign t reads preparation nonceAnchor nonceBitmapIndex =>
      obtain ⟨task, job, htask, hjob, hstep⟩ := withTask_eq_some hstep
      split at hstep
      · split at hstep
        · obtain rfl := Option.some.inj hstep
          exact h.endTask
        · obtain rfl := Option.some.inj hstep
          exact h.toPhase trivial
      · cases hstep
  | persist t newId =>
      obtain ⟨task, job, htask, hjob, hstep⟩ := withTask_eq_some hstep
      split at hstep
      · obtain rfl := Option.some.inj hstep
        exact h.persist hjob fun hnone => hguard task htask hnone job hjob
      · cases hstep
  | load t =>
      obtain ⟨task, job, htask, hjob, hstep⟩ := withTask_eq_some hstep
      split at hstep
      · obtain rfl := Option.some.inj hstep
        exact h.load
      · cases hstep
  | refuseStrategy t =>
      obtain ⟨task, job, htask, hjob, hstep⟩ := withTask_eq_some hstep
      split at hstep
      · obtain rfl := Option.some.inj hstep
        exact (h.modify_resolved task.jobId (resolved_of_unresolved (hguard task htask))).endTask
      · cases hstep
  | claim t fence =>
      obtain ⟨task, job, htask, hjob, hstep⟩ := withTask_eq_some hstep
      split at hstep
      · obtain rfl := Option.some.inj hstep
        exact h.claim
      · cases hstep
  | post t =>
      obtain ⟨task, job, htask, hjob, hstep⟩ := withTask_eq_some hstep
      have hopen := h.phases t task htask
      split at hstep
      · rename_i seen submission hphase
        obtain rfl := Option.some.inj hstep
        rw [hphase] at hopen
        have hposted : (RisexPhase.posted seen submission).openExecution := hopen
        exact (h.toPhase hposted).record _
      · cases hstep
  | respond t response =>
      obtain ⟨task, job, htask, hjob, hstep⟩ := withTask_eq_some hstep
      have hopen := h.phases t task htask
      split at hstep
      · rename_i seen submission hphase
        obtain rfl := Option.some.inj hstep
        rw [hphase] at hopen
        exact h.respond hopen
      · cases hstep
  | settle t baseline =>
      obtain ⟨task, job, htask, hjob, hstep⟩ := withTask_eq_some hstep
      have hopen := h.phases t task htask
      split at hstep
      · rename_i seen outcome hphase
        obtain rfl := Option.some.inj hstep
        rw [hphase] at hopen
        exact h.settle hopen
      · cases hstep
  | fail t =>
      obtain ⟨task, job, htask, hjob, hstep⟩ := withTask_eq_some hstep
      obtain rfl := Option.some.inj hstep
      exact h.endTask

/-- A step of an attempt, and what its preparation raises, are about one task and one job. -/
lemma withTask_raises {s writer : RisexState} {f : RisexTask → RisexJob → Option JobId}
    {g : RisexTask → RisexJob → Option RisexState}
    (hraises : RisexJobSystem.preparationRaises.withTask s t f = some jobId)
    (hstep : risexStep.withTask s t g = some writer) :
    ∃ task job, f task job = some jobId ∧ g task job = some writer := by
  obtain ⟨task, htask, hraises⟩ := Option.bind_eq_some_iff.1 hraises
  obtain ⟨job, hjob, hraises⟩ := Option.bind_eq_some_iff.1 hraises
  obtain ⟨task', job', htask', hjob', hstep⟩ := withTask_eq_some hstep
  obtain rfl := Option.some.inj (htask.symm.trans htask')
  obtain rfl := Option.some.inj (hjob.symm.trans hjob')
  exact ⟨task, job, hraises, hstep⟩

/-- Where the preparation raises, the attempt is over and nothing has been written. -/
lemma raises_endTask {s writer : RisexState} {op : RisexOp}
    (hraises : RisexJobSystem.preparationRaises normalized s op = some jobId)
    (hstep : HyperCopy.risexStep normalized s op = some writer) :
    ∃ t, writer = s.endTask t s.jobs := by
  cases op with
  | check t =>
      obtain ⟨task, job, hraised, hstep⟩ := withTask_raises hraises hstep
      split_ifs at hraised with hnetwork
      split at hstep
      · obtain rfl := Option.some.inj hstep
        exact ⟨t, if_pos hnetwork⟩
      · cases hstep
  | sign t reads preparation nonceAnchor nonceBitmapIndex =>
      obtain ⟨task, job, hraised, hstep⟩ := withTask_raises hraises hstep
      split at hstep
      · split at hraised
        · rename_i error herror
          rw [herror] at hstep
          exact ⟨t, (Option.some.inj hstep).symm⟩
        · cases hraised
      · cases hstep
  | persist t newId =>
      obtain ⟨task, job, hraised, hstep⟩ := withTask_raises hraises hstep
      split at hstep
      · rename_i intent plan request hphase
        rw [hphase] at hraised
        obtain rfl := Option.some.inj hstep
        refine ⟨t, ?_⟩
        unfold persistStep
        cases hpersist : persistRisexPrePostExecution s.executions newId task.jobId job intent plan
            request with
        | error error => rfl
        | ok persisted =>
            obtain ⟨executions, row⟩ := persisted
            simp only [hpersist] at hraised
            cases hverified : verifyPersisted job request row with
            | error error =>
                -- only a row that the job already had fails the check
                rcases persist_eq_ok hpersist with ⟨-, rfl⟩ | ⟨-, -, -, -, -, -, -, hverify⟩
                · simp only [hverified]
                · rw [hverify] at hverified
                  cases hverified
            | ok checked =>
                simp only [hverified] at hraised
                cases hraised
      · cases hstep
  | _ => cases hraises

/-- A failure that leads to another attempt, or of a job whose execution is resolved. -/
lemma LiveJobs.retry {s : RisexState} (h : LiveJobs s)
    (hretry : (∀ job ∈ s.jobs.lookup jobId, job.attemptCount < maxJobRetries) ∨
      ∀ row, s.executions.lookup jobId = some row → row.state.unresolved = false) :
    LiveJobs { s with jobs := Table.modify s.jobs jobId retryOrDead } := by
  rcases hretry with hretry | hresolved
  · refine h.modify jobId fun job hjob hlive => ⟨?_, hlive.2⟩
    have hattempts := hretry job hjob
    simp [retryOrDead, Nat.not_le.2 hattempts, JobState.active]
  · exact h.modify_resolved jobId hresolved

lemma mayRetry_or_resolved (h : s.mayRetry jobId = true ∨ s.unresolved jobId = false) :
    (∀ job ∈ s.writer.jobs.lookup jobId, job.attemptCount < maxJobRetries) ∨
      ∀ row, s.writer.executions.lookup jobId = some row → row.state.unresolved = false := by
  rcases h with hretry | hresolved
  · refine .inl fun job hjob => ?_
    rw [Option.mem_def] at hjob
    simpa [RisexJobSystem.mayRetry, hjob] using hretry
  · exact .inr (resolved_of_unresolved hresolved)

lemma LiveJobs.writerStep {op : RisexOp} (h : LiveJobs s.writer)
    (hguard : ExecutionResolved normalized s (.writer op))
    (hstep : s.writerStep normalized op = some s') : LiveJobs s'.writer := by
  obtain ⟨writer, hwriter, rfl⟩ := Option.map_eq_some_iff.1 hstep
  have hafter := h.risexStep hguard hwriter
  cases hraises : RisexJobSystem.preparationRaises normalized s.writer op with
  | none => exact hafter
  | some jobId =>
      obtain ⟨t, rfl⟩ := raises_endTask hraises hwriter
      exact hafter.retry (mayRetry_or_resolved (hguard.2 jobId hraises))

lemma skipJob_eq_some {applies : RisexJob → RisexJobColumns → Bool}
    (h : s.skipJob jobId applies = some s') : s' = s.setJob jobId (endJob .skipped) := by
  obtain ⟨⟨job, columns⟩, -, h⟩ := Option.bind_eq_some_iff.1 h
  dsimp only at h
  split_ifs at h
  exact (Option.some.inj h).symm

/-- A job that a writer skips has no unresolved execution. -/
lemma LiveJobs.skip (h : LiveJobs s.writer) (hresolved : s.unresolved jobId = false)
    (hskipped : s' = s.setJob jobId (endJob .skipped)) : LiveJobs s'.writer := by
  rw [hskipped]
  exact h.modify_resolved jobId (resolved_of_unresolved hresolved)

/-- The expiry leaves out the jobs with an unresolved RISEx execution; a job that is not bound to
RISEx has none. -/
lemma LiveJobs.expire {job : RisexJob} {columns : RisexJobColumns} (h : LiveJobs s.writer)
    (hrow : s.row jobId = some (job, columns))
    (hexpired : job.executionProvider ≠ some .risex ∨ s.unresolved jobId = false) :
    LiveJobs (s.setJob jobId (endJob .skipped)).writer := by
  refine h.modify_resolved jobId fun row hexecution => ?_
  rcases hexpired with hprovider | hresolved
  · by_contra hunresolved
    obtain ⟨job', hjob', -, hbound⟩ := h.live jobId row hexecution (by simpa using hunresolved)
    obtain ⟨job'', hjob'', hrow⟩ := Option.bind_eq_some_iff.1 hrow
    obtain ⟨columns', -, hrow⟩ := Option.map_eq_some_iff.1 hrow
    obtain ⟨rfl, rfl⟩ := Prod.mk.inj hrow
    obtain rfl := Option.some.inj (hjob'.symm.trans hjob'')
    exact hprovider hbound
  · exact resolved_of_unresolved hresolved row hexecution

lemma stopAttempt_eq_some {phases : RisexPhase → Bool} {f : RisexJob → RisexJob}
    (h : s.stopAttempt t phases f = some s') :
    ∃ task, s.attempt t = some task ∧ s' = (s.setJob task.jobId f).endAttempt t := by
  obtain ⟨task, htask, h⟩ := Option.bind_eq_some_iff.1 h
  split_ifs at h
  exact ⟨task, htask, (Option.some.inj h).symm⟩

/-- An attempt that ends its job has left no unresolved execution. -/
lemma LiveJobs.stop {phases : RisexPhase → Bool} {f : RisexJob → RisexJob} (h : LiveJobs s.writer)
    (hresolved : s.attemptResolved t) (hstep : s.stopAttempt t phases f = some s') :
    LiveJobs s'.writer := by
  obtain ⟨task, htask, rfl⟩ := stopAttempt_eq_some hstep
  exact (h.modify_resolved task.jobId (resolved_of_unresolved (hresolved task htask))).endTask

/-- **Step lemma.** -/
theorem LiveJobs.step (h : LiveJobs s.writer) (hguard : ExecutionResolved normalized s op)
    (hstep : risexJobStep normalized s op = some s') : LiveJobs s'.writer := by
  cases op with
  | tick clock =>
      simp only [risexJobStep] at hstep
      split_ifs at hstep
      obtain rfl := Option.some.inj hstep
      exact h
  | writer op => exact h.writerStep hguard hstep
  | claimJob jobId =>
      obtain ⟨⟨job, columns⟩, -, hstep⟩ := Option.bind_eq_some_iff.1 hstep
      dsimp only at hstep
      split_ifs at hstep
      obtain rfl := Option.some.inj hstep
      exact h.modify jobId fun _ _ hlive => ⟨rfl, hlive.2⟩
  | releaseStaleJob jobId =>
      obtain ⟨⟨job, columns⟩, -, hstep⟩ := Option.bind_eq_some_iff.1 hstep
      dsimp only at hstep
      split_ifs at hstep
      obtain rfl := Option.some.inj hstep
      exact h.retry (mayRetry_or_resolved hguard)
  | expireStaleStrategyJob jobId =>
      obtain ⟨⟨job, columns⟩, hrow, hstep⟩ := Option.bind_eq_some_iff.1 hstep
      dsimp only at hstep
      split_ifs at hstep with hexpired
      obtain rfl := Option.some.inj hstep
      exact h.expire hrow hexpired.2.2.2
  | refuseDestination jobId =>
      simp only [risexJobStep, RisexJobSystem.refuseDestination] at hstep
      exact h.skip hguard (skipJob_eq_some hstep)
  | refuseNetworks jobId =>
      simp only [risexJobStep, RisexJobSystem.refuseNetworks] at hstep
      exact h.skip hguard (skipJob_eq_some hstep)
  | refuseMasterSource jobId =>
      simp only [risexJobStep, RisexJobSystem.refuseMasterSource] at hstep
      exact h.skip hguard (skipJob_eq_some hstep)
  | markSuperseded jobId =>
      simp only [risexJobStep, RisexJobSystem.markSuperseded] at hstep
      exact h.skip hguard (skipJob_eq_some hstep)
  | rollbackActivation jobId =>
      simp only [risexJobStep, RisexJobSystem.rollbackActivation] at hstep
      exact h.skip hguard (skipJob_eq_some hstep)
  | refuseWindow t =>
      obtain ⟨task, htask, hstep⟩ := Option.bind_eq_some_iff.1 hstep
      obtain ⟨stopped, hstopped, rfl⟩ := Option.map_eq_some_iff.1 hstep
      obtain ⟨task', -, rfl⟩ := stopAttempt_eq_some hstopped
      have hdeferred := h.modify task'.jobId (f := deferWindowUnavailable)
        fun _ _ hlive => ⟨rfl, hlive.2⟩
      exact hdeferred.endTask
  | refuseContext t => exact h.stop hguard hstep
  | refuseCredential t stale => exact h.stop hguard hstep
  | failPreparation t delay =>
      obtain ⟨task, htask, hstep⟩ := Option.bind_eq_some_iff.1 hstep
      obtain ⟨stopped, hstopped, rfl⟩ := Option.map_eq_some_iff.1 hstep
      obtain ⟨task', htask', rfl⟩ := stopAttempt_eq_some hstopped
      exact (h.retry (mayRetry_or_resolved (hguard task' htask'))).endTask

end System

/-- No attempt is under way, and every unresolved execution has a live job. -/
structure RisexJobsInitial (s : RisexJobSystem) : Prop where
  tasks : s.writer.tasks = ∅
  live : ∀ jobId row, s.writer.executions.lookup jobId = some row → row.state.unresolved = true →
    ∃ job, s.writer.jobs.lookup jobId = some job ∧ job.Live

/-- **A terminal job has a terminal execution, where whoever ends it looks at the execution.**  In
every run of all the writers of RISEx jobs, in which each write that ends a job finds no unresolved
execution of it and each execution is inserted for a live job, no job that has ended has an
execution that is `SUBMITTING` or `UNKNOWN`, and each such execution has a live job. -/
theorem terminal_jobs_of_resolved (normalized : Symbol → Symbol) {s₀ s : RisexJobSystem}
    {ops : List RisexJobOp} (hinit : RisexJobsInitial s₀)
    (hguard : RunMeets (risexJobStep normalized) (ExecutionResolved normalized) s₀ ops)
    (hrun : run (risexJobStep normalized) s₀ ops = some s) : TerminalJobs s.writer := by
  have hstart : LiveJobs s₀.writer := by
    refine ⟨hinit.live, fun t task htask => ?_⟩
    rw [hinit.tasks] at htask
    cases htask
  have hlive : LiveJobs s.writer :=
    run_invariant_of_meets (I := fun s : RisexJobSystem => LiveJobs s.writer)
      (fun _ _ _ hs hop hstep => hs.step hop hstep) hstart hguard hrun
  exact hlive.terminalJobs

/-! ## A refused strategy -/

/-- The job of `btcState`, claimed by a worker. -/
def btcSystem : RisexJobSystem :=
  ⟨0, btcState, (∅ : Table JobId RisexJobColumns).insert 5 ⟨.reconcile, 0, some 120, none⟩⟩

lemma btcSystem_initial : RisexJobsInitial btcSystem :=
  ⟨rfl, fun _ _ hrow => by cases hrow⟩

/-- The attempt `1` on the job up to its execution. -/
def executionActions : List RisexJobOp :=
  .writer (.begin 1 5) :: (signActions 1).map .writer ++
    [.writer (.persist 1 100), .writer (.load 1)]

/-- The state of the job and of its execution. -/
def outcomeOf (s : RisexJobSystem) : Option JobState × Option ExecutionState :=
  ((s.writer.jobs.lookup 5).map (·.state), (s.writer.executions.lookup 5).map (·.state))

/-- The order is posted and the worker dies; the stale job is released and taken again, and the
resolver finds the fill. -/
def settledActions : List RisexJobOp :=
  executionActions ++
    [.writer (.claim 1 btcFence), .writer (.post 1), .writer (.fail 1), .tick 121,
      .releaseStaleJob 5, .tick 130, .claimJob 5, .writer (.begin 2 5), .writer (.check 2),
      .writer (.load 2), .writer (.resolve 3 5 ⟨true, .filled, some 77, some (1 / 10)⟩),
      .writer (.settle 3 true)]

/-- The strategy of the job is refused when its execution is durable. -/
def refusedActions : List RisexJobOp :=
  executionActions ++ [.writer (.refuseStrategy 1)]
/-- A crash, another attempt and a late settlement end the job with its execution. -/
theorem terminal_jobs_of_resolved_settled :
    ∃ s, run (risexJobStep asciiUpper) btcSystem settledActions = some s ∧
      outcomeOf s = (some .done, some .filled) ∧ TerminalJobs s.writer := by
  have houtcome : (run (risexJobStep asciiUpper) btcSystem settledActions).map outcomeOf =
      some (some .done, some .filled) := by decide +kernel
  have hguard : RunMeets (risexJobStep asciiUpper) (ExecutionResolved asciiUpper) btcSystem
      settledActions := by decide +kernel
  obtain ⟨s, hrun, hs⟩ := Option.map_eq_some_iff.1 houtcome
  exact ⟨s, hrun, hs, terminal_jobs_of_resolved asciiUpper btcSystem_initial hguard hrun⟩

/-- **A skipped job with a `SUBMITTING` execution.**  `process_risex_job` refuses the strategy of the
job after its execution was persisted. -/
theorem refused_strategy_leaves_execution :
    RisexJobsInitial btcSystem ∧
      ∃ s, run (risexJobStep asciiUpper) btcSystem refusedActions = some s ∧
        outcomeOf s = (some .skipped, some .submitting) ∧ ¬TerminalJobs s.writer := by
  have houtcome : (run (risexJobStep asciiUpper) btcSystem refusedActions).map outcomeOf =
      some (some .skipped, some .submitting) := by decide +kernel
  obtain ⟨s, hrun, hs⟩ := Option.map_eq_some_iff.1 houtcome
  refine ⟨btcSystem_initial, s, hrun, hs, fun hterminal => ?_⟩
  obtain ⟨hjob, hrow⟩ := Prod.mk.inj hs
  obtain ⟨job, hjob, hended⟩ := Option.map_eq_some_iff.1 hjob
  obtain ⟨row, hrow, hstate⟩ := Option.map_eq_some_iff.1 hrow
  have hresolved := hterminal.resolved 5 job row hjob hrow (by rw [hended]; rfl)
  rw [hstate] at hresolved
  cases hresolved

end HyperCopy

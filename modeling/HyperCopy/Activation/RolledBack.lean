import HyperCopy.Activation.Rollback
import HyperCopy.Executor.AtMostOnce

/-!
# What a failed activation leaves behind

`failed_activation_rolledBack`: an activation that ends with an error leaves its user paused and
every job created since its start finished, in every run that keeps `activationGuard`: the database
does not fail the request, and between the read of the compensation and its commit no other session
inserts a job of the user, or puts one back that the compensation has not read.  Afterwards
`JobsEvolve` carries it: a finished job that nobody has claimed stays as it is, and a worker that
claims another one reads a paused user, whose orders only reduce (`addsExposure_of_paused`).

Without the guard, `failed_commit_leaves_active`: the compensation works on the session of the
request and does not roll it back first, so after a failed commit its first statement raises, the
user stays active, and the job of the failed activation is executed.  On RISEx the user also stays
active where everything is committed and the lock of the position ledger is not released.
-/

namespace HyperCopy

open Transition

/-! ## Orders of paused users -/

/-- Whatever a worker plans for a user it has read as paused, the order reduces. -/
lemma addsExposure_of_paused {normalized : Symbol → Symbol} {planning : OrderPlanning} {adds : Bool}
    (h : planning.addsExposure normalized .paused = some adds) : adds = false := by
  cases planning with
  | hyperliquid job current reads =>
      simp only [OrderPlanning.addsExposure] at h
      split at h
      · rename_i submission hplan
        obtain rfl := Option.some.inj h
        cases huser : reads.user with
        | none =>
            -- nothing is planned for a missing user
            obtain ⟨status, s, hmissing, -⟩ := planAttempt_submit_iff.1 hplan
            rw [huser] at hmissing
            cases hmissing
        | some status =>
            have hpaused : reads.user.map (fun status => { status with copyState := .paused }) =
                some { status with copyState := .paused } := by
              rw [huser, Option.map_some]
            obtain ⟨hreduceOnly, hsingle⟩ := planAttempt_of_paused hpaused rfl hplan
            simp [SizingResult.addsExposure, hreduceOnly, hsingle]
      · cases h
      · cases h
  | profitExit job userActive reads =>
      simp only [OrderPlanning.addsExposure] at h
      split at h
      · rename_i order hplan
        obtain ⟨-, d, -, hfresh⟩ := planProfitExit_goesOn.1 order hplan
        -- the copy state is the first thing a fresh exit checks
        obtain ⟨hactive, -⟩ := require_bind_ok.1 hfresh
        cases of_decide_eq_true hactive
      · cases h
  | risex job reads clientOrderId =>
      simp only [OrderPlanning.addsExposure] at h
      rw [if_neg (by decide)] at h
      split at h
      · rename_i intent hplan
        obtain rfl := Option.some.inj h
        rw [planRisexOrderIntent_of_paused (by simp) hplan]
        rfl
      · cases h

/-! ## The life of a job -/

/-- What one step may do to a job: a job that nobody has claimed is claimed only while it waits, and
is not woken up. -/
structure JobEvolves (job job' : ActivationJob) : Prop where
  userId : job'.userId = job.userId
  createdAt : job'.createdAt = job.createdAt
  claimed : job.claimed = true → job'.claimed = true
  unclaimed : job.claimed = false → job.state.active = false →
    job'.claimed = false ∧ job'.state.active = false

lemma JobEvolves.refl (job : ActivationJob) : JobEvolves job job :=
  ⟨rfl, rfl, fun h => h, fun hclaimed hactive => ⟨hclaimed, hactive⟩⟩

lemma JobEvolves.skip (job : ActivationJob) : JobEvolves job job.skip :=
  ⟨rfl, rfl, fun h => h, fun hclaimed _ => ⟨hclaimed, rfl⟩⟩

/-- Jobs are never deleted. -/
def JobsEvolve (jobs jobs' : Table JobId ActivationJob) : Prop :=
  ∀ id job, jobs.lookup id = some job → ∃ job', jobs'.lookup id = some job' ∧ JobEvolves job job'

lemma JobsEvolve.refl (jobs : Table JobId ActivationJob) : JobsEvolve jobs jobs :=
  fun _ job h => ⟨job, h, .refl job⟩

lemma JobEvolves.trans {job job' job'' : ActivationJob} (h : JobEvolves job job')
    (h' : JobEvolves job' job'') : JobEvolves job job'' where
  userId := h'.userId.trans h.userId
  createdAt := h'.createdAt.trans h.createdAt
  claimed hclaimed := h'.claimed (h.claimed hclaimed)
  unclaimed hclaimed hactive := by
    obtain ⟨hclaimed', hactive'⟩ := h.unclaimed hclaimed hactive
    exact h'.unclaimed hclaimed' hactive'

lemma JobsEvolve.trans {jobs jobs' jobs'' : Table JobId ActivationJob} (h : JobsEvolve jobs jobs')
    (h' : JobsEvolve jobs' jobs'') : JobsEvolve jobs jobs'' := by
  intro id job hjob
  obtain ⟨job', hjob', hevolves⟩ := h id job hjob
  obtain ⟨job'', hjob'', hevolves'⟩ := h' id job' hjob'
  exact ⟨job'', hjob'', hevolves.trans hevolves'⟩

lemma JobsEvolve.insertNew {jobs : Table JobId ActivationJob} {id : JobId}
    (hnew : jobs.lookup id = none) (job : ActivationJob) : JobsEvolve jobs (jobs.insert id job) := by
  intro id' job' hjob'
  have hne : id' ≠ id := by
    rintro rfl
    rw [hnew] at hjob'
    cases hjob'
  exact ⟨job', by rw [AList.lookup_insert_ne hne]; exact hjob', .refl job'⟩

lemma JobsEvolve.replace {jobs : Table JobId ActivationJob} {id : JobId} {job job' : ActivationJob}
    (hjob : jobs.lookup id = some job) (h : JobEvolves job job') :
    JobsEvolve jobs (jobs.insert id job') := by
  intro id₁ job₁ hjob₁
  by_cases hid : id₁ = id
  · subst hid
    obtain rfl : job = job₁ := Option.some.inj (hjob.symm.trans hjob₁)
    exact ⟨job', AList.lookup_insert jobs, h⟩
  · exact ⟨job₁, by rw [AList.lookup_insert_ne hid]; exact hjob₁, .refl job₁⟩

lemma JobsEvolve.modify {jobs : Table JobId ActivationJob} {id : JobId}
    {f : ActivationJob → ActivationJob}
    (h : ∀ job, jobs.lookup id = some job → JobEvolves job (f job)) :
    JobsEvolve jobs (Table.modify jobs id f) := by
  unfold Table.modify
  cases hjob : jobs.lookup id with
  | none => exact .refl jobs
  | some job => exact .replace hjob (h job hjob)

lemma jobsEvolve_skipRows (rows : List JobId) :
    ∀ jobs : Table JobId ActivationJob, JobsEvolve jobs (skipRows jobs rows) := by
  induction rows with
  | nil => exact .refl
  | cons id rows ih =>
      intro jobs
      have hfirst : JobsEvolve jobs (Table.modify jobs id ActivationJob.skip) :=
        .modify fun job _ => .skip job
      exact hfirst.trans (ih _)

lemma jobsEvolve_insertJobs {u : UserId} {createdAt : ℕ} {added : List (JobId × Option EpochId)} :
    ∀ {jobs jobs' : Table JobId ActivationJob}, insertJobs jobs u createdAt added = some jobs' →
      JobsEvolve jobs jobs' := by
  induction added with
  | nil =>
      intro jobs jobs' h
      obtain rfl := Option.some.inj h
      exact .refl jobs
  | cons j added ih =>
      intro jobs jobs' h
      obtain ⟨id, epochId⟩ := j
      unfold insertJobs at h
      split_ifs at h with hfresh
      rw [Bool.not_eq_true, Option.isSome_eq_false_iff, Option.isNone_iff_eq_none] at hfresh
      exact (JobsEvolve.insertNew hfresh _).trans (ih h)

/-! ## What a step can do -/

/-- The phases a request goes on to without writing a table. -/
def ActivationPhase.quiet : ActivationPhase → Bool
  | .aligning _ | .resuming | .unlocking | .caught => true
  | _ => false

/-- What a step of the request does. -/
inductive RequestEffect (s : ActivationState) (now : ℕ) : RequestOp → ActivationState → Prop
  | preflight (u : UserId) (provider : ExecutionProvider) (epochId : EpochId)
      (hnone : s.request = none) :
      RequestEffect s now (.preflight u provider epochId)
        { s with request := some ⟨u, provider, now, false, .admitted⟩ }
  | start (r : ActivationRequest) (startedAt : ℕ) (hr : s.request = some r) :
      RequestEffect s now (.start startedAt)
        { s with
          copyStates := s.copyStates.insert r.userId .active
          request := some { r with startedAt := startedAt, phase := .aligning [] } }
  | startUnanswered (r : ActivationRequest) (startedAt : ℕ) (hr : s.request = some r) :
      RequestEffect s now (.startUnanswered startedAt)
        (endWithError { s with copyStates := s.copyStates.insert r.userId .active }
          { r with startedAt := startedAt })
  | advance (r : ActivationRequest) (op : RequestOp) (phase : ActivationPhase)
      (hr : s.request = some r) (hphase : phase.quiet = true) :
      RequestEffect s now op { s with request := some (r.advance phase) }
  | align (r : ActivationRequest) (op : RequestOp) (phase : ActivationPhase) (createdAt : ℕ)
      (added : List (JobId × Option EpochId)) (jobs : Table JobId ActivationJob)
      (hr : s.request = some r) (hphase : phase = .repairing ∨ phase = .caught)
      (hjobs : insertJobs s.jobs r.userId createdAt added = some jobs) :
      RequestEffect s now op { s with jobs := jobs, request := some (r.advance phase) }
  | finish (r : ActivationRequest) (op : RequestOp) (hr : s.request = some r) :
      RequestEffect s now op { s with request := none }
  | unlockFails (r : ActivationRequest) (hr : s.request = some r) :
      RequestEffect s now .lockCommitFails (endWithError s r)
  | fail (r : ActivationRequest) (hr : s.request = some r) :
      RequestEffect s now .databaseError { s with request := some r.fail }
  | failAgain (r : ActivationRequest) (hr : s.request = some r) :
      RequestEffect s now .databaseError (endWithError s r)
  | readFailed (r : ActivationRequest) (hr : s.request = some r) (hfailed : r.sessionFailed = true) :
      RequestEffect s now .readCompensation (endWithError s r)
  | read (r : ActivationRequest) (hr : s.request = some r) :
      RequestEffect s now .readCompensation
        { s with request := some (r.advance (.compensating (rollbackRows s.jobs r))) }
  | commit (r : ActivationRequest) (rows : List JobId) (hr : s.request = some r)
      (hphase : r.phase = .compensating rows) :
      RequestEffect s now .commitCompensation (rollbackActivation s r rows)

lemma requestEffect_of_apply {s s' : ActivationState} {now : ℕ} {op : RequestOp}
    (h : applyRequestOp s now op = some s') : RequestEffect s now op s' := by
  unfold applyRequestOp at h
  cases hr : s.request with
  | none =>
      rw [hr] at h
      dsimp only at h
      split at h
      · split_ifs at h
        obtain rfl := Option.some.inj h
        exact .preflight _ _ _ hr
      · cases h
  | some r =>
      rw [hr] at h
      dsimp only at h
      split at h
      · obtain rfl := Option.some.inj h
        exact .finish r _ hr
      · split_ifs at h
        obtain rfl := Option.some.inj h
        exact .start r _ hr
      · split_ifs at h
        obtain rfl := Option.some.inj h
        exact .startUnanswered r _ hr
      · obtain rfl := Option.some.inj h
        exact .advance r _ _ hr rfl
      · split_ifs at h
        obtain ⟨jobs, hjobs, rfl⟩ := Option.map_eq_some_iff.1 h
        exact .align r _ _ _ _ jobs hr (Or.inl rfl) hjobs
      · split_ifs at h
        obtain ⟨jobs, hjobs, rfl⟩ := Option.map_eq_some_iff.1 h
        exact .align r _ _ _ _ jobs hr (Or.inr rfl) hjobs
      · obtain rfl := Option.some.inj h
        exact .advance r _ _ hr rfl
      · obtain rfl := Option.some.inj h
        exact .advance r _ _ hr rfl
      · obtain rfl := Option.some.inj h
        exact .advance r _ _ hr rfl
      · obtain rfl := Option.some.inj h
        cases hprovider : r.provider with
        | hyperliquid =>
            simp only [ActivationRequest.resumed, hprovider]
            exact .finish r _ hr
        | risex =>
            simp only [ActivationRequest.resumed, hprovider]
            exact .advance r _ _ hr rfl
      · obtain rfl := Option.some.inj h
        exact .finish r _ hr
      · obtain rfl := Option.some.inj h
        exact .unlockFails r hr
      · obtain rfl := Option.some.inj h
        exact .fail r hr
      · obtain rfl := Option.some.inj h
        exact .fail r hr
      · obtain rfl := Option.some.inj h
        exact .fail r hr
      · obtain rfl := Option.some.inj h
        exact .failAgain r hr
      · obtain rfl := Option.some.inj h
        exact .failAgain r hr
      · split_ifs at h with hfailed
        · obtain rfl := Option.some.inj h
          exact .readFailed r hr hfailed
        · obtain rfl := Option.some.inj h
          exact .read r hr
      · rename_i rows hphase
        obtain rfl := Option.some.inj h
        exact .commit r rows hr hphase
      · cases h

/-- Every worker is on a job it has claimed. -/
def WorkersClaimed (s : ActivationState) : Prop :=
  ∀ w task, s.workers.lookup w = some task →
    ∃ job, s.jobs.lookup task.jobId = some job ∧ job.userId = task.userId ∧ job.claimed = true

lemma WorkersClaimed.of_jobs {s s' : ActivationState} (h : WorkersClaimed s)
    (hjobs : JobsEvolve s.jobs s'.jobs)
    (hworkers : ∀ w task, s'.workers.lookup w = some task → ∃ task', s.workers.lookup w = some task' ∧
      task'.jobId = task.jobId ∧ task'.userId = task.userId) : WorkersClaimed s' := by
  intro w task htask
  obtain ⟨task', htask', hid, hu⟩ := hworkers w task htask
  obtain ⟨job, hjob, huser, hclaimed⟩ := h w task' htask'
  obtain ⟨job', hjob', hevolves⟩ := hjobs _ job hjob
  refine ⟨job', by rw [← hid]; exact hjob', ?_, hevolves.claimed hclaimed⟩
  rw [hevolves.userId, huser, hu]

/-- What a request leaves alone. -/
lemma RequestEffect.jobs {s s' : ActivationState} {now : ℕ} {op : RequestOp}
    (h : RequestEffect s now op s') :
    JobsEvolve s.jobs s'.jobs ∧ s'.workers = s.workers ∧ s'.orders = s.orders := by
  cases h with
  | align r op phase createdAt added jobs hr hphase hjobs =>
      exact ⟨jobsEvolve_insertJobs hjobs, rfl, rfl⟩
  | commit r rows hr hphase => exact ⟨jobsEvolve_skipRows rows s.jobs, rfl, rfl⟩
  | _ => exact ⟨.refl _, rfl, rfl⟩

/-- What a step of a planner or a worker does. -/
inductive ServiceEffect (normalized : Symbol → Symbol) (s : ActivationState) :
    ServiceOp → ActivationState → Prop
  | beginPlanner (p : PlannerId) (u : UserId) (startedAt : ℕ) :
      ServiceEffect normalized s (.beginPlanner p u startedAt)
        { s with planners := s.planners.insert p ⟨u, startedAt⟩ }
  | commitPlanner (p : PlannerId) (id : JobId) (epochId : Option EpochId) (task : PlannerTask)
      (hp : s.planners.lookup p = some task) (hid : s.jobs.lookup id = none) :
      ServiceEffect normalized s (.commitPlanner p id epochId)
        { s with
          jobs := s.jobs.insert id (waitingJob task.userId epochId task.startedAt)
          planners := s.planners.erase p }
  | claim (w : WorkerId) (id : JobId) (job : ActivationJob) (hid : s.jobs.lookup id = some job)
      (hactive : job.state.active = true) :
      ServiceEffect normalized s (.claim w id)
        { s with
          jobs := s.jobs.insert id job.claim
          workers := s.workers.insert w ⟨id, job.userId, none⟩ }
  | readUser (w : WorkerId) (task : ClaimedJob) (hw : s.workers.lookup w = some task) :
      ServiceEffect normalized s (.readUser w)
        { s with
          workers := s.workers.insert w { task with copyState := s.copyStates.lookup task.userId } }
  | submit (w : WorkerId) (planning : OrderPlanning) (task : ClaimedJob) (c : CopyState)
      (adds : Bool) (hw : s.workers.lookup w = some task) (hc : task.copyState = some c)
      (hadds : planning.addsExposure normalized c = some adds) :
      ServiceEffect normalized s (.submit w planning)
        { s with orders := ⟨task.jobId, task.userId, adds⟩ :: s.orders }
  | finish (w : WorkerId) (state : JobState) (task : ClaimedJob)
      (hw : s.workers.lookup w = some task) :
      ServiceEffect normalized s (.finish w state)
        { s with
          jobs := Table.modify s.jobs task.jobId fun job => job.setState state
          workers := s.workers.erase w }
  | crashWorker (w : WorkerId) :
      ServiceEffect normalized s (.crashWorker w) { s with workers := s.workers.erase w }
  | move (op : ServiceOp) (id : JobId) (job : ActivationJob) (state : JobState)
      (hid : s.jobs.lookup id = some job) (hactive : job.state.active = true) :
      ServiceEffect normalized s op { s with jobs := s.jobs.insert id (job.setState state) }

lemma serviceEffect_of_apply {normalized : Symbol → Symbol} {s s' : ActivationState} {now : ℕ}
    {op : ServiceOp} (h : applyServiceOp normalized s now op = some s') :
    ServiceEffect normalized s op s' := by
  have hwaits : ∀ {state : JobState}, (state = .queued || state = .retrying) = true →
      state.active = true := by
    intro state hstate
    rw [Bool.or_eq_true, decide_eq_true_eq, decide_eq_true_eq] at hstate
    rcases hstate with rfl | rfl
    · rfl
    · rfl
  cases op with
  | beginPlanner p u startedAt =>
      simp only [applyServiceOp] at h
      split_ifs at h
      obtain rfl := Option.some.inj h
      exact .beginPlanner p u startedAt
  | commitPlanner p id epochId =>
      simp only [applyServiceOp] at h
      split at h
      · cases h
      · rename_i task htask
        split_ifs at h with hfresh
        rw [Bool.not_eq_true, Option.isSome_eq_false_iff, Option.isNone_iff_eq_none] at hfresh
        obtain rfl := Option.some.inj h
        exact .commitPlanner p id epochId task htask hfresh
  | claim w id =>
      simp only [applyServiceOp] at h
      split at h
      · cases h
      · rename_i job hjob
        split_ifs at h with hclaim
        rw [Bool.and_eq_true] at hclaim
        obtain rfl := Option.some.inj h
        exact .claim w id job hjob (hwaits hclaim.2)
  | readUser w =>
      simp only [applyServiceOp] at h
      split at h
      · cases h
      · rename_i task htask
        obtain rfl := Option.some.inj h
        exact .readUser w task htask
  | submit w planning =>
      simp only [applyServiceOp] at h
      split at h
      · cases h
      · rename_i task htask
        obtain ⟨adds, hadds, rfl⟩ := Option.map_eq_some_iff.1 h
        obtain ⟨c, hc, hplan⟩ := Option.bind_eq_some_iff.1 hadds
        exact .submit w planning task c adds htask hc hplan
  | finish w state =>
      simp only [applyServiceOp] at h
      split at h
      · cases h
      · rename_i task htask
        split_ifs at h
        obtain rfl := Option.some.inj h
        exact .finish w state task htask
  | crashWorker w =>
      obtain rfl := Option.some.inj h
      exact .crashWorker w
  | releaseStale id state =>
      simp only [applyServiceOp] at h
      split at h
      · cases h
      · rename_i job hjob
        split_ifs at h with hstale
        rw [Bool.and_eq_true, decide_eq_true_eq] at hstale
        obtain rfl := Option.some.inj h
        exact .move _ id job state hjob (by rw [hstale.1]; rfl)
  | skip id =>
      simp only [applyServiceOp] at h
      split at h
      · cases h
      · rename_i job hjob
        split_ifs at h with hwait
        obtain rfl := Option.some.inj h
        exact .move _ id job .skipped hjob (hwaits hwait)

/-- The services keep the request and the copy states, and move no job that rests unclaimed. -/
lemma ServiceEffect.frame {normalized : Symbol → Symbol} {s s' : ActivationState} {op : ServiceOp}
    (h : ServiceEffect normalized s op s') (hworkers : WorkersClaimed s) :
    JobsEvolve s.jobs s'.jobs ∧ WorkersClaimed s' ∧ s'.request = s.request ∧
      s'.copyStates = s.copyStates ∧ s'.failures = s.failures := by
  have herase : ∀ w w' task, (s.workers.erase w).lookup w' = some task →
      ∃ task', s.workers.lookup w' = some task' ∧ task'.jobId = task.jobId ∧
        task'.userId = task.userId :=
    fun w w' task htask => ⟨task, Table.lookup_of_erase htask, rfl, rfl⟩
  have hsame : ∀ w task, s.workers.lookup w = some task → ∃ task', s.workers.lookup w = some task' ∧
      task'.jobId = task.jobId ∧ task'.userId = task.userId :=
    fun w task htask => ⟨task, htask, rfl, rfl⟩
  cases h with
  | beginPlanner p u startedAt => exact ⟨.refl _, hworkers, rfl, rfl, rfl⟩
  | commitPlanner p id epochId task hp hid =>
      have hjobs := JobsEvolve.insertNew hid (waitingJob task.userId epochId task.startedAt)
      exact ⟨hjobs, hworkers.of_jobs hjobs hsame, rfl, rfl, rfl⟩
  | claim w id job hid hactive =>
      have hclaim : JobEvolves job job.claim :=
        ⟨rfl, rfl, fun _ => rfl, fun _ hrest => by rw [hactive] at hrest; cases hrest⟩
      have hjobs := JobsEvolve.replace hid hclaim
      refine ⟨hjobs, ?_, rfl, rfl, rfl⟩
      intro w' task htask
      rcases Table.lookup_insert_cases htask with ⟨-, rfl⟩ | hold
      · exact ⟨job.claim, AList.lookup_insert s.jobs, rfl, rfl⟩
      · obtain ⟨job', hjob', hu, hclaimed⟩ := hworkers w' task hold
        obtain ⟨job'', hjob'', hevolves⟩ := hjobs _ job' hjob'
        exact ⟨job'', hjob'', hevolves.userId.trans hu, hevolves.claimed hclaimed⟩
  | readUser w task hw =>
      refine ⟨.refl _, hworkers.of_jobs (.refl _) fun w' task' htask' => ?_, rfl, rfl, rfl⟩
      rcases Table.lookup_insert_cases htask' with ⟨rfl, rfl⟩ | hold
      · exact ⟨task, hw, rfl, rfl⟩
      · exact ⟨task', hold, rfl, rfl⟩
  | submit w planning task c adds hw hc hadds => exact ⟨.refl _, hworkers, rfl, rfl, rfl⟩
  | finish w state task hw =>
      have hjobs : JobsEvolve s.jobs
          (Table.modify s.jobs task.jobId fun job => job.setState state) := by
        refine .modify fun job hjob => ⟨rfl, rfl, fun hclaimed => hclaimed, fun hunclaimed => ?_⟩
        obtain ⟨job', hjob', -, hclaimed⟩ := hworkers w task hw
        obtain rfl : job = job' := Option.some.inj (hjob.symm.trans hjob')
        rw [hclaimed] at hunclaimed
        cases hunclaimed
      exact ⟨hjobs, hworkers.of_jobs hjobs (herase w), rfl, rfl, rfl⟩
  | crashWorker w => exact ⟨.refl _, hworkers.of_jobs (.refl _) (herase w), rfl, rfl, rfl⟩
  | move op id job state hid hactive =>
      have hmove : JobEvolves job (job.setState state) :=
        ⟨rfl, rfl, fun hclaimed => hclaimed, fun _ hrest => by rw [hactive] at hrest; cases hrest⟩
      have hjobs := JobsEvolve.replace hid hmove
      exact ⟨hjobs, hworkers.of_jobs hjobs hsame, rfl, rfl, rfl⟩

/-! ## The guard -/

/-- Between the read of a compensation and its commit, the step leaves an unfinished job of the
user that the compensation has not read. -/
def wakesJob (s : ActivationState) (r : ActivationRequest) (rows : List JobId) : ServiceOp → Bool
  | .commitPlanner p _ _ =>
      (s.planners.lookup p).any fun task =>
        task.userId = r.userId && r.startedAt ≤ task.startedAt
  | .finish w state =>
      state.active && (s.workers.lookup w).any fun task =>
        !rows.contains task.jobId && (s.jobs.lookup task.jobId).any fun job =>
          job.userId = r.userId && r.startedAt ≤ job.createdAt
  | _ => false

/-- The database fails the request, on its session or on the connection of its lock. -/
def RequestOp.databaseFails : RequestOp → Bool
  | .startUnanswered _ | .databaseError | .lockCommitFails => true
  | _ => false

/-- The database does not fail the request, and no job of the user is woken up or inserted behind
the back of a compensation. -/
def activationGuard (s : ActivationState) (a : ActivationAction) : Bool :=
  match a.op with
  | .request op => !op.databaseFails
  | .service op =>
      s.request.all fun r =>
        match r.phase with
        | .compensating rows => !wakesJob s r rows op
        | _ => true

/-! ## The invariant of guarded runs -/

/-- The jobs a compensation has to skip are among the rows. -/
def RowsCover (jobs : Table JobId ActivationJob) (r : ActivationRequest) (rows : List JobId) : Prop :=
  ∀ id job, jobs.lookup id = some job → job.userId = r.userId → r.startedAt ≤ job.createdAt →
    job.state.active = true → id ∈ rows

lemma rowsCover_rollbackRows (jobs : Table JobId ActivationJob) (r : ActivationRequest) :
    RowsCover jobs r (rollbackRows jobs r) := by
  intro id job hjob hu hcreated hactive
  refine List.mem_map.2 ⟨⟨id, job⟩, List.mem_filter.2 ⟨AList.mem_lookup_iff.1 hjob, ?_⟩, rfl⟩
  simp [hu, hcreated, hactive]

/-- A step of the services that wakes no job keeps the rows complete. -/
lemma RowsCover.service {normalized : Symbol → Symbol} {s s' : ActivationState} {op : ServiceOp}
    {r : ActivationRequest} {rows : List JobId} (h : RowsCover s.jobs r rows)
    (hstep : ServiceEffect normalized s op s') (hquiet : wakesJob s r rows op = false) :
    RowsCover s'.jobs r rows := by
  intro id job hjob hu hcreated hactive
  cases hstep with
  | beginPlanner p u startedAt => exact h id job hjob hu hcreated hactive
  | commitPlanner p id' epochId task hp hid =>
      rcases Table.lookup_insert_cases hjob with ⟨rfl, rfl⟩ | hold
      · have hu' : task.userId = r.userId := hu
        have hcreated' : r.startedAt ≤ task.startedAt := hcreated
        simp [wakesJob, hp, hu', hcreated'] at hquiet
      · exact h id job hold hu hcreated hactive
  | claim w id' job' hid hwait =>
      rcases Table.lookup_insert_cases hjob with ⟨rfl, rfl⟩ | hold
      · exact h id job' hid hu hcreated hwait
      · exact h id job hold hu hcreated hactive
  | readUser w task hw => exact h id job hjob hu hcreated hactive
  | submit w planning task c adds hw hc hadds => exact h id job hjob hu hcreated hactive
  | finish w state task hw =>
      rcases Table.lookup_modify_eq_some.1 hjob with ⟨-, hold⟩ | ⟨rfl, job', hold, rfl⟩
      · exact h id job hold hu hcreated hactive
      · by_contra hmissing
        have hu' : job'.userId = r.userId := hu
        have hcreated' : r.startedAt ≤ job'.createdAt := hcreated
        have hactive' : state.active = true := hactive
        simp [wakesJob, hw, hold, hu', hcreated', hactive', hmissing] at hquiet
  | crashWorker w => exact h id job hjob hu hcreated hactive
  | move op' id' job' state hid hwait =>
      rcases Table.lookup_insert_cases hjob with ⟨rfl, rfl⟩ | hold
      · exact h id job' hid hu hcreated hwait
      · exact h id job hold hu hcreated hactive

/-- The invariant of a run. -/
structure ActivationInv (s : ActivationState) : Prop where
  workers : WorkersClaimed s
  session : ∀ r, s.request = some r → r.sessionFailed = false
  rows : ∀ r rows, s.request = some r → r.phase = .compensating rows → RowsCover s.jobs r rows

lemma RequestEffect.workersClaimed {s s' : ActivationState} {now : ℕ} {op : RequestOp}
    (h : RequestEffect s now op s') (hworkers : WorkersClaimed s) : WorkersClaimed s' := by
  obtain ⟨hjobs, hsame, -⟩ := h.jobs
  refine hworkers.of_jobs hjobs fun w task htask => ⟨task, ?_, rfl, rfl⟩
  rwa [hsame] at htask

lemma ActivationInv.request {s s' : ActivationState} {now : ℕ} {op : RequestOp}
    (h : ActivationInv s) (hstep : RequestEffect s now op s') (hok : op.databaseFails = false) :
    ActivationInv s' := by
  refine ⟨hstep.workersClaimed h.workers, ?_, ?_⟩
  · intro r' hr'
    cases hstep with
    | preflight u provider epochId hnone =>
        obtain rfl := Option.some.inj hr'
        rfl
    | start r startedAt hr =>
        obtain rfl := Option.some.inj hr'
        exact h.session r hr
    | advance r op phase hr hphase =>
        obtain rfl := Option.some.inj hr'
        exact h.session r hr
    | align r op phase createdAt added jobs hr hphase hjobs =>
        obtain rfl := Option.some.inj hr'
        exact h.session r hr
    | fail r hr => cases hok
    | read r hr =>
        obtain rfl := Option.some.inj hr'
        exact h.session r hr
    | _ => cases hr'
  · intro r' rows hr' hphase'
    cases hstep with
    | preflight u provider epochId hnone =>
        obtain rfl := Option.some.inj hr'
        cases hphase'
    | start r startedAt hr =>
        obtain rfl := Option.some.inj hr'
        cases hphase'
    | advance r op phase hr hphase =>
        obtain rfl := Option.some.inj hr'
        obtain rfl : phase = .compensating rows := hphase'
        cases hphase
    | align r op phase createdAt added jobs hr hphase hjobs =>
        obtain rfl := Option.some.inj hr'
        obtain rfl : phase = .compensating rows := hphase'
        rcases hphase with hrepairing | hcaught
        · cases hrepairing
        · cases hcaught
    | fail r hr => cases hok
    | read r hr =>
        obtain rfl := Option.some.inj hr'
        obtain rfl := ActivationPhase.compensating.inj hphase'
        exact rowsCover_rollbackRows s.jobs r
    | _ => cases hr'

theorem ActivationInv.step {normalized : Symbol → Symbol} {s s' : ActivationState}
    {a : ActivationAction} (h : ActivationInv s) (hguard : activationGuard s a = true)
    (hstep : activationStep normalized s a = some s') : ActivationInv s' := by
  obtain ⟨now, op⟩ := a
  unfold activationStep at hstep
  split_ifs at hstep
  obtain ⟨s₁, hs₁, rfl⟩ := Option.map_eq_some_iff.1 hstep
  cases op with
  | request op =>
      have hok : op.databaseFails = false := by simpa [activationGuard] using hguard
      obtain ⟨hworkers, hsession, hrows⟩ := h.request (requestEffect_of_apply hs₁) hok
      exact ⟨hworkers, hsession, hrows⟩
  | service op =>
      have heffect := serviceEffect_of_apply hs₁
      obtain ⟨-, hworkers, hrequest, -, -⟩ := heffect.frame h.workers
      refine ⟨hworkers, fun r hr => ?_, fun r rows hr hphase => ?_⟩
      · exact h.session r (hrequest.symm.trans hr)
      · have hr' : s.request = some r := hrequest.symm.trans hr
        show RowsCover s₁.jobs r rows
        refine (h.rows r rows hr' hphase).service heffect ?_
        simpa [activationGuard, hr', hphase] using hguard

/-! ## The end of a failed activation -/

/-- The user is paused, and of the jobs created since the start none is left to be worked on. -/
structure ActivationUndone (s : ActivationState) (u : UserId) (t : ℕ) : Prop where
  paused : s.copyStates.lookup u = some .paused
  terminal : ∀ id job, s.jobs.lookup id = some job → job.userId = u → t ≤ job.createdAt →
    job.state.active = false

lemma lookup_skipRows {id : JobId} {rows : List JobId} :
    ∀ {jobs : Table JobId ActivationJob} {job' : ActivationJob},
      (skipRows jobs rows).lookup id = some job' →
        ∃ job, jobs.lookup id = some job ∧ ((job' = job ∧ id ∉ rows) ∨ job' = job.skip) := by
  induction rows with
  | nil => exact fun {jobs job'} h => ⟨job', h, Or.inl ⟨rfl, List.not_mem_nil⟩⟩
  | cons id₀ rows ih =>
      intro jobs job' h
      obtain ⟨job₁, hjob₁, hrest⟩ := ih h
      rcases Table.lookup_modify_eq_some.1 hjob₁ with ⟨hne, hold⟩ | ⟨rfl, job, hold, rfl⟩
      · refine ⟨job₁, hold, ?_⟩
        rcases hrest with ⟨rfl, hrows⟩ | rfl
        · exact Or.inl ⟨rfl, by simp [hne, hrows]⟩
        · exact Or.inr rfl
      · -- the row has been skipped already
        refine ⟨job, hold, Or.inr ?_⟩
        rcases hrest with ⟨rfl, -⟩ | rfl
        · rfl
        · rfl

lemma ActivationInv.undone {normalized : Symbol → Symbol} {s s' : ActivationState}
    {a : ActivationAction} {u : UserId} {t : ℕ} (h : ActivationInv s)
    (hguard : activationGuard s a = true) (hstep : activationStep normalized s a = some s')
    (hfail : s'.failures = (u, t) :: s.failures) : ActivationUndone s' u t := by
  obtain ⟨now, op⟩ := a
  unfold activationStep at hstep
  split_ifs at hstep
  obtain ⟨s₁, hs₁, rfl⟩ := Option.map_eq_some_iff.1 hstep
  have hkept : s₁.failures = s.failures → ActivationUndone { s₁ with clock := now } u t :=
    fun hsame => absurd (hsame.symm.trans hfail) (List.cons_ne_self _ _).symm
  cases op with
  | service op => exact hkept ((serviceEffect_of_apply hs₁).frame h.workers).2.2.2.2
  | request op =>
      have heffect := requestEffect_of_apply hs₁
      cases heffect with
      | startUnanswered r startedAt hr => cases hguard
      | unlockFails r hr => cases hguard
      | failAgain r hr => cases hguard
      | readFailed r hr hfailed =>
          rw [h.session r hr] at hfailed
          cases hfailed
      | commit r rows hr hphase =>
          obtain ⟨rfl, rfl⟩ := Prod.mk.inj (List.cons.inj hfail).1
          refine ⟨AList.lookup_insert s.copyStates, fun id job' hjob' hu hcreated => ?_⟩
          obtain ⟨job, hjob, ⟨rfl, hrows⟩ | rfl⟩ := lookup_skipRows hjob'
          · rw [← Bool.not_eq_true]
            exact fun hactive => hrows (h.rows r rows hr hphase id job' hjob hu hcreated hactive)
          · rfl
      | _ => exact hkept rfl

/-! ## Afterwards -/

/-- The job has been claimed by a worker by then. -/
def ClaimedBy (s : ActivationState) (id : JobId) : Prop :=
  ∃ job, s.jobs.lookup id = some job ∧ job.claimed = true

/-- What a state reached later has sent since. -/
def SentSince (s s' : ActivationState) (P : SentOrder → Prop) : Prop :=
  ∃ sent, s'.orders = sent ++ s.orders ∧ ∀ o ∈ sent, P o

lemma SentSince.keep {s s' s'' : ActivationState} {P : SentOrder → Prop} (h : SentSince s s' P)
    (horders : s''.orders = s'.orders) : SentSince s s'' P := by
  obtain ⟨sent, hsent, hP⟩ := h
  exact ⟨sent, horders.trans hsent, hP⟩

lemma SentSince.send {s s' s'' : ActivationState} {P : SentOrder → Prop} (h : SentSince s s' P)
    {o : SentOrder} (horders : s''.orders = o :: s'.orders) (ho : P o) : SentSince s s'' P := by
  obtain ⟨sent, hsent, hP⟩ := h
  refine ⟨o :: sent, by rw [horders, hsent]; rfl, fun o' ho' => ?_⟩
  rcases List.mem_cons.1 ho' with rfl | hold
  · exact ho
  · exact hP o' hold

/-- What a step does to the orders, for a property of the order a worker sends. -/
lemma SentSince.step {normalized : Symbol → Symbol} {b s s' : ActivationState}
    {a : ActivationAction} {P : SentOrder → Prop} (h : SentSince b s P)
    (hstep : activationStep normalized s a = some s')
    (hsend : ∀ w task planning c adds, s.workers.lookup w = some task → task.copyState = some c →
      OrderPlanning.addsExposure normalized c planning = some adds →
      P ⟨task.jobId, task.userId, adds⟩) : SentSince b s' P := by
  obtain ⟨now, op⟩ := a
  unfold activationStep at hstep
  split_ifs at hstep
  obtain ⟨s₁, hs₁, rfl⟩ := Option.map_eq_some_iff.1 hstep
  cases op with
  | request op => exact h.keep (requestEffect_of_apply hs₁).jobs.2.2
  | service op =>
      cases serviceEffect_of_apply hs₁ with
      | submit w planning task c adds hw hc hadds =>
          exact h.send rfl (hsend w task planning c adds hw hc hadds)
      | _ => exact h.keep rfl

/-- What every step keeps of the jobs and their workers. -/
lemma jobsEvolve_of_step {normalized : Symbol → Symbol} {s s' : ActivationState}
    {a : ActivationAction} (h : WorkersClaimed s) (hstep : activationStep normalized s a = some s') :
    JobsEvolve s.jobs s'.jobs ∧ WorkersClaimed s' := by
  obtain ⟨now, op⟩ := a
  unfold activationStep at hstep
  split_ifs at hstep
  obtain ⟨s₁, hs₁, rfl⟩ := Option.map_eq_some_iff.1 hstep
  cases op with
  | request op =>
      have heffect := requestEffect_of_apply hs₁
      exact ⟨heffect.jobs.1, heffect.workersClaimed h⟩
  | service op =>
      obtain ⟨hjobs, hworkers, -⟩ := (serviceEffect_of_apply hs₁).frame h
      exact ⟨hjobs, hworkers⟩

/-- A job of the failed activation that no worker had claimed is never ordered for. -/
lemma sentSince_undone {normalized : Symbol → Symbol} {b s : ActivationState} {u : UserId} {t : ℕ}
    {as : List ActivationAction} (hworkers : WorkersClaimed b) (hundone : ActivationUndone b u t)
    (hrun : run (activationStep normalized) b as = some s) :
    SentSince b s fun o => ∀ job, b.jobs.lookup o.jobId = some job → job.userId = u →
      t ≤ job.createdAt → job.claimed = true := by
  have hinv : JobsEvolve b.jobs s.jobs ∧ WorkersClaimed s ∧ SentSince b s fun o =>
      ∀ job, b.jobs.lookup o.jobId = some job → job.userId = u → t ≤ job.createdAt →
        job.claimed = true := by
    refine run_invariant (I := fun s => JobsEvolve b.jobs s.jobs ∧ WorkersClaimed s ∧
      SentSince b s _) ?_ ⟨.refl _, hworkers, [], rfl, fun o ho => absurd ho List.not_mem_nil⟩ hrun
    rintro s a s' ⟨hjobs, hclaimed, hsent⟩ hstep
    obtain ⟨hjobs', hclaimed'⟩ := jobsEvolve_of_step hclaimed hstep
    refine ⟨hjobs.trans hjobs', hclaimed', hsent.step hstep ?_⟩
    intro w task planning c adds hw _ _ job hjob hu hcreated
    obtain ⟨job', hjob', -, hworked⟩ := hclaimed w task hw
    obtain ⟨job'', hjob'', hevolves⟩ := hjobs _ job hjob
    obtain rfl : job' = job'' := Option.some.inj (hjob'.symm.trans hjob'')
    by_contra hunclaimed
    rw [Bool.not_eq_true] at hunclaimed
    have hrests := hevolves.unclaimed hunclaimed (hundone.terminal _ job hjob hu hcreated)
    rw [hrests.1] at hworked
    cases hworked
  exact hinv.2.2

/-- The step activates the user. -/
def activates (u : UserId) (s : ActivationState) (a : ActivationAction) : Bool :=
  match a.op with
  | .request (.start _) | .request (.startUnanswered _) => s.request.any fun r => r.userId = u
  | _ => false

/-- Until the user is activated again, every worker that claims a job afterwards reads a paused
user. -/
structure PausedSince (b s : ActivationState) (u : UserId) : Prop where
  claimed : WorkersClaimed s
  paused : s.copyStates.lookup u = some .paused
  workers : ∀ w task, s.workers.lookup w = some task → task.userId = u →
    ClaimedBy b task.jobId ∨ ∀ c, task.copyState = some c → c = .paused
  sent : SentSince b s fun o => o.userId = u → o.addsExposure = true → ClaimedBy b o.jobId

lemma PausedSince.step {normalized : Symbol → Symbol} {b s s' : ActivationState} {u : UserId}
    {a : ActivationAction} (h : PausedSince b s u) (hquiet : activates u s a = false)
    (hstep : activationStep normalized s a = some s') : PausedSince b s' u := by
  have hsent := h.sent.step hstep fun w task planning c adds hw hc hadds hu hadding => by
    rcases h.workers w task hw hu with hclaimed | hpaused
    · exact hclaimed
    · obtain rfl := hpaused c hc
      obtain rfl := addsExposure_of_paused hadds
      cases hadding
  have hclaimed := (jobsEvolve_of_step h.claimed hstep).2
  obtain ⟨now, op⟩ := a
  unfold activationStep at hstep
  split_ifs at hstep
  obtain ⟨s₁, hs₁, rfl⟩ := Option.map_eq_some_iff.1 hstep
  refine ⟨hclaimed, ?_, ?_, hsent⟩
  · show s₁.copyStates.lookup u = some .paused
    cases op with
    | service op =>
        rw [((serviceEffect_of_apply hs₁).frame h.claimed).2.2.2.1]
        exact h.paused
    | request op =>
        have hother : ∀ r : ActivationRequest, r.userId ≠ u →
            (s.copyStates.insert r.userId .active).lookup u = some .paused := fun r hne => by
          rw [AList.lookup_insert_ne hne.symm]
          exact h.paused
        cases requestEffect_of_apply hs₁ with
        | start r startedAt hr => exact hother r (by simpa [activates, hr] using hquiet)
        | startUnanswered r startedAt hr => exact hother r (by simpa [activates, hr] using hquiet)
        | commit r rows hr hphase =>
            show (s.copyStates.insert r.userId .paused).lookup u = some .paused
            rw [Table.lookup_insert_eq]
            split_ifs
            · rfl
            · exact h.paused
        | _ => exact h.paused
  · intro w task htask hu
    change s₁.workers.lookup w = some task at htask
    cases op with
    | request op =>
        rw [(requestEffect_of_apply hs₁).jobs.2.1] at htask
        exact h.workers w task htask hu
    | service op =>
        cases serviceEffect_of_apply hs₁ with
        | claim w' id job hid hactive =>
            rcases Table.lookup_insert_cases htask with ⟨-, rfl⟩ | hold
            · exact Or.inr fun c hc => by cases hc
            · exact h.workers w task hold hu
        | readUser w' task' hw =>
            rcases Table.lookup_insert_cases htask with ⟨-, rfl⟩ | hold
            · right
              intro c hc
              change task'.userId = u at hu
              change s.copyStates.lookup task'.userId = some c at hc
              rw [hu, h.paused] at hc
              exact (Option.some.inj hc).symm
            · exact h.workers w task hold hu
        | finish w' state task' hw => exact h.workers w task (Table.lookup_of_erase htask) hu
        | crashWorker w' => exact h.workers w task (Table.lookup_of_erase htask) hu
        | _ => exact h.workers w task htask hu

/-- While the user stays paused, only a job that had been claimed before adds exposure. -/
lemma sentSince_paused {normalized : Symbol → Symbol} {b s : ActivationState} {u : UserId}
    {as : List ActivationAction} (hworkers : WorkersClaimed b)
    (hpaused : b.copyStates.lookup u = some .paused)
    (hmeets : RunMeets (activationStep normalized) (fun s a => activates u s a = false) b as)
    (hrun : run (activationStep normalized) b as = some s) :
    SentSince b s fun o => o.userId = u → o.addsExposure = true → ClaimedBy b o.jobId := by
  have hstart : PausedSince b b u := by
    refine ⟨hworkers, hpaused, fun w task hw _ => ?_, [], rfl, fun o ho => absurd ho List.not_mem_nil⟩
    obtain ⟨job, hjob, -, hclaimed⟩ := hworkers w task hw
    exact Or.inl ⟨job, hjob, hclaimed⟩
  have hsince : PausedSince b s u :=
    run_invariant_of_meets (I := fun s => PausedSince b s u)
      (fun s a s' h hquiet hstep => h.step hquiet hstep) hstart hmeets hrun
  exact hsince.sent

/-! ## Failed activations -/

/-- What remains of the activation of `u` begun at `t`, now and in every run from here. -/
structure ActivationRolledBack (normalized : Symbol → Symbol) (s : ActivationState) (u : UserId)
    (t : ℕ) : Prop extends ActivationUndone s u t where
  never : ∀ as s', run (activationStep normalized) s as = some s' → SentSince s s' fun o =>
    ∀ job, s.jobs.lookup o.jobId = some job → job.userId = u → t ≤ job.createdAt →
      job.claimed = true
  whilePaused : ∀ as s', run (activationStep normalized) s as = some s' →
    RunMeets (activationStep normalized) (fun s a => activates u s a = false) s as →
    SentSince s s' fun o => o.userId = u → o.addsExposure = true → ClaimedBy s o.jobId

lemma activationInv_initial (copyStates : Table UserId CopyState)
    (jobs : Table JobId ActivationJob) : ActivationInv (.initial copyStates jobs) := by
  refine ⟨?_, ?_, ?_⟩
  · intro w task hw
    simp [ActivationState.initial] at hw
  · intro r hr
    simp [ActivationState.initial] at hr
  · intro r rows hr
    simp [ActivationState.initial] at hr

/-- **Failed activations.**  Where the database does not fail the request and nobody wakes up or
inserts a job behind the compensation, an activation that ends with an error leaves the user
paused and every job created since its start finished; a job of these that no worker had claimed
is never ordered for, and no job claimed later adds exposure while the user stays paused. -/
theorem failed_activation_rolledBack {normalized : Symbol → Symbol}
    {copyStates : Table UserId CopyState} {jobs : Table JobId ActivationJob}
    {as : List ActivationAction} {a : ActivationAction} {s s' : ActivationState} {u : UserId} {t : ℕ}
    (hmeets : RunMeets (activationStep normalized) (fun s a => activationGuard s a = true)
      (.initial copyStates jobs) as)
    (hrun : run (activationStep normalized) (.initial copyStates jobs) as = some s)
    (hguard : activationGuard s a = true) (hstep : activationStep normalized s a = some s')
    (hfail : s'.failures = (u, t) :: s.failures) : ActivationRolledBack normalized s' u t := by
  have hinv : ActivationInv s :=
    run_invariant_of_meets (fun _ _ _ h hG hs => h.step hG hs)
      (activationInv_initial copyStates jobs) hmeets hrun
  have hundone : ActivationUndone s' u t := hinv.undone hguard hstep hfail
  have hworkers : WorkersClaimed s' := (hinv.step hguard hstep).workers
  exact
    { hundone with
      never := fun as s'' hrun' => sentSince_undone hworkers hundone hrun'
      whilePaused := fun as s'' hrun' hquiet =>
        sentSince_paused hworkers hundone.paused hquiet hrun' }

/-! ## Two failures -/

/-- A paused user without jobs. -/
def pausedUser : ActivationState := .initial ((∅ : Table UserId CopyState).insert 0 .paused) ∅

/-- User 0 is activated at 2, and its reconciliation has created job 1. -/
def alignedRun : List ActivationAction :=
  [⟨1, .request (.preflight 0 .hyperliquid 1)⟩, ⟨3, .request (.start 2)⟩,
    ⟨4, .request (.planJob 1 none)⟩, ⟨6, .request (.commitAlignment 5)⟩]

/-- The stream cannot be repaired, and the compensation has read its rows. -/
def streamDownRun : List ActivationAction :=
  alignedRun ++ [⟨7, .request .raises⟩, ⟨8, .request .readCompensation⟩]

/-- The last commit fails. -/
def commitFailsRun : List ActivationAction :=
  alignedRun ++ [⟨7, .request .repairStream⟩, ⟨8, .request .databaseError⟩]

/-- A worker executes job 1. -/
def executedRun : List ActivationAction :=
  [⟨10, .service (.claim 7 1)⟩, ⟨11, .service (.readUser 7)⟩,
    ⟨12, .service (.submit 7 (.hyperliquid (eventJob 2) 0 eventReads.toAttemptReads))⟩]

theorem failed_activation_rolledBack_streamDown :
    ∃ s s', run (activationStep id) pausedUser streamDownRun = some s ∧
      activationStep id s ⟨9, .request .commitCompensation⟩ = some s' ∧
      s'.jobs.lookup 1 = some ⟨0, none, .skipped, 5, false⟩ ∧
      ActivationRolledBack id s' 0 2 := by
  have hlast : ((run (activationStep id) pausedUser streamDownRun).bind fun s =>
      (activationStep id s ⟨9, .request .commitCompensation⟩).map fun s' =>
        (s.failures, s'.failures, s'.jobs.lookup 1)) =
      some ([], [(0, 2)], some ⟨0, none, .skipped, 5, false⟩) := by
    decide +kernel
  obtain ⟨s, hrun, hs⟩ := Option.bind_eq_some_iff.1 hlast
  obtain ⟨s', hstep, hs'⟩ := Option.map_eq_some_iff.1 hs
  rw [Prod.mk.injEq, Prod.mk.injEq] at hs'
  obtain ⟨hbefore, hafter, hjob⟩ := hs'
  have hfail : s'.failures = (0, 2) :: s.failures := by rw [hbefore, hafter]
  exact ⟨s, s', hrun, hstep, hjob,
    failed_activation_rolledBack (by decide +kernel) hrun rfl hstep hfail⟩

/-- The commit of `COPY_RESUMED` fails, and the request ends with the error of the compensation's
first statement: the user is active, job 1 waits, and a worker opens a position for it. -/
theorem failed_commit_leaves_active :
    ∃ s s' s'', run (activationStep id) pausedUser commitFailsRun = some s ∧
      activationStep id s ⟨9, .request .readCompensation⟩ = some s' ∧
      s'.failures = (0, 2) :: s.failures ∧ s'.copyStates.lookup 0 = some .active ∧
      s'.jobs.lookup 1 = some ⟨0, none, .queued, 5, false⟩ ∧
      run (activationStep id) s' executedRun = some s'' ∧ s'.orders = [] ∧
      s''.orders = [⟨1, 0, true⟩] := by
  have hlast : ((run (activationStep id) pausedUser commitFailsRun).bind fun s =>
      (activationStep id s ⟨9, .request .readCompensation⟩).bind fun s' =>
        (run (activationStep id) s' executedRun).map fun s'' =>
          (decide (s.failures = [] ∧ s'.failures = [(0, 2)] ∧ s'.orders = []),
            s'.copyStates.lookup 0, s'.jobs.lookup 1, s''.orders)) =
      some (true, some .active, some ⟨0, none, .queued, 5, false⟩, [⟨1, 0, true⟩]) := by
    decide +kernel
  obtain ⟨s, hrun, hs⟩ := Option.bind_eq_some_iff.1 hlast
  obtain ⟨s', hstep, hs'⟩ := Option.bind_eq_some_iff.1 hs
  obtain ⟨s'', hrun', hs''⟩ := Option.map_eq_some_iff.1 hs'
  simp only [Prod.mk.injEq, decide_eq_true_eq] at hs''
  obtain ⟨⟨hbefore, hafter, hnone⟩, hactive, hjob, hsent⟩ := hs''
  refine ⟨s, s', s'', hrun, hstep, ?_, hactive, hjob, hrun', hnone, hsent⟩
  rw [hbefore, hafter]

/-- On RISEx the user is activated, and the lock cannot be released behind `COPY_RESUMED`. -/
def lockFailsRun : List ActivationAction :=
  [⟨1, .request (.preflight 0 .risex 1)⟩, ⟨3, .request (.start 2)⟩,
    ⟨4, .request (.planJob 1 (some 1))⟩, ⟨6, .request (.commitAlignment 5)⟩,
    ⟨7, .request .repairStream⟩, ⟨8, .request .resume⟩, ⟨9, .request .lockCommitFails⟩]

-- the request ends with an error, and nothing is rolled back
example : (run (activationStep id) pausedUser lockFailsRun).map (fun s =>
    (s.failures, s.copyStates.lookup 0, s.jobs.lookup 1)) =
      some ([(0, 2)], some .active, some ⟨0, some 1, .queued, 5, false⟩) := by
  decide +kernel

end HyperCopy

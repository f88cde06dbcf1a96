import HyperCopy.Executor.Step

/-!
# The life of a profit exit

A profit exit is decided by one process and executed by another.  `evaluate_profit_exit_portfolio`
of `services/ai_profit_exit_decision.py` runs under an advisory lock, visits the open positions one
after the other, and commits a decision together with its job; `_process_ai_profit_exit_locked` of
`services/execution.py` executes the job and moves the decision from PENDING to its end.  Between
the two stand the queue, the retries, and users who switch their destination.

The state is that of the job path (`ExecutorState`), with the table of decisions, the destinations
of the users and the evaluation that is running.  A step of the job path is one of
`executorStep`; where it is a step of an exit, its session may also set the intent state of the
decision, and what is set and not yet committed is lost when the task is.

The cycle of a position, its economics and the answer of the model are read from outside.
-/

namespace HyperCopy

/-- A destination, as `user_destination_state` returns it. -/
structure ActiveDestination where
  epochId : EpochId
  provider : ExecutionProvider
  network : Network
deriving DecidableEq, Repr

/-- Where the evaluation stands between two commits. -/
inductive EvaluationStage
  | between
  /-- The memory is read; the economics and the model are asked.  `position` is the ledger's, and
  `shadow` marks a position that is only hypothetical. -/
  | deciding (scope : ProfitExitScope) (cycle : SourceCycleId) (position : ℚ) (shadow : Bool)
  /-- The decision and its job are committed. -/
  | publishing (decision : DecisionId) (job : JobId)
deriving DecidableEq, Repr

/-- An evaluation under way. -/
structure Evaluation where
  mode : ProfitExitFeatureMode
  stage : EvaluationStage
deriving DecidableEq, Repr

/-- What the collectors report of a position. -/
structure ExitEvidence where
  currentPosition : ℚ
  netPnl : ℚ
  pnlComplete : Bool
deriving DecidableEq, Repr

/-- The executor with the decisions behind its exit jobs, and the evaluation that makes them. -/
structure ExitSystem where
  executor : ExecutorState
  decisions : Table DecisionId ProfitExitIntent
  /-- `ai_profit_exit_decision_id` in the contexts of the jobs -/
  contexts : Table JobId DecisionId
  /-- the intent states that running attempts have set and not committed -/
  uncommitted : Table TaskId ProfitExitIntentState
  active : UserId → Option ActiveDestination
  /-- the epochs there have been -/
  epochs : List EpochId
  mode : ProfitExitFeatureMode
  /-- the evaluation that holds the advisory lock -/
  evaluation : Option Evaluation

/-- The states in which a decision keeps its cycle from being decided again. -/
def ProfitExitIntentState.blocks : ProfitExitIntentState → Bool
  | pending | ambiguous | completed => true
  | partialExit | failed => false

/-- The job of a decision. -/
def exitJob (scope : ProfitExitScope) : CopyJob where
  market := ⟨scope.userId, scope.asset⟩
  origin := .aiProfitExit
  context := ⟨some scope.executionNetwork, 0, 0, 0, none, none, none, none, none, none, false, false⟩
  executionEpochId := some scope.executionEpochId
  executionProvider := some scope.executionProvider
  executionNetwork := some scope.executionNetwork

/-! ## What an attempt sets on its decision -/

/-- The intent state that a plan starts with. -/
def ProfitExitPlan.intent : ProfitExitPlan → Option ProfitExitIntentState
  | settle intent _ _ => intent
  | retryOrDead intent _ => intent
  | recover intent _ _ => intent
  | submit _ => none

/-- After a leg that has not filled. -/
def legIntent : Closing → ProfitExitIntentState
  | .retryOrDead => .ambiguous
  | .finish _ => .failed

/-- After a fill: whether all that was planned has filled and nothing is left of the position. -/
def fillIntent (plannedSize : ℚ) (filledSize : Option ℚ) (ledgerSize : LedgerDecimal) :
    Closing → ProfitExitIntentState
  | .retryOrDead => .ambiguous
  | .finish _ =>
    if filledSize.getD 0 < plannedSize ∨ ledgerSize.value ≠ 0 then .partialExit else .completed

/-- The job and the stage of an attempt. -/
def ExecutorState.attemptOf (s : ExecutorState) (t : TaskId) : Option (JobId × Stage) :=
  match s.tasks.lookup t with
  | some (.attempt id _ _ stage) => some (id, stage)
  | _ => none

/-- The plan of an attempt at a profit exit. -/
def exitPlan (s : ExecutorState) (job : CopyJob) (reads : ProfitExitReads) :
    Option ProfitExitPlan :=
  match planAttempt job (s.ledger job.market).size.value reads.toAttemptReads, reads.user with
  | .profitExit, some status => some (planProfitExit job status reads)
  | _, _ => none

namespace ExitSystem

/-- The decision an attempt executes. -/
def decisionOf (s : ExitSystem) (t : TaskId) : Option DecisionId :=
  (s.executor.attemptOf t).bind fun attempt => s.contexts.lookup attempt.1

/-- The attempt has set the state of its intent and not committed it. -/
def setIntent (s : ExitSystem) (t : TaskId) (intent : ProfitExitIntentState) : ExitSystem :=
  if (s.decisionOf t).isSome then { s with uncommitted := s.uncommitted.insert t intent } else s

/-- The session of a task commits. -/
def commit (s : ExitSystem) (t : TaskId) : ExitSystem :=
  match s.decisionOf t, s.uncommitted.lookup t with
  | some id, some intent =>
    { s with
      decisions := Table.modify s.decisions id fun d => { d with intentState := some intent }
      uncommitted := s.uncommitted.erase t }
  | _, _ => s

/-- The rows of the memory query. -/
def decisionRows (s : ExitSystem) : List ProfitExitDecision :=
  s.decisions.entries.map fun entry => entry.2.toProfitExitDecision

/-- `job_matches_active_destination`. -/
def destinationMatches (s : ExitSystem) (job : CopyJob) : Bool :=
  (s.active job.market.userId).any fun destination =>
    job.executionEpochId = some destination.epochId &&
      job.executionProvider = some destination.provider &&
      job.executionNetwork = some destination.network

/-- What an attempt reads are the rows that are there. -/
def readsAgree (s : ExitSystem) (id : JobId) (job : CopyJob) (reads : ProfitExitReads) : Bool :=
  reads.evidence.decisions = s.decisionRows && reads.decisionId = s.contexts.lookup id &&
    reads.decision = reads.decisionId.bind s.decisions.lookup && reads.mode = s.mode &&
    reads.destinationMatches = s.destinationMatches job

/-- Jobs of profit exits come from decisions, and attempts read the rows. -/
def admits (s : ExitSystem) : ExecutorOp → Bool
  | .enqueue _ job => job.origin ≠ .aiProfitExit
  | .begin t reads =>
    match s.executor.attemptOf t with
    | some (id, _) => (s.executor.jobs.lookup id).all fun row => s.readsAgree id row.job reads
    | none => true
  | _ => true

/-- What a step that has led the job path to `e` does to the decision of its attempt. -/
def follow (s : ExitSystem) (op : ExecutorOp) (e : ExecutorState) : ExitSystem :=
  let went := fun (s : ExitSystem) => { s with executor := e }
  match op with
  | .begin t reads =>
    match s.executor.attemptOf t with
    | none => went s
    | some (id, _) =>
      match (s.executor.jobs.lookup id).bind fun row => exitPlan s.executor row.job reads with
      | none => went s
      | some plan =>
        match plan.intent with
        | none => went s
        | some intent => went (s.setIntent t intent)
  | .enterLeg t _ =>
    match e.attemptOf t with
    -- the outcome stays unknown, and `_execute_leg` has not committed anything
    | some (_, .closing .retryOrDead) => went (s.setIntent t (legIntent .retryOrDead))
    | some (_, .closing c) => went ((s.commit t).setIntent t (legIntent c))
    | _ => went (s.commit t)
  | .respond t _ =>
    match e.attemptOf t with
    | some (_, .closing c) => went (s.setIntent t (legIntent c))
    | _ => went s
  | .applyFill t =>
    match s.executor.attemptOf t, e.attemptOf t with
    | some (_, .filled a _ filledSize), some (_, .closing c) =>
      went (s.setIntent t
        (fillIntent a.plan.orderSize filledSize (e.ledger a.market).size c))
    | _, _ => went s
  | .abandonFill t => went (s.setIntent t .ambiguous)
  | .close t _ => went (s.commit t)
  | .crash t => went { s with uncommitted := s.uncommitted.erase t }
  | _ => went s

/-- A step of the executor. -/
def execute (venue : Venue) (s : ExitSystem) (action : ExecutorAction) : Option ExitSystem :=
  if s.admits action.op then (executorStep venue s.executor action).map fun e => s.follow action.op e
  else none

/-! ## Destinations -/

/-- A new destination epoch; the epoch before it ends. -/
def openEpoch (s : ExitSystem) (userId : UserId) (destination : ActiveDestination) :
    Option ExitSystem :=
  if destination.epochId ∈ s.epochs then none
  else some { s with
    active := Function.update s.active userId (some destination)
    epochs := destination.epochId :: s.epochs }

/-- The user has no destination any more. -/
def closeEpoch (s : ExitSystem) (userId : UserId) : ExitSystem :=
  { s with active := Function.update s.active userId none }

/-! ## The evaluation -/

/-- The advisory lock is free, and the mode is not OFF. -/
def beginEvaluation (s : ExitSystem) : Option ExitSystem :=
  if s.evaluation.isSome || s.mode = .off then none
  else some { s with evaluation := some ⟨s.mode, .between⟩ }

/-- The evaluation comes to its next point. -/
def goOn (s : ExitSystem) (mode : ProfitExitFeatureMode) (stage : EvaluationStage) : ExitSystem :=
  { s with evaluation := some ⟨mode, stage⟩ }

/-- The destination of the follower and, where copying is active, the memory of the cycle. -/
def visit (s : ExitSystem) (userId : UserId) (asset : Asset) (cycle : SourceCycleId) (position : ℚ)
    (shadow : Bool) : Option ExitSystem :=
  match s.evaluation, s.active userId with
  | some ⟨mode, .between⟩, some destination =>
    if destination.provider ≠ .hyperliquid then none
    else
      let scope : ProfitExitScope :=
        ⟨userId, destination.epochId, destination.provider, destination.network, asset⟩
      let memory := operationalProfitExitMemory s.decisionRows scope (some cycle)
      if !shadow && memory.any fun d => d.intentState.any (·.blocks) then none
      else some (s.goOn mode (.deciding scope cycle position shadow))
  | _, _ => none

/-- The decision, which has a job where it is operational. -/
def newDecision (scope : ProfitExitScope) (cycle : SourceCycleId) (id : DecisionId)
    (action : ProfitExitAction) (evidence : ExitEvidence) (job : Option JobId) (now ttl : ℕ) :
    ProfitExitIntent where
  id := id
  scope := scope
  action := action
  intentState := if job.isSome then some .pending else none
  sourceCycleId := cycle
  decidedAt := now
  createdAt := now
  copyJobId := job
  side := sideOf evidence.currentPosition
  expiresAt := now + ttl
  netPnl := some evidence.netPnl
  pnlComplete := evidence.pnlComplete
  followerPositionSize := evidence.currentPosition

/-- The position is profitable and unchanged, the model has answered, and nobody has decided the
same snapshot before. -/
def decide (venue : Venue) (ttl : ℕ) (profitExitJobId : DecisionId → JobId) (s : ExitSystem)
    (now : ℕ) (id : DecisionId) (action : ProfitExitAction) (evidence : ExitEvidence) :
    Option ExitSystem :=
  match s.evaluation with
  | some ⟨mode, .deciding scope cycle position shadow⟩ =>
    if evidence.currentPosition ≠ position || evidence.netPnl ≤ 0 ||
        (s.decisions.lookup id).isSome then
      some (s.goOn mode .between)
    else if mode = .on && !shadow && action = .closeProfit then
      let jobId := profitExitJobId id
      let d := newDecision scope cycle id action evidence (some jobId) now ttl
      (executorStep venue s.executor ⟨now, .enqueue jobId (exitJob scope)⟩).map fun e =>
        { s with
          executor := e
          decisions := s.decisions.insert id d
          contexts := s.contexts.insert jobId id }.goOn mode (.publishing id jobId)
    else
      let d := newDecision scope cycle id action evidence none now ttl
      some ({ s with decisions := s.decisions.insert id d }.goOn mode .between)
  | _ => none

/-- A job that is refused when it is published. -/
def refusedRow (row : CopyJobRow) : CopyJobRow :=
  { row with state := .skipped, owner := none, lockedUntil := none, nextAttemptAt := none }

/-- `publish_job`.  The job is refused where its destination is no longer the active one; otherwise
it is queued, now or, if publishing raises, by the next repair of the stream. -/
def publish (s : ExitSystem) (raises : Bool) : Option ExitSystem :=
  match s.evaluation with
  | some ⟨mode, .publishing id jobId⟩ =>
    if raises || (s.executor.jobs.lookup jobId).all fun row => s.destinationMatches row.job then
      some (s.goOn mode .between)
    else
      let jobs := Table.modify s.executor.jobs jobId refusedRow
      some ({ s with
        executor := { s.executor with jobs := jobs }
        decisions := Table.modify s.decisions id fun d =>
          { d with intentState := some .failed } }.goOn mode .between)
  | _ => none

/-- Nothing decided, nothing queued. -/
def initial (venue : Venue) (lots : Market → ℤ) : ExitSystem where
  executor := .initial venue lots
  decisions := ∅
  contexts := ∅
  uncommitted := ∅
  active := fun _ => none
  epochs := []
  mode := .off
  evaluation := none

end ExitSystem

/-- What the executor, the evaluation and the users do. -/
inductive ExitOp
  | execute (action : ExecutorAction)
  | setMode (mode : ProfitExitFeatureMode)
  | openEpoch (userId : UserId) (destination : ActiveDestination)
  | closeEpoch (userId : UserId)
  | beginEvaluation
  | visit (userId : UserId) (asset : Asset) (cycle : SourceCycleId) (position : ℚ) (shadow : Bool)
  | decide (now : ℕ) (id : DecisionId) (action : ProfitExitAction) (evidence : ExitEvidence)
  | publish (raises : Bool)
  /-- the evaluation is through, has raised, or its worker has stopped -/
  | endEvaluation

/-- One step. -/
def exitStep (venue : Venue) (ttl : ℕ) (profitExitJobId : DecisionId → JobId) (s : ExitSystem) :
    ExitOp → Option ExitSystem
  | .execute action => s.execute venue action
  | .setMode mode => some { s with mode }
  | .openEpoch userId destination => s.openEpoch userId destination
  | .closeEpoch userId => some (s.closeEpoch userId)
  | .beginEvaluation => s.beginEvaluation
  | .visit userId asset cycle position shadow => s.visit userId asset cycle position shadow
  | .decide now id action evidence => s.decide venue ttl profitExitJobId now id action evidence
  | .publish raises => s.publish raises
  | .endEvaluation => some { s with evaluation := none }

end HyperCopy

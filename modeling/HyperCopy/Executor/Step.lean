import HyperCopy.Executor.State
import HyperCopy.Library.Transition

/-!
# One step of the Hyperliquid job path

Every step is at most one database commit, one call to the exchange, or one event at the exchange,
and a task can crash between any two of its own.  What the environment decides is an argument of
the step: which worker claims, what an attempt reads, what the exchange answers, how much of an
order is matched and when, which snapshot a reader gets.  Sources under the steps:
`claim_job`, `release_stale_jobs`, `process_job` with its lease renewal, `_process_job_locked`,
`_execute_leg`, `_finish`, `_retry_or_dead` of `services/execution.py`, the ledger and job writes
of `services/reconcile.py`, and `services/execution_resolution.py`.
-/

namespace HyperCopy

/-- The markets of the exchange: the number of decimals each one trades in. -/
structure Venue where
  szDecimals : Asset → ℕ
  szDecimals_le : ∀ asset, szDecimals asset ≤ perpMaxPriceDecimals

/-- A job the reconciler has planned, with the target it was planned for. -/
structure PlannedJob where
  id : JobId
  job : CopyJob
  desiredTarget : ℚ
deriving DecidableEq, Repr

/-- What a worker, a reconciler or the resolver does next. -/
inductive ExecutorOp
  | enqueue (id : JobId) (job : CopyJob)
  | claim (id : JobId) (worker : WorkerId) (task : TaskId)
  | releaseStale (id : JobId)
  | supersede (id : JobId)
  | acquire (task : TaskId)
  | begin (task : TaskId) (reads : ProfitExitReads)
  | enterLeg (task : TaskId) (reply : OrderOutcome)
  | placeIoc (task : TaskId) (reaches : Bool)
  | respond (task : TaskId) (response : Option OrderOutcome)
  | applyFill (task : TaskId)
  | abandonFill (task : TaskId)
  | close (task : TaskId) (delay : ℕ)
  | crash (task : TaskId)
  | fill (cloid : Cloid) (lots : ℕ)
  | reconcileRead (task : TaskId) (userId : UserId) (observed : Asset → ℚ)
  | reconcileCommit (task : TaskId) (verifiedAt : ℕ) (assets : List Asset)
      (planned : List PlannedJob)
  | resolveRead (task : TaskId) (cloid : Cloid) (verdict : Verdict)
  | resolveCommit (task : TaskId) (verifiedAt : ℕ)

/-- An operation at a time. -/
structure ExecutorAction where
  now : ℕ
  op : ExecutorOp

namespace ExecutorState

/-- The task comes to this point. -/
def putTask (s : ExecutorState) (task : TaskId) (value : ExecutorTask) : ExecutorState :=
  { s with tasks := s.tasks.insert task value }

/-- The task is over. -/
def dropTask (s : ExecutorState) (task : TaskId) : ExecutorState :=
  { s with tasks := s.tasks.erase task }

/-- The row of the execution is written. -/
def putExecution (s : ExecutorState) (cloid : Cloid) (row : Execution) : ExecutorState :=
  { s with executions := s.executions.insert cloid row }

end ExecutorState

/-! ## Queue -/

/-- The row of a job that has just been queued. -/
def queuedRow (job : CopyJob) : CopyJobRow :=
  ⟨job, .queued, none, none, 0, none⟩

/-- A job that no reconciliation pass queues: an event, a close, an intent. -/
def enqueueJob (s : ExecutorState) (id : JobId) (job : CopyJob) : Option ExecutorState :=
  if (s.jobs.lookup id).isSome || job.origin = .reconcile then none
  else some { s with jobs := s.jobs.insert id (queuedRow job) }

/-- `claim_job`, and the worker that goes on with the claimed row in memory. -/
def claimJob (s : ExecutorState) (id : JobId) (worker : WorkerId) (task : TaskId) (now : ℕ) :
    Option ExecutorState :=
  match s.jobs.lookup id with
  | none => none
  | some row =>
    if (s.tasks.lookup task).isSome then none
    else if (row.state = .queued || row.state = .retrying) && row.nextAttemptAt.all (· ≤ now) then
      let claimed : CopyJobRow :=
        { row with
          state := .processing
          owner := some worker
          lockedUntil := some (now + jobLeaseSeconds)
          attemptCount := row.attemptCount + 1 }
      let waiting : ExecutorTask :=
        .attempt id row.job.market.userId claimed.attemptCount (.waiting (some worker))
      some ({ s with jobs := s.jobs.insert id claimed }.putTask task waiting)
    else none

/-- The delay after a stale lease, in seconds. -/
def staleBackoff (attemptCount : ℕ) : ℕ := min (2 ^ max attemptCount 1) 60

/-- One row of `release_stale_jobs`. -/
def releaseStaleJob (s : ExecutorState) (id : JobId) (now : ℕ) : Option ExecutorState :=
  match s.jobs.lookup id with
  | none => none
  | some row =>
    if row.state = .processing && row.lockedUntil.any (· < now) then
      let released : CopyJobRow :=
        { row with
          state := if row.attemptCount < maxJobRetries then .retrying else .dead
          owner := none
          lockedUntil := none
          nextAttemptAt := some (now + staleBackoff row.attemptCount) }
      some { s with jobs := s.jobs.insert id released }
    else none

/-- A job is skipped from outside: superseded by a newer intent, or found stale on delivery, in
whatever live state its row is by then. -/
def supersedeJob (s : ExecutorState) (id : JobId) : Option ExecutorState :=
  match s.jobs.lookup id with
  | none => none
  | some row =>
    if row.state.active then
      let skipped : CopyJobRow :=
        { row with state := .skipped, owner := none, lockedUntil := none, nextAttemptAt := none }
      some { s with jobs := s.jobs.insert id skipped }
    else none

/-! ## Attempts -/

/-- `position_ledger_lock` and `_renew_job_lease_after_lock`: ownership is confirmed under the
lock, and an attempt that has lost its job ends. -/
def acquireLock (s : ExecutorState) (task : TaskId) (now : ℕ) : Option ExecutorState :=
  match s.tasks.lookup task with
  | some (.attempt id userId _ (.waiting expectedOwner)) =>
    if s.userLocked userId then none
    else
      match s.jobs.lookup id with
      | none => some (s.dropTask task)
      | some row =>
        if expectedOwner.isNone || row.state ≠ .processing || row.owner ≠ expectedOwner then
          some (s.dropTask task)
        else
          let renewed : CopyJobRow := { row with lockedUntil := some (now + jobLeaseSeconds) }
          some ({ s with jobs := s.jobs.insert id renewed }.putTask task
            (.attempt id userId row.attemptCount .locked))
  | _ => none

/-- The execution row as the profit-exit path reads it. -/
def existingExecution (s : ExecutorState) (id : JobId) : Option ExistingExecution :=
  (s.executions.lookup ⟨id, .o⟩).map fun row =>
    ⟨row.state, row.isBuy, row.requestedSize, row.limitPx, row.reduceOnly⟩

/-- The close plan a recovery goes on with. -/
def recoveryPlan (asset : Asset) (existing : ExistingExecution) (current : ℚ) : SizingResult where
  asset := asset
  intent := .close
  targetSize := 0
  currentSize := current
  delta := -current
  orderSize := existing.requestedSize
  sizeDecimals := 0
  isBuy := existing.isBuy
  reduceOnly := true
  notional := existing.requestedSize * existing.limitPx
  reason := none
  secondary := none

/-- The profit-exit reads agree with the tables. -/
def profitExitReadsAgree (s : ExecutorState) (id : JobId) (market : Market)
    (reads : ProfitExitReads) : Bool :=
  reads.jobId = id && reads.existing = existingExecution s id &&
    reads.ledger.all fun view => view.size = (s.ledger market).size

/-- Where an attempt goes from its plan. -/
def beginStage (s : ExecutorState) (id : JobId) (job : CopyJob) (reads : ProfitExitReads) :
    Option Stage :=
  match planAttempt job (s.ledger job.market).size.value reads.toAttemptReads, reads.user with
  | .stop (.finish state _), _ => some (.closing (.finish state))
  | .stop (.retryOrDead _), _ => some (.closing .retryOrDead)
  | .submit submission, _ =>
    let a : Attempt := ⟨job, submission.plan, submission.mark, submission.slippageBps⟩
    some (.entering a a.primaryLeg)
  | .profitExit, none => none
  | .profitExit, some status =>
    if !profitExitReadsAgree s id job.market reads then none
    else
      match planProfitExit job status reads with
      | .settle _ state _ => some (.closing (.finish state))
      | .retryOrDead _ _ => some (.closing .retryOrDead)
      | .recover _ existing current =>
        let a : Attempt := ⟨job, recoveryPlan job.market.asset existing current, existing.limitPx, 0⟩
        some (.entering a a.primaryLeg)
      | .submit order =>
        let a : Attempt := ⟨job, order.plan, order.mark, order.slippageBps⟩
        some (.entering a a.primaryLeg)

/-- The attempt reads what it needs, at the precision of the venue. -/
def beginAttempt (venue : Venue) (s : ExecutorState) (task : TaskId) (reads : ProfitExitReads) :
    Option ExecutorState :=
  match s.tasks.lookup task with
  | some (.attempt id userId attempts .locked) =>
    match s.jobs.lookup id with
    | none => none
    | some row =>
      if reads.spec.szDecimals ≠ venue.szDecimals row.job.market.asset then none
      else (beginStage s id row.job reads).map fun stage =>
        s.putTask task (.attempt id userId attempts stage)
  | _ => none

/-- `_execute_leg` up to `place_ioc`: an existing row is replayed or resolved by its client order
id, and only without one a new row is committed. -/
def enterLeg (venue : Venue) (s : ExecutorState) (task : TaskId) (reply : OrderOutcome)
    (now : ℕ) : Option ExecutorState :=
  match s.tasks.lookup task with
  | some (.attempt id userId attempts (.entering a leg)) =>
    let cloid : Cloid := ⟨id, leg.kind⟩
    let goTo := fun (s : ExecutorState) (stage : Stage) =>
      s.putTask task (.attempt id userId attempts stage)
    match s.executions.lookup cloid with
    | some row =>
      if row.state.terminal then some (goTo s (afterOutcome a leg ⟨row.state, row.filledSize⟩))
      else if !reply.reported then none
      else if reply.state = .unknown then some (goTo s (afterOutcome a leg reply))
      else (persistOutcome row reply now).map fun row' =>
        goTo (s.putExecution cloid row') (afterOutcome a leg reply)
    | none =>
      let row := newExecution a leg (venue.szDecimals a.market.asset) (s.ledger a.market) now
      some (goTo (s.putExecution cloid row) (.journaled a leg))
  | _ => none

/-- `place_ioc` is called; `reaches` is whether the order gets to the exchange. -/
def callPlaceIoc (s : ExecutorState) (task : TaskId) (reaches : Bool) : Option ExecutorState :=
  match s.tasks.lookup task with
  | some (.attempt id userId attempts (.journaled a leg)) =>
    let cloid : Cloid := ⟨id, leg.kind⟩
    match s.executions.lookup cloid with
    | none => none
    | some row =>
      let order : ExchangeOrder := ⟨row.market, row.isBuy, row.requestedSize, none⟩
      let orders := if reaches then s.orders.insert cloid order else s.orders
      some ({ s with calls := s.calls ++ [cloid], orders := orders }.putTask task
        (.attempt id userId attempts (.inFlight a leg)))
  | _ => none

/-- The result of `place_ioc`; `none` when it raised and nothing is known. -/
def respondLeg (s : ExecutorState) (task : TaskId) (response : Option OrderOutcome) (now : ℕ) :
    Option ExecutorState :=
  match s.tasks.lookup task with
  | some (.attempt id userId attempts (.inFlight a leg)) =>
    let cloid : Cloid := ⟨id, leg.kind⟩
    match s.executions.lookup cloid with
    | none => none
    | some row =>
      let outcome := response.getD ⟨.unknown, row.filledSize⟩
      if !outcome.reported then none
      else (persistOutcome row outcome now).map fun row' =>
        (s.putExecution cloid row').putTask task
          (.attempt id userId attempts (afterOutcome a leg outcome))
  | _ => none

/-- The commit of `_apply_fill_to_ledger`.  Where the fill was added, the history notes that the
ledger size now contains it. -/
def ExecutorState.writeFill (s : ExecutorState) (market : Market) (cloid : Cloid) (row : Execution)
    (ledger : LedgerRow) (added : Bool) : ExecutorState :=
  { s with
    executions := s.executions.insert cloid row
    ledger := Function.update s.ledger market ledger
    applied := if added then s.applied ++ [cloid] else s.applied
    unreflected :=
      if added then
        Function.update s.unreflected market
          ((s.unreflected market).filter fun u => u.1 ≠ cloid)
      else s.unreflected }

/-- `_apply_fill_to_ledger`, and the flat test of a reversal. -/
def applyFill (venue : Venue) (s : ExecutorState) (task : TaskId) (now : ℕ) :
    Option ExecutorState :=
  match s.tasks.lookup task with
  | some (.attempt id userId attempts (.filled a leg filledSize)) =>
    let cloid : Cloid := ⟨id, leg.kind⟩
    let goTo := fun (s : ExecutorState) (stage : Stage) =>
      s.putTask task (.attempt id userId attempts stage)
    match s.executions.lookup cloid with
    | none => some (goTo s (.closing .retryOrDead))
    | some row =>
      match applyFillToLedger cloid row (s.ledger a.market) now with
      | none => some (goTo s (.closing .retryOrDead))
      | some (row', ledger', added) =>
        let stage := afterApply a leg filledSize ledger'.size.value
          (venue.szDecimals a.market.asset)
        some (goTo (s.writeFill a.market cloid row' ledger' added) stage)
  | _ => none

/-- A profit exit whose fill is confirmed but whose managed ledger row is missing. -/
def abandonFill (s : ExecutorState) (task : TaskId) : Option ExecutorState :=
  match s.tasks.lookup task with
  | some (.attempt id userId attempts (.filled a _ _)) =>
    if a.job.origin = .aiProfitExit then
      some (s.putTask task (.attempt id userId attempts (.closing .retryOrDead)))
    else none
  | _ => none

/-- The row `_finish` or `_retry_or_dead` writes.  The writer has the claimed row in memory and
overwrites whatever the row has become. -/
def closedRow (row : CopyJobRow) (attemptCount : ℕ) (c : Closing) (now delay : ℕ) : CopyJobRow :=
  match c with
  | .finish state => { row with state := state, owner := none, lockedUntil := none }
  | .retryOrDead =>
    if maxJobRetries ≤ attemptCount then
      { row with state := .dead, owner := none, lockedUntil := none }
    else
      { row with
        state := .retrying
        owner := none
        lockedUntil := none
        nextAttemptAt := some (now + delay) }

/-- The attempt writes the state of its job and ends. -/
def closeAttempt (s : ExecutorState) (task : TaskId) (now delay : ℕ) : Option ExecutorState :=
  match s.tasks.lookup task with
  | some (.attempt id _ attempts (.closing c)) =>
    let jobs := Table.modify s.jobs id fun row => closedRow row attempts c now delay
    some ({ s with jobs := jobs }.dropTask task)
  | _ => none

/-- The process of the task dies. -/
def crashTask (s : ExecutorState) (task : TaskId) : Option ExecutorState :=
  if (s.tasks.lookup task).isSome then some (s.dropTask task) else none

/-! ## Exchange -/

/-- `lots` whole lots of the order are matched. -/
def matchOrder (venue : Venue) (s : ExecutorState) (cloid : Cloid) (order : ExchangeOrder)
    (lots : ℕ) : ExecutorState :=
  let filled : ℚ := lots * lot (venue.szDecimals order.market.asset)
  let signed := signedSize order.isBuy filled
  let market := order.market
  { s with
    orders := s.orders.insert cloid { order with fill := some filled }
    position := Function.update s.position market (s.position market + signed)
    unreflected :=
      if lots = 0 then s.unreflected
      else Function.update s.unreflected market (s.unreflected market ++ [(cloid, signed)]) }

/-- An order is matched at most once, and at most for its size. -/
def fillOrder (venue : Venue) (s : ExecutorState) (cloid : Cloid) (lots : ℕ) :
    Option ExecutorState :=
  match s.orders.lookup cloid with
  | none => none
  | some order =>
    if order.fill.isSome || order.size < lots * lot (venue.szDecimals order.market.asset) then none
    else some (matchOrder venue s cloid order lots)

/-! ## Reconciler -/

/-- An unresolved execution of the market whose job passes the test. -/
def hasAmbiguity (s : ExecutorState) (market : Market) (jobState : JobState → Bool) : Bool :=
  Table.any s.executions fun cloid row => row.market = market && row.state.unresolved &&
    (s.jobs.lookup cloid.jobId).any fun job => jobState job.state

/-- An order of the market is unresolved, and its job still active. -/
def hasLiveAmbiguity (s : ExecutorState) (market : Market) : Bool :=
  hasAmbiguity s market JobState.active

/-- An order of the market is unresolved, and its job over. -/
def hasTerminalAmbiguity (s : ExecutorState) (market : Market) : Bool :=
  hasAmbiguity s market fun state => !state.active

/-- The ambiguity fence of the planner. -/
def reconcileMayQueue (s : ExecutorState) (userId : UserId) (real : ℚ) (p : PlannedJob) : Bool :=
  let live := hasLiveAmbiguity s p.job.market
  let terminal := hasTerminalAmbiguity s p.job.market
  let safe := !live && terminal && safeAmbiguityReduction real p.desiredTarget
  p.job.origin = .reconcile && p.job.market.userId = userId && !live && (!terminal || safe) &&
    p.job.context.ambiguitySafeReduction = safe

/-- The planned jobs are inserted. -/
def queueJobs (jobs : Table JobId CopyJobRow) : List PlannedJob → Option (Table JobId CopyJobRow)
  | [] => some jobs
  | p :: ps =>
    if (jobs.lookup p.id).isSome then none else queueJobs (jobs.insert p.id (queuedRow p.job)) ps

/-- A pass reads the fills it will reflect in the ledger. -/
def reconcileRead (s : ExecutorState) (task : TaskId) (userId : UserId) (observed : Asset → ℚ) :
    Option ExecutorState :=
  if s.userLocked userId || (s.tasks.lookup task).isSome then none
  else some (s.putTask task (.reconcile userId observed fun asset =>
    (s.unreflected ⟨userId, asset⟩).map (·.1)))

/-- Overwrite the ledger sizes of `assets` by the snapshot. -/
def reconciledLedger (s : ExecutorState) (userId : UserId) (observed : Asset → ℚ)
    (verifiedAt : ℕ) (assets : List Asset) (market : Market) : LedgerRow :=
  if market.userId = userId ∧ market.asset ∈ assets then
    { s.ledger market with
      size := persistedLedgerDecimal (observed market.asset)
      exchangeVerifiedAt := some verifiedAt }
  else s.ledger market

/-- What the overwritten sizes still lack: the fills after the snapshot. -/
def reconciledUnreflected (s : ExecutorState) (userId : UserId) (seen : Asset → List Cloid)
    (assets : List Asset) (market : Market) : List (Cloid × ℚ) :=
  if market.userId = userId ∧ market.asset ∈ assets then
    (s.unreflected market).filter fun u => u.1 ∉ seen market.asset
  else s.unreflected market

/-- A pass writes the ledger of the assets it has observed, and queues its jobs. -/
def reconcileCommit (s : ExecutorState) (task : TaskId) (verifiedAt now : ℕ) (assets : List Asset)
    (planned : List PlannedJob) : Option ExecutorState :=
  match s.tasks.lookup task with
  | some (.reconcile userId observed seen) =>
    if verifiedAt ≤ s.clock ∨ now < verifiedAt then none
    else if !planned.all fun p => reconcileMayQueue s userId (observed p.job.market.asset) p then
      none
    else (queueJobs s.jobs planned).map fun jobs =>
      { s with
        jobs := jobs
        ledger := reconciledLedger s userId observed verifiedAt assets
        unreflected := reconciledUnreflected s userId seen assets }.dropTask task
  | _ => none

/-! ## Resolver -/

/-- Only an execution whose job is over may be quarantined. -/
def resolverMayRecord (s : ExecutorState) (cloid : Cloid) : Verdict → Bool
  | .filled _ _ => true
  | .terminal state => state = .rejected || state = .canceled
  | .quarantine _ => (s.jobs.lookup cloid.jobId).any fun job => !job.state.active

/-- The resolver takes an unresolved execution under its user's lock, asks for the order and, where
it needs to, for the position. -/
def resolveRead (s : ExecutorState) (task : TaskId) (cloid : Cloid) (verdict : Verdict) :
    Option ExecutorState :=
  match s.executions.lookup cloid with
  | none => none
  | some row =>
    if s.userLocked row.market.userId || (s.tasks.lookup task).isSome then none
    else if row.state.terminal || !resolverMayRecord s cloid verdict then none
    else some (s.putTask task (.resolve cloid row.market verdict
      ((s.unreflected row.market).map (·.1))))

/-- `_sync_asset_ledger_from_exchange_state`. -/
def syncedLedger (ledger : LedgerRow) (cloid : Cloid) (position : ℚ) (verifiedAt : ℕ) : LedgerRow :=
  { ledger with
    size := persistedLedgerDecimal position
    lastExecutionId := some cloid
    exchangeVerifiedAt := some verifiedAt }

/-- Write the position the resolver has read, if it has read one. -/
def syncLedger (s : ExecutorState) (market : Market) (cloid : Cloid) (position : Option ℚ)
    (verifiedAt : ℕ) (seen : List Cloid) : ExecutorState :=
  { s with
    ledger :=
      match position with
      | some position => Function.update s.ledger market
          (syncedLedger (s.ledger market) cloid position verifiedAt)
      | none => s.ledger
    unreflected :=
      if position.isSome then
        Function.update s.unreflected market
          ((s.unreflected market).filter fun u => u.1 ∉ seen)
      else s.unreflected }

/-- The resolver persists its verdict and writes the ledger. -/
def resolveCommit (s : ExecutorState) (task : TaskId) (verifiedAt now : ℕ) :
    Option ExecutorState :=
  match s.tasks.lookup task with
  | some (.resolve cloid market verdict seen) =>
    match s.executions.lookup cloid with
    | none => none
    | some row =>
      if verifiedAt ≤ s.clock ∨ now < verifiedAt ∨ row.state.terminal then none
      else
        (persistOutcome row (verdict.outcome row) now).map fun row' =>
          ((syncLedger s market cloid verdict.position verifiedAt seen).putExecution cloid
            row').dropTask task
  | _ => none

/-! ## The step -/

/-- One operation. -/
def applyExecutorOp (venue : Venue) (s : ExecutorState) (now : ℕ) :
    ExecutorOp → Option ExecutorState
  | .enqueue id job => enqueueJob s id job
  | .claim id worker task => claimJob s id worker task now
  | .releaseStale id => releaseStaleJob s id now
  | .supersede id => supersedeJob s id
  | .acquire task => acquireLock s task now
  | .begin task reads => beginAttempt venue s task reads
  | .enterLeg task reply => enterLeg venue s task reply now
  | .placeIoc task reaches => callPlaceIoc s task reaches
  | .respond task response => respondLeg s task response now
  | .applyFill task => applyFill venue s task now
  | .abandonFill task => abandonFill s task
  | .close task delay => closeAttempt s task now delay
  | .crash task => crashTask s task
  | .fill cloid lots => fillOrder venue s cloid lots
  | .reconcileRead task userId observed => reconcileRead s task userId observed
  | .reconcileCommit task verifiedAt assets planned =>
    reconcileCommit s task verifiedAt now assets planned
  | .resolveRead task cloid verdict => resolveRead s task cloid verdict
  | .resolveCommit task verifiedAt => resolveCommit s task verifiedAt now

/-- Time moves forward with every step. -/
def executorStep (venue : Venue) (s : ExecutorState) (a : ExecutorAction) : Option ExecutorState :=
  if s.clock < a.now then
    (applyExecutorOp venue s a.now a.op).map fun s' => { s' with clock := a.now }
  else none

/-- Nothing queued, nothing running, and every ledger size is the position at the exchange, which
is a whole number of lots. -/
def ExecutorState.initial (venue : Venue) (lots : Market → ℤ) : ExecutorState where
  clock := 0
  jobs := ∅
  executions := ∅
  ledger := fun market =>
    ⟨persistedLedgerDecimal (lots market * lot (venue.szDecimals market.asset)), none, none⟩
  tasks := ∅
  position := fun market => lots market * lot (venue.szDecimals market.asset)
  orders := ∅
  calls := []
  applied := []
  unreflected := fun _ => []

end HyperCopy

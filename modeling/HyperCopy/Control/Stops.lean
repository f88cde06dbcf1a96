import HyperCopy.Executor.Moves

/-!
# Stops

Copying is stopped by a row that somebody else writes: the user pauses or goes back to shadow mode
(`api/user.py`), an administrator pauses a user or the whole system or closes the live gate
(`api/admin.py`), the watcher sets `global_pause` when its replay is not proven
(`workers/watcher.py`), the reconciler halts a user who has lost too much
(`services/reconcile.py`), and a profile says which assets may be traded at all.  None of these
writers takes the lock an attempt works under.

An attempt reads the rows one after the other, each once, at any time after it has taken the
user's lock (`_process_job_locked`).  So every attempt keeps a view: what the rows have been since
it took the lock, and each value it goes by is one of these.  `seen` and `placed` record history
that no code reads.
-/

namespace HyperCopy

/-! ## The rows -/

/-- `RiskState.state`. -/
inductive RiskHaltState
  | normal
  | drawdownHalt
  | dailyLossHalt
  | credentialExpired
deriving DecidableEq, Repr

/-- `RiskState`, as far as an attempt reads it. -/
structure RiskControls where
  state : RiskHaltState
  nearLiquidation : Bool
deriving DecidableEq, Repr

/-- The rows of one user that an attempt checks. -/
structure UserControls where
  status : UserStatus
  risk : Option CopyRiskProfile
  riskState : Option RiskControls
deriving DecidableEq, Repr

/-- What is read before an order goes out: the flags, and the rows of each user. -/
structure CopyControls where
  globalPause : Bool
  emergencyStop : Bool
  liveTrading : Bool
  users : UserId → UserControls

/-- The settings of the process that gate orders. -/
structure CopySettings where
  enableLiveTrading : Bool
  defaultShadowMode : Bool
deriving DecidableEq, Repr

/-- `drawdown_halt`, `daily_loss_halt` and `near_liquidation` of the risk context. -/
def haltReads (row : Option RiskControls) : Bool × Bool × Bool :=
  (row.any (·.state = .drawdownHalt), row.any (·.state = .dailyLossHalt),
    row.any (·.nearLiquidation))

/-- `live_trading_allowed`. -/
def CopyControls.liveTradingAllowed (c : CopyControls) (settings : CopySettings)
    (network : Network) : Bool :=
  network ≠ .mainnet || (settings.enableLiveTrading && c.liveTrading)

/-! ## Who writes them -/

/-- The flags an administrator sets. -/
inductive CopyFlag
  | globalPause
  | emergencyStop
  | liveTrading
deriving DecidableEq, Repr

/-- What a reconciliation has observed of a user's losses; `limits` is absent without a profile. -/
structure LossReading where
  minLiquidationDistance : Option ℚ
  limits : Option (ℚ × ℚ)
  drawdownPct : ℚ
  dailyLossPct : ℚ
deriving DecidableEq, Repr

/-- Nearer than fifteen percent to the liquidation price. -/
def LossReading.nearLiquidation (reading : LossReading) : Bool :=
  reading.minLiquidationDistance.any (· < 15)

/-- The writes to the rows of one user. -/
inductive UserControlOp
  /-- `pause`, `pause_user`, and the last write of `unlink_trading_account`, `close_positions` and
  `_rollback_activation` -/
  | pause
  | shadow
  | link
  /-- `resume_copy_immediate` and `resume_user`, whose checks are made on earlier reads -/
  | activate
  | putRisk (profile : CopyRiskProfile)
  | observeLoss (reading : LossReading)
  /-- one row of `monitor_credential_expiry` -/
  | expireCredential
  /-- a switch of the destination removes the risk state -/
  | deleteRiskState
deriving DecidableEq, Repr

/-- The writes to the controls. -/
inductive CopyControlOp
  | user (userId : UserId) (op : UserControlOp)
  | setFlag (flag : CopyFlag) (enabled : Bool)
deriving DecidableEq, Repr

/-- The copy state alone is written. -/
def UserControls.setCopyState (row : UserControls) (copyState : CopyState) : UserControls :=
  { row with status := { row.status with copyState := copyState } }

/-- The risk state after a reconciliation: a halt is set, and never taken back. -/
def observedRiskState (row : Option RiskControls) (reading : LossReading) : RiskControls :=
  let state := (row.map (·.state)).getD .normal
  { state :=
      match reading.limits with
      | none => state
      | some (maxDrawdownPct, maxDailyLossPct) =>
        if maxDailyLossPct ≤ reading.dailyLossPct then .dailyLossHalt
        else if maxDrawdownPct ≤ reading.drawdownPct then .drawdownHalt
        else state
    nearLiquidation := reading.nearLiquidation }

/-- A write to the rows of the user. -/
def UserControls.apply (row : UserControls) (settings : CopySettings) :
    UserControlOp → UserControls
  | .pause => row.setCopyState .paused
  | .shadow => row.setCopyState .shadow
  | .link =>
    if settings.defaultShadowMode && row.status.copyState = .paused then row.setCopyState .shadow
    else row
  | .activate => row.setCopyState .active
  | .putRisk profile => { row with risk := some profile }
  | .observeLoss reading => { row with riskState := some (observedRiskState row.riskState reading) }
  | .expireCredential =>
    { row with riskState := some ⟨.credentialExpired, row.riskState.any (·.nearLiquidation)⟩ }
  | .deleteRiskState => { row with riskState := none }

/-- A write to the controls. -/
def CopyControls.apply (c : CopyControls) (settings : CopySettings) :
    CopyControlOp → CopyControls
  | .user userId op =>
    { c with users := Function.update c.users userId ((c.users userId).apply settings op) }
  | .setFlag .globalPause enabled => { c with globalPause := enabled }
  | .setFlag .emergencyStop enabled => { c with emergencyStop := enabled }
  | .setFlag .liveTrading enabled => { c with liveTrading := enabled }

/-! ## The stops -/

/-- What can be wrong with the rows of a user. -/
inductive UserStop
  | notActive
  | closeOnly
  | assetNotPermitted (asset : Asset)
  | lossHalt
  | nearLiquidation
deriving DecidableEq, Repr

/-- The reasons for which no order may go out, for everybody or for one user. -/
inductive CopyStop
  | emergencyStop
  | globalPause
  | liveGateClosed
  | user (userId : UserId) (stop : UserStop)
deriving DecidableEq, Repr

namespace UserStop

/-- The rows say so.  A user without a profile does not trade at all. -/
def inForce (k : UserStop) (row : UserControls) : Bool :=
  match k with
  | notActive => row.status.copyState ≠ .active
  | closeOnly => row.risk.all (·.closeOnly)
  | assetNotPermitted asset => row.risk.all fun profile => !assetAllowed profile asset
  | lossHalt => row.riskState.any fun r => r.state = .drawdownHalt || r.state = .dailyLossHalt
  | nearLiquidation => row.riskState.any (·.nearLiquidation)

/-- The markets of the user that a stop is about. -/
def covers (k : UserStop) (asset : Asset) : Bool :=
  match k with
  | assetNotPermitted asset' => asset = asset'
  | _ => true

/-- The writes that end a stop. -/
def liftedBy (k : UserStop) (op : UserControlOp) : Bool :=
  match k, op with
  | notActive, .activate => true
  | closeOnly, .putRisk profile => !profile.closeOnly
  | assetNotPermitted asset, .putRisk profile => assetAllowed profile asset
  | lossHalt, .expireCredential | lossHalt, .deleteRiskState => true
  | nearLiquidation, .observeLoss reading => !reading.nearLiquidation
  | nearLiquidation, .deleteRiskState => true
  | _, _ => false

end UserStop

namespace CopyStop

/-- Does the stop hold under these controls? -/
def inForce (k : CopyStop) (settings : CopySettings) (c : CopyControls) : Bool :=
  match k with
  | emergencyStop => c.emergencyStop
  | globalPause => c.globalPause
  | liveGateClosed => !(settings.enableLiveTrading && c.liveTrading)
  | user userId stop => stop.inForce (c.users userId)

/-- The jobs a stop is about.  The live gate is the gate of one network. -/
def covers (k : CopyStop) (job : CopyJob) : Bool :=
  match k with
  | emergencyStop | globalPause => true
  | liveGateClosed => job.context.followerNetwork = some .mainnet
  | user userId stop => job.market.userId = userId && stop.covers job.market.asset

/-- The orders a stop still lets through. -/
def permits (k : CopyStop) (reduceOnly : Bool) : Bool :=
  match k with
  | liveGateClosed => false
  | _ => reduceOnly

/-- The writes that end a stop. -/
def liftedBy (k : CopyStop) (op : CopyControlOp) : Bool :=
  match k, op with
  | emergencyStop, .setFlag .emergencyStop enabled => !enabled
  | globalPause, .setFlag .globalPause enabled => !enabled
  | liveGateClosed, .setFlag .liveTrading enabled => enabled
  | user userId stop, .user userId' op => userId' = userId && stop.liftedBy op
  | _, _ => false

end CopyStop

/-! ## The system -/

/-- What an attempt can have read: the rows since it took the lock. -/
structure AttemptView where
  lockedAt : ℕ
  seen : List CopyControls

/-- A call of `place_ioc`, with the step at which its attempt took the lock. -/
structure PlacedOrder where
  cloid : Cloid
  job : CopyJob
  reduceOnly : Bool
  lockedAt : ℕ
deriving DecidableEq, Repr

/-- The executor, the controls it reads, what each attempt has read of them, and the orders
placed. -/
structure CopySystem where
  steps : ℕ
  executor : ExecutorState
  controls : CopyControls
  views : TaskId → AttemptView
  placed : List PlacedOrder

/-- A ledger row of `close_positions`, with the id of the job that would close it. -/
structure CloseRow where
  jobId : JobId
  asset : Asset
  markPrice : ℚ
deriving DecidableEq, Repr

/-- `close_positions` with what it reads: the managed ledger rows that are not flat, and the assets
that have a pending `CLOSE_ALL` job.  The destination is the one the jobs are bound to when they
are published. -/
structure CloseRequest where
  userId : UserId
  network : Network
  epochId : EpochId
  provider : ExecutionProvider
  rows : List CloseRow
  pending : List Asset
deriving DecidableEq, Repr

/-- The job that closes one row of the request. -/
def closeJob (request : CloseRequest) (row : CloseRow) : CopyJob where
  market := ⟨request.userId, row.asset⟩
  origin := .closeAll
  context :=
    { followerNetwork := some request.network
      masterPosition := 0
      masterEquity := 1
      masterMarkPrice := row.markPrice
      masterLeverage := none
      desiredFollowerLeverage := none
      masterIntentOrder := none
      masterSnapshotStartedOrder := none
      aiExecutionFactor := none
      sourceMasterPosition := none
      leverageSyncOnly := false
      ambiguitySafeReduction := false }
  executionEpochId := some request.epochId
  executionProvider := some request.provider
  executionNetwork := some request.network

/-- The jobs a request stages: one for each row that has none yet. -/
def CloseRequest.jobs (request : CloseRequest) : List (JobId × CopyJob) :=
  (request.rows.filter fun row => row.asset ∉ request.pending).map fun row =>
    (row.jobId, closeJob request row)

/-- The jobs are inserted one by one. -/
def enqueueAll (s : ExecutorState) : List (JobId × CopyJob) → Option ExecutorState
  | [] => some s
  | (id, job) :: rest => (enqueueJob s id job).bind fun s' => enqueueAll s' rest

/-- A step of the executor, a write to the controls, or `close_positions`. -/
inductive CopyOp
  | executor (now : ℕ) (op : ExecutorOp)
  | control (op : CopyControlOp)
  | closePositions (request : CloseRequest)

/-- The write of the rows that an operation makes. -/
def CopyOp.control? : CopyOp → Option CopyControlOp
  | executor _ _ => none
  | control op => some op
  | closePositions request => some (.user request.userId .pause)

/-- Every value an attempt goes by was in its row at some time since the lock. -/
def readsAgree (settings : CopySettings) (seen : List CopyControls) (userId : UserId)
    (r : AttemptReads) : Bool :=
  (r.user.all fun status => seen.any fun c => (c.users userId).status = status) &&
    (seen.any fun c => (c.users userId).risk = r.risk) &&
    (seen.any fun c => haltReads (c.users userId).riskState =
      (r.drawdownHalt, r.dailyLossHalt, r.nearLiquidation)) &&
    (seen.any fun c => c.globalPause = r.globalPause) &&
    (seen.any fun c => c.emergencyStop = r.emergencyStop) &&
    (seen.any fun c => c.liveTradingAllowed settings r.network = r.liveTradingAllowed)

namespace CopySystem

/-- `CLOSE_ALL` jobs come from `close_positions` only, and an attempt plans from what it has
read. -/
def admits (s : CopySystem) (settings : CopySettings) : ExecutorOp → Bool
  | .enqueue _ job => job.origin ≠ .closeAll
  | .begin task reads =>
    match s.executor.tasks.lookup task with
    | some (.attempt _ userId _ _) =>
      readsAgree settings (s.views task).seen userId reads.toAttemptReads
    | _ => true
  | _ => true

/-- The order that a step sends to the exchange. -/
def placedBy (s : CopySystem) : ExecutorOp → List PlacedOrder
  | .placeIoc task _ =>
    match s.executor.tasks.lookup task with
    | some (.attempt id _ _ (.journaled a leg)) =>
      [⟨⟨id, leg.kind⟩, a.job, leg.order.reduceOnly, (s.views task).lockedAt⟩]
    | _ => []
  | _ => []

/-- The views after an operation: taking the lock starts a new one. -/
def viewsAfter (s : CopySystem) : ExecutorOp → TaskId → AttemptView
  | .acquire task => Function.update s.views task ⟨s.steps, [s.controls]⟩
  | _ => s.views

/-- A step of the executor, with what its attempts have read and placed. -/
def follow (s : CopySystem) (op : ExecutorOp) (executor : ExecutorState) : CopySystem :=
  { s with
    steps := s.steps + 1
    executor := executor
    views := s.viewsAfter op
    placed := s.placed ++ s.placedBy op }

/-- The rows are written, while the attempts are running. -/
def write (s : CopySystem) (executor : ExecutorState) (controls : CopyControls) : CopySystem :=
  { s with
    steps := s.steps + 1
    executor := executor
    controls := controls
    views := fun task =>
      { s.views task with seen := (s.views task).seen ++ [controls] } }

/-- Nothing has happened under these controls. -/
def initial (venue : Venue) (lots : Market → ℤ) (controls : CopyControls) : CopySystem where
  steps := 0
  executor := .initial venue lots
  controls := controls
  views := fun _ => ⟨0, []⟩
  placed := []

end CopySystem

/-- One step of the whole. -/
def copyStep (venue : Venue) (settings : CopySettings) (s : CopySystem) : CopyOp → Option CopySystem
  | .executor now op =>
    if s.admits settings op then (executorStep venue s.executor ⟨now, op⟩).map (s.follow op)
    else none
  | .control op => some (s.write s.executor (s.controls.apply settings op))
  | .closePositions request =>
    (enqueueAll s.executor request.jobs).map fun executor =>
      s.write executor (s.controls.apply settings (.user request.userId .pause))

end HyperCopy

import HyperCopy.Library.Transition
import HyperCopy.Destination.EpochHistory
import Mathlib.Data.Rat.Defs

/-!
# Risk evidence of a destination

Ledger rows and the risk state of a user (`peak_equity`, `day_start_equity`) are written from
observations of the user's destination by `reconcile_observed_follower`, and the endpoints of
`api/user.py` that change the destination are to remove them.

An endpoint reads first, what it will request and which risk row there is, and commits later:
the row of the user is locked, the destination is set, and `trading_network` and
`trading_provider` delete the evidence.  The two link endpoints close the epoch and set the
destination, and delete nothing.  A reconciliation observes, compares the observation with the
active destination, inserts its run row, which keeps the row of the user from being locked by
anyone else, and then writes what it observed.

Every observed value carries the destination it was observed on, which the code does not store.
-/

namespace HyperCopy

open Transition

/-! ## Rows -/

/-- The handle of a request. -/
abbrev EndpointId := ℕ

/-- The handle of a reconciliation pass. -/
abbrev PassId := ℕ

/-- The identity of a risk row; a row that replaces another has a new one. -/
abbrev RiskRowId := ℕ

/-- A provider and a network. -/
structure DestinationVenue where
  provider : ExecutionProvider
  network : Network
deriving DecidableEq, Repr

/-- Where the user's orders go. -/
def User.venue (row : User) : DestinationVenue := ⟨row.executionProvider, row.executionNetwork⟩

/-- An equity, with the venue it was observed at. -/
structure ObservedEquity where
  value : ℚ
  venue : DestinationVenue
deriving DecidableEq, Repr

/-- The halts that a pass may write. -/
inductive RiskHalt
  | normal
  | drawdownHalt
  | dailyLossHalt
deriving DecidableEq, Repr

/-- The row of `risk_state`, with the venues its figures come from. -/
structure RiskRow where
  id : RiskRowId
  state : RiskHalt
  peakEquity : Option ObservedEquity
  dayStartEquity : Option ObservedEquity
  dayKey : Option ℕ
deriving DecidableEq, Repr

/-- A `position_ledger` row, with the venue its size was observed on. -/
structure ObservedLedger where
  size : ℚ
  venue : DestinationVenue
deriving DecidableEq, Repr

/-! ## Drawdown and daily loss -/

/-- The limits of the user's profile. -/
structure RiskThresholds where
  maxDrawdownPct : ℚ
  maxDailyLossPct : ℚ
deriving DecidableEq, Repr

/-- What one reconciliation compares the observed equity with, and what comes out. -/
structure RiskComparison where
  userId : UserId
  equity : ObservedEquity
  peak : ObservedEquity
  dayStart : Option ObservedEquity
  drawdown : ℚ
  dailyLoss : ℚ
deriving DecidableEq, Repr

/-- The loss from `start` to `equity`, in percent. -/
def lossPct (start equity : ℚ) : ℚ := if 0 < start then (start - equity) / start * 100 else 0

/-- `max(stored_peak_equity, equity)`. -/
def peakWith (stored : Option ObservedEquity) (equity : ObservedEquity) : ObservedEquity :=
  match stored with
  | none => equity
  | some peak => if peak.value < equity.value then equity else peak

/-- The day's start as the pass leaves it. -/
def dayStartWith (row : RiskRow) (today : ℕ) (equity : ObservedEquity) : Option ObservedEquity :=
  if row.dayKey = some today then row.dayStartEquity else some equity

/-- The comparison a pass makes: the equity against the peak and the start of the day. -/
def compareRisk (userId : UserId) (row : RiskRow) (today : ℕ) (equity : ObservedEquity) :
    RiskComparison where
  userId := userId
  equity := equity
  peak := peakWith row.peakEquity equity
  dayStart := dayStartWith row today equity
  drawdown := lossPct (peakWith row.peakEquity equity).value equity.value
  dailyLoss := ((dayStartWith row today equity).map fun d => lossPct d.value equity.value).getD 0

/-- The risk row after a comparison. -/
def updateRisk (row : RiskRow) (today : ℕ) (limits : RiskThresholds) (c : RiskComparison) :
    RiskRow :=
  let drawdownState := if limits.maxDrawdownPct ≤ c.drawdown then .drawdownHalt else row.state
  { row with
    state := if limits.maxDailyLossPct ≤ c.dailyLoss then .dailyLossHalt else drawdownState
    peakEquity := some c.peak
    dayStartEquity := c.dayStart
    dayKey := some today }

/-- The row a pass starts from: the stored one, or a new one from the observed equity. -/
def riskRowOr (stored : Option RiskRow) (id : RiskRowId) (today : ℕ) (equity : ObservedEquity) :
    RiskRow :=
  stored.getD ⟨id, .normal, some equity, some equity, some today⟩

/-! ## State -/

/-- The endpoints that move a user to another destination. -/
inductive EndpointKind
  | tradingNetwork
  | tradingProvider
  | linkTradingAccount
  | linkRisexTradingAccount
deriving DecidableEq, Repr

/-- The endpoints that link an account. -/
def EndpointKind.links : EndpointKind → Bool
  | .tradingNetwork | .tradingProvider => false
  | .linkTradingAccount | .linkRisexTradingAccount => true

/-- An endpoint between its reads and its commit. -/
structure EndpointTask where
  userId : UserId
  kind : EndpointKind
  request : DestinationRequest
  riskRead : Option RiskRowId
deriving DecidableEq, Repr

/-- How far a pass has come. -/
inductive PassPhase
  | observed
  | checked
  /-- The run row is inserted, and holds its user. -/
  | running
deriving DecidableEq, Repr

/-- A pass over one user, with the equity it has observed. -/
structure ReconcilePass where
  userId : UserId
  epochId : EpochId
  equity : ObservedEquity
  phase : PassPhase
deriving DecidableEq, Repr

/-- The destination rows, the rows that hold evidence of a venue, the requests and passes under way,
and the comparisons made. -/
structure EndpointState where
  db : DestinationDb
  ledgers : Table (UserId × Asset) ObservedLedger
  risks : Table UserId RiskRow
  endpoints : Table EndpointId EndpointTask
  passes : Table PassId ReconcilePass
  /-- Newest first. -/
  comparisons : List RiskComparison
  clock : ℕ

/-- The row of the user is held by a run. -/
def EndpointState.held (s : EndpointState) (userId : UserId) : Bool :=
  Table.any s.passes fun _ pass => pass.userId = userId && pass.phase = .running

/-! ## Endpoints -/

/-- The destination an endpoint requests, from what it reads; `none` where it returns without a
change or raises. -/
def requestedDestination (db : DestinationDb) (userId : UserId) (kind : EndpointKind)
    (provider : ExecutionProvider) (network : Network)
    (account : Option AccountAddress × Option ℕ) : Option DestinationRequest :=
  match kind, userDestinationState db userId, db.users.lookup userId with
  | .tradingNetwork, .ok d, _ =>
      if network = d.network then none else some ⟨d.provider, network, none, none⟩
  | .tradingProvider, .ok d, _ =>
      if provider = d.provider then none else some ⟨provider, d.network, account.1, account.2⟩
  | .tradingProvider, .error .noActiveEpoch, some row =>
      if provider = row.executionProvider then none
      else some ⟨provider, row.executionNetwork, account.1, account.2⟩
  | .linkTradingAccount, .ok d, _ => some ⟨.hyperliquid, d.network, account.1, account.2⟩
  | .linkRisexTradingAccount, .ok d, _ => some ⟨.risex, d.network, account.1, account.2⟩
  | _, _, _ => none

/-- The tables an endpoint leaves when its destination is set: a link endpoint closes the epoch
first. -/
def setDestinationOf (db : DestinationDb) (task : EndpointTask) (evidence : SwitchEvidence)
    (now : ℕ) (epochId : EpochId) : Except DestinationError DestinationDb :=
  match if task.kind.links then closeUserDestinationEpoch db task.userId now else .ok db with
  | .error e => .error e
  | .ok closed =>
      (setUserDestination closed task.userId task.request evidence now epochId).map (·.1)

/-- Delete the ledger of a user. -/
def deleteLedgers (ledgers : Table (UserId × Asset) ObservedLedger) (userId : UserId) :
    Table (UserId × Asset) ObservedLedger :=
  (ledgers.entries.filter fun e => e.1.1 = userId).foldl (fun t e => t.erase e.1) ledgers

/-- Delete the risk row of a user that an endpoint read as `riskRead`; a row it did not read stays. -/
def deleteRiskRow (risks : Table UserId RiskRow) (userId : UserId) (riskRead : Option RiskRowId) :
    Table UserId RiskRow :=
  if (risks.lookup userId).map (·.id) = riskRead then risks.erase userId else risks

/-- What an endpoint commits; `none` where it raises and is rolled back. -/
def commitEndpoint (s : EndpointState) (task : EndpointTask) (evidence : SwitchEvidence)
    (now : ℕ) (epochId : EpochId) : Option EndpointState :=
  match setDestinationOf s.db task evidence now epochId with
  | .error _ => none
  | .ok db =>
      if task.kind.links then some { s with db := db }
      else
        some { s with
          db := db
          ledgers := deleteLedgers s.ledgers task.userId
          risks := deleteRiskRow s.risks task.userId task.riskRead }

/-! ## Reconciliation -/

/-- The writes of a pass: the rows of the positions it went through, and the risk state, compared
where the user has a risk profile.  A pass that raises commits what it has written. -/
def commitPass (s : EndpointState) (pass : ReconcilePass) (today : ℕ) (riskId : RiskRowId)
    (limits : Option RiskThresholds) (positions : List (Asset × ℚ)) : EndpointState :=
  let row := riskRowOr (s.risks.lookup pass.userId) riskId today pass.equity
  let comparison := compareRisk pass.userId row today pass.equity
  { s with
    ledgers := positions.foldl (fun t p =>
      t.insert (pass.userId, p.1) ⟨p.2, pass.equity.venue⟩) s.ledgers
    risks := s.risks.insert pass.userId
      ((limits.map fun l => updateRisk row today l comparison).getD row)
    comparisons := (limits.map fun _ => [comparison]).getD [] ++ s.comparisons }

/-! ## Steps -/

/-- What can happen to them. -/
inductive EndpointOp
  /-- A login creates the user and an empty risk row. -/
  | addUser (userId : UserId) (provider : ExecutionProvider) (network : Network)
      (networkStartedAt : ℕ) (riskId : RiskRowId)
  | networkState (userId : UserId) (account : Option AccountAddress × Option ℕ)
      (epochId : EpochId)
  | unlink (userId : UserId) (readAt : ℕ)
  | start (endpointId : EndpointId) (userId : UserId) (kind : EndpointKind)
      (provider : ExecutionProvider) (network : Network)
      (account : Option AccountAddress × Option ℕ)
  | commit (endpointId : EndpointId) (evidence : SwitchEvidence) (epochId : EpochId)
  | rollback (endpointId : EndpointId)
  | observe (passId : PassId) (userId : UserId) (equity : ℚ)
  | checkDestination (passId : PassId)
  | insertRun (passId : PassId)
  | commitPass (passId : PassId) (today : ℕ) (riskId : RiskRowId)
      (limits : Option RiskThresholds) (positions : List (Asset × ℚ))
  | failPass (passId : PassId)

/-- An operation at a time. -/
structure EndpointAction where
  now : ℕ
  op : EndpointOp

/-- The pass comes to its next phase. -/
def ReconcilePass.advance (pass : ReconcilePass) (phase : PassPhase) : ReconcilePass :=
  { pass with phase := phase }

/-- One operation. -/
def applyEndpointOp (s : EndpointState) (now : ℕ) : EndpointOp → Option EndpointState
  | .addUser userId provider network networkStartedAt riskId =>
      if s.db.users.lookup userId = none ∧ networkStartedAt ≤ now then
        let row : User := ⟨provider, network, networkStartedAt, none⟩
        some { s with
          db := { s.db with users := s.db.users.insert userId row }
          risks := s.risks.insert userId ⟨riskId, .normal, none, none, none⟩ }
      else none
  | .networkState userId account epochId =>
      if s.held userId || (s.db.epochs.lookup epochId).isSome then none
      else
        match userNetworkState s.db userId account now epochId with
        | .ok (db, _) => some { s with db := db }
        | .error _ => some s
  | .unlink userId readAt =>
      if s.held userId || now < readAt then none
      else
        match closeUserDestinationEpoch s.db userId readAt with
        | .ok db => some { s with db := db }
        | .error _ => some s
  | .start endpointId userId kind provider network account =>
      if (s.endpoints.lookup endpointId).isSome then none
      else
        (requestedDestination s.db userId kind provider network account).map fun request =>
          let task : EndpointTask := ⟨userId, kind, request, (s.risks.lookup userId).map (·.id)⟩
          { s with endpoints := s.endpoints.insert endpointId task }
  | .commit endpointId evidence epochId =>
      match s.endpoints.lookup endpointId with
      | none => none
      | some task =>
          if s.held task.userId || (s.db.epochs.lookup epochId).isSome then none
          else
            let committed := (commitEndpoint s task evidence now epochId).getD s
            some { committed with endpoints := s.endpoints.erase endpointId }
  | .rollback endpointId => some { s with endpoints := s.endpoints.erase endpointId }
  | .observe passId userId equity =>
      match s.passes.lookup passId, userDestinationState s.db userId with
      | none, .ok d =>
          let pass : ReconcilePass :=
            ⟨userId, d.epochId, ⟨equity, ⟨d.provider, d.network⟩⟩, .observed⟩
          some { s with passes := s.passes.insert passId pass }
      | _, _ => none
  | .checkDestination passId =>
      match s.passes.lookup passId with
      | none => none
      | some pass =>
          if pass.phase = .observed then
            match userDestinationState s.db pass.userId with
            | .ok d =>
                if (⟨d.provider, d.network⟩ : DestinationVenue) = pass.equity.venue ∧
                    d.epochId = pass.epochId then
                  some { s with passes := s.passes.insert passId (pass.advance .checked) }
                else some { s with passes := s.passes.erase passId }
            | .error _ => some { s with passes := s.passes.erase passId }
          else none
  | .insertRun passId =>
      match s.passes.lookup passId with
      | none => none
      | some pass =>
          if pass.phase = .checked then
            some { s with passes := s.passes.insert passId (pass.advance .running) }
          else none
  | .commitPass passId today riskId limits positions =>
      match s.passes.lookup passId with
      | none => none
      | some pass =>
          if pass.phase = .running then
            let committed := HyperCopy.commitPass s pass today riskId limits positions
            some { committed with passes := s.passes.erase passId }
          else none
  | .failPass passId => some { s with passes := s.passes.erase passId }

/-- Time moves forward with every step. -/
def endpointStep (s : EndpointState) (a : EndpointAction) : Option EndpointState :=
  if s.clock < a.now then (applyEndpointOp s a.now a.op).map fun t => { t with clock := a.now }
  else none

/-- No user has logged in yet. -/
def EndpointState.initial : EndpointState := ⟨⟨∅, ∅⟩, ∅, ∅, ∅, ∅, [], 0⟩

end HyperCopy

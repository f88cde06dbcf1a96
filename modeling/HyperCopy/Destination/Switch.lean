import HyperCopy.Library.Transition
import HyperCopy.Destination.Epochs
import Mathlib.Data.List.Sort
import Mathlib.Data.Rat.Defs

/-!
# Destination switches

`set_user_destination` with the checks it makes of the destination it leaves
(`services/destination_switch.py`), at the grain of its statements: the row of the user is locked
and read (`start`), the source destination is assessed, with the provider's reads in between
(`assess`), the local blockers are looked for again (`recheck`), and the new epoch is written
(`commit`).  Between any two of them other transactions may write jobs, executions, ledger rows
and accounts; a write to the row of the user waits for its lock.

Blockers are looked for in the source epoch: the active one, or the latest when none is active.
-/

namespace HyperCopy

open Transition

/-! ## Rows -/

/-- The primary key of a ledger row. -/
abbrev LedgerId := ℕ

/-- The handle of a switch request. -/
abbrev SwitchId := ℕ

/-- A job, as far as the blockers read it. -/
structure SwitchJob where
  userId : UserId
  executionEpochId : Option EpochId
  state : JobState
deriving DecidableEq, Repr

/-- An execution, as far as the blockers read it. -/
structure SwitchExecution where
  userId : UserId
  executionEpochId : Option EpochId
  state : ExecutionState
deriving DecidableEq, Repr

/-- A ledger row, as far as the blockers read it. -/
structure SwitchLedger where
  userId : UserId
  managed : Bool
  size : ℚ
deriving DecidableEq, Repr

/-- A trading account and the key version of its signing credential, if it has one. -/
structure SwitchAccount where
  accountAddress : AccountAddress
  keyVersion : Option ℕ
deriving DecidableEq, Repr

/-- The rows the local checks read. -/
structure LocalRows where
  jobs : Table JobId SwitchJob
  executions : Table ExecutionId SwitchExecution
  ledgers : Table LedgerId SwitchLedger

/-! ## The checks -/

/-- `destination_switch_blockers`.  Without a source epoch the rows without an epoch are meant. -/
def destinationSwitchBlockers (copyState : Option CopyState) (rows : LocalRows) (userId : UserId)
    (sourceEpochId : Option EpochId) : List DestinationSwitchBlocker :=
  match copyState with
  | none => [.userUnavailable]
  | some copyState =>
      (if copyState ≠ .paused then [.pauseRequired] else []) ++
      (if Table.any rows.ledgers fun _ l => l.userId = userId && l.managed && l.size ≠ 0 then
        [.positionsNotFlat] else []) ++
      (if Table.any rows.jobs fun _ job => job.userId = userId &&
          job.executionEpochId = sourceEpochId && job.state.active then
        [.pendingJobs] else []) ++
      if Table.any rows.executions fun _ x => x.userId = userId &&
          x.executionEpochId = sourceEpochId && x.state.unresolved then
        [.unresolvedExecutions] else []

/-- `_never_activated`; a credential belongs to an account. -/
def neverActivated (db : DestinationDb) (accounts : Table UserId SwitchAccount)
    (userId : UserId) : Bool :=
  (accounts.lookup userId).isNone &&
    !Table.any db.epochs fun _ e => e.userId = userId && e.accountAddress.isSome

/-- `_latest_destination_epoch`. -/
def latestDestinationEpoch (db : DestinationDb) (userId : UserId) : Option EpochId :=
  (((db.epochs.entries.filter fun e => e.2.userId = userId).insertionSort fun a b =>
    b.2.startedAt < a.2.startedAt ∨
      (b.2.startedAt = a.2.startedAt ∧ b.2.createdAt ≤ a.2.createdAt)).head?).map (·.1)

/-- The epoch whose work a switch has to leave settled. -/
def sourceEpoch (db : DestinationDb) (userId : UserId) (row : User) : Option EpochId :=
  row.activeExecutionEpochId.orElse fun _ => latestDestinationEpoch db userId

/-- The source epoch is of the persisted destination, and its account and credential are the
stored ones. -/
def sourceIdentityHolds (db : DestinationDb) (accounts : Table UserId SwitchAccount)
    (userId : UserId) (row : User) (sourceEpochId : Option EpochId) : Bool :=
  match sourceEpochId.bind fun id => db.epochs.lookup id, accounts.lookup userId with
  | some source, some account =>
      source.userId = userId && source.provider = row.executionProvider &&
        source.network = row.executionNetwork && source.accountAddress = some account.accountAddress &&
        source.credentialVersion.isSome && source.credentialVersion = account.keyVersion
  | _, _ => false

/-! ## State -/

/-- How far a switch has come, with what its checks found; a second check also records the rows it
read. -/
inductive SwitchPhase
  | started
  | assessed (state : DestinationLifecycleState) (blockers : List DestinationSwitchBlocker)
  | rechecked (state : DestinationLifecycleState) (blockers fresh : List DestinationSwitchBlocker)
      (rows : LocalRows)

/-- A transaction inside `set_user_destination`, with the row it holds locked. -/
structure SwitchTask where
  userId : UserId
  request : DestinationRequest
  row : User
  sourceEpochId : Option EpochId
  phase : SwitchPhase

/-- The request comes to its next phase. -/
def SwitchTask.advance (task : SwitchTask) (phase : SwitchPhase) : SwitchTask :=
  { task with phase := phase }

/-- The rows that a switch reads and writes, and the requests under way. -/
structure SwitchState where
  db : DestinationDb
  copyStates : Table UserId CopyState
  rows : LocalRows
  accounts : Table UserId SwitchAccount
  tasks : Table SwitchId SwitchTask
  clock : ℕ

/-- The row of the user is locked by a switch. -/
def SwitchState.locked (s : SwitchState) (userId : UserId) : Bool :=
  Table.any s.tasks fun _ task => task.userId = userId

/-- `assess_destination_switch`; `flat` is the verdict of the provider's positions and orders. -/
def assessDestinationSwitch (s : SwitchState) (task : SwitchTask) (flat : Bool) :
    DestinationLifecycleState × List DestinationSwitchBlocker :=
  let blockers := destinationSwitchBlockers (s.copyStates.lookup task.userId) s.rows task.userId
    task.sourceEpochId
  if blockers ≠ [] then (.unreadable, blockers)
  else if neverActivated s.db s.accounts task.userId then (.neverActivated, [])
  else if !sourceIdentityHolds s.db s.accounts task.userId task.row task.sourceEpochId then
    (.unreadable, [])
  else if task.row.executionProvider ≠ .hyperliquid then (.unreadable, [])
  else if flat then (.verifiedFlat, [])
  else (.unreadable, [])

/-- What the checks of a switch have established; before them, nothing. -/
def SwitchPhase.evidence : SwitchPhase → SwitchEvidence
  | .started | .assessed _ _ => ⟨.unreadable, [], []⟩
  | .rechecked state blockers fresh _ => ⟨state, blockers, fresh⟩

/-! ## Steps -/

/-- What requests and workers do. -/
inductive SwitchOp
  | addUser (userId : UserId) (provider : ExecutionProvider) (network : Network)
      (networkStartedAt : ℕ) (copyState : CopyState)
  | setCopyState (userId : UserId) (copyState : CopyState)
  | closeEpoch (userId : UserId) (readAt : ℕ)
  | networkState (userId : UserId) (account : Option AccountAddress × Option ℕ)
      (epochId : EpochId)
  | writeJob (jobId : JobId) (job : SwitchJob)
  | writeExecution (executionId : ExecutionId) (x : SwitchExecution)
  | writeLedger (ledgerId : LedgerId) (ledger : SwitchLedger)
  | deleteLedger (ledgerId : LedgerId)
  | writeAccount (userId : UserId) (account : SwitchAccount)
  | deleteAccount (userId : UserId)
  | start (switchId : SwitchId) (userId : UserId) (request : DestinationRequest)
  | assess (switchId : SwitchId) (flat : Bool)
  | recheck (switchId : SwitchId)
  | commit (switchId : SwitchId) (epochId : EpochId)
  | rollback (switchId : SwitchId)

/-- An operation at a time. -/
structure SwitchAction where
  now : ℕ
  op : SwitchOp

/-- The write of `set_user_destination`, which raises where its checks do not allow it. -/
def commitSwitch (s : SwitchState) (switchId : SwitchId) (task : SwitchTask) (now : ℕ)
    (epochId : EpochId) : SwitchState :=
  match setUserDestination s.db task.userId task.request task.phase.evidence now epochId with
  | .ok (db, _) => { s with db := db, tasks := s.tasks.erase switchId }
  | .error _ => { s with tasks := s.tasks.erase switchId }

/-- One operation. -/
def applySwitchOp (s : SwitchState) (now : ℕ) : SwitchOp → Option SwitchState
  | .addUser userId provider network networkStartedAt copyState =>
      if s.db.users.lookup userId = none ∧ networkStartedAt ≤ now then
        let row : User := ⟨provider, network, networkStartedAt, none⟩
        some { s with
          db := { s.db with users := s.db.users.insert userId row }
          copyStates := s.copyStates.insert userId copyState }
      else none
  | .setCopyState userId copyState =>
      if s.locked userId then none
      else some { s with copyStates := s.copyStates.insert userId copyState }
  | .closeEpoch userId readAt =>
      if s.locked userId || now < readAt then none
      else
        match closeUserDestinationEpoch s.db userId readAt with
        | .ok db => some { s with db := db }
        | .error _ => some s
  | .networkState userId account epochId =>
      if s.locked userId || (s.db.epochs.lookup epochId).isSome then none
      else
        match userNetworkState s.db userId account now epochId with
        | .ok (db, _) => some { s with db := db }
        | .error _ => some s
  | .writeJob jobId job =>
      some { s with rows := { s.rows with jobs := s.rows.jobs.insert jobId job } }
  | .writeExecution executionId x =>
      some { s with rows := { s.rows with executions := s.rows.executions.insert executionId x } }
  | .writeLedger ledgerId ledger =>
      some { s with rows := { s.rows with ledgers := s.rows.ledgers.insert ledgerId ledger } }
  | .deleteLedger ledgerId =>
      some { s with rows := { s.rows with ledgers := s.rows.ledgers.erase ledgerId } }
  | .writeAccount userId account =>
      some { s with accounts := s.accounts.insert userId account }
  | .deleteAccount userId => some { s with accounts := s.accounts.erase userId }
  | .start switchId userId request =>
      match s.db.users.lookup userId with
      | some row =>
          if s.locked userId || (s.tasks.lookup switchId).isSome then none
          else
            let task : SwitchTask := ⟨userId, request, row, sourceEpoch s.db userId row, .started⟩
            some { s with tasks := s.tasks.insert switchId task }
      | none => none
  | .assess switchId flat =>
      match s.tasks.lookup switchId with
      | some task =>
          match task.phase with
          | .started =>
              let found := assessDestinationSwitch s task flat
              let assessed := task.advance (.assessed found.1 found.2)
              some { s with tasks := s.tasks.insert switchId assessed }
          | _ => none
      | none => none
  | .recheck switchId =>
      match s.tasks.lookup switchId with
      | some task =>
          match task.phase with
          | .assessed state blockers =>
              let fresh := destinationSwitchBlockers (s.copyStates.lookup task.userId) s.rows
                task.userId task.sourceEpochId
              let rechecked := task.advance (.rechecked state blockers fresh s.rows)
              some { s with tasks := s.tasks.insert switchId rechecked }
          | _ => none
      | none => none
  | .commit switchId epochId =>
      match s.tasks.lookup switchId with
      | some task =>
          if (s.db.epochs.lookup epochId).isSome then none
          else some (commitSwitch s switchId task now epochId)
      | none => none
  | .rollback switchId => some { s with tasks := s.tasks.erase switchId }

/-- Time moves forward with every step. -/
def switchStep (s : SwitchState) (a : SwitchAction) : Option SwitchState :=
  if s.clock < a.now then (applySwitchOp s a.now a.op).map fun t => { t with clock := a.now }
  else none

/-- Empty tables at the origin of the clock. -/
def SwitchState.initial : SwitchState := ⟨⟨∅, ∅⟩, ∅, ⟨∅, ∅, ∅⟩, ∅, ∅, 0⟩

end HyperCopy

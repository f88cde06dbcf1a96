import HyperCopy.Risex.Submission
import HyperCopy.Library.TableSum

/-!
# The exposure budget of RISEx mainnet

`persist_risex_pre_post_execution` reserves the notional of an order against two ceilings, and
`settle_risex_execution_under_accounting_lock` releases the reservation with the outcome; both hold
one advisory lock to the end of their transaction.  `claim_risex_first_post` cancels an execution
that is no longer the user's without that lock; its row lock alone keeps it out of a settlement.

A session is one `AsyncSession`.  What it has loaded it keeps over a commit and loses in a rollback,
and a locked read without `populate_existing` does not refresh it: `instances` holds the executions
each session has loaded.  A transaction that waits for a lock is not enabled.  The executions are
keyed by their copy job, as there is one for each.  The jobs are a parameter: these routines read
only columns that never change.  The events are history: the reservations made, with the amounts at
their commit, the commits that released one, and the claims for a POST.
-/

namespace HyperCopy

/-- The handle of a database session. -/
abbrev SessionId := ℕ

/-! ## Rows -/

/-- A row of `executions` of either network, with its reservation. -/
structure ReservedExecution extends RisexExecution where
  executionNetwork : Option Network
  reserved : Option ℚ
deriving DecidableEq, Repr

namespace ReservedExecution

/-- The filters of the two sums. -/
def countsAsReserved (row : ReservedExecution) : Bool :=
  row.executionNetwork = some .mainnet && row.state.unresolved && !row.reduceOnly

/-- `reserved_exposure_usdc`. -/
def reservedExposureUsdc (row : ReservedExecution) : ℚ :=
  if row.countsAsReserved then
    match row.reserved with
    | some value => if 0 < value then value else 0
    | none => 0
  else 0

end ReservedExecution

/-- `SUM(reserved_exposure_usdc)` over the active reservations of the users that are asked for. -/
def sumReserved (executions : Table JobId ReservedExecution) (users : UserId → Bool) : ℚ :=
  Table.sum executions fun row =>
    if row.countsAsReserved && users row.userId then row.reserved.getD 0 else 0

/-- The active reservations of the users that are asked for. -/
def activeReservations (executions : Table JobId ReservedExecution) (users : UserId → Bool) : ℚ :=
  Table.sum executions fun row => if users row.userId then row.reservedExposureUsdc else 0

/-- All users. -/
def everyUser : UserId → Bool := fun _ => true

/-- One user. -/
def onlyUser (userId : UserId) : UserId → Bool := fun u => u = userId

/-! ## Calls -/

/-- A call of `persist_risex_pre_post_execution`. -/
structure PrePostCall where
  jobId : JobId
  newId : ExecutionId
  intent : RisexOrderIntent
  plan : RisexIocPlan
  request : RisexRequest
deriving DecidableEq, Repr

/-- The checks of the call and the columns of its row.  They are those of testnet, on a table where
the job has none yet. -/
def prePostRow (job : RisexJob) (call : PrePostCall) : Except RisexError RisexExecution :=
  (persistRisexPrePostExecution ∅ call.newId call.jobId job call.intent call.plan
    call.request).map Prod.snd

/-- The order adds exposure on mainnet. -/
def reservesExposure (job : RisexJob) (call : PrePostCall) : Bool :=
  job.executionNetwork = some .mainnet && !call.intent.reduceOnly

/-- What a call reserves: its size at its limit price. -/
def reservation (call : PrePostCall) : ℚ := call.plan.requestedSize * call.plan.limitPrice

/-- What the provider truth callback of a settlement does. -/
inductive ProviderTruth
  | absent
  | raises
  | invalid
  | persisted
deriving DecidableEq, Repr

/-! ## State -/

/-- Where the transaction of a session is. -/
inductive BudgetPhase
  /-- The job has no execution. -/
  | reserving (call : PrePostCall) (job : RisexJob)
  /-- The exposure of the user and of everybody is read. -/
  | exposed (call : PrePostCall) (job : RisexJob) (user total : ℚ)
  | aggregated (call : PrePostCall) (job : RisexJob) (user total aggregateReserved : ℚ)
  | summed (call : PrePostCall) (job : RisexJob) (user total aggregateReserved userReserved : ℚ)
  /-- The job had its execution; the caller has not ended the transaction. -/
  | returned
  /-- The locked row had an active reservation; the provider truth is being persisted. -/
  | settling (jobId : JobId) (outcome : RisexSubmissionOutcome) (seen : ReservedExecution)
deriving DecidableEq, Repr

/-- A reservation, with the amounts when it was committed. -/
structure ReservationGrant where
  jobId : JobId
  userExposure : ℚ
  totalExposure : ℚ
  userActive : ℚ
  totalActive : ℚ
  amount : ℚ
deriving DecidableEq, Repr

/-- Why a reservation was released. -/
inductive ReleaseEvidence
  | providerTruth
  | rejected
  | preSubmitBlocked
deriving DecidableEq, Repr

/-- What is recorded: a reservation is granted, released, or claimed for its POST. -/
inductive BudgetEvent
  | granted (grant : ReservationGrant)
  | released (jobId : JobId) (state : ExecutionState) (evidence : ReleaseEvidence)
  /-- The execution is claimed for its POST. -/
  | claimed (jobId : JobId)
deriving DecidableEq, Repr

/-- The rows, the instances each session holds, the lock, and what happened. -/
structure BudgetState where
  executions : Table JobId ReservedExecution
  instances : Table SessionId (Table JobId ReservedExecution)
  budgetLock : Option SessionId
  sessions : Table SessionId BudgetPhase
  events : List BudgetEvent

namespace BudgetState

/-- The instance a session has loaded. -/
def instanceOf (s : BudgetState) (c : SessionId) (jobId : JobId) : Option ReservedExecution :=
  (s.instances.lookup c).bind fun loaded => loaded.lookup jobId

/-- The session holds this instance of the row. -/
def setInstance (s : BudgetState) (c : SessionId) (jobId : JobId) (row : ReservedExecution) :
    BudgetState :=
  { s with instances := s.instances.insert c (((s.instances.lookup c).getD ∅).insert jobId row) }

/-- What a query returns for the row: the instance of the session, where it has one. -/
def seenBy (s : BudgetState) (c : SessionId) (jobId : JobId) (row : ReservedExecution) :
    ReservedExecution :=
  (s.instanceOf c jobId).getD row

/-- The session comes to this point. -/
def toPhase (s : BudgetState) (c : SessionId) (phase : BudgetPhase) : BudgetState :=
  { s with sessions := s.sessions.insert c phase }

/-- The transaction is over, and with it its locks. -/
def endTransaction (s : BudgetState) (c : SessionId) : BudgetState :=
  { s with
    sessions := s.sessions.erase c
    budgetLock := if s.budgetLock = some c then none else s.budgetLock }

/-- A rollback expires what the session has loaded. -/
def rollback (s : BudgetState) (c : SessionId) : BudgetState :=
  { s.endTransaction c with instances := s.instances.erase c }

/-- A settlement holds the row. -/
def rowLocked (s : BudgetState) (jobId : JobId) : Bool :=
  Table.any s.sessions fun _ phase =>
    match phase with
    | .settling j _ _ => j = jobId
    | _ => false

end BudgetState

/-! ## Steps -/

/-- The steps of a session. -/
inductive BudgetOp
  /-- A query of the session returns the execution. -/
  | load (c : SessionId) (jobId : JobId)
  /-- A query with `populate_existing`, or a refresh. -/
  | refresh (c : SessionId) (jobId : JobId)
  /-- `persist_risex_pre_post_execution` up to the look at the job's row. -/
  | reserve (c : SessionId) (call : PrePostCall)
  /-- The answer of the exposure reader; `none` where it raises or is indeterminate. -/
  | readExposure (c : SessionId) (exposure : Option (ℚ × ℚ))
  | sumAggregate (c : SessionId)
  | sumUser (c : SessionId)
  /-- The check against the ceilings, the insertion and the commit. -/
  | insert (c : SessionId)
  /-- `settle_risex_execution_under_accounting_lock` up to the check of the locked row. -/
  | settle (c : SessionId) (jobId : JobId) (outcome : RisexSubmissionOutcome)
  | commitSettlement (c : SessionId) (truth : ProviderTruth)
  /-- `claim_risex_first_post`. -/
  | claim (c : SessionId) (jobId : JobId) (fence : FenceReads) (submission : RisexSubmission)
  /-- The caller ends the transaction it was left with. -/
  | commit (c : SessionId)
  /-- The process dies, or a call raises. -/
  | fail (c : SessionId)

section Step

variable (jobs : Table JobId RisexJob) (userCeiling totalCeiling : ℚ)

/-- The lock is taken on mainnet; a job that has its row gets it back. -/
def reserveStep (s : BudgetState) (c : SessionId) (call : PrePostCall) (job : RisexJob) :
    Option BudgetState :=
  match prePostRow job call with
  | .error _ => some s
  | .ok _ =>
      if job.executionNetwork = some .mainnet ∧ s.budgetLock.isSome then none
      else
        let locked :=
          if job.executionNetwork = some .mainnet then { s with budgetLock := some c } else s
        match s.executions.lookup call.jobId with
        | some row =>
            some ((locked.setInstance c call.jobId (s.seenBy c call.jobId row)).toPhase c .returned)
        | none => some (locked.toPhase c (.reserving call job))

/-- The row of the call, with the given reservation. -/
def insertRow (s : BudgetState) (c : SessionId) (call : PrePostCall) (job : RisexJob)
    (amount : ℚ) (events : List BudgetEvent) : BudgetState :=
  match prePostRow job call with
  | .error _ => s.rollback c
  | .ok row =>
      -- the unique constraints on the job, the primary key, the cloid and the client order id
      if (s.executions.lookup call.jobId).isSome ∨ Table.any s.executions fun _ r =>
          r.executionId = call.newId || r.cloid = job.cloid ||
            r.executionNetwork = job.executionNetwork && r.clientOrderId = job.clientOrderId then
        s.rollback c
      else
        let inserted : ReservedExecution :=
          { row with executionNetwork := job.executionNetwork, reserved := some amount }
        { (s.setInstance c call.jobId inserted).endTransaction c with
          executions := s.executions.insert call.jobId inserted
          events := events }

/-- The ceilings are checked, and the row is inserted with its reservation. -/
def insertStep (s : BudgetState) (c : SessionId) : BudgetPhase → Option BudgetState
  | .reserving call job =>
      if reservesExposure job call then none
      else some (insertRow s c call job 0 s.events)
  | .summed call job user total aggregateReserved userReserved =>
      if userCeiling < user + userReserved + reservation call ∨
          totalCeiling < total + aggregateReserved + reservation call then
        some (s.rollback c)
      else
        some (insertRow s c call job (reservation call)
          (.granted
            { jobId := call.jobId
              userExposure := user
              totalExposure := total
              userActive := activeReservations s.executions (onlyUser job.userId)
              totalActive := activeReservations s.executions everyUser
              amount := reservation call } :: s.events))
  | _ => none

/-- The lock is taken, and the row read, for a definitive outcome. -/
def settleRead (s : BudgetState) (c : SessionId) (jobId : JobId)
    (outcome : RisexSubmissionOutcome) : Option BudgetState :=
  if !outcome.definitive || !caseATerminal outcome.executionState then some s
  else if s.budgetLock.isSome then none
  else
    match s.executions.lookup jobId with
    | none => some (s.rollback c)
    | some row =>
        let seen := s.seenBy c jobId row
        if seen.state.unresolved then
          some (({ s with budgetLock := some c }.setInstance c jobId seen).toPhase c
            (.settling jobId outcome seen))
        else some (s.rollback c)

/-- The evidence a settlement releases a reservation on. -/
def settlementEvidence (outcome : RisexSubmissionOutcome) : ReleaseEvidence :=
  if outcome.executionState = .rejected then .rejected else .providerTruth

/-- The outcome is written, and the reservation released. -/
def settleCommit (s : BudgetState) (c : SessionId) (jobId : JobId)
    (outcome : RisexSubmissionOutcome) (seen : ReservedExecution) (truth : ProviderTruth) :
    BudgetState :=
  if outcome.executionState ≠ .rejected ∧ truth ≠ .persisted then s.rollback c
  else
    let settled : ReservedExecution → ReservedExecution := fun row =>
      { row with toRisexExecution := writeSettled outcome seen.toRisexExecution row.toRisexExecution }
    { (s.setInstance c jobId (settled seen)).endTransaction c with
      executions := Table.modify s.executions jobId settled
      events := .released jobId outcome.executionState (settlementEvidence outcome) :: s.events }

/-- The claim of the POST, on the instance of the session. -/
def claimRead (s : BudgetState) (c : SessionId) (jobId : JobId) (job : RisexJob)
    (fence : FenceReads) (submission : RisexSubmission) : BudgetState :=
  match s.executions.lookup jobId with
  | none => s.rollback c
  | some row =>
      if row.executionId ≠ submission.executionId then s.rollback c
      else
        let seen := s.seenBy c jobId row
        match claimRisexFirstPost job fence seen.toRisexExecution submission with
        | .error _ | .ok .refused => s.rollback c
        | .ok (.blocked blocked) =>
            { s.setInstance c jobId { seen with toRisexExecution := blocked } with
              executions := Table.modify s.executions jobId fun row =>
                { row with toRisexExecution := writeBlocked blocked row.toRisexExecution }
              events := .released jobId .canceled .preSubmitBlocked :: s.events }
        | .ok (.claimed claimed) =>
            { s.setInstance c jobId { seen with toRisexExecution := claimed } with
              executions := Table.modify s.executions jobId fun row =>
                { row with toRisexExecution := writeResponse claimed row.toRisexExecution }
              events := .claimed jobId :: s.events }

/-- One step of a session; `none` when it is not enabled. -/
def budgetStep (s : BudgetState) (op : BudgetOp) : Option BudgetState :=
  match op with
  | .load c jobId =>
      (s.executions.lookup jobId).map fun row => s.setInstance c jobId (s.seenBy c jobId row)
  | .refresh c jobId => (s.executions.lookup jobId).map fun row => s.setInstance c jobId row
  | .reserve c call =>
      if (s.sessions.lookup c).isSome then none
      else (jobs.lookup call.jobId).bind fun job => reserveStep s c call job
  | .readExposure c exposure =>
      match s.sessions.lookup c with
      | some (.reserving call job) =>
          if reservesExposure job call then
            match exposure with
            | some (user, total) =>
                if 0 ≤ user ∧ 0 ≤ total then some (s.toPhase c (.exposed call job user total))
                else some (s.rollback c)
            | none => some (s.rollback c)
          else none
      | _ => none
  | .sumAggregate c =>
      match s.sessions.lookup c with
      | some (.exposed call job user total) =>
          some (s.toPhase c (.aggregated call job user total (sumReserved s.executions everyUser)))
      | _ => none
  | .sumUser c =>
      match s.sessions.lookup c with
      | some (.aggregated call job user total aggregateReserved) =>
          some (s.toPhase c (.summed call job user total aggregateReserved
            (sumReserved s.executions (onlyUser job.userId))))
      | _ => none
  | .insert c => (s.sessions.lookup c).bind fun phase =>
      insertStep userCeiling totalCeiling s c phase
  | .settle c jobId outcome =>
      if (s.sessions.lookup c).isSome then none else settleRead s c jobId outcome
  | .commitSettlement c truth =>
      match s.sessions.lookup c with
      | some (.settling jobId outcome seen) => some (settleCommit s c jobId outcome seen truth)
      | _ => none
  | .claim c jobId fence submission =>
      if (s.sessions.lookup c).isSome ∨ s.rowLocked jobId then none
      else (jobs.lookup jobId).map fun job => claimRead s c jobId job fence submission
  | .commit c =>
      match s.sessions.lookup c with
      | some .returned => some (s.endTransaction c)
      | _ => none
  | .fail c => some (s.rollback c)

end Step

end HyperCopy

import HyperCopy.ProfitExit.Submission
import HyperCopy.Library.Table

/-!
# The state of the Hyperliquid job path

What the workers, the reconciler and the resolver share: the job, execution and ledger tables, the
tasks that are running, and the exchange.  A task is one coroutine between two commits; a task
that has passed `position_ledger_lock` holds the advisory lock of its user, and disappears with
its lock when its worker crashes.

The execution rows are keyed by job and attempt kind, which is the database's unique constraint
and also what a client order id is derived from, so the key stands for both.  Three fields record
history that no code reads: the `place_ioc` calls made, the fills added to a ledger size, and the
fills of each market that its ledger size does not contain yet.
-/

namespace HyperCopy

/-- The name of a worker. -/
abbrev WorkerId := ℕ

/-- The handle of a worker's task. -/
abbrev TaskId := ℕ

/-- `JOB_LEASE_SECONDS`. -/
def jobLeaseSeconds : ℕ := 120

/-- `MAX_JOB_RETRIES`. -/
def maxJobRetries : ℕ := 5

/-- The identity of an execution row, and of its order at the exchange. -/
structure Cloid where
  jobId : JobId
  kind : AttemptKind
deriving DecidableEq, Repr

/-! ## Rows -/

/-- A job, with the columns of its lease. -/
structure CopyJobRow where
  job : CopyJob
  state : JobState
  owner : Option WorkerId
  lockedUntil : Option ℕ
  attemptCount : ℕ
  nextAttemptAt : Option ℕ
deriving DecidableEq, Repr

/-- An execution row with its pre-submit ledger evidence (`hf007`).  The two evidence fields are
absent only in rows older than the evidence. -/
structure Execution where
  market : Market
  createdAt : ℕ
  state : ExecutionState
  isBuy : Bool
  requestedSize : ℚ
  limitPx : ℚ
  reduceOnly : Bool
  filledSize : Option ℚ
  resolvedAt : Option ℕ
  ledgerSizeBeforeSubmit : Option LedgerDecimal
  ledgerLastExecutionIdBeforeSubmit : Option (Option Cloid)
  ledgerAppliedAt : Option ℕ
deriving DecidableEq

/-- The position the ledger has for a market. -/
structure LedgerRow where
  size : LedgerDecimal
  lastExecutionId : Option Cloid
  exchangeVerifiedAt : Option ℕ
deriving DecidableEq

/-- `OrderOutcome`: the state an order is found in, and how much of it filled. -/
structure OrderOutcome where
  state : ExecutionState
  filledSize : Option ℚ
deriving DecidableEq, Repr

/-- The outcomes a submission or a status query can have. -/
def OrderOutcome.reported (o : OrderOutcome) : Bool :=
  o.state ≠ .submitting && o.state ≠ .quarantined

/-- An order at the exchange, on its way until `fill` says how much of it was matched. -/
structure ExchangeOrder where
  market : Market
  isBuy : Bool
  size : ℚ
  fill : Option ℚ
deriving DecidableEq, Repr

/-- The change of the position that an order makes. -/
def signedSize (isBuy : Bool) (size : ℚ) : ℚ := if isBuy then size else -size

/-! ## Tasks -/

/-- One leg of an attempt; `opening` marks the second leg of a reversal. -/
structure AttemptLeg where
  kind : AttemptKind
  order : SizingLeg
  opening : Bool
deriving DecidableEq, Repr

/-- What an attempt keeps in memory once it has a plan. -/
structure Attempt where
  job : CopyJob
  plan : SizingResult
  mark : ℚ
  slippageBps : ℕ
deriving DecidableEq, Repr

/-- The market of the job. -/
def Attempt.market (a : Attempt) : Market := a.job.market

/-- The first order of the plan. -/
def Attempt.primaryLeg (a : Attempt) : AttemptLeg :=
  ⟨primaryKind a.plan, a.plan.toSizingLeg, false⟩

/-- The job write an attempt ends with: `_finish` or `_retry_or_dead`. -/
inductive Closing
  | finish (state : JobState)
  | retryOrDead
deriving DecidableEq, Repr

/-- Where an attempt stands between two commits. -/
inductive Stage
  /-- waiting for the user's lock -/
  | waiting (expectedOwner : Option WorkerId)
  /-- the lease is renewed under the lock -/
  | locked
  /-- about to look up or create the execution row of the leg -/
  | entering (a : Attempt) (leg : AttemptLeg)
  /-- the row is committed, `place_ioc` is not called yet -/
  | journaled (a : Attempt) (leg : AttemptLeg)
  /-- `place_ioc` is called, its result is not known yet -/
  | inFlight (a : Attempt) (leg : AttemptLeg)
  /-- the leg is FILLED, the fill is not applied yet -/
  | filled (a : Attempt) (leg : AttemptLeg) (filledSize : Option ℚ)
  | closing (c : Closing)
deriving DecidableEq, Repr

/-- The stages an attempt can leave a leg from. -/
def Stage.inLeg : Stage → Bool
  | entering _ _ | filled _ _ _ => true
  | _ => false

/-- What the resolver has found about an ambiguous execution, with the position it has read. -/
inductive Verdict
  | filled (filledSize : Option ℚ) (position : ℚ)
  | terminal (state : ExecutionState)
  | quarantine (position : ℚ)
deriving DecidableEq, Repr

/-- A running task.  `seen` lists the fills a position snapshot contains. -/
inductive ExecutorTask
  | attempt (jobId : JobId) (userId : UserId) (attemptCount : ℕ) (stage : Stage)
  | reconcile (userId : UserId) (observed : Asset → ℚ) (seen : Asset → List Cloid)
  | resolve (cloid : Cloid) (market : Market) (verdict : Verdict) (seen : List Cloid)

/-- The user whose lock the task holds. -/
def ExecutorTask.holds : ExecutorTask → Option UserId
  | attempt _ _ _ (.waiting _) => none
  | attempt _ userId _ _ => some userId
  | reconcile userId _ _ => some userId
  | resolve _ market _ _ => some market.userId

/-- The tables, the tasks, the exchange, and what happened: the orders called for, the fills
applied, and those the ledger does not reflect yet. -/
structure ExecutorState where
  clock : ℕ
  jobs : Table JobId CopyJobRow
  executions : Table Cloid Execution
  ledger : Market → LedgerRow
  tasks : Table TaskId ExecutorTask
  position : Market → ℚ
  orders : Table Cloid ExchangeOrder
  calls : List Cloid
  applied : List Cloid
  unreflected : Market → List (Cloid × ℚ)

/-- The advisory lock of a user is taken. -/
def ExecutorState.userLocked (s : ExecutorState) (userId : UserId) : Bool :=
  Table.any s.tasks fun _ task => task.holds = some userId

/-! ## Legs -/

/-- Require exchange fill and local ledger evidence before reopening a reversal. -/
def closeLegFlattened (requestedSize : ℚ) (filledSize : Option ℚ) (ledgerResidual : ℚ)
    (szDecimals : ℕ) : Bool :=
  match filledSize with
  | none => false
  | some filled =>
    0 < requestedSize && requestedSize ≤ filled && |ledgerResidual| < lot szDecimals

/-- The row journaled before an order is submitted. -/
def newExecution (a : Attempt) (leg : AttemptLeg) (szDecimals : ℕ) (ledger : LedgerRow)
    (now : ℕ) : Execution where
  market := a.market
  createdAt := now
  state := .submitting
  isBuy := leg.order.isBuy
  requestedSize := roundSize leg.order.orderSize szDecimals
  limitPx := aggressivePrice leg.order.isBuy a.mark a.slippageBps
  reduceOnly := leg.order.reduceOnly
  filledSize := none
  resolvedAt := none
  ledgerSizeBeforeSubmit := some (persistedLedgerDecimal leg.order.currentSize)
  ledgerLastExecutionIdBeforeSubmit := some ledger.lastExecutionId
  ledgerAppliedAt := none

/-- `_persist_outcome`; the guard on the state column can refuse the write. -/
def persistOutcome (row : Execution) (o : OrderOutcome) (now : ℕ) : Option Execution :=
  (row.state.assign o.state).map fun state =>
    { row with
      state := state
      filledSize := o.filledSize
      resolvedAt := if state.terminal then some now else row.resolvedAt }

/-- What the resolver writes on the execution it has taken. -/
def Verdict.outcome (row : Execution) : Verdict → OrderOutcome
  | .filled filledSize _ => ⟨.filled, filledSize⟩
  | .terminal state => ⟨state, none⟩
  | .quarantine _ => ⟨.quarantined, row.filledSize⟩

/-- The position the resolver writes to the ledger. -/
def Verdict.position : Verdict → Option ℚ
  | .filled _ position | .quarantine position => some position
  | .terminal _ => none

/-- What an attempt does with the outcome of a leg. -/
def afterOutcome (a : Attempt) (leg : AttemptLeg) (o : OrderOutcome) : Stage :=
  match o.state with
  | .filled => .filled a leg o.filledSize
  | .unknown => .closing .retryOrDead
  | _ => .closing (.finish .skipped)

/-- What an attempt does once the fill of a leg is applied. -/
def afterApply (a : Attempt) (leg : AttemptLeg) (filledSize : Option ℚ) (ledgerSize : ℚ)
    (szDecimals : ℕ) : Stage :=
  if leg.opening then .closing (.finish .done)
  else
    match a.plan.secondary with
    | none => .closing (.finish .done)
    | some second =>
      if leg.kind = .c ∧ !closeLegFlattened (roundSize a.plan.orderSize szDecimals) filledSize
          ledgerSize szDecimals then .closing (.finish .skipped)
      else .entering a ⟨.o, second, true⟩

/-! ## Applying a fill -/

/-- The ledger was read at the exchange after the execution was resolved. -/
def verifiedAfterResolution (row : Execution) (ledger : LedgerRow) : Bool :=
  match row.resolvedAt, ledger.exchangeVerifiedAt with
  | some resolvedAt, some verifiedAt => resolvedAt ≤ verifiedAt
  | _, _ => false

/-- `_apply_fill_to_ledger`: the row and the ledger after it, and whether the fill was added.
`none` when `LedgerApplicationDeferred` is raised, which writes nothing but notes. -/
def applyFillToLedger (cloid : Cloid) (row : Execution) (ledger : LedgerRow) (now : ℕ) :
    Option (Execution × LedgerRow × Bool) :=
  if row.state ≠ .filled then none
  else if row.ledgerAppliedAt.isSome then some (row, ledger, false)
  else
    let marked := { row with ledgerAppliedAt := some now }
    match row.ledgerSizeBeforeSubmit, row.ledgerLastExecutionIdBeforeSubmit with
    | none, _ => if ledger.lastExecutionId = some cloid then some (marked, ledger, false) else none
    | some _, none => none
    | some expectedBefore, some expectedLast =>
      let filled := persistedLedgerDecimal (row.filledSize.getD 0)
      let expectedAfter :=
        persistedLedgerDecimal (expectedBefore.value + signedSize row.isBuy filled.value)
      let attributed := { ledger with lastExecutionId := some cloid }
      if filled.value ≤ 0 then none
      else if ledger.lastExecutionId = some cloid then some (marked, attributed, false)
      else if ledger.lastExecutionId ≠ expectedLast then none
      else if verifiedAfterResolution row ledger &&
          (ledger.size = expectedBefore || ledger.size = expectedAfter) then
        some (marked, attributed, false)
      else if ledger.size = expectedBefore then
        some (marked, { attributed with size := expectedAfter }, true)
      else none

/-- The five ways `applyFillToLedger` returns normally. -/
inductive FillApplied (cloid : Cloid) (row : Execution) (ledger : LedgerRow) (now : ℕ) :
    Execution → LedgerRow → Bool → Prop
  | already (hflag : row.ledgerAppliedAt.isSome = true) :
      FillApplied cloid row ledger now row ledger false
  | legacy (hflag : row.ledgerAppliedAt = none) (hsize : row.ledgerSizeBeforeSubmit = none)
      (hlast : ledger.lastExecutionId = some cloid) :
      FillApplied cloid row ledger now { row with ledgerAppliedAt := some now } ledger false
  | attributed (hflag : row.ledgerAppliedAt = none)
      (hlast : ledger.lastExecutionId = some cloid) :
      FillApplied cloid row ledger now { row with ledgerAppliedAt := some now }
        { ledger with lastExecutionId := some cloid } false
  | verified (last : Option Cloid) (hflag : row.ledgerAppliedAt = none)
      (hbefore : row.ledgerLastExecutionIdBeforeSubmit = some last)
      (hlast : ledger.lastExecutionId = last) (hverified : verifiedAfterResolution row ledger = true) :
      FillApplied cloid row ledger now { row with ledgerAppliedAt := some now }
        { ledger with lastExecutionId := some cloid } false
  | added (size : LedgerDecimal) (last : Option Cloid) (hflag : row.ledgerAppliedAt = none)
      (hsize : row.ledgerSizeBeforeSubmit = some size)
      (hbefore : row.ledgerLastExecutionIdBeforeSubmit = some last)
      (hpos : 0 < (persistedLedgerDecimal (row.filledSize.getD 0)).value)
      (hlast : ledger.lastExecutionId = last)
      (hverified : verifiedAfterResolution row ledger = false) (hledger : ledger.size = size) :
      FillApplied cloid row ledger now { row with ledgerAppliedAt := some now }
        { ledger with
          lastExecutionId := some cloid
          size := persistedLedgerDecimal (size.value +
            signedSize row.isBuy (persistedLedgerDecimal (row.filledSize.getD 0)).value) } true

lemma applyFillToLedger_eq_some {cloid : Cloid} {row row' : Execution} {ledger ledger' : LedgerRow}
    {now : ℕ} {added : Bool}
    (h : applyFillToLedger cloid row ledger now = some (row', ledger', added)) :
    row.state = .filled ∧ FillApplied cloid row ledger now row' ledger' added := by
  unfold applyFillToLedger at h
  split at h
  · cases h
  rename_i hstate
  refine ⟨not_not.1 hstate, ?_⟩
  split at h
  · rename_i hflag
    cases h
    exact .already hflag
  rename_i hflag
  have hflag' : row.ledgerAppliedAt = none := by simpa using hflag
  dsimp only at h
  split at h
  · rename_i hsize
    split_ifs at h with hlast
    cases h
    exact .legacy hflag' hsize hlast
  · cases h
  · rename_i size last hsize hbefore
    split at h
    · cases h
    rename_i hpos
    split at h
    · rename_i hlast
      cases h
      exact .attributed hflag' hlast
    split at h
    · cases h
    rename_i hlast
    split at h
    · rename_i hverified
      cases h
      exact .verified last hflag' hbefore (not_not.1 hlast) (Bool.and_eq_true_iff.1 hverified).1
    rename_i hnot
    split at h
    · rename_i hledger
      cases h
      refine .added size last hflag' hsize hbefore (not_le.1 hpos) (not_not.1 hlast) ?_ hledger
      simpa [hledger] using hnot
    · cases h

/-- Applying a fill marks the row, and touches nothing else of it. -/
lemma FillApplied.row_eq {cloid : Cloid} {row row' : Execution} {ledger ledger' : LedgerRow}
    {now : ℕ} {added : Bool} (h : FillApplied cloid row ledger now row' ledger' added) :
    row' = row ∧ row.ledgerAppliedAt.isSome = true ∨
      row' = { row with ledgerAppliedAt := some now } ∧ row.ledgerAppliedAt = none := by
  cases h with
  | already hflag => exact Or.inl ⟨rfl, hflag⟩
  | legacy hflag hsize hlast => exact Or.inr ⟨rfl, hflag⟩
  | attributed hflag hlast => exact Or.inr ⟨rfl, hflag⟩
  | verified last hflag hbefore hlast hverified => exact Or.inr ⟨rfl, hflag⟩
  | added size last hflag hsize hbefore hpos hlast hverified hledger => exact Or.inr ⟨rfl, hflag⟩

lemma FillApplied.market_eq {cloid : Cloid} {row row' : Execution} {ledger ledger' : LedgerRow}
    {now : ℕ} {added : Bool} (h : FillApplied cloid row ledger now row' ledger' added) :
    row'.market = row.market := by
  obtain ⟨rfl, -⟩ | ⟨rfl, -⟩ := h.row_eq <;> rfl

end HyperCopy

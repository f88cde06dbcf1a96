import HyperCopy.Risex.OrderPreparation
import HyperCopy.Destination.Epochs

/-!
# The durable RISEx execution

`services/risex_copy_execution.py`: the row that is written before a signed order may leave the
process, the fence in front of the first POST, and what the provider's answer is turned into.

The table of executions is keyed by the copy job.  The worker writes no attempt kind but `'o'`,
so the unique constraint on `(copy_job_id, attempt_kind)` makes the job the key.  The cloid and
the client order id of a job are derived from its id; both are columns of the job here.

`claimRisexFirstPost` is a function of the row *the session returns*, which need not be the row
in the database; who loaded it when is the business of the module that models the sessions.
-/

namespace HyperCopy

open Fallible

/-! ## Rows and submissions -/

/-- `response['risex_4b_bis']['submission_status']`. -/
inductive SubmissionStatus
  | prePostCommitted
  | postInFlight
  | acknowledged
  | terminalEvidencePersisted
  | preSubmitBlocked
deriving DecidableEq, Repr

/-- `RISExSubmissionOutcome`. -/
structure RisexSubmissionOutcome where
  definitive : Bool
  executionState : ExecutionState
  providerOrderId : Option ℕ
  filledQuantity : Option ℚ
deriving DecidableEq, Repr

/-- A row of `executions` with `execution_provider = 'risex'`. -/
structure RisexExecution where
  executionId : ExecutionId
  userId : UserId
  asset : Asset
  executionEpochId : EpochId
  cloid : ℕ
  clientOrderId : ℕ
  nonceAnchor : ℕ
  nonceBitmapIndex : ℕ
  state : ExecutionState
  isBuy : Bool
  requestedSize : ℚ
  reduceOnly : Bool
  limitPx : ℚ
  exchangeOid : Option ℕ
  filledSize : ℚ
  submissionStatus : SubmissionStatus
  /-- `response['risex_case_a']['terminal_outcome']`. -/
  terminalOutcome : Option RisexSubmissionOutcome
deriving DecidableEq, Repr

/-- The table of executions, keyed by the copy job. -/
abbrev RisexExecutions := Table JobId RisexExecution

/-- A `copy_jobs` row of the RISEx writer. -/
structure RisexJob extends RisexOrderJob where
  userId : UserId
  executionEpochId : Option EpochId
  executionProvider : Option ExecutionProvider
  executionNetwork : Option Network
  cloid : ℕ
  clientOrderId : ℕ
  state : JobState
  attemptCount : ℕ
deriving DecidableEq, Repr

/-- `RISExPreparedPlaceOrderRequest`: an order and the nonce its permit was signed with. -/
structure RisexRequest where
  order : RisexPlaceOrder
  nonceAnchor : ℕ
  nonceBitmapIndex : ℕ
deriving DecidableEq, Repr

/-- `RISExPreparedCopySubmission`. -/
structure RisexSubmission where
  executionId : ExecutionId
  cloid : ℕ
  clientOrderId : ℕ
  intent : RisexOrderIntent
  plan : RisexIocPlan
  request : RisexRequest
deriving DecidableEq, Repr

/-! ## The row before the POST -/

/-- `persist_risex_pre_post_execution` on testnet: the row the job already has, or a new one.
On testnet no exposure is reserved.  The two columns of twelve decimals hold the size and the limit
as they are, which is so where the steps and the ticks of a market have no more. -/
def persistRisexPrePostExecution (executions : RisexExecutions) (newId : ExecutionId)
    (jobId : JobId) (job : RisexJob) (intent : RisexOrderIntent) (plan : RisexIocPlan)
    (request : RisexRequest) : Except RisexError (RisexExecutions × RisexExecution) := do
  Fallible.require (job.executionProvider = some .risex)
    (.runtimeError "RISEx durable execution requires a bound RISEx execution epoch")
  let epochId ← expect job.executionEpochId
    (.runtimeError "RISEx durable execution requires a bound RISEx execution epoch")
  Fallible.require (0 < job.clientOrderId && job.clientOrderId < 2 ^ 64)
    (.runtimeError "RISEx client_order_id must be a non-zero uint64")
  Fallible.require (request.nonceAnchor < 2 ^ 48)
    (.runtimeError "RISEx nonce_anchor must be a uint48")
  Fallible.require (request.nonceBitmapIndex < 2 ^ 8)
    (.runtimeError "RISEx nonce_bitmap_index must be a uint8")
  Fallible.require (0 < plan.requestedSize && 0 < plan.limitPrice)
    (.runtimeError "RISEx requested size and limit price must be positive")
  match executions.lookup jobId with
  | some existing => return (executions, existing)
  | none =>
      -- the unique indexes on the primary key, the cloid and the client order id
      Fallible.require (!Table.any executions fun _ row =>
          row.executionId = newId || row.cloid = job.cloid ||
            row.clientOrderId = job.clientOrderId) .integrityError
      let row : RisexExecution :=
        { executionId := newId
          userId := job.userId
          asset := job.asset
          executionEpochId := epochId
          cloid := job.cloid
          clientOrderId := job.clientOrderId
          nonceAnchor := request.nonceAnchor
          nonceBitmapIndex := request.nonceBitmapIndex
          state := .submitting
          isBuy := intent.isBuy
          requestedSize := plan.requestedSize
          reduceOnly := intent.reduceOnly
          limitPx := plan.limitPrice
          exchangeOid := none
          filledSize := 0
          submissionStatus := .prePostCommitted
          terminalOutcome := none }
      return (executions.insert jobId row, row)

/-- The checks of `prepare_risex_worker_submission` on the row it was given back. -/
def verifyPersisted (job : RisexJob) (request : RisexRequest) (row : RisexExecution) :
    Except RisexError Unit :=
  Fallible.require
    (row.cloid = job.cloid && row.clientOrderId = job.clientOrderId &&
      row.nonceAnchor = request.nonceAnchor && row.nonceBitmapIndex = request.nonceBitmapIndex)
    (.signedTestnetBlocked
      "RISEx durable pre-POST execution does not match prepared submission")

/-- What persisting did to the table: nothing, when the job had its row, and one insertion under
the job's own key otherwise. -/
lemma persist_eq_ok {executions executions' : RisexExecutions} {newId : ExecutionId}
    {jobId : JobId} {job : RisexJob} {intent : RisexOrderIntent} {plan : RisexIocPlan}
    {request : RisexRequest} {row : RisexExecution}
    (h : persistRisexPrePostExecution executions newId jobId job intent plan request =
      .ok (executions', row)) :
    (executions.lookup jobId = some row ∧ executions' = executions) ∨
      (executions.lookup jobId = none ∧ executions' = executions.insert jobId row ∧
        Table.any executions (fun _ r => r.executionId = newId || r.cloid = job.cloid ||
          r.clientOrderId = job.clientOrderId) = false ∧
        row.executionId = newId ∧ row.userId = job.userId ∧ row.asset = job.asset ∧
        row.isBuy = intent.isBuy ∧ verifyPersisted job request row = .ok ()) := by
  obtain ⟨-, h⟩ := require_bind_eq_ok.1 h
  obtain ⟨epochId, -, h⟩ := bind_eq_ok.1 h
  obtain ⟨-, h⟩ := require_bind_eq_ok.1 h
  obtain ⟨-, h⟩ := require_bind_eq_ok.1 h
  obtain ⟨-, h⟩ := require_bind_eq_ok.1 h
  obtain ⟨-, h⟩ := require_bind_eq_ok.1 h
  cases hlookup : executions.lookup jobId with
  | some existing =>
      rw [hlookup] at h
      obtain ⟨rfl, rfl⟩ := Prod.mk.inj (Except.ok.inj h)
      exact Or.inl ⟨rfl, rfl⟩
  | none =>
      rw [hlookup] at h
      obtain ⟨hunique, h⟩ := require_bind_eq_ok.1 h
      obtain ⟨rfl, rfl⟩ := Prod.mk.inj (Except.ok.inj h)
      have hfree := Bool.not_eq_true' _ ▸ hunique
      have hverify : ∀ row : RisexExecution, row.cloid = job.cloid →
          row.clientOrderId = job.clientOrderId → row.nonceAnchor = request.nonceAnchor →
          row.nonceBitmapIndex = request.nonceBitmapIndex →
          verifyPersisted job request row = .ok () := by
        intro row hcloid hid hanchor hindex
        simp [verifyPersisted, Fallible.require, hcloid, hid, hanchor, hindex]
      exact Or.inr ⟨rfl, rfl, hfree, rfl, rfl, rfl, rfl, hverify _ rfl rfl rfl rfl⟩

/-! ## The fence in front of the first POST -/

/-- What the fence reads beside the execution: the active epoch of the user's row, the epoch the
job is bound to, and the account and generation of the user's signing credential. -/
structure FenceReads where
  user : Option (Option EpochId)
  epoch : Option ExecutionEpoch
  binding : Option (AccountAddress × ℕ)
deriving DecidableEq, Repr

/-- The execution's epoch or credential is no longer the user's. -/
def superseded (job : RisexJob) (activeEpochId : Option EpochId) (reads : FenceReads) : Bool :=
  job.executionProvider ≠ some .risex || job.executionNetwork ≠ some .testnet ||
  job.executionEpochId.isNone || activeEpochId ≠ job.executionEpochId ||
  match reads.epoch, reads.binding with
  | some epoch, some (account, generation) =>
      epoch.userId ≠ job.userId || epoch.endedAt.isSome || epoch.provider ≠ .risex ||
      epoch.network ≠ .testnet || epoch.accountAddress ≠ some account ||
      epoch.credentialVersion ≠ some generation
  | _, _ => true

/-- The execution is the one the submission was prepared for. -/
def identityMatches (row : RisexExecution) (submission : RisexSubmission) : Bool :=
  row.executionId = submission.executionId && row.cloid = submission.cloid &&
  row.clientOrderId = submission.clientOrderId &&
  submission.request.order.clientOrderId = submission.clientOrderId &&
  submission.request.order = submission.plan.order &&
  submission.plan.order.clientOrderId = submission.intent.clientOrderId &&
  submission.plan.order.reduceOnly = submission.intent.reduceOnly &&
  row.nonceAnchor = submission.request.nonceAnchor &&
  row.nonceBitmapIndex = submission.request.nonceBitmapIndex &&
  row.reduceOnly = submission.request.order.reduceOnly &&
  row.requestedSize = submission.plan.requestedSize &&
  row.limitPx = submission.plan.limitPrice

/-- What a claim of the POST comes to. -/
inductive ClaimOutcome
  | refused
  | blocked (row : RisexExecution)
  | claimed (row : RisexExecution)
deriving DecidableEq, Repr

/-- `claim_risex_first_post`, over the row the session returns for the execution. -/
def claimRisexFirstPost (job : RisexJob) (reads : FenceReads) (row : RisexExecution)
    (submission : RisexSubmission) : Except RisexError ClaimOutcome := do
  let activeEpochId ← expect reads.user (.runtimeError "RISEx first-POST user is unavailable")
  if row.state ≠ .submitting ∨ row.submissionStatus ≠ .prePostCommitted then
    return .refused
  else
    Fallible.require (identityMatches row submission)
      (.runtimeError "RISEx first-POST submission identity mismatch")
    if superseded job activeEpochId reads then
      return .blocked { row with state := .canceled, submissionStatus := .preSubmitBlocked }
    else
      return .claimed { row with submissionStatus := .postInFlight }

/-- A claim is made on a row that was before its first POST and is the submission's row, and
changes nothing of it but the submission status. -/
lemma claimRisexFirstPost_claimed {job : RisexJob} {reads : FenceReads}
    {row claimed : RisexExecution} {submission : RisexSubmission}
    (h : claimRisexFirstPost job reads row submission = .ok (.claimed claimed)) :
    row.state = .submitting ∧ row.submissionStatus = .prePostCommitted ∧
      identityMatches row submission = true ∧
      claimed = { row with submissionStatus := .postInFlight } := by
  obtain ⟨activeEpochId, -, h⟩ := bind_eq_ok.1 h
  split_ifs at h with hstatus hsuperseded
  · cases Except.ok.inj h
  · obtain ⟨-, h⟩ := require_bind_eq_ok.1 h
    cases Except.ok.inj h
  · obtain ⟨hidentity, h⟩ := require_bind_eq_ok.1 h
    obtain rfl := ClaimOutcome.claimed.inj (Except.ok.inj h)
    push Not at hstatus
    exact ⟨hstatus.1, hstatus.2, hidentity, rfl⟩

/-! ## The provider's answer -/

/-- What the classifier reads of a response body: a non-blank `order_id` and a finite
`filled_quantity`. -/
structure RisexResponse where
  statusCode : ℤ
  orderId : Option ℕ
  filledQuantity : Option ℚ
deriving DecidableEq, Repr

/-- An acknowledgement proves nothing; the reservation stays. -/
def acknowledged : RisexSubmissionOutcome := ⟨false, .submitting, none, none⟩

/-- `classify_risex_runtime_response`. -/
def classifyRisexRuntimeResponse (response : RisexResponse) (requestedSize : ℚ) :
    RisexSubmissionOutcome :=
  if 400 ≤ response.statusCode ∧ response.statusCode < 500 then acknowledged
  else
    match response.orderId, response.filledQuantity with
    | some orderId, some filled =>
        if response.statusCode = 200 ∧ 0 ≤ filled ∧ filled ≤ requestedSize then
          if 0 < filled then ⟨true, .filled, some orderId, some filled⟩
          else ⟨true, .canceled, some orderId, some 0⟩
        else acknowledged
    | _, _ => acknowledged

/-- A definitive answer names a terminal state. -/
lemma classify_terminal {response : RisexResponse} {requestedSize : ℚ}
    (h : (classifyRisexRuntimeResponse response requestedSize).definitive = true) :
    (classifyRisexRuntimeResponse response requestedSize).executionState.terminal = true := by
  unfold classifyRisexRuntimeResponse at h ⊢
  split_ifs at h ⊢ with hclient
  · cases h
  · split at h
    · split_ifs at h with hrange hfilled
      · simp [hrange, hfilled, ExecutionState.terminal]
      · simp [hrange, hfilled, ExecutionState.terminal]
      · cases h
    · cases h

end HyperCopy

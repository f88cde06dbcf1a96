import HyperCopy.Destination.Epochs
import HyperCopy.Library.Fallible
import HyperCopy.Library.Transition
import Mathlib.Algebra.Order.Group.Nat

/-!
# Admin leverage sync

An operator queues an `ADMIN_LEVERAGE_SYNC` job, and an execution worker signs and sends the
leverage update.  No `Execution` row stands behind the signed action.  What is meant to keep it
one-shot is the status in the job's context, `SUBMITTING` before the call, and the attempt count,
which has to be one.  Two sweepers look for expired leases: `_quarantine_stale_admin_leverage_jobs`
ends such a job with an unknown outcome, `release_stale_jobs` returns it to the queue like any
other.

The model is one job row and the sessions that work on it, `_run_admin_leverage_sync` and
`handle_job_id` of `workers/execution_worker.py`, `claim_job` and `release_stale_jobs` of
`services/execution.py` and the publication of `services/queue.py`.  Every step is one transaction,
and a session may load the job, stall or crash at any point.

A session holds the row as it loaded it.  `SessionLocal` does not expire instances on commit and
the `SELECT … FOR UPDATE` of a claim does not repopulate one, so a commit writes those columns that
differ from the loaded instance, over whatever the row holds by then (`LeverageJob.flush`).  The
sweepers load and write under one lock and see the row itself.
-/

namespace HyperCopy

open Fallible

/-- A session with a worker's name on it; a publisher is one that never claims. -/
abbrev SyncWorkerId := ℕ

/-! ## The row -/

/-- `context['submission_status']`. -/
inductive SyncSubmission
  | queued
  | submitting
  | unknownAfterWorkerLoss
deriving DecidableEq, Repr

/-- `context['result']['submission_status']`. -/
inductive SyncResultStatus
  | submitted
  | unknownDueToCancellation
  | unknownOrFailed
deriving DecidableEq, Repr

/-- A leverage and its margin mode. -/
structure LeverageSetting where
  leverage : ℤ
  isCross : Bool
deriving DecidableEq, Repr

/-- The result in the context of the job. -/
structure SyncResult where
  response : Option ℕ
  submitted : LeverageSetting
  submissionStatus : SyncResultStatus
deriving DecidableEq, Repr

/-- The context of the job, as far as the synchronization reads and writes it. -/
structure SyncContext where
  submissionStatus : SyncSubmission
  result : Option SyncResult
  statusCode : Option ℕ
  completedAt : Option ℕ
  /-- The execution epoch is recorded beside the metadata of the request. -/
  epochRecorded : Bool
deriving DecidableEq, Repr

/-- The `copy_jobs` row of the command. -/
structure LeverageJob where
  userId : UserId
  state : JobState
  attemptCount : ℕ
  owner : Option SyncWorkerId
  lockedUntil : Option ℕ
  nextAttemptAt : Option ℕ
  lastError : Option String
  /-- `execution_epoch_id`, `execution_provider` and `execution_network` are set. -/
  bound : Bool
  context : SyncContext
deriving DecidableEq, Repr

/-- A column is written where the value of the instance changed. -/
def written {α : Type} [DecidableEq α] (loaded changed stored : α) : α :=
  if changed = loaded then stored else changed

namespace LeverageJob

/-- The flush of an instance that was `loaded` once and `changed` since. -/
def flush (loaded changed stored : LeverageJob) : LeverageJob where
  userId := stored.userId
  state := written loaded.state changed.state stored.state
  attemptCount := written loaded.attemptCount changed.attemptCount stored.attemptCount
  owner := written loaded.owner changed.owner stored.owner
  lockedUntil := written loaded.lockedUntil changed.lockedUntil stored.lockedUntil
  nextAttemptAt := written loaded.nextAttemptAt changed.nextAttemptAt stored.nextAttemptAt
  lastError := written loaded.lastError changed.lastError stored.lastError
  bound := written loaded.bound changed.bound stored.bound
  context := written loaded.context changed.context stored.context

/-- How far the job's signed action has come. -/
def submission (job : LeverageJob) : SyncSubmission := job.context.submissionStatus

/-- `locked_until < now` on a job that is being processed. -/
def leaseExpired (job : LeverageJob) (now : ℕ) : Bool :=
  job.state = .processing && job.lockedUntil.any (· < now)

/-- Claimable at `now`. -/
def due (job : LeverageJob) (now : ℕ) : Bool :=
  (job.state = .queued || job.state = .retrying) && job.nextAttemptAt.all (· ≤ now)

/-- `bind_job_to_active_destination`, where it accepts the job. -/
def bind (job : LeverageJob) : LeverageJob :=
  if job.bound then job
  else { job with bound := true, context := { job.context with epochRecorded := true } }

end LeverageJob

/-! ## Pieces of the job code -/

/-- Why a session skips the job before it is claimed. -/
inductive Withdrawal
  | destinationStale
  | providerWritesDisabled
  | masterSource
  | activationRolledBack
deriving DecidableEq, Repr

/-- The error that a withdrawn job is left with. -/
def Withdrawal.reason : Withdrawal → String
  | destinationStale =>
      "Stale or unbound execution destination epoch; fresh reconciliation/action required"
  | providerWritesDisabled => "Execution provider is not enabled for writes"
  | masterSource =>
      "Configured master source is MAINNET read-only and cannot use follower controls"
  | activationRolledBack => "Activation rolled back before execution"

/-- The rollback of an activation leaves the time of the next attempt. -/
def withdrawn (why : Withdrawal) (job : LeverageJob) : LeverageJob :=
  { job with
    state := .skipped
    lastError := some why.reason
    owner := none
    lockedUntil := none
    nextAttemptAt := if why = .activationRolledBack then job.nextAttemptAt else none }

/-- `_finish_admin_leverage_job`. -/
def finishAdminLeverageJob (state : JobState) (error : Option String) (result : Option SyncResult)
    (statusCode : Option ℕ) (now : ℕ) (job : LeverageJob) : LeverageJob :=
  { job with
    context := { job.context with
      result := result <|> job.context.result
      statusCode := statusCode <|> job.context.statusCode
      completedAt := some now }
    state := state
    lastError := error
    owner := none
    lockedUntil := none
    nextAttemptAt := none }

/-- How a check refuses the job. -/
structure SyncRefusal where
  state : JobState
  error : String
  statusCode : ℕ
deriving DecidableEq, Repr

/-- The metadata of the request in the job's context. -/
structure SyncRequest where
  followerNetwork : Network
  expectedAccountId : ℕ
  expectedAccountAddress : AccountAddress
  initialDesiredLeverage : ℤ
  initialDesiredIsCross : Bool
deriving DecidableEq, Repr

/-- What the worker reads in front of the submission. -/
structure SyncReads where
  userExists : Bool
  matchesActiveDestination : Bool
  isHyperliquid : Bool
  /-- The parsed context, or the error of its parser. -/
  request : Except String SyncRequest
  currentNetwork : Network
  /-- User and address of the expected account. -/
  account : Option (UserId × AccountAddress)
  /-- Trading account of the expected credential. -/
  credential : Option ℕ
  /-- Asset metadata and decryption of the credential. -/
  preparation : Except String Unit

/-- The checks of `_run_admin_leverage_sync` up to the submission, in its order. -/
def syncCheck (job : LeverageJob) (reads : SyncReads) : Except SyncRefusal LeverageSetting := do
  Fallible.require (job.attemptCount = 1)
    ⟨.dead, "Signed admin leverage sync cannot be retried automatically", 502⟩
  Fallible.require reads.userExists ⟨.skipped, "User no longer exists", 404⟩
  Fallible.require (reads.matchesActiveDestination && reads.isHyperliquid)
    ⟨.skipped, "Stale or unbound execution destination epoch", 409⟩
  let request ← reads.request.mapError fun e =>
    (⟨.dead, "Invalid signed leverage job context: " ++ e, 500⟩ : SyncRefusal)
  Fallible.require (reads.currentNetwork = request.followerNetwork)
    ⟨.skipped, "Follower network changed before leverage synchronization", 409⟩
  Fallible.require (reads.account = some (job.userId, request.expectedAccountAddress))
    ⟨.skipped, "Follower trading account changed before leverage synchronization", 409⟩
  Fallible.require (reads.credential = some request.expectedAccountId)
    ⟨.skipped, "Trading credential changed before leverage synchronization", 409⟩
  reads.preparation.mapError fun e =>
    (⟨.dead, "Credential preparation failed: " ++ e, 502⟩ : SyncRefusal)
  return ⟨max 1 request.initialDesiredLeverage, request.initialDesiredIsCross⟩

/-- How the call of `update_leverage` ends. -/
inductive SyncAnswer
  | response (response : ℕ)
  /-- `LeverageSyncAuthorizationError` of `_authorize_submission`: nothing was signed. -/
  | refused (error : String) (statusCode : ℕ)
  | cancelled
  | failed (error : String)
deriving DecidableEq, Repr

/-- The job behind the call; `submitted` is the setting the authorization left. -/
def answered (answer : SyncAnswer) (submitted : LeverageSetting) (now : ℕ) (job : LeverageJob) :
    LeverageJob :=
  match answer with
  | .response response =>
      finishAdminLeverageJob .done none (some ⟨some response, submitted, .submitted⟩) none now job
  | .refused error statusCode =>
      finishAdminLeverageJob .skipped (some error) none (some statusCode) now job
  | .cancelled =>
      finishAdminLeverageJob .dead
        (some "Signed leverage synchronization cancelled with unknown exchange outcome")
        (some ⟨none, submitted, .unknownDueToCancellation⟩) (some 502) now job
  | .failed error =>
      finishAdminLeverageJob .dead
        (some ("Hyperliquid leverage sync failed or became ambiguous: " ++ error))
        (some ⟨none, submitted, .unknownOrFailed⟩) (some 502) now job

/-! ## State -/

/-- Where a session is with the job, and the instance it holds. -/
inductive SyncPhase
  | loaded (seen : LeverageJob)
  /-- The destination fits; a missing binding is pending. -/
  | prepared (seen : LeverageJob)
  /-- The claim is committed, the row not yet read again. -/
  | acquired
  | claimed (seen : LeverageJob)
  /-- `SUBMITTING` is committed. -/
  | submitting (copy : LeverageJob) (setting : LeverageSetting)
  /-- Inside `update_leverage`. -/
  | calling (copy : LeverageJob) (setting : LeverageSetting)
deriving DecidableEq, Repr

/-- `invoked` and `refused` count the calls of `update_leverage`, and those the authorization ended
before anything was signed. -/
structure LeverageState where
  job : LeverageJob
  tasks : Table SyncWorkerId SyncPhase
  invoked : ℕ
  refused : ℕ

namespace LeverageState

/-- The row of a new command, bound where its publication came through. -/
def requested (userId : UserId) (bound : Bool) : LeverageState where
  job := ⟨userId, .queued, 0, none, none, none, none, bound, ⟨.queued, none, none, none, bound⟩⟩
  tasks := ∅
  invoked := 0
  refused := 0

/-- The worker comes to this point. -/
def toPhase (s : LeverageState) (w : SyncWorkerId) (phase : SyncPhase) : LeverageState :=
  { s with tasks := s.tasks.insert w phase }

/-- The session is over: it returned, raised or was lost. -/
def endTask (s : LeverageState) (w : SyncWorkerId) : LeverageState :=
  { s with tasks := s.tasks.erase w }

/-- The row of the job is written. -/
def withJob (s : LeverageState) (job : LeverageJob) : LeverageState :=
  { s with job := job }

/-- Commit the changes of a session that ends with them.  The guard of the ORM on the state of the
instance raises where it refuses the change. -/
def finishTask (s : LeverageState) (w : SyncWorkerId) (seen changed : LeverageJob) :
    LeverageState :=
  match seen.state.assign changed.state with
  | none => s.endTask w
  | some _ => (s.withJob (seen.flush changed s.job)).endTask w

end LeverageState

/-! ## Steps -/

/-- The settings of the execution worker. -/
structure SyncSettings where
  jobLeaseSeconds : ℕ
  maxJobRetries : ℕ

/-- Their defaults. -/
def SyncSettings.default : SyncSettings := ⟨120, 5⟩

/-- The steps of a worker, of a publication and of a rollback. -/
inductive SyncAction
  /-- `db.get` of a delivery, a publication or a rollback. -/
  | load (w : SyncWorkerId)
  | prepare (w : SyncWorkerId)
  | withdraw (w : SyncWorkerId) (why : Withdrawal)
  /-- A publication commits. -/
  | publish (w : SyncWorkerId)
  | claim (w : SyncWorkerId) (now : ℕ)
  /-- `db.refresh` behind the commit of a claim. -/
  | refresh (w : SyncWorkerId)
  /-- The checks, and the commit of their refusal or of `SUBMITTING`. -/
  | submit (w : SyncWorkerId) (reads : SyncReads) (now : ℕ)
  | call (w : SyncWorkerId)
  /-- `authorized` is `none` where the authorization did not get to a setting. -/
  | answer (w : SyncWorkerId) (answer : SyncAnswer) (authorized : Option LeverageSetting) (now : ℕ)
  /-- A crash, or an error outside the handled ones. -/
  | lost (w : SyncWorkerId)
  | quarantine (now : ℕ)
  | release (now : ℕ)

/-- `_quarantine_stale_admin_leverage_jobs` on the row. -/
def quarantined (now : ℕ) (job : LeverageJob) : LeverageJob :=
  { job with
    context := { job.context with
      submissionStatus := .unknownAfterWorkerLoss
      completedAt := some now }
    state := .dead
    lastError :=
      some "Signed leverage sync worker lease expired; exchange state must be verified before retry"
    owner := none
    lockedUntil := none
    nextAttemptAt := none }

/-- `release_stale_jobs` on the row. -/
def released (c : SyncSettings) (now : ℕ) (job : LeverageJob) : LeverageJob :=
  { job with
    state := if job.attemptCount < c.maxJobRetries then .retrying else .dead
    owner := none
    lockedUntil := none
    nextAttemptAt := some (now + min (2 ^ max job.attemptCount 1) 60) }

/-- The row a claim commits.  The new lease lies behind every lease loaded before. -/
def claimedRow (c : SyncSettings) (w : SyncWorkerId) (now : ℕ) (seen stored : LeverageJob) :
    LeverageJob :=
  { seen.flush { seen.bind with
      state := .processing
      owner := some w
      attemptCount := seen.attemptCount + 1 } stored with
    lockedUntil := some (now + c.jobLeaseSeconds) }

/-- The checks of the claimed job, and what is committed behind them. -/
def submitStep (s : LeverageState) (w : SyncWorkerId) (seen : LeverageJob) (reads : SyncReads)
    (now : ℕ) : LeverageState :=
  match syncCheck seen reads with
  | .error refusal =>
      s.finishTask w seen (finishAdminLeverageJob refusal.state (some refusal.error) none
        (some refusal.statusCode) now seen)
  | .ok setting =>
      let copy := { seen with context := { seen.context with submissionStatus := .submitting } }
      (s.withJob (seen.flush copy s.job)).toPhase w (.submitting copy setting)

/-- One step. -/
def leverageStep (c : SyncSettings) (s : LeverageState) : SyncAction → Option LeverageState
  | .load w =>
      match s.tasks.lookup w with
      | some _ => none
      | none => some (if s.job.state.active then s.toPhase w (.loaded s.job) else s)
  | .prepare w =>
      match s.tasks.lookup w with
      | some (.loaded seen) => some (s.toPhase w (.prepared seen))
      | _ => none
  | .withdraw w why =>
      match s.tasks.lookup w with
      | some (.loaded seen) => some (s.finishTask w seen (withdrawn why seen))
      | some (.prepared seen) => some (s.finishTask w seen (withdrawn why seen.bind))
      | _ => none
  | .publish w =>
      match s.tasks.lookup w with
      | some (.prepared seen) => some (s.finishTask w seen seen.bind)
      | _ => none
  | .claim w now =>
      match s.tasks.lookup w with
      | some (.prepared seen) =>
          some (if s.job.due now then
              (s.withJob (claimedRow c w now seen s.job)).toPhase w .acquired
            else s.endTask w)
      | _ => none
  | .refresh w =>
      match s.tasks.lookup w with
      | some .acquired => some (s.toPhase w (.claimed s.job))
      | _ => none
  | .submit w reads now =>
      match s.tasks.lookup w with
      | some (.claimed seen) => some (submitStep s w seen reads now)
      | _ => none
  | .call w =>
      match s.tasks.lookup w with
      | some (.submitting copy setting) =>
          some { s.toPhase w (.calling copy setting) with invoked := s.invoked + 1 }
      | _ => none
  | .answer w answer authorized now =>
      match s.tasks.lookup w with
      | some (.calling copy setting) =>
          let s' := s.finishTask w copy (answered answer (authorized.getD setting) now copy)
          some (match answer with
            | .refused _ _ => { s' with refused := s.refused + 1 }
            | _ => s')
      | _ => none
  | .lost w => some (s.endTask w)
  | .quarantine now =>
      some (if s.job.leaseExpired now then s.withJob (quarantined now s.job) else s)
  | .release now =>
      some (if s.job.leaseExpired now then s.withJob (released c now s.job) else s)

end HyperCopy

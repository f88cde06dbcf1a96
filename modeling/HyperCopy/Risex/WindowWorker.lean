import HyperCopy.Library.Table
import HyperCopy.Library.Transition
import HyperCopy.Risex.Window
import Mathlib.Data.List.MinMax

/-!
# The worker around the operational window

`services/risex_execution_control.py`, `services/risex_execution_worker_extension.py` and the
submission path of `workers/execution_worker.py` and `adapters/risex.py`, for one boot of one
worker.  Operators write control requests; pollers claim them and hand them to the controller; an
attempt to arm runs as a task of its own; a submission checks the window, prepares its payload and
checks the window again before it posts.  All but the operators share one event loop, so that a
step runs from one `await` to the next.

Control requests are created, and windows finalised, under an advisory lock of the database
(`fence`), which is held until the transaction ends.  Within the process a mutex serialises the
final check and the post of a submission with some transitions of the window, but not with
`cancel_arm`, `open_window` and the expiry check of the telemetry.
-/

namespace HyperCopy

/-! ## State -/

/-- The action of a control request. -/
inductive ControlAction
  | arm
  | disarm
  | unknown
deriving DecidableEq, Repr

/-- A row of the control requests. -/
structure ControlRequest where
  requestId : RequestId
  controlGeneration : ℕ
  action : ControlAction
  consumed : Bool
  reason : String
  operatorhubBypassDisabled : Bool
deriving DecidableEq, Repr

/-- The handle of an ARM task. -/
abbrev ArmTaskId := ℕ

/-- The handle of a poll of the control requests. -/
abbrev PollerId := ℕ

/-- The transaction that holds the advisory lock. -/
inductive FenceHolder
  | creating (request : ControlRequest)
  | finalizing (task : ArmTaskId)
deriving DecidableEq, Repr

/-- What a poller awaits: the commit of its claim, the submission mutex, the heartbeat after
`begin_arm`, the singleton check. -/
inductive PollStage
  | claiming (request : ControlRequest)
  | claimed (request : ControlRequest)
  | armed (request : ControlRequest) (contextFingerprint : String)
  | checking (request : ControlRequest) (contextFingerprint : String)
deriving DecidableEq, Repr

/-- What an attempt to arm awaits: the readiness probe, the advisory lock, the singleton check,
the commit, and after a failed commit the submission mutex. -/
inductive ArmStage
  | readiness
  | fencing
  | fenced
  | committing
  | failed
deriving DecidableEq, Repr

/-- A task that arms the window for a request. -/
structure ArmTask where
  request : ControlRequest
  contextFingerprint : String
  stage : ArmStage
  cancelled : Bool
deriving DecidableEq, Repr

/-- The identities of the authorization and of the permit. -/
structure PermitIdentity where
  accountAddress : String
  signerAddress : String
  permitAccountAddress : String
  permitSignerAddress : String
deriving DecidableEq, Repr

/-- `_ContinuousOperationSnapshot`, with the event the window owes its state to. -/
structure ContinuousSnapshot where
  invalidationEpoch : ℕ
  contextFingerprint : String
  permit : PermitIdentity
  arming : Option WindowEvent
deriving DecidableEq, Repr

/-- What a submission awaits: the singleton check, the mutex to lock the window, its preparation,
the payload and the mutex, the two awaits of the final authorizer, the answer of the provider. -/
inductive SubmissionStage
  | checked (contextFingerprint : String)
  | refused (reason : String)
  | preparing (contextFingerprint : String)
  | snapshotted (snapshot : ContinuousSnapshot)
  | authorizing (snapshot : ContinuousSnapshot)
  | committing (snapshot : ContinuousSnapshot) (singletonOk : Bool)
  | posting
deriving DecidableEq, Repr

/-- A call of `post_prepared_place_order`, and the window it finds. -/
structure ProviderPost where
  snapshot : ContinuousSnapshot
  clock : ℕ
  window : OperationalWindow
  arming : Option WindowEvent
deriving DecidableEq, Repr

/-- The process: its window and tasks, the control rows and their fence, and the POSTs that went
out. -/
structure WindowSystem where
  clock : ℕ
  record : WindowRecord
  requests : List ControlRequest
  fence : Option FenceHolder
  pollers : Table PollerId PollStage
  tasks : Table ArmTaskId ArmTask
  armTask : Option ArmTaskId
  maintaining : Bool
  submission : Option SubmissionStage
  posts : List ProviderPost

namespace WindowSystem

/-- A process that has just started. -/
def initial : WindowSystem := ⟨0, .boot 0, [], none, ∅, ∅, none, false, none, []⟩

/-- The window of the process. -/
def window (s : WindowSystem) : OperationalWindow := s.record.window

/-- A method of the window runs, at the time of the clock. -/
def call (s : WindowSystem) (c : WindowCall) : WindowSystem :=
  { s with record := s.record.call s.clock c }

/-- The submission mutex is held from the final check of a submission to the provider's answer. -/
def submissionLocked (s : WindowSystem) : Bool :=
  match s.submission with
  | some (.authorizing _) | some (.committing _ _) | some .posting => true
  | _ => false

/-- The highest generation of a request, zero without one. -/
def latestGeneration (s : WindowSystem) : ℕ :=
  (s.requests.map ControlRequest.controlGeneration).foldr max 0

/-- `task.cancel()` on the attempt the worker knows, if it still runs. -/
def cancelArmTask (s : WindowSystem) : WindowSystem :=
  match s.armTask with
  | some task => { s with tasks := s.tasks.modify task fun t => { t with cancelled := true } }
  | none => s

/-- An attempt to arm ends, and its transaction with it. -/
def endArmTask (s : WindowSystem) (task : ArmTaskId) : WindowSystem :=
  { s with
    tasks := s.tasks.erase task
    armTask := if s.armTask = some task then none else s.armTask
    fence := if s.fence = some (.finalizing task) then none else s.fence }

end WindowSystem

/-! ## Operators -/

/-- The steps of a control request's transaction. -/
inductive ControlOp
  | create (action : ControlAction) (requestId : RequestId) (reason : String)
      (operatorhubBypassDisabled : Bool)
  | commit
  | rollback
deriving DecidableEq, Repr

/-- `create_control_request` up to its flush; a refused request raises, and nothing is written. -/
def createControlRequest (s : WindowSystem) (action : ControlAction) (requestId : RequestId)
    (reason : String) (operatorhubBypassDisabled : Bool) : Option WindowSystem :=
  if s.fence.isSome || s.requests.any (·.requestId = requestId) then none
  else if action = .unknown then some s
  else if action = .arm && s.requests.any (!·.consumed) then some s
  else
    let request : ControlRequest :=
      ⟨requestId, s.latestGeneration + 1, action, false, reason, operatorhubBypassDisabled⟩
    some { s with fence := some (.creating request) }

/-- A control request is created, and its transaction ends. -/
def controlStep (s : WindowSystem) : ControlOp → Option WindowSystem
  | .create action requestId reason assertion =>
    createControlRequest s action requestId reason assertion
  | .commit =>
    match s.fence with
    | some (.creating request) =>
      some { s with fence := none, requests := s.requests ++ [request] }
    | _ => none
  | .rollback =>
    match s.fence with
    | some (.creating _) => some { s with fence := none }
    | _ => none

/-! ## Pollers -/

/-- The steps of a poll. -/
inductive PollOp
  | claim
  | commit
  | apply (contextFingerprint : String)
  | heartbeat
  | singleton (ok : Bool) (task : ArmTaskId)
  /-- The database or the heartbeat fails. -/
  | fail
deriving DecidableEq, Repr

/-- A row that another claim holds is skipped. -/
def ControlRequest.claimable (s : WindowSystem) (r : ControlRequest) : Bool :=
  !r.consumed && !s.pollers.any fun _ stage => stage = .claiming r

/-- `_poll_risex_control_once`. -/
def pollStep (s : WindowSystem) (poller : PollerId) (op : PollOp) : Option WindowSystem :=
  let s' := { s with pollers := s.pollers.erase poller }
  match op, s.pollers.lookup poller with
  | .claim, none =>
    match (s.requests.filter (·.claimable s)).argmin ControlRequest.controlGeneration with
    | none => some s
    | some request => some { s with pollers := s.pollers.insert poller (.claiming request) }
  | .commit, some (.claiming request) =>
    some { s with
      requests := s.requests.map fun r =>
        if r.requestId = request.requestId then { r with consumed := true } else r
      pollers := s.pollers.insert poller (.claimed { request with consumed := true })
      record :=
        { s.record with
          window := { s.window with lastControlRequestId := some request.requestId } } }
  | .apply contextFingerprint, some (.claimed request) =>
    if s.submissionLocked then none
    else match request.action with
    | .disarm =>
      let reason := "operator DISARM: " ++ request.reason
      some (s'.call (.disarm request.controlGeneration reason)).cancelArmTask
    | .unknown => some (s'.call (.lock "unknown RISEx control action"))
    | .arm =>
      let armed := s.window.lastControlGeneration < request.controlGeneration
      let called := s.call (.beginArm request.requestId request.controlGeneration contextFingerprint)
      some { called with
        pollers :=
          if armed then s.pollers.insert poller (.armed request contextFingerprint)
          else s.pollers.erase poller }
  | .heartbeat, some (.armed request contextFingerprint) =>
    if request.operatorhubBypassDisabled then
      some { s with pollers := s.pollers.insert poller (.checking request contextFingerprint) }
    else
      some (s'.call
        (.cancelArm "RISEx ARM is missing required global readiness assertions" true))
  | .singleton ok task, some (.checking request contextFingerprint) =>
    if !ok then
      some (s'.call
        (.cancelArm "RISEx singleton execution-worker invariant is not established" true))
    else if (s.tasks.lookup task).isSome then none
    else
      let previous := s'.cancelArmTask
      some { previous with
        tasks := previous.tasks.insert task ⟨request, contextFingerprint, .readiness, false⟩
        armTask := some task }
  | .fail, some _ => some s'
  | _, _ => none

/-! ## Attempts to arm -/

/-- How the readiness probe ends. -/
inductive Readiness
  | attested
  | noAttestation
  | unavailable
  | malformed
  | failed
deriving DecidableEq, Repr

/-- The steps of an ARM task. -/
inductive ArmOp
  | readiness (result : Readiness) (contextFingerprint detail : String)
  | fence
  | singleton (ok : Bool)
  | error (detail : String)
  | commit (ok : Bool)
  | lock
  /-- The cancellation arrives; a task that has not `started` handles nothing. -/
  | cancelled (started : Bool)
deriving DecidableEq, Repr

/-- `arm_finalization_fence`. -/
def armFinalizationFence (s : WindowSystem) (arm : ControlRequest) : Bool :=
  (s.requests.find? (·.requestId = arm.requestId)).any fun row =>
    row.action = .arm && row.consumed && row.controlGeneration = arm.controlGeneration &&
      s.latestGeneration = arm.controlGeneration

/-- The handlers cancel an attempt that could still be finalised. -/
def WindowSystem.cancelPending (s : WindowSystem) (t : ArmTask) (reason : String) (locked : Bool) :
    WindowSystem :=
  if s.window.canFinalizeArm t.request.requestId t.request.controlGeneration t.contextFingerprint
  then s.call (.cancelArm reason locked)
  else s

/-- The detail that an ARM ends with when its fence refuses it. -/
def fenceRejected : String := "RISEx ARM finalization fence rejected the readiness result"

/-- `_run_risex_arm_attempt`. -/
def armStep (s : WindowSystem) (task : ArmTaskId) (op : ArmOp) : Option WindowSystem :=
  match s.tasks.lookup task with
  | none => none
  | some t =>
    let requestId := t.request.requestId
    let generation := t.request.controlGeneration
    let goto := fun (s : WindowSystem) stage =>
      { s with tasks := s.tasks.insert task { t with stage := stage } }
    match op, t.stage, t.cancelled with
    | .readiness .attested contextFingerprint _, .readiness, false =>
      if contextFingerprint ≠ t.contextFingerprint then
        some ((s.call
          (.cancelArm "RISEx security-relevant runtime context changed" true)).endArmTask task)
      else some (goto s .fencing)
    | .readiness .noAttestation _ _, .readiness, false =>
      some ((s.call (.cancelArm
        "RISEx global continuous readiness did not produce a valid attestation" true)).endArmTask task)
    | .readiness .unavailable _ detail, .readiness, false =>
      some ((s.cancelPending t ("RISEx readiness unavailable: " ++ detail) false).endArmTask task)
    | .readiness .malformed _ detail, .readiness, false =>
      some ((s.cancelPending t ("RISEx readiness security failure: " ++ detail) true).endArmTask task)
    | .readiness .failed _ detail, .readiness, false =>
      some ((s.cancelPending t
        ("RISEx readiness/finalization failed ambiguously: " ++ detail) true).endArmTask task)
    | .fence, .fencing, false =>
      if s.fence.isSome then none
      else if armFinalizationFence s t.request then
        some (goto { s with fence := some (.finalizing task) } .fenced)
      else some ((s.call (.cancelArm fenceRejected true)).endArmTask task)
    | .singleton ok, .fenced, false =>
      if ok && s.window.canFinalizeArm requestId generation t.contextFingerprint then
        some (goto (s.call (.openWindow requestId generation t.contextFingerprint)) .committing)
      else some ((s.call (.cancelArm fenceRejected (!ok))).endArmTask task)
    | .error detail, .fencing, false | .error detail, .fenced, false =>
      some ((s.cancelPending t
        ("RISEx readiness/finalization failed ambiguously: " ++ detail) true).endArmTask task)
    | .commit true, .committing, false => some (s.endArmTask task)
    | .commit false, .committing, false =>
      some (goto
        { s with fence := if s.fence = some (.finalizing task) then none else s.fence } .failed)
    | .lock, .failed, false =>
      -- the handler that runs next finds nothing it could cancel
      if s.submissionLocked then none
      else some ((s.call (.lock "RISEx finalization transaction failed")).endArmTask task)
    | .cancelled started, stage, true =>
      if !started && stage ≠ .readiness then none
      else if started && s.window.armAttempt.any (·.requestId = requestId) then
        some ((s.call
          (.cancelArm "RISEx ARM attempt canceled before finalization" false)).endArmTask task)
      else some (s.endArmTask task)
    | _, _, _ => none

/-! ## Maintenance -/

/-- The steps of the maintenance loop. -/
inductive MaintainOp
  | expire
  | singleton (ok : Bool)
  | fail
deriving DecidableEq, Repr

/-- `_maintain_risex_window_once`. -/
def maintainStep (s : WindowSystem) : MaintainOp → Option WindowSystem
  | .expire =>
    if s.maintaining || s.submissionLocked then none
    else
      let s := s.call .expireIfNeeded
      some { s with
        maintaining :=
          s.window.state = .arming || s.window.state = .enabled || s.window.state = .paused }
  | .singleton ok =>
    if !s.maintaining then none
    else if ok then some { s with maintaining := false }
    else if s.submissionLocked then none
    else
      let s := (s.call (.lock "RISEx singleton invariant cannot be established")).cancelArmTask
      some { s with maintaining := false }
  | .fail => if s.maintaining then some { s with maintaining := false } else none

/-! ## Submissions -/

/-- The steps of a submission, up to its POST and behind it. -/
inductive SubmissionOp
  | start (contextFingerprint : String)
  | singleton (ok : Bool)
  | refuse
  | snapshot (permit : PermitIdentity)
  | fence (freshContext : String)
  /-- The singleton check of the final authorizer; `none` where it raises. -/
  | authorize (singletonOk : Option Bool)
  | commit (ok : Bool)
  | done
  | abort
deriving DecidableEq, Repr

/-- Addresses are compared without their case. -/
def sameAddress (a b : String) : Bool := a.toLower = b.toLower

/-- The window is locked, and the submission ends. -/
def WindowSystem.lockAndReject (s : WindowSystem) (reason : String) : WindowSystem :=
  { s.call (.lock reason) with submission := none }

/-- `_continuous_snapshot`. -/
def continuousSnapshot (s : WindowSystem) (contextFingerprint : String) (permit : PermitIdentity) :
    WindowSystem :=
  let s := s.call .expireIfNeeded
  if s.window.state ≠ .enabled then { s with submission := none }
  else if s.window.contextFingerprint ≠ some contextFingerprint then
    s.lockAndReject "RISEx continuous authorization context mismatch"
  else if !sameAddress permit.permitAccountAddress permit.accountAddress then
    s.lockAndReject "RISEx continuous permit account identity mismatch"
  else if !sameAddress permit.permitSignerAddress permit.signerAddress then
    s.lockAndReject "RISEx continuous permit signer identity mismatch"
  else
    let snapshot : ContinuousSnapshot :=
      ⟨s.window.authorizationInvalidationEpoch, contextFingerprint, permit, s.record.events.head?⟩
    { s with submission := some (.snapshotted snapshot) }

/-- `_continuous_final_fence`, and the final authorizer up to its first `await`. -/
def continuousFinalFence (s : WindowSystem) (snapshot : ContinuousSnapshot) (freshContext : String) :
    WindowSystem :=
  let s := s.call .expireIfNeeded
  if s.window.state ≠ .enabled then { s with submission := none }
  else if s.window.authorizationInvalidationEpoch ≠ snapshot.invalidationEpoch then
    s.lockAndReject "RISEx continuous authorization epoch changed ambiguously before submission"
  else if s.window.contextFingerprint ≠ some snapshot.contextFingerprint then
    s.lockAndReject "RISEx continuous authorization context changed before submission"
  else if !sameAddress snapshot.permit.permitAccountAddress snapshot.permit.accountAddress then
    s.lockAndReject "RISEx continuous permit account changed before submission"
  else if !sameAddress snapshot.permit.permitSignerAddress snapshot.permit.signerAddress then
    s.lockAndReject "RISEx continuous permit signer changed before submission"
  else if freshContext ≠ snapshot.contextFingerprint then
    s.lockAndReject "RISEx security-relevant runtime context changed during submission"
  else { s with submission := some (.authorizing snapshot) }

/-- The final authorizer raised. -/
def WindowSystem.authorizerFailed (s : WindowSystem) : WindowSystem :=
  if s.window.state = .enabled then s.lockAndReject "RISEx final continuous authorization failed"
  else { s with submission := none }

/-- `post_prepared_place_order`. -/
def WindowSystem.post (s : WindowSystem) (snapshot : ContinuousSnapshot) : WindowSystem :=
  { s with
    submission := some .posting
    posts := ⟨snapshot, s.clock, s.window, s.record.events.head?⟩ :: s.posts }

/-- `_run_risex_copy_job` and `place_ioc` in continuous mode. -/
def submissionStep (s : WindowSystem) (op : SubmissionOp) : Option WindowSystem :=
  match op, s.submission with
  | .start contextFingerprint, none =>
    let s := s.call .expireIfNeeded
    if s.window.state ≠ .enabled then some s
    else if s.window.contextFingerprint ≠ some contextFingerprint then
      some { s with
        submission :=
          some (.refused "RISEx security-relevant runtime context changed before CopyJob") }
    else some { s with submission := some (.checked contextFingerprint) }
  | .singleton ok, some (.checked contextFingerprint) =>
    some { s with
      submission :=
        if ok then some (.preparing contextFingerprint)
        else some (.refused "RISEx singleton invariant cannot be established at point of use") }
  | .refuse, some (.refused reason) => some (s.lockAndReject reason)
  | .snapshot permit, some (.preparing contextFingerprint) =>
    some (continuousSnapshot s contextFingerprint permit)
  | .fence freshContext, some (.snapshotted snapshot) =>
    some (continuousFinalFence s snapshot freshContext)
  | .authorize (some ok), some (.authorizing snapshot) =>
    some { s with submission := some (.committing snapshot ok) }
  | .authorize none, some (.authorizing _) => some s.authorizerFailed
  | .commit false, some (.committing _ _) => some s.authorizerFailed
  | .commit true, some (.committing snapshot ok) =>
    if ok then some (s.post snapshot)
    else some (s.lockAndReject "RISEx singleton invariant changed during submission")
  | .done, some .posting => some { s with submission := none }
  | .abort, some _ => some { s with submission := none }
  | _, _ => none

/-! ## Steps -/

/-- What can happen to the process. -/
inductive WindowOp
  | tick (clock : ℕ)
  /-- A heartbeat reads the telemetry. -/
  | telemetry
  | pause (reason : String)
  | resume
  | control (op : ControlOp)
  | poll (poller : PollerId) (op : PollOp)
  | arm (task : ArmTaskId) (op : ArmOp)
  | maintain (op : MaintainOp)
  | submission (op : SubmissionOp)
deriving DecidableEq, Repr

/-- One step of the process. -/
def windowStep (s : WindowSystem) : WindowOp → Option WindowSystem
  | .tick clock => if s.clock ≤ clock then some { s with clock := clock } else none
  | .telemetry => some (s.call .expireIfNeeded)
  | .pause reason => some (s.call (.pause reason))
  | .resume => some (s.call .resumeAfterPositiveProbe)
  | .control op => controlStep s op
  | .poll poller op => pollStep s poller op
  | .arm task op => armStep s task op
  | .maintain op => maintainStep s op
  | .submission op => submissionStep s op

end HyperCopy

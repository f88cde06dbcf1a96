import Mathlib.Algebra.Order.Group.Nat
import Mathlib.Data.List.Basic

/-!
# The operational window

`RISExOperationalWindowController` of `services/risex_execution_window.py`: the state of one worker
process that decides whether orders may be sent.  Times are in microseconds, as the clock of the
process counts them; a control generation is the number the database gives to a control request.

`WindowRecord` keeps beside the controller what no code reads: the events that opened or ended
an authorization, newest first, and the control requests the controller was handed.
-/

namespace HyperCopy

/-- `RISExExecutionState`. -/
inductive ExecutionWindowState
  | disabled
  | arming
  | enabled
  | paused
  | locked
deriving DecidableEq, Repr

/-- The identifier of a control request. -/
abbrev RequestId := ℕ

/-- `RISEX_WINDOW_TTL_SECONDS`. -/
def risexWindowTtl : ℕ := 24 * 60 * 60 * 1000000

/-- `ArmAttempt`: what an ARM remembers until its window opens. -/
structure ArmAttempt where
  requestId : RequestId
  controlGeneration : ℕ
  startedAt : ℕ
  contextFingerprint : String
  invalidationEpochSnapshot : ℕ
deriving DecidableEq, Repr

/-- The execution window of the process. -/
structure OperationalWindow where
  state : ExecutionWindowState
  armAttempt : Option ArmAttempt
  openedAt : Option ℕ
  expiresAt : Option ℕ
  contextFingerprint : Option String
  authorizationInvalidationEpoch : ℕ
  lastControlGeneration : ℕ
  lastControlRequestId : Option RequestId
  lastTransitionAt : ℕ
  lastTransitionReason : String
deriving DecidableEq, Repr

namespace OperationalWindow

/-- A process starts without authorization. -/
def boot (now : ℕ) : OperationalWindow :=
  ⟨.disabled, none, none, none, none, 0, 0, none, now, "process boot: RISEx unauthorized"⟩

/-- The state changes, for a reason that is kept. -/
def transition (w : OperationalWindow) (now : ℕ) (state : ExecutionWindowState) (reason : String) :
    OperationalWindow :=
  { w with state := state, lastTransitionAt := now, lastTransitionReason := reason }

/-- What every operation does that ends an authorization. -/
def invalidate (w : OperationalWindow) : OperationalWindow :=
  { w with
    authorizationInvalidationEpoch := w.authorizationInvalidationEpoch + 1
    armAttempt := none
    openedAt := none
    expiresAt := none
    contextFingerprint := none }

/-- `begin_arm`: a generation that is not newer is refused, every other one starts arming. -/
def beginArm (w : OperationalWindow) (now : ℕ) (requestId : RequestId) (controlGeneration : ℕ)
    (contextFingerprint : String) : OperationalWindow × Bool :=
  if controlGeneration ≤ w.lastControlGeneration then (w, false)
  else
    let attempt : ArmAttempt :=
      ⟨requestId, controlGeneration, now, contextFingerprint, w.authorizationInvalidationEpoch⟩
    let armed :=
      { w with
        lastControlGeneration := controlGeneration
        lastControlRequestId := some requestId
        openedAt := none
        expiresAt := none
        contextFingerprint := none
        armAttempt := some attempt }
    (armed.transition now .arming "explicit ARM request consumed", true)

/-- `can_finalize_arm`: the attempt is the current one, and nothing has invalidated it. -/
def canFinalizeArm (w : OperationalWindow) (requestId : RequestId) (controlGeneration : ℕ)
    (contextFingerprint : String) : Bool :=
  w.state = .arming &&
    w.armAttempt.any fun attempt =>
      attempt.requestId = requestId &&
      attempt.controlGeneration = controlGeneration &&
      attempt.controlGeneration = w.lastControlGeneration &&
      attempt.contextFingerprint = contextFingerprint &&
      attempt.invalidationEpochSnapshot = w.authorizationInvalidationEpoch

/-- `open_window`: the window opens for a day, or the call raises. -/
def openWindow (w : OperationalWindow) (now : ℕ) (requestId : RequestId) (controlGeneration : ℕ)
    (contextFingerprint : String) : Except String OperationalWindow :=
  if w.canFinalizeArm requestId controlGeneration contextFingerprint then
    let opened :=
      { w with
        openedAt := some now
        expiresAt := some (now + risexWindowTtl)
        contextFingerprint := some contextFingerprint
        armAttempt := none }
    .ok (opened.transition now .enabled "readiness PASS finalized into operational window")
  else .error "RISEx ARM finalization is no longer valid"

/-- A lock survives a `disarm`. -/
def disarm (w : OperationalWindow) (now : ℕ) (controlGeneration : ℕ) (reason : String) :
    OperationalWindow × Bool :=
  if controlGeneration < w.lastControlGeneration then (w, false)
  else
    let ended := { w.invalidate with lastControlGeneration := controlGeneration }
    (ended.transition now (if w.state = .locked then .locked else .disabled) reason, true)

/-- A lock does not survive a `cancelArm` that does not lock. -/
def cancelArm (w : OperationalWindow) (now : ℕ) (reason : String) (locked : Bool) :
    OperationalWindow :=
  w.invalidate.transition now (if locked then .locked else .disabled) reason

/-- `lock`. -/
def lock (w : OperationalWindow) (now : ℕ) (reason : String) : OperationalWindow :=
  w.invalidate.transition now .locked reason

/-- `disable`. -/
def disable (w : OperationalWindow) (now : ℕ) (reason : String) : OperationalWindow :=
  w.invalidate.transition now .disabled reason

/-- The window is open, and its time is over. -/
def expired (w : OperationalWindow) (now : ℕ) : Bool :=
  (w.state = .enabled || w.state = .paused) && w.expiresAt.any (· ≤ now)

/-- `expire_if_needed`. -/
def expireIfNeeded (w : OperationalWindow) (now : ℕ) : OperationalWindow :=
  if w.expired now then w.disable now "operational window reached its 24-hour maximum" else w

/-- `pause`: an open window pauses. -/
def pause (w : OperationalWindow) (now : ℕ) (reason : String) : OperationalWindow :=
  let w := w.expireIfNeeded now
  if w.state = .enabled then w.transition now .paused reason else w

/-- `resume_after_positive_probe`: a paused window that is not over opens again. -/
def resumeAfterPositiveProbe (w : OperationalWindow) (now : ℕ) : OperationalWindow :=
  let w := w.expireIfNeeded now
  if w.state ≠ .paused then w
  else if w.expiresAt.all (· ≤ now) then w.disable now "operational window expired"
  else w.transition now .enabled "trustworthy positive probe after availability pause"

end OperationalWindow

/-! ## Calls, and what they leave behind -/

/-- A call of the controller. -/
inductive WindowCall
  | beginArm (requestId : RequestId) (controlGeneration : ℕ) (contextFingerprint : String)
  | openWindow (requestId : RequestId) (controlGeneration : ℕ) (contextFingerprint : String)
  | disarm (controlGeneration : ℕ) (reason : String)
  | cancelArm (reason : String) (locked : Bool)
  | lock (reason : String)
  | disable (reason : String)
  | expireIfNeeded
  | pause (reason : String)
  | resumeAfterPositiveProbe
deriving DecidableEq, Repr

/-- An arming, an opening, or the end of an authorization. -/
inductive WindowEvent
  | armed (controlGeneration : ℕ)
  | opened (controlGeneration : ℕ) (openedAt : ℕ)
  | ended
deriving DecidableEq, Repr

/-- The controller, the events of its authorizations, and the requests it was handed. -/
structure WindowRecord where
  window : OperationalWindow
  events : List WindowEvent
  armed : List ℕ
  disarmed : List ℕ
deriving DecidableEq, Repr

/-- A process that has not been called yet. -/
def WindowRecord.boot (now : ℕ) : WindowRecord := ⟨.boot now, [], [], []⟩

/-- The effect of a call that ends the authorization exactly when the epoch moves. -/
def WindowRecord.withWindow (r : WindowRecord) (w : OperationalWindow) : WindowRecord :=
  { r with
    window := w
    events :=
      if w.authorizationInvalidationEpoch = r.window.authorizationInvalidationEpoch then r.events
      else .ended :: r.events }

/-- A call of the window, with what it has opened, armed or disarmed. -/
def WindowRecord.call (r : WindowRecord) (now : ℕ) : WindowCall → WindowRecord
  | .beginArm requestId generation fingerprint =>
    let (w, armed) := r.window.beginArm now requestId generation fingerprint
    { r with
      window := w
      events := if armed then .armed generation :: r.events else r.events
      armed := generation :: r.armed }
  | .openWindow requestId generation fingerprint =>
    match r.window.openWindow now requestId generation fingerprint with
    | .ok w => { r with window := w, events := .opened generation now :: r.events }
    | .error _ => r
  | .disarm generation reason =>
    let r' := r.withWindow (r.window.disarm now generation reason).1
    { r' with disarmed := generation :: r.disarmed }
  | .cancelArm reason locked => r.withWindow (r.window.cancelArm now reason locked)
  | .lock reason => r.withWindow (r.window.lock now reason)
  | .disable reason => r.withWindow (r.window.disable now reason)
  | .expireIfNeeded => r.withWindow (r.window.expireIfNeeded now)
  | .pause reason => r.withWindow (r.window.pause now reason)
  | .resumeAfterPositiveProbe => r.withWindow (r.window.resumeAfterPositiveProbe now)

end HyperCopy

import HyperCopy.Library.Table
import HyperCopy.Library.Transition
import Mathlib.Algebra.Order.Group.Nat

/-!
# Signed calls of one address and its submission slot

`AddressActionTracker` of `adapters/address_ratelimit.py` and `_signed_call` of
`adapters/hyperliquid.py`, for the calls of one account address.  Redis holds two keys for the
address.  The slot key delays whoever finds it, for ten seconds from when it was set; the mode key
says that the exchange reported an exhausted quota, and with it every call has to set the slot
before it goes on.

A call runs through the phases below, one Redis command or one wait at a time, and between two of
them any other call, any snapshot and any amount of time can come.  The lock is the advisory lock
of the signer; an address has calls under several signers when a credential was rotated.  Two more
things take it from a call whose worker thread goes on: a second cancellation, and the loss of the
connection that holds it.

The values of the slot key are all the same.  Who wrote it is history, as are the invocations.
-/

namespace HyperCopy.SignedCalls

/-- The handle of a call. -/
abbrev CallId := ℕ

/-- `ADDRESS_BACKOFF_SECONDS`, in milliseconds. -/
def slotMs : ℕ := 10 * 1000

/-- `ADDRESS_THROTTLED_MODE_REVALIDATE_SECONDS`, in milliseconds. -/
def revalidateMs : ℕ := 60 * 1000

/-! ## Calls -/

/-- What a call signs.  The callbacks of the first two read the exchange or the database; the one
of the admin's synchronization sets the slot anew between the two. -/
inductive SignedAction
  | placeIoc
  | updateLeverage
  | adminLeverageSync
deriving DecidableEq, Repr

/-- Where a call stands; a phase with a time sleeps until then. -/
inductive Phase
  /-- `wait_for_existing_backoff`, before the lock. -/
  | preWait (wakeAt : ℕ)
  | signerLock
  /-- `wait_if_backed_off`, in the worker thread. -/
  | finalWait (wakeAt : ℕ)
  /-- The accounting and the top of the loop of `_reserve_submission_slot_after_accounting`. -/
  | reserve (wakeAt : ℕ)
  | examineMode
  | setSlot
  /-- The fresh reads in the callback of the admin's synchronization. -/
  | freshReads
  /-- `reestablish_submission_slot_before_final_authorization` has found the mode. -/
  | resetSlot
  /-- The rest of the callback, with nothing but the writer check behind it. -/
  | authorize
  /-- The SDK has been invoked. -/
  | submitted
  /-- The worker thread is done, and the lock is still held. -/
  | classified
  | ended
deriving DecidableEq, Repr

/-- Such a call does not invoke the SDK any more. -/
def Phase.spent : Phase → Bool
  | .submitted | .classified | .ended => true
  | _ => false

/-- The phase in which the callback of the action begins. -/
def SignedAction.callback : SignedAction → Phase
  | .adminLeverageSync => .freshReads
  | _ => .authorize

/-- A signed call under way. -/
structure Call where
  signer : ℕ
  action : SignedAction
  phase : Phase
  locked : Bool
deriving DecidableEq, Repr

/-! ## State -/

/-- The slot key, which expires `slotMs` after it was set. -/
structure Slot where
  setAt : ℕ
  owner : CallId
deriving DecidableEq, Repr

/-- A call of the exchange, with what the cadence has to hold for. -/
structure Invocation where
  call : CallId
  startedAt : ℕ
  /-- When the slot of the call was set, if the slot was its own. -/
  slotAt : Option ℕ
  /-- Has the address been in throttled mode ever since the invocation before? -/
  sustained : Bool
deriving DecidableEq, Repr

/-- Redis, the calls under way, and the calls of the exchange so far. -/
structure State where
  clock : ℕ
  slot : Option Slot
  /-- When the mode key expires. -/
  modeUntil : Option ℕ
  calls : Table CallId Call
  /-- Newest first. -/
  invocations : List Invocation
  /-- Has the address been in throttled mode ever since the newest invocation? -/
  sustained : Bool

namespace State

/-- Nothing has been called yet. -/
def initial : State := ⟨0, none, none, ∅, [], false⟩

/-- What remains of the slot key; a missing one has nothing left. -/
def pttl (s : State) : ℕ :=
  match s.slot with
  | some slot => slot.setAt + slotMs - s.clock
  | none => 0

/-- The address is in throttled mode. -/
def throttled (s : State) : Bool := s.modeUntil.any (s.clock < ·)

/-- When the slot was set, if the call was the last to set it. -/
def ownSlot (s : State) (c : CallId) : Option ℕ :=
  s.slot.bind fun slot => if slot.owner = c then some slot.setAt else none

/-- A call of the signer has the lock. -/
def lockHeld (s : State) (signer : ℕ) : Bool :=
  s.calls.any fun _ call => call.locked && call.signer = signer

/-! ## Steps -/

/-- The call comes to this point. -/
def goto (s : State) (c : CallId) (call : Call) (phase : Phase) : State :=
  { s with calls := s.calls.insert c { call with phase := phase } }

/-- The call takes the slot, at this moment. -/
def takeSlot (s : State) (c : CallId) : State := { s with slot := some ⟨s.clock, c⟩ }

/-- One round of the wait for the slot, by a call that sleeps until `wakeAt`. -/
def waitForExistingBackoff (s : State) (wakeAt : ℕ) (waiting : ℕ → Phase) (free : Phase) :
    Option Phase :=
  if s.clock < wakeAt then none
  else if 0 < s.pttl then some (waiting (s.clock + s.pttl))
  else some free

/-- The synchronous SDK function starts. -/
def invoke (s : State) (c : CallId) (call : Call) : State :=
  { s with
    invocations := ⟨c, s.clock, s.ownSlot c, s.sustained⟩ :: s.invocations
    sustained := s.throttled }.goto c call .submitted

/-- The next command of a call. -/
def proceed (s : State) (c : CallId) (call : Call) : Option State :=
  match call.phase with
  | .preWait wakeAt =>
    (s.waitForExistingBackoff wakeAt .preWait .signerLock).map (s.goto c call)
  | .signerLock =>
    if s.lockHeld call.signer then none
    else some (s.goto c { call with locked := true } (.finalWait s.clock))
  | .finalWait wakeAt =>
    (s.waitForExistingBackoff wakeAt .finalWait (.reserve s.clock)).map (s.goto c call)
  | .reserve wakeAt =>
    (s.waitForExistingBackoff wakeAt .reserve .examineMode).map (s.goto c call)
  | .examineMode => some (s.goto c call (if s.throttled then .setSlot else call.action.callback))
  | .setSlot =>
    -- `SET NX`: another process can have won since the slot was seen free
    if 0 < s.pttl then some (s.goto c call (.reserve s.clock))
    else some ((s.goto c call call.action.callback).takeSlot c)
  | .freshReads => some (s.goto c call (if s.throttled then .resetSlot else .authorize))
  | .resetSlot => some ((s.goto c call .authorize).takeSlot c)
  | .authorize => some (s.invoke c call)
  | .submitted => none
  | .classified => some (s.goto c { call with locked := false } .ended)
  | .ended => none

/-- The worker thread returns or raises.  `mark_throttled` follows where the text reads as a rate
limit, whether the exchange or the callback produced it, and where Redis is there. -/
def answer (s : State) (c : CallId) (call : Call) (limited : Bool) : Option State :=
  match call.phase with
  | .preWait _ | .signerLock | .classified | .ended => none
  | _ =>
    let s := s.goto c call .classified
    some (if limited then s.takeSlot c else s)

/-- The mode key can expire, and the throttled mode has then not lasted. -/
def tick (s : State) (ms : ℕ) : State :=
  let s := { s with clock := s.clock + ms }
  { s with sustained := s.sustained && s.throttled }

/-- `nRequestsUsed` and `nRequestsCap` of the payload; a missing field changes no key. -/
def recordExchangeSnapshot (s : State) (used cap : Option ℤ) : State :=
  match used, cap with
  | some used, some cap =>
    if cap ≤ used then { s with modeUntil := some (s.clock + revalidateMs) }
    else { s with modeUntil := none, slot := none, sustained := false }
  | _, _ => s

end State

/-- What can happen. -/
inductive Op
  | tick (ms : ℕ)
  | recordExchangeSnapshot (used cap : Option ℤ)
  | signedCall (c : CallId) (signer : ℕ) (action : SignedAction)
  | proceed (c : CallId)
  | answer (c : CallId) (limited : Bool)
  /-- The call is given up before the lock, or its process dies. -/
  | abandon (c : CallId)
  | loseLock (c : CallId)
deriving DecidableEq, Repr

/-- One step. -/
def step (s : State) : Op → Option State
  | .tick ms => some (s.tick ms)
  | .recordExchangeSnapshot used cap => some (s.recordExchangeSnapshot used cap)
  | .signedCall c signer action =>
    match s.calls.lookup c with
    | none => some (s.goto c ⟨signer, action, .preWait s.clock, false⟩ (.preWait s.clock))
    | some _ => none
  | .proceed c => (s.calls.lookup c).bind (s.proceed c)
  | .answer c limited => (s.calls.lookup c).bind fun call => s.answer c call limited
  | .abandon c => (s.calls.lookup c).map fun call => s.goto c { call with locked := false } .ended
  | .loseLock c =>
    (s.calls.lookup c).map fun call => s.goto c { call with locked := false } call.phase

end HyperCopy.SignedCalls

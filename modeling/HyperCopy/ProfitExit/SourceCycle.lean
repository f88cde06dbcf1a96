import HyperCopy.Engine.Sizing
import HyperCopy.Destination.Epochs
import Mathlib.Data.List.Sort

/-!
# The master's current source cycle

A *source cycle* is one stay of the master's position on one side of zero: it opens when the
position leaves flat, ends when it returns there, and a sign reversal ends one cycle and opens
the next.  `resolveCurrentSourceCycle` (`services/ai_profit_exit.py`) proves which cycle the
master is in from the recorded events, and answers `none` whenever the evidence has a gap.

The evidence is a chain: the versioned events of the market in causal order, walked back from the
latest one to the event that opened the cycle.  `resolveCurrentSourceCycle_eq` separates what is
asked of the chain, which does not depend on the position the caller believes in
(`provableChain`), from the one comparison that does: the position recorded by the latest event
must be exactly that position.

Market names are the upper-cased names the code compares.
-/

namespace HyperCopy

/-- What an event does to the master's position. -/
inductive SourceCycleTransition
  | flat
  | open
  | continue
  | close
  | reverse
deriving DecidableEq, Repr

/-- Classify a master position transition. -/
def classifySourceCycleTransition (startPosition positionAfter : ℚ) : SourceCycleTransition :=
  if startPosition = 0 ∧ positionAfter = 0 then .flat
  else if startPosition = 0 then .open
  else if positionAfter = 0 then .close
  else if (0 < startPosition) = (0 < positionAfter) then .continue
  else .reverse

/-- The primary key of a master event. -/
abbrev MasterEventId := ℕ

/-- A recorded master fill.  `network` is the tag of the raw payload, `causalOrder` is absent for
rows from before events were ordered. -/
structure MasterEvent where
  id : MasterEventId
  asset : Asset
  network : Option Network
  causalOrder : Option ℤ
  eventTs : ℤ
  startPosition : ℚ
  positionAfter : ℚ
deriving DecidableEq, Repr

/-- The identity `network:asset:open_event`. -/
structure SourceCycleId where
  network : Network
  asset : Asset
  openEventId : MasterEventId
deriving DecidableEq, Repr

/-- The side of a position. -/
inductive PositionSide
  | long
  | short
deriving DecidableEq, Repr

/-- The side of a position that is not flat. -/
def sideOf (position : ℚ) : PositionSide := if 0 < position then .long else .short

/-- `SourceCycle`: the cycle the master is in. -/
structure SourceCycle where
  sourceCycleId : SourceCycleId
  stateVersion : ℤ
  masterPosition : ℚ
  side : PositionSide
deriving DecidableEq, Repr

/-- The causal order of the event; an order that is not positive counts as none. -/
def positiveEventCausalOrder (event : MasterEvent) : Option ℤ :=
  match event.causalOrder with
  | some order => if 0 < order then some order else none
  | none => none

/-- Walk back from the latest event to the one that opened the cycle.  The chain breaks at a
discontinuity, at a timestamp out of order, and at an event that left the master flat. -/
def walkBack : Option MasterEvent → List MasterEvent → Option MasterEvent
  | _, [] => none
  | later, event :: rest =>
    if later.any fun l => event.positionAfter ≠ l.startPosition || l.eventTs < event.eventTs then
      none
    else
      match classifySourceCycleTransition event.startPosition event.positionAfter with
      | .open | .reverse => some event
      | .close | .flat => none
      | .continue => walkBack (some event) rest

/-- The versioned events, latest first. -/
def versionedEvents (matching : List MasterEvent) : List (ℤ × MasterEvent) :=
  ((matching.filterMap fun e => (positiveEventCausalOrder e).map fun order => (order, e)).insertionSort
    fun a b => a.1 ≤ b.1).reverse

/-- An event without a causal order that may belong to the cycle opened by `openEvent`. -/
def unversionedSince (openEvent event : MasterEvent) : Bool :=
  (positiveEventCausalOrder event).isNone && openEvent.eventTs ≤ event.eventTs

/-- Resolve the active master position cycle; `none` when it cannot be proven. -/
def resolveCurrentSourceCycle (events : List MasterEvent) (asset : Asset)
    (masterNetwork : Network) (currentMasterPosition : ℚ) : Option SourceCycle :=
  if currentMasterPosition = 0 then none
  else
    let matching := events.filter fun e => e.asset = asset && e.network = some masterNetwork
    match versionedEvents matching with
    | [] => none
    | (latestOrder, latest) :: earlier =>
      if ¬ ((latestOrder, latest) :: earlier |>.map (·.1)).Nodup then none
      else if latest.positionAfter ≠ currentMasterPosition then none
      else
        match walkBack none (latest :: earlier.map (·.2)) with
        | none => none
        | some openEvent =>
          if matching.any (unversionedSince openEvent) then none
          else some
            { sourceCycleId := ⟨masterNetwork, asset, openEvent.id⟩
              stateVersion := latestOrder
              masterPosition := currentMasterPosition
              side := sideOf currentMasterPosition }

/-! ## The chain and the position -/

/-- What the events prove by themselves: the identity of the cycle, its version, and the position
the latest event recorded. -/
structure SourceChain where
  sourceCycleId : SourceCycleId
  stateVersion : ℤ
  latestPosition : ℚ
deriving DecidableEq, Repr

/-- The events back to the one that opened the position, where every step between them is on
record. -/
def provableChain (events : List MasterEvent) (asset : Asset) (masterNetwork : Network) :
    Option SourceChain :=
  let matching := events.filter fun e => e.asset = asset && e.network = some masterNetwork
  match versionedEvents matching with
  | [] => none
  | (latestOrder, latest) :: earlier =>
    if ¬ ((latestOrder, latest) :: earlier |>.map (·.1)).Nodup then none
    else
      match walkBack none (latest :: earlier.map (·.2)) with
      | none => none
      | some openEvent =>
        if matching.any (unversionedSince openEvent) then none
        else some ⟨⟨masterNetwork, asset, openEvent.id⟩, latestOrder, latest.positionAfter⟩

/-- The cycle is proven exactly when the events form a chain whose latest position is the one the
caller believes in. -/
lemma resolveCurrentSourceCycle_eq (events : List MasterEvent) (asset : Asset)
    (masterNetwork : Network) (position : ℚ) :
    resolveCurrentSourceCycle events asset masterNetwork position =
      if position = 0 then none
      else
        match provableChain events asset masterNetwork with
        | none => none
        | some chain =>
          if chain.latestPosition = position then
            some ⟨chain.sourceCycleId, chain.stateVersion, position, sideOf position⟩
          else none := by
  unfold resolveCurrentSourceCycle provableChain
  split_ifs with hflat
  · rfl
  · dsimp only
    split
    · rfl
    · rename_i latestOrder latest earlier hversioned
      by_cases hdup : ((latestOrder, latest) :: earlier |>.map (·.1)).Nodup
      · simp only [hdup, not_true_eq_false, if_false]
        cases hwalk : walkBack none (latest :: earlier.map (·.2)) with
        | none => simp
        | some openEvent =>
            by_cases hposition : latest.positionAfter = position
            · simp only [hposition, not_true_eq_false, ne_eq, if_false]
              split_ifs <;> simp
            · simp only [hposition, not_false_eq_true, ne_eq, if_true]
              split_ifs <;> simp [hposition]
      · rw [if_pos hdup, if_pos hdup]

lemma resolveCurrentSourceCycle_id {events : List MasterEvent} {asset : Asset}
    {masterNetwork : Network} {position : ℚ} {cycle : SourceCycle}
    (h : resolveCurrentSourceCycle events asset masterNetwork position = some cycle) :
    ∃ chain, provableChain events asset masterNetwork = some chain ∧
      cycle.sourceCycleId = chain.sourceCycleId ∧ chain.latestPosition = position := by
  rw [resolveCurrentSourceCycle_eq] at h
  split_ifs at h with hflat
  split at h
  · cases h
  · rename_i chain hchain
    split_ifs at h with hposition
    obtain rfl := Option.some.inj h
    exact ⟨chain, hchain, rfl, hposition⟩

/-! ## Reading the cycle visible to a snapshot -/

/-- The events recorded before a snapshot started.  Events without an order are kept: they may
make the history incomplete. -/
def sourceCycleEvents (events : List MasterEvent) (asset : Asset) (snapshotStartedOrder : ℤ) :
    List MasterEvent :=
  events.filter fun e => e.asset = asset &&
    (match e.causalOrder with
      | none => true
      | some order => order < snapshotStartedOrder)

/-- Resolve the cycle visible to one master snapshot; without a positive boundary nothing is. -/
def readCurrentSourceCycle (events : List MasterEvent) (asset : Asset) (masterNetwork : Network)
    (snapshotStartedOrder : Option ℤ) (currentMasterPosition : ℚ) : Option SourceCycle :=
  match snapshotStartedOrder with
  | none => none
  | some boundary =>
    if boundary ≤ 0 then none
    else
      resolveCurrentSourceCycle (sourceCycleEvents events asset boundary) asset masterNetwork
        currentMasterPosition

/-- A cycle is read exactly where the events before the boundary form a chain that ends at the
position the caller believes in. -/
lemma readCurrentSourceCycle_id {events : List MasterEvent} {asset : Asset}
    {masterNetwork : Network} {snapshotStartedOrder : Option ℤ} {position : ℚ}
    {id : SourceCycleId} :
    (readCurrentSourceCycle events asset masterNetwork snapshotStartedOrder position).map
        (·.sourceCycleId) = some id ↔
      position ≠ 0 ∧ ∃ boundary chain, snapshotStartedOrder = some boundary ∧ 0 < boundary ∧
        provableChain (sourceCycleEvents events asset boundary) asset masterNetwork = some chain ∧
        chain.latestPosition = position ∧ chain.sourceCycleId = id := by
  unfold readCurrentSourceCycle
  cases snapshotStartedOrder with
  | none => simp
  | some boundary =>
      by_cases hboundary : boundary ≤ 0
      · simp [hboundary]
      · dsimp only
        rw [if_neg hboundary, resolveCurrentSourceCycle_eq]
        by_cases hflat : position = 0
        · simp [hflat]
        · rw [if_neg hflat]
          cases hchain : provableChain (sourceCycleEvents events asset boundary) asset
              masterNetwork with
          | none => simp [hchain]
          | some chain =>
              by_cases hlatest : chain.latestPosition = position
              · simp [hlatest, hflat, hchain, not_le.1 hboundary]
              · simp [hlatest, hchain]

end HyperCopy

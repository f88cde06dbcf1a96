import HyperCopy.Library.Quantize
import HyperCopy.Library.SortedSet

/-!
# Markers of missing master leverage

`services/master_leverage_cache.py`: while the leverage of a master position is unknown, its
follower jobs are blocked and a marker for the user and the asset is active.  Three scripts, each
of which Redis runs atomically, keep the markers and the recovery metrics: one registers a blocked
intent, one records a repair, and one publishes the repair job and records the repair with it.

The sorted sets `started` and `latest` hold the active markers, with the time the outage started
and the newest intent it blocks; `repair` holds the watermark, the newest evidence of a repair.
Causal orders come from one counter in the database that stays below `2 ^ 53`, so that Lua reads
them exactly.
-/

namespace HyperCopy

open Quantize

/-- `_missing_member`. -/
def missingMember (userId asset : String) : String := userId ++ "|" ++ asset

/-- `string.format('%.6f', x)`, read back as a number. -/
def formatSix (x : ℚ) : ℚ := halfEvenTo (1 / 1000000) x

/-- The counters and gauges of the recoveries; a key that has never been written is `0` or `none`. -/
structure RecoveryMetrics where
  unavailableCount : ℕ
  recoveryCount : ℕ
  recoveryLastSeconds : Option ℚ
  recoveryMaxSeconds : Option ℚ
  recoverySloBreachCount : ℕ
deriving DecidableEq, Repr

/-- The sorted sets of missing leverage, the metrics and the stream. -/
structure MarkerState where
  started : SortedSet String ℚ
  latest : SortedSet String ℤ
  repair : SortedSet String ℤ
  metrics : RecoveryMetrics
  /-- The jobs appended to the stream. -/
  stream : List String

/-- Nothing is missing. -/
def MarkerState.initial : MarkerState := ⟨∅, ∅, ∅, ⟨0, 0, none, none, 0⟩, []⟩

/-! ## The scripts -/

/-- `_ATOMIC_MISSING_SCRIPT`, with the answer whether an outage was opened. -/
def registerMissing (s : MarkerState) (member : String) (intentOrder : ℤ) (current : ℚ) :
    MarkerState × Bool :=
  if (s.repair.zscore member).any (intentOrder ≤ ·) then (s, false)
  else
    match s.started.zscore member with
    | some _ => ({ s with latest := s.latest.zraise intentOrder member }, false)
    | none =>
      ({ s with
          started := s.started.zadd current member
          latest := s.latest.zraise intentOrder member
          metrics :=
            { s.metrics with unavailableCount := s.metrics.unavailableCount + 1 } }, true)

/-- Account for one recovery. -/
def RecoveryMetrics.recover (m : RecoveryMetrics) (duration sloSeconds : ℚ) : RecoveryMetrics :=
  let previousMax := m.recoveryMaxSeconds.getD 0
  { m with
    recoveryCount := m.recoveryCount + 1
    recoveryLastSeconds := some (formatSix duration)
    recoveryMaxSeconds :=
      if previousMax < duration then some (formatSix duration) else m.recoveryMaxSeconds
    recoverySloBreachCount :=
      if sloSeconds < duration then m.recoverySloBreachCount + 1 else m.recoverySloBreachCount }

/-- What both repair scripts do: raise the watermark, and close the marker if the evidence covers
the newest blocked intent.  The answer is the duration of the outage. -/
def repairMarker (s : MarkerState) (member : String) (evidenceOrder : ℤ) (sloSeconds current : ℚ) :
    MarkerState × Option ℚ :=
  let s := { s with repair := s.repair.zraise evidenceOrder member }
  match s.started.zscore member, s.latest.zscore member with
  | some started, some latest =>
    if evidenceOrder < latest then (s, none)
    else
      let duration := max (current - started) 0
      ({ s with
          started := s.started.zrem member
          latest := s.latest.zrem member
          metrics := s.metrics.recover duration sloSeconds }, some (formatSix duration))
  | _, _ => (s, none)

/-- `_ATOMIC_PUBLISH_REPAIR_SCRIPT`. -/
def publishRepair (s : MarkerState) (jobId member : String) (evidenceOrder : ℤ)
    (sloSeconds current : ℚ) : Except String MarkerState :=
  if jobId = "" then .error "invalid HF006 publish-repair arguments"
  else
    let s := { s with stream := s.stream ++ [jobId] }
    .ok (repairMarker s member evidenceOrder sloSeconds current).1

/-! ## The calls -/

/-- `record_master_leverage_missing`. -/
def recordMasterLeverageMissing (s : MarkerState) (userId asset : String) (intentOrder : ℤ)
    (current : ℚ) : MarkerState × Bool :=
  if intentOrder ≤ 0 then (s, false)
  else registerMissing s (missingMember userId asset) intentOrder current

/-- `record_master_leverage_repaired`. -/
def recordMasterLeverageRepaired (s : MarkerState) (userId asset : String)
    (evidenceOrder : Option ℤ) (sloSeconds current : ℚ) : MarkerState × Option ℚ :=
  match evidenceOrder with
  | none => (s, none)
  | some order =>
    if order ≤ 0 then (s, none)
    else repairMarker s (missingMember userId asset) order sloSeconds current

/-- `publish_master_leverage_repair`. -/
def publishMasterLeverageRepair (s : MarkerState) (jobId userId asset : String)
    (evidenceOrder maxlen : ℤ) (sloSeconds current : ℚ) : Except String MarkerState :=
  if evidenceOrder ≤ 0 || maxlen ≤ 0 then
    .error "HF006 repair publish requires positive order and maxlen"
  else publishRepair s jobId (missingMember userId asset) evidenceOrder sloSeconds current

/-- A call, as a caller repeats it that has lost the reply. -/
inductive MarkerCall
  | missing (userId asset : String) (intentOrder : ℤ)
  | repaired (userId asset : String) (evidenceOrder : Option ℤ)
  | published (jobId userId asset : String) (evidenceOrder maxlen : ℤ)
deriving DecidableEq, Repr

/-- A call whose script runs at the time `current`, under the limit `sloSeconds`. -/
structure MarkerOp where
  call : MarkerCall
  sloSeconds : ℚ
  current : ℚ

/-- One call runs to its end; one that raises changes nothing. -/
def markerStep (s : MarkerState) (op : MarkerOp) : MarkerState :=
  match op.call with
  | .missing userId asset order => (recordMasterLeverageMissing s userId asset order op.current).1
  | .repaired userId asset order =>
    (recordMasterLeverageRepaired s userId asset order op.sloSeconds op.current).1
  | .published jobId userId asset order maxlen =>
    match publishMasterLeverageRepair s jobId userId asset order maxlen op.sloSeconds op.current with
    | .ok s' => s'
    | .error _ => s

/-- The operations in their order. -/
def markerRun (ops : List MarkerOp) : MarkerState := ops.foldl markerStep .initial

end HyperCopy

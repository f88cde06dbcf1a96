import HyperCopy.Library.DecimalContext
import HyperCopy.Library.Fallible
import HyperCopy.Reconcile.PlannerAgreement

/-!
# The AI capital factor

`services/ai_mode.py` turns the stored analysis of the strategy into one factor between 0.70 and 1
that scales the target positions.  The analysis is whatever JSON the intelligence row holds; the
mode row says whether the factor is requested, and keeps the last factor a healthy read accepted
for the reads that find the analysis degraded.

A stored number is read with `Decimal(str(value))` inside a `try` that falls back to a default, and
clamped outside of it.  A text such as `"NaN"` parses, so it passes the `try`, and the comparisons
of the clamp then raise.  That is the one way a read can fail.

A degraded analysis is read from the row it is stored in, so a row that drops the buffer of the
analysis before it (`refresh_ai_intelligence` does where the LLM is disabled) leaves the factor last
persisted alone to bound the next one.  `ai_factor_only_shrinks_iff` proves of every state that
storing, switching and reading lead to that the four bounds on the factor hold there exactly when
the stored buffer is not a NaN and no smaller factor is forgotten in this way.
-/

namespace HyperCopy.AiMode

open Fallible DecimalContext

/-! ## Stored numbers -/

/-- The values of Python's `Decimal`; a NaN may be signalling and of either sign. -/
inductive DecimalValue
  | nan
  | infinity (negative : Bool)
  | finite (q : ℚ)
deriving DecidableEq, Repr

/-- What `Decimal(str(value))` gives for a stored value: `none` where it raises one of
`InvalidOperation`, `TypeError` and `ValueError`. -/
abbrev DecimalReading := Option DecimalValue

/-- What the functions here raise. -/
inductive AiModeError
  | invalidOperation
  | notReady (reason : String)
deriving DecidableEq, Repr

/-- The common body of `_bounded_buffer` and `_bounded_factor`: the reading or the default, clamped.
The comparisons of `min` and `max` raise on a NaN. -/
def bounded (low high default : ℚ) (reading : DecimalReading) : Except AiModeError ℚ :=
  match reading.getD (.finite default) with
  | .nan => .error .invalidOperation
  | .infinity negative => .ok (if negative then low else high)
  | .finite q => .ok (max low (min q high))

/-- `MAX_AI_BUFFER_PCT`. -/
def maxAiBufferPct : ℚ := 3 / 10

/-- `_bounded_buffer`, with the default every caller leaves in place. -/
def boundedBuffer (reading : DecimalReading) : Except AiModeError ℚ :=
  bounded 0 maxAiBufferPct 0 reading

/-- `_bounded_factor`, with the default every caller leaves in place. -/
def boundedFactor (reading : DecimalReading) : Except AiModeError ℚ :=
  bounded minAiExecutionFactor 1 1 reading

/-- Subtraction in the default decimal context. -/
def decimalSub (x y : ℚ) : ℚ := rounded 28 (x - y)

/-! ## The stored analysis -/

/-- An object under `capital_policy`: its `buffer_pct` where it has that key, and whether it has
any other. -/
structure CapitalPolicy where
  bufferPct : Option DecimalReading
  otherKeys : Bool
deriving DecidableEq, Repr

/-- The object has a key at all. -/
def CapitalPolicy.present (policy : CapitalPolicy) : Bool :=
  policy.bufferPct.isSome || policy.otherKeys

/-- The value of the intelligence row.  `status` is the text of a stored status that is neither
absent nor false.  `analysis` is `none` where it is not an object, and so is the capital policy
in it; a value that is not an object itself has neither. -/
structure IntelligenceState where
  status : Option String
  analysis : Option (Option CapitalPolicy)
deriving DecidableEq, Repr

/-- The empty object, which also stands for a row that is absent. -/
def IntelligenceState.empty : IntelligenceState := ⟨none, none⟩

/-- The capital policy of a state; an empty object where there is none. -/
def IntelligenceState.capitalPolicy (state : IntelligenceState) : CapitalPolicy :=
  (state.analysis.getD none).getD ⟨none, false⟩

/-- `_factor_from_capital_policy`. -/
def factorFromCapitalPolicy (policy : CapitalPolicy) : Except AiModeError (Option ℚ) :=
  if policy.present then do
    let bufferPct ← boundedBuffer (policy.bufferPct.getD (some (.finite 0)))
    return some (max minAiExecutionFactor (decimalSub 1 bufferPct))
  else .ok none

/-! ## The policy -/

/-- `AiExecutionPolicy`. -/
structure AiExecutionPolicy where
  requestedMode : String
  effectiveMode : String
  requested : Bool
  effective : Bool
  factor : ℚ
  bufferPct : ℚ
  status : String
  fallbackReason : Option String
deriving DecidableEq, Repr

section

variable (lower : String → String)

/-- The status of a state, in lower case. -/
def IntelligenceState.statusText (state : IntelligenceState) : String :=
  lower (state.status.getD "pending")

/-- Why a requested mode is not effective. -/
def aiFallbackReason (requested : Bool) (status : String) (capitalPolicy : CapitalPolicy) :
    Option String :=
  if requested && status ≠ "ok" then
    some ("AI intelligence status is " ++ status ++ "; new AI influence is disabled and the last " ++
      "safe capital-allocation factor remains frozen.")
  else if requested && !capitalPolicy.present then
    some ("AI capital policy is unavailable; new AI influence is disabled and the last safe " ++
      "capital-allocation factor remains frozen.")
  else none

/-- The factor of a policy. -/
def aiFactor (requested effective : Bool) (latestValidFactor : Option ℚ) (fallbackFactor : ℚ) :
    Except AiModeError ℚ :=
  if !requested then .ok 1
  else if effective then
    -- `latest_valid_factor or Decimal(1)`
    match latestValidFactor with
    | some latest => .ok (if latest = 0 then 1 else latest)
    | none => .ok 1
  else do
    let factor ← boundedFactor (some (.finite fallbackFactor))
    match latestValidFactor with
    | some latest => return min factor latest
    | none => return factor

/-- `"on"` or `"shadow"`. -/
def aiModeText (on : Bool) : String := if on then "on" else "shadow"

/-- The mode is requested and nothing stands against it. -/
def aiEffective (state : IntelligenceState) (requested : Bool) : Bool :=
  requested &&
    (aiFallbackReason requested (state.statusText lower) state.capitalPolicy).isNone

/-- The policy with a factor. -/
def aiPolicy (state : IntelligenceState) (requested : Bool) (factor : ℚ) : AiExecutionPolicy :=
  { requestedMode := aiModeText requested
    effectiveMode := aiModeText (aiEffective lower state requested)
    requested := requested
    effective := aiEffective lower state requested
    factor := factor
    bufferPct := decimalSub 1 factor
    status := state.statusText lower
    fallbackReason := aiFallbackReason requested (state.statusText lower) state.capitalPolicy }

/-- `derive_ai_execution_policy`.  The buffer is read whether the mode is requested or not. -/
def deriveAiExecutionPolicy (state : IntelligenceState) (requested : Bool) (fallbackFactor : ℚ) :
    Except AiModeError AiExecutionPolicy := do
  let latestValidFactor ← factorFromCapitalPolicy state.capitalPolicy
  let factor ←
    aiFactor requested (aiEffective lower state requested) latestValidFactor fallbackFactor
  return aiPolicy lower state requested factor

/-! ## Reading and switching -/

/-- The mode row, and of its value the two keys that are read back; either may be absent. -/
structure AiModeRow where
  enabled : Bool
  lastValidFactor : Option DecimalReading
  lastValidBufferPct : Option DecimalReading
deriving DecidableEq, Repr

/-- The two rows. -/
structure AiStore where
  intelligence : IntelligenceState
  modeRow : Option AiModeRow
deriving DecidableEq, Repr

/-- `mode_row and mode_row.enabled`. -/
def AiStore.requested (store : AiStore) : Bool := store.modeRow.any fun row => row.enabled

/-- `mode_value.get('last_valid_factor', 1)`. -/
def AiStore.lastValidFactor (store : AiStore) : DecimalReading :=
  (store.modeRow.bind fun row => row.lastValidFactor).getD (some (.finite 1))

/-- `mode_value.get('last_valid_buffer_pct', 0)`. -/
def AiStore.lastValidBufferPct (store : AiStore) : DecimalReading :=
  (store.modeRow.bind fun row => row.lastValidBufferPct).getD (some (.finite 0))

/-- The mode row with the factor and the buffer of a policy; their texts read back as they are. -/
def AiStore.remember (store : AiStore) (policy : AiExecutionPolicy) : AiStore :=
  { store with
    modeRow := store.modeRow.map fun row =>
      { row with
        lastValidFactor := some (some (.finite policy.factor))
        lastValidBufferPct := some (some (.finite policy.bufferPct)) } }

/-- The second half of a read: the mode row is kept aligned with a policy that was accepted. -/
def AiStore.keepAligned (store : AiStore) (policy : AiExecutionPolicy) :
    Except AiModeError AiStore :=
  if store.requested && policy.effective then do
    let previousFactor ← boundedFactor store.lastValidFactor
    let previousBuffer ← boundedBuffer store.lastValidBufferPct
    return if previousFactor ≠ policy.factor ∨ previousBuffer ≠ policy.bufferPct then
      store.remember policy else store
  else .ok store

/-- `read_ai_execution_policy`: the policy, and the rows as the read leaves them. -/
def readAiExecutionPolicy (store : AiStore) : Except AiModeError (AiExecutionPolicy × AiStore) := do
  let fallbackFactor ← boundedFactor store.lastValidFactor
  let policy ← deriveAiExecutionPolicy lower store.intelligence store.requested fallbackFactor
  let store' ← store.keepAligned policy
  return (policy, store')

/-- The mode row `set_ai_execution_mode` writes. -/
def AiStore.switchedRow (store : AiStore) (enabled : Bool) (candidate : AiExecutionPolicy) :
    AiModeRow :=
  { enabled := enabled
    lastValidFactor :=
      some (if enabled then some (.finite candidate.factor) else store.lastValidFactor)
    lastValidBufferPct :=
      some (if enabled then some (.finite candidate.bufferPct) else store.lastValidBufferPct) }

/-- The rows with the mode row of a switch. -/
def AiStore.switched (store : AiStore) (enabled : Bool) (candidate : AiExecutionPolicy) : AiStore :=
  { store with modeRow := some (store.switchedRow enabled candidate) }

/-- `set_ai_execution_mode`. -/
def setAiExecutionMode (store : AiStore) (enabled : Bool) :
    Except AiModeError (AiExecutionPolicy × AiStore) := do
  let candidate ← deriveAiExecutionPolicy lower store.intelligence enabled 1
  Fallible.require (!enabled || candidate.effective)
    (.notReady (candidate.fallbackReason.getD "AI intelligence is not ready for ON mode"))
  readAiExecutionPolicy lower (store.switched enabled candidate)

/-! ## Histories -/

/-- The factor of the buffer the state stores, where that reads as a number at all. -/
def IntelligenceState.validFactor (state : IntelligenceState) : Option ℚ :=
  if state.capitalPolicy.bufferPct.join.isSome then
    (factorFromCapitalPolicy state.capitalPolicy).toOption.join
  else none

/-- The rows, the factor of the last healthy read whose transaction was committed, and the factor
of the latest valid buffer that was stored. -/
structure AiState where
  store : AiStore
  lastPersisted : Option ℚ
  latestValid : Option ℚ
deriving DecidableEq, Repr

/-- One event: a state is stored, the mode is switched, or the policy is read.  Whether the caller
commits its transaction is its own affair; one that raised does not. -/
inductive AiEvent
  | storeState (state : IntelligenceState)
  | switchMode (enabled commits : Bool)
  | readPolicy (commits : Bool)
deriving DecidableEq, Repr

/-- The state after a transaction that read the policy last. -/
def AiState.afterRead (s : AiState) (commits : Bool)
    (result : Except AiModeError (AiExecutionPolicy × AiStore)) : AiState :=
  match result with
  | .error _ => s
  | .ok (policy, store) =>
      if commits then
        { s with
          store := store
          lastPersisted := if policy.effective then some policy.factor else s.lastPersisted }
      else s

/-- One event. -/
def AiState.step (s : AiState) : AiEvent → AiState
  | .storeState state =>
    { s with
      store := { s.store with intelligence := state }
      latestValid := state.validFactor.or s.latestValid }
  | .switchMode enabled commits => s.afterRead commits (setAiExecutionMode lower s.store enabled)
  | .readPolicy commits => s.afterRead commits (readAiExecutionPolicy lower s.store)

/-- Before anything was stored. -/
def AiState.initial : AiState := ⟨⟨.empty, none⟩, none, none⟩

/-- The state after a history. -/
def aiHistory (events : List AiEvent) : AiState :=
  events.foldl (AiState.step lower) AiState.initial

end

/-! ## Clamped readings -/

lemma bounded_finite {low high default q : ℚ} :
    bounded low high default (some (.finite q)) = .ok (max low (min q high)) := rfl

/-- A clamp fails on a NaN and on nothing else. -/
lemma bounded_isOk (low high default : ℚ) {reading : DecimalReading}
    (h : reading ≠ some .nan) : ∃ x, bounded low high default reading = .ok x := by
  cases reading with
  | none => exact ⟨_, rfl⟩
  | some value =>
      cases value with
      | nan => exact absurd rfl h
      | infinity negative => exact ⟨_, rfl⟩
      | finite q => exact ⟨_, rfl⟩

/-- A number in range is left as it is. -/
lemma boundedFactor_of_mem {q : ℚ} (hlow : minAiExecutionFactor ≤ q) (hhigh : q ≤ 1) :
    boundedFactor (some (.finite q)) = .ok q := by
  rw [boundedFactor, bounded_finite, min_eq_left hhigh, max_eq_right hlow]

lemma bounded_mem {low high default x : ℚ} {reading : DecimalReading} (hle : low ≤ high)
    (h : bounded low high default reading = .ok x) : low ≤ x ∧ x ≤ high := by
  have hclamp : ∀ q : ℚ, low ≤ max low (min q high) ∧ max low (min q high) ≤ high := fun q =>
    ⟨le_max_left _ _, max_le hle (min_le_right _ _)⟩
  unfold bounded at h
  cases hvalue : reading.getD (.finite default) with
  | nan =>
      rw [hvalue] at h
      cases h
  | infinity negative =>
      rw [hvalue] at h
      obtain rfl := Except.ok.inj h
      cases negative with
      | false => exact ⟨hle, le_refl high⟩
      | true => exact ⟨le_refl low, hle⟩
  | finite q =>
      rw [hvalue] at h
      obtain rfl := Except.ok.inj h
      exact hclamp q

/-- One minus a buffer in range does not exceed one, rounded as it is. -/
lemma decimalSub_one_le {bufferPct : ℚ} (hlow : 0 ≤ bufferPct) (hhigh : bufferPct ≤ 1) :
    decimalSub 1 bufferPct ≤ 1 := by
  have habs : |1 - bufferPct| ≤ (10 : ℚ) ^ (0 : ℤ) := by
    rw [zpow_zero, abs_le]
    constructor <;> linarith
  exact rounded_le_zpow (by decide) habs

/-! ## The factor of the stored analysis -/

/-- The stored buffer parses to a NaN. -/
def IntelligenceState.BufferIsNan (state : IntelligenceState) : Prop :=
  state.capitalPolicy.bufferPct = some (some .nan)

/-- A state the mode can act on. -/
def IntelligenceState.Healthy (lower : String → String) (state : IntelligenceState) : Prop :=
  state.statusText lower = "ok" ∧ state.capitalPolicy.present = true

lemma factorFromCapitalPolicy_mem {policy : CapitalPolicy} {factor : ℚ}
    (h : factorFromCapitalPolicy policy = .ok (some factor)) :
    minAiExecutionFactor ≤ factor ∧ factor ≤ 1 := by
  unfold factorFromCapitalPolicy at h
  by_cases hpresent : policy.present = true
  · rw [if_pos hpresent] at h
    obtain ⟨bufferPct, hbuffer, h⟩ := bind_eq_ok.1 h
    obtain rfl := Option.some.inj (Except.ok.inj h)
    obtain ⟨hlow, hhigh⟩ := bounded_mem (by norm_num [maxAiBufferPct]) hbuffer
    have hone : bufferPct ≤ 1 := hhigh.trans (by norm_num [maxAiBufferPct])
    exact ⟨le_max_left _ _,
      max_le (by norm_num [minAiExecutionFactor]) (decimalSub_one_le hlow hone)⟩
  · rw [if_neg hpresent] at h
    cases h

/-- The stored analysis gives a factor exactly where it has a capital policy, unless its buffer is
a NaN. -/
lemma factorFromCapitalPolicy_isOk {state : IntelligenceState} (h : ¬ state.BufferIsNan) :
    ∃ latest, factorFromCapitalPolicy state.capitalPolicy = .ok latest ∧
      latest.isSome = state.capitalPolicy.present := by
  by_cases hpresent : state.capitalPolicy.present = true
  · have hreading : state.capitalPolicy.bufferPct.getD (some (.finite 0)) ≠ some .nan := by
      intro hnan
      cases hbuffer : state.capitalPolicy.bufferPct with
      | none =>
          rw [hbuffer] at hnan
          cases hnan
      | some reading =>
          rw [hbuffer] at hnan
          exact h (hbuffer.trans (congrArg some hnan))
    obtain ⟨bufferPct, hbuffer⟩ :=
      bounded_isOk 0 maxAiBufferPct 0 hreading
    refine ⟨some (max minAiExecutionFactor (decimalSub 1 bufferPct)), ?_, hpresent.symm⟩
    rw [factorFromCapitalPolicy, if_pos hpresent, boundedBuffer, hbuffer]
    rfl
  · refine ⟨none, if_neg hpresent, ?_⟩
    rw [Bool.not_eq_true] at hpresent
    exact hpresent.symm

/-! ## The derived policy -/

section

variable {lower : String → String} {state : IntelligenceState}

lemma aiEffective_iff {requested : Bool} :
    aiEffective lower state requested = true ↔ requested = true ∧ state.Healthy lower := by
  unfold aiEffective aiFallbackReason IntelligenceState.Healthy
  cases requested with
  | false => simp
  | true =>
      by_cases hstatus : state.statusText lower = "ok"
      · cases hpresent : state.capitalPolicy.present <;> simp [hstatus]
      · simp [hstatus]

/-- What holds of a policy derived from a state whose analysis gives the factor `latest`. -/
structure Derived (lower : String → String) (state : IntelligenceState) (requested : Bool)
    (fallbackFactor : ℚ) (latest : Option ℚ) (policy : AiExecutionPolicy) : Prop where
  effective : policy.effective = true ↔ requested = true ∧ state.Healthy lower
  mem : minAiExecutionFactor ≤ policy.factor ∧ policy.factor ≤ 1
  shadow : requested = false → policy.factor = 1
  healthy : policy.effective = true → latest = some policy.factor
  degraded : requested = true → policy.effective = false →
    policy.factor = latest.elim fallbackFactor fun f => min fallbackFactor f

/-- The factor of a healthy analysis is taken as it is; its test for zero never fires. -/
lemma aiFactor_effective {latest : ℚ} (hlatest : minAiExecutionFactor ≤ latest) (fallback : ℚ) :
    aiFactor true true (some latest) fallback = .ok latest := by
  have hne : latest ≠ 0 := by
    rintro rfl
    norm_num [minAiExecutionFactor] at hlatest
  simp [aiFactor, hne]

/-- A degraded analysis leaves the smaller one of the fallback and its own factor. -/
lemma aiFactor_degraded {fallback : ℚ} (hlow : minAiExecutionFactor ≤ fallback)
    (hhigh : fallback ≤ 1) (latest : Option ℚ) :
    aiFactor true false latest fallback = .ok (latest.elim fallback fun f => min fallback f) := by
  simp only [aiFactor, Bool.not_true, Bool.false_eq_true, if_false, boundedFactor_of_mem hlow hhigh]
  cases latest <;> rfl

/-- The factor chosen and its bounds, by the three branches of the choice. -/
lemma aiFactor_isOk {requested effective : Bool} {latest : Option ℚ} {fallback : ℚ}
    (hlatest : ∀ f, latest = some f → minAiExecutionFactor ≤ f ∧ f ≤ 1)
    (heffective : effective = true → requested = true ∧ latest.isSome = true)
    (hlow : minAiExecutionFactor ≤ fallback) (hhigh : fallback ≤ 1) :
    ∃ factor, aiFactor requested effective latest fallback = .ok factor ∧
      (minAiExecutionFactor ≤ factor ∧ factor ≤ 1) ∧ (requested = false → factor = 1) ∧
      (effective = true → latest = some factor) ∧
      (requested = true → effective = false →
        factor = latest.elim fallback fun f => min fallback f) := by
  cases requested with
  | false =>
      have hshadow : effective ≠ true := fun h => absurd (heffective h).1 (by decide)
      exact ⟨1, rfl, ⟨by norm_num [minAiExecutionFactor], le_refl 1⟩, fun _ => rfl,
        fun h => absurd h hshadow, fun h => absurd h (by decide)⟩
  | true =>
      cases effective with
      | true =>
          obtain ⟨f, rfl⟩ := Option.isSome_iff_exists.1 (heffective rfl).2
          exact ⟨f, aiFactor_effective (hlatest f rfl).1 fallback, hlatest f rfl,
            fun h => absurd h (by decide), fun _ => rfl, fun _ h => absurd h (by decide)⟩
      | false =>
          refine ⟨_, aiFactor_degraded hlow hhigh latest, ?_, fun h => absurd h (by decide),
            fun h => absurd h (by decide), fun _ _ => rfl⟩
          cases latest with
          | none => exact ⟨hlow, hhigh⟩
          | some f => exact ⟨le_min hlow (hlatest f rfl).1, (min_le_left _ _).trans hhigh⟩

variable (lower) in
/-- Without a NaN in the way a policy is derived, and every bound holds of it. -/
lemma deriveAiExecutionPolicy_isOk (hnan : ¬ state.BufferIsNan) (requested : Bool) {fallback : ℚ}
    (hlow : minAiExecutionFactor ≤ fallback) (hhigh : fallback ≤ 1) :
    ∃ latest policy, factorFromCapitalPolicy state.capitalPolicy = .ok latest ∧
      deriveAiExecutionPolicy lower state requested fallback = .ok policy ∧
      Derived lower state requested fallback latest policy := by
  obtain ⟨latest, hlatest, hpresent⟩ := factorFromCapitalPolicy_isOk hnan
  have hmem : ∀ f, latest = some f → minAiExecutionFactor ≤ f ∧ f ≤ 1 := by
    rintro f rfl
    exact factorFromCapitalPolicy_mem hlatest
  have hsome : aiEffective lower state requested = true →
      requested = true ∧ latest.isSome = true := by
    intro h
    obtain ⟨hrequested, hhealthy⟩ := aiEffective_iff.1 h
    exact ⟨hrequested, hpresent.trans hhealthy.2⟩
  obtain ⟨factor, hfactor, hbounds, hshadow, hhealthy, hdegraded⟩ :=
    aiFactor_isOk hmem hsome hlow hhigh
  refine ⟨latest, aiPolicy lower state requested factor, hlatest, ?_, ?_⟩
  · exact bind_eq_ok.2 ⟨latest, hlatest, bind_eq_ok.2 ⟨factor, hfactor, rfl⟩⟩
  · exact ⟨aiEffective_iff, hbounds, hshadow, hhealthy, hdegraded⟩

end

/-! ## A read -/

/-- What the mode row says is in range, and is the factor last persisted where there is one. -/
structure Remembers (s : AiState) : Prop where
  factor : s.store.lastValidFactor = some (.finite (s.lastPersisted.getD 1))
  buffer : ∃ b, s.store.lastValidBufferPct = some (.finite b)
  mem : ∀ f, s.lastPersisted = some f → minAiExecutionFactor ≤ f ∧ f ≤ 1
  requested : s.store.requested = true → s.lastPersisted.isSome = true

lemma Remembers.getD_mem {s : AiState} (h : Remembers s) :
    minAiExecutionFactor ≤ s.lastPersisted.getD 1 ∧ s.lastPersisted.getD 1 ≤ 1 := by
  cases hlast : s.lastPersisted with
  | none => norm_num [minAiExecutionFactor]
  | some f => exact h.mem f hlast

/-- The rows after a read: as they were, or with an accepted policy remembered. -/
structure Aligned (store : AiStore) (policy : AiExecutionPolicy) (store' : AiStore) : Prop where
  requested : store'.requested = store.requested
  intelligence : store'.intelligence = store.intelligence
  accepted : store.requested = true → policy.effective = true →
    store'.lastValidFactor = some (.finite policy.factor) ∧
      ∃ b, store'.lastValidBufferPct = some (.finite b)
  refused : policy.effective = false → store' = store

lemma AiStore.requested_eq_true {store : AiStore} :
    store.requested = true ↔ ∃ row, store.modeRow = some row ∧ row.enabled = true := by
  simp [AiStore.requested, Option.any_eq_true]

lemma keepAligned_isOk {store : AiStore} (policy : AiExecutionPolicy) {f b : ℚ}
    (hfactor : store.lastValidFactor = some (.finite f))
    (hbuffer : store.lastValidBufferPct = some (.finite b))
    (hlow : minAiExecutionFactor ≤ f) (hhigh : f ≤ 1) :
    ∃ store', store.keepAligned policy = .ok store' ∧ Aligned store policy store' := by
  by_cases hkeep : (store.requested && policy.effective) = true
  · have hpolicy : policy.effective = true := ((Bool.and_eq_true _ _).mp hkeep).2
    have hrequested : store.requested = true := ((Bool.and_eq_true _ _).mp hkeep).1
    rw [AiStore.keepAligned, if_pos hkeep, hfactor, hbuffer, boundedFactor_of_mem hlow hhigh,
      boundedBuffer, bounded_finite]
    refine ⟨_, rfl, ?_⟩
    by_cases hsame : f = policy.factor ∧ max 0 (min b maxAiBufferPct) = policy.bufferPct
    · have hstay : ¬ (f ≠ policy.factor ∨ max 0 (min b maxAiBufferPct) ≠ policy.bufferPct) := by
        simpa only [not_or, not_not] using hsame
      rw [if_neg hstay]
      refine ⟨rfl, rfl, fun _ _ => ⟨?_, b, hbuffer⟩, fun _ => rfl⟩
      rw [hfactor, hsame.1]
    · have hmove : f ≠ policy.factor ∨ max 0 (min b maxAiBufferPct) ≠ policy.bufferPct := by
        rwa [← not_and_or]
      rw [if_pos hmove]
      obtain ⟨row, hrow, -⟩ := AiStore.requested_eq_true.1 hrequested
      refine ⟨?_, rfl, fun _ _ => ⟨?_, policy.bufferPct, ?_⟩, fun h => ?_⟩
      · simp [AiStore.requested, AiStore.remember, hrow]
      · simp [AiStore.lastValidFactor, AiStore.remember, hrow]
      · simp [AiStore.lastValidBufferPct, AiStore.remember, hrow]
      · rw [hpolicy] at h
        cases h
  · refine ⟨store, if_neg hkeep, rfl, rfl, fun hrequested hpolicy => ?_, fun _ => rfl⟩
    exact absurd (by rw [hrequested, hpolicy]; rfl) hkeep

/-- A read of rows that are in order, of a state without a NaN. -/
lemma readAiExecutionPolicy_isOk (lower : String → String) (store : AiStore) {f b : ℚ}
    (hnan : ¬ store.intelligence.BufferIsNan)
    (hfactor : store.lastValidFactor = some (.finite f))
    (hbuffer : store.lastValidBufferPct = some (.finite b))
    (hlow : minAiExecutionFactor ≤ f) (hhigh : f ≤ 1) :
    ∃ latest policy store',
      factorFromCapitalPolicy store.intelligence.capitalPolicy = .ok latest ∧
        readAiExecutionPolicy lower store = .ok (policy, store') ∧
        Derived lower store.intelligence store.requested f latest policy ∧
        Aligned store policy store' := by
  have hfallback : boundedFactor store.lastValidFactor = .ok f := by
    rw [hfactor, boundedFactor_of_mem hlow hhigh]
  obtain ⟨latest, policy, hlatest, hderive, hderived⟩ :=
    deriveAiExecutionPolicy_isOk lower hnan store.requested hlow hhigh
  obtain ⟨store', hkeep, haligned⟩ :=
    keepAligned_isOk policy hfactor hbuffer hlow hhigh
  refine ⟨latest, policy, store', hlatest, ?_, hderived, haligned⟩
  exact bind_eq_ok.2 ⟨f, hfallback, bind_eq_ok.2 ⟨policy, hderive,
    bind_eq_ok.2 ⟨store', hkeep, rfl⟩⟩⟩

lemma factorFromCapitalPolicy_of_nan {state : IntelligenceState} (h : state.BufferIsNan) :
    factorFromCapitalPolicy state.capitalPolicy = .error .invalidOperation := by
  have hbuffer : state.capitalPolicy.bufferPct = some (some .nan) := h
  have hpresent : state.capitalPolicy.present = true := by
    rw [CapitalPolicy.present, hbuffer]
    rfl
  rw [factorFromCapitalPolicy, if_pos hpresent, hbuffer]
  rfl

/-- A stored NaN makes every policy raise, requested or not. -/
lemma deriveAiExecutionPolicy_of_nan {lower : String → String} {state : IntelligenceState}
    (h : state.BufferIsNan) (requested : Bool) (fallback : ℚ) :
    deriveAiExecutionPolicy lower state requested fallback = .error .invalidOperation := by
  rw [deriveAiExecutionPolicy, factorFromCapitalPolicy_of_nan h]
  rfl

lemma readAiExecutionPolicy_of_nan {lower : String → String} {store : AiStore} {f : ℚ}
    (h : store.intelligence.BufferIsNan) (hfactor : store.lastValidFactor = some (.finite f)) :
    readAiExecutionPolicy lower store = .error .invalidOperation := by
  rw [readAiExecutionPolicy, hfactor, boundedFactor, bounded_finite]
  show (do
    let policy ← deriveAiExecutionPolicy lower store.intelligence store.requested _
    let store' ← store.keepAligned policy
    return (policy, store')) = Except.error AiModeError.invalidOperation
  rw [deriveAiExecutionPolicy_of_nan h]
  rfl

/-! ## Every history -/

section

variable {lower : String → String} {s : AiState}

/-- A transaction that ends in a read keeps the rows in order: an accepted factor is the one last
persisted, and a refused one leaves the rows the read began with. -/
lemma Remembers.afterRead (h : Remembers s) {store store' : AiStore} {fallback : ℚ}
    {latest : Option ℚ} {policy : AiExecutionPolicy}
    (hderived : Derived lower store.intelligence store.requested fallback latest policy)
    (haligned : Aligned store policy store')
    (hrefused : policy.effective = false → Remembers { s with store := store }) (commits : Bool) :
    Remembers (s.afterRead commits (.ok (policy, store'))) := by
  cases commits with
  | false => exact h
  | true =>
      cases heffective : policy.effective with
      | false =>
          simp only [AiState.afterRead, heffective, if_true, Bool.false_eq_true, if_false,
            haligned.refused heffective]
          exact hrefused heffective
      | true =>
          obtain ⟨hfactor, hbuffer⟩ :=
            haligned.accepted (hderived.effective.1 heffective).1 heffective
          simp only [AiState.afterRead, heffective, if_true]
          refine ⟨hfactor, hbuffer, fun f hf => ?_, fun _ => rfl⟩
          obtain rfl := Option.some.inj hf
          exact hderived.mem

lemma Remembers.readPolicy (h : Remembers s) (commits : Bool) :
    Remembers (s.step lower (.readPolicy commits)) := by
  obtain ⟨b, hbuffer⟩ := h.buffer
  rw [AiState.step]
  by_cases hnan : s.store.intelligence.BufferIsNan
  · rw [readAiExecutionPolicy_of_nan hnan h.factor]
    exact h
  · obtain ⟨latest, policy, store', -, hread, hderived, haligned⟩ :=
      readAiExecutionPolicy_isOk lower s.store hnan h.factor hbuffer h.getD_mem.1 h.getD_mem.2
    rw [hread]
    exact h.afterRead hderived haligned (fun _ => h) commits

/-- A read of the rows a switch wrote.  A switch that turned the mode on began with the factor of a
healthy analysis, so the read accepts it; one that turned it off kept what the row remembers, and
the read accepts nothing. -/
lemma Remembers.afterSwitch (h : Remembers s) (hnan : ¬ s.store.intelligence.BufferIsNan)
    {enabled : Bool} {candidate : AiExecutionPolicy} {latest : Option ℚ}
    (hcandidate : Derived lower s.store.intelligence enabled 1 latest candidate)
    (hready : enabled = true → candidate.effective = true) (commits : Bool) :
    Remembers (s.afterRead commits
      (readAiExecutionPolicy lower (s.store.switched enabled candidate))) := by
  obtain ⟨b, hbuffer⟩ := h.buffer
  cases enabled with
  | false =>
      obtain ⟨given, policy, store', -, hread, hderived, haligned⟩ :=
        readAiExecutionPolicy_isOk lower (s.store.switched false candidate)
          hnan h.factor hbuffer h.getD_mem.1 h.getD_mem.2
      rw [hread]
      refine h.afterRead hderived haligned (fun _ => ?_) commits
      exact ⟨h.factor, ⟨b, hbuffer⟩, h.mem, fun hrequested => Bool.noConfusion hrequested⟩
  | true =>
      obtain ⟨given, policy, store', -, hread, hderived, haligned⟩ :=
        readAiExecutionPolicy_isOk lower (s.store.switched true candidate)
          (f := candidate.factor) (b := candidate.bufferPct) hnan rfl rfl hcandidate.mem.1
          hcandidate.mem.2
      rw [hread]
      refine h.afterRead hderived haligned (fun hrefused => ?_) commits
      have hhealthy := (hcandidate.effective.1 (hready rfl)).2
      rw [hderived.effective.2 ⟨rfl, hhealthy⟩] at hrefused
      cases hrefused

lemma Remembers.switchMode (h : Remembers s) (enabled commits : Bool) :
    Remembers (s.step lower (.switchMode enabled commits)) := by
  rw [AiState.step, setAiExecutionMode]
  by_cases hnan : s.store.intelligence.BufferIsNan
  · rw [deriveAiExecutionPolicy_of_nan hnan]
    exact h
  · obtain ⟨given, candidate, -, hderive, hcandidate⟩ := deriveAiExecutionPolicy_isOk lower
      hnan enabled (by norm_num [minAiExecutionFactor]) (le_refl 1)
    rw [hderive]
    show Remembers (s.afterRead commits
      (Fallible.require (!enabled || candidate.effective) _ >>= fun _ => _))
    cases hready : (!enabled || candidate.effective) with
    | false => exact h
    | true =>
        refine h.afterSwitch hnan hcandidate (fun henabled => ?_) commits
        simpa [henabled] using hready

lemma Remembers.step (h : Remembers s) (event : AiEvent) : Remembers (s.step lower event) := by
  cases event with
  | storeState state => exact ⟨h.factor, h.buffer, h.mem, h.requested⟩
  | switchMode enabled commits => exact h.switchMode enabled commits
  | readPolicy commits => exact h.readPolicy commits

lemma remembers_initial : Remembers AiState.initial :=
  ⟨rfl, ⟨0, rfl⟩, fun f hf => absurd hf (by simp [AiState.initial]),
    fun h => absurd h (by decide)⟩

/-- What the initial state has and every event keeps holds after every history. -/
lemma aiHistory_invariant {I : AiState → Prop} (hinitial : I AiState.initial)
    (hstep : ∀ s event, I s → I (s.step lower event)) (events : List AiEvent) :
    I (aiHistory lower events) := by
  have hrun : ∀ (events : List AiEvent) (s : AiState), I s →
      I (events.foldl (AiState.step lower) s) := by
    intro events
    induction events with
    | nil => exact fun s hs => hs
    | cons event events ih => exact fun s hs => ih _ (hstep s event hs)
  exact hrun events _ hinitial

variable (lower) in
/-- The rows are in order after every history. -/
lemma remembers_aiHistory (events : List AiEvent) : Remembers (aiHistory lower events) :=
  aiHistory_invariant remembers_initial (fun _ event h => h.step event) events

/-! ## The latest valid buffer -/

lemma keepAligned_intelligence {store store' : AiStore} {policy : AiExecutionPolicy}
    (h : store.keepAligned policy = .ok store') : store'.intelligence = store.intelligence := by
  unfold AiStore.keepAligned at h
  split_ifs at h
  · obtain ⟨previousFactor, -, h⟩ := bind_eq_ok.1 h
    obtain ⟨previousBuffer, -, h⟩ := bind_eq_ok.1 h
    obtain rfl := Except.ok.inj h
    split_ifs <;> rfl
  · obtain rfl := Except.ok.inj h
    rfl

/-- A read does not touch the intelligence row. -/
lemma readAiExecutionPolicy_intelligence {store store' : AiStore} {policy : AiExecutionPolicy}
    (h : readAiExecutionPolicy lower store = .ok (policy, store')) :
    store'.intelligence = store.intelligence := by
  obtain ⟨fallback, -, h⟩ := bind_eq_ok.1 h
  obtain ⟨derived, -, h⟩ := bind_eq_ok.1 h
  obtain ⟨kept, hkept, h⟩ := bind_eq_ok.1 h
  obtain ⟨-, rfl⟩ := Prod.mk.inj (Except.ok.inj h)
  exact keepAligned_intelligence hkept

/-- Neither does a switch. -/
lemma setAiExecutionMode_intelligence {store store' : AiStore} {policy : AiExecutionPolicy}
    {enabled : Bool} (h : setAiExecutionMode lower store enabled = .ok (policy, store')) :
    store'.intelligence = store.intelligence := by
  obtain ⟨candidate, -, h⟩ := bind_eq_ok.1 h
  obtain ⟨-, -, h⟩ := bind_eq_ok.1 h
  have hread := readAiExecutionPolicy_intelligence h
  exact hread

/-- A buffer the row stores is the latest valid one. -/
def AiState.KeepsLatest (s : AiState) : Prop :=
  ∀ f, s.store.intelligence.validFactor = some f → s.latestValid = some f

lemma AiState.KeepsLatest.afterRead (h : s.KeepsLatest) (commits : Bool)
    {result : Except AiModeError (AiExecutionPolicy × AiStore)}
    (hresult : ∀ policy store', result = .ok (policy, store') →
      store'.intelligence = s.store.intelligence) : (s.afterRead commits result).KeepsLatest := by
  unfold AiState.afterRead
  split
  · exact h
  · rename_i policy store
    by_cases hcommits : commits = true
    · rw [if_pos hcommits]
      exact fun f hf => h f (hresult policy store rfl ▸ hf)
    · rw [if_neg hcommits]
      exact h

lemma AiState.KeepsLatest.step (h : s.KeepsLatest) (event : AiEvent) :
    (s.step lower event).KeepsLatest := by
  cases event with
  | storeState state =>
      intro f hf
      have hstored : state.validFactor = some f := hf
      simp [AiState.step, hstored]
  | switchMode enabled commits =>
      exact h.afterRead commits fun _ _ => setAiExecutionMode_intelligence
  | readPolicy commits => exact h.afterRead commits fun _ _ => readAiExecutionPolicy_intelligence

variable (lower) in
lemma keepsLatest_aiHistory (events : List AiEvent) : (aiHistory lower events).KeepsLatest :=
  aiHistory_invariant (by rintro f ⟨⟩) (fun _ event h => h.step event) events

end

/-- The factor of an analysis: the one of its valid buffer, and one where it has a policy without
such a buffer. -/
lemma latest_cases {state : IntelligenceState} {latest : Option ℚ} (hnan : ¬ state.BufferIsNan)
    (h : factorFromCapitalPolicy state.capitalPolicy = .ok latest) :
    latest.isSome = true ∧ state.validFactor = latest ∨
      state.validFactor = none ∧ ∀ f, latest = some f → f = 1 := by
  unfold IntelligenceState.validFactor
  cases hbuffer : state.capitalPolicy.bufferPct.join with
  | some value =>
      have hpresent : state.capitalPolicy.present = true := by
        simp [CapitalPolicy.present, Option.join_eq_some_iff.1 hbuffer]
      refine Or.inl ⟨?_, by rw [h]; rfl⟩
      obtain ⟨latest', hlatest, hsome⟩ := factorFromCapitalPolicy_isOk hnan
      obtain rfl := Except.ok.inj (h.symm.trans hlatest)
      exact hsome.trans hpresent
  | none =>
      refine Or.inr ⟨rfl, fun f hf => ?_⟩
      subst hf
      -- the default is read: a buffer of zero
      have hzero : boundedBuffer (state.capitalPolicy.bufferPct.getD (some (.finite 0))) = .ok 0 := by
        cases hpct : state.capitalPolicy.bufferPct with
        | none => norm_num [boundedBuffer, bounded, maxAiBufferPct]
        | some reading =>
            cases reading with
            | none => norm_num [boundedBuffer, bounded, maxAiBufferPct]
            | some value => simp [hpct] at hbuffer
      unfold factorFromCapitalPolicy at h
      by_cases hpresent : state.capitalPolicy.present = true
      swap
      · rw [if_neg hpresent] at h
        cases h
      rw [if_pos hpresent, hzero] at h
      obtain rfl := Option.some.inj (Except.ok.inj h)
      have hone : decimalSub 1 0 = 1 := by
        have hdigits : 0 < 28 := by decide
        simpa [decimalSub] using rounded_zpow hdigits 0
      rw [hone]
      norm_num [minAiExecutionFactor]

/-! ## The factor only shrinks -/

/-- What a read in this state does: it returns a policy, whose factor is in range, is one where the
mode is not requested, and where it is requested of a degraded analysis exceeds neither the factor
last persisted nor the one of the latest valid buffer that was ever stored. -/
structure OnlyShrinks (lower : String → String) (s : AiState) (policy : AiExecutionPolicy) :
    Prop where
  mem : minAiExecutionFactor ≤ policy.factor ∧ policy.factor ≤ 1
  shadow : s.store.requested = false → policy.factor = 1
  persisted : s.store.requested = true → ¬ s.store.intelligence.Healthy lower →
    ∃ f, s.lastPersisted = some f ∧ policy.factor ≤ f
  stored : s.store.requested = true → ¬ s.store.intelligence.Healthy lower →
    ∀ f, s.latestValid = some f → policy.factor ≤ f

/-- The mode is requested of a degraded row without a buffer of its own, and the latest valid buffer
gave a smaller factor than the one last persisted. -/
def AiState.ForgetsBuffer (lower : String → String) (s : AiState) : Prop :=
  s.store.requested = true ∧ ¬ s.store.intelligence.Healthy lower ∧
    s.store.intelligence.validFactor = none ∧
      ∃ f p, s.latestValid = some f ∧ s.lastPersisted = some p ∧ f < p

/-- The position a reconcile job stores under the factor of such a read is no larger than the
master's. -/
lemma OnlyShrinks.masterPosition_le {lower : String → String} {s : AiState}
    {policy : AiExecutionPolicy} (h : OnlyShrinks lower s policy) {i : ReconcileInputs}
    (hfactor : i.aiFactor = policy.factor) :
    |(reconcileJob i).context.masterPosition| ≤ |i.masterPosition| := by
  have hlow : minAiExecutionFactor ≤ i.aiFactor := hfactor ▸ h.mem.1
  have hhigh : i.aiFactor ≤ 1 := hfactor ▸ h.mem.2
  have hpos : 0 ≤ i.aiFactor := le_trans (by norm_num [minAiExecutionFactor]) hlow
  rw [masterPosition_reconcileJob hlow hhigh, abs_mul, abs_of_nonneg hpos]
  exact mul_le_of_le_one_right (abs_nonneg _) hhigh

/-- The factor of a degraded analysis is the smaller one of the factor last persisted and its own. -/
lemma Derived.degraded_eq {lower : String → String} {s : AiState} {latest : Option ℚ}
    {policy : AiExecutionPolicy} {p : ℚ}
    (h : Derived lower s.store.intelligence s.store.requested (s.lastPersisted.getD 1) latest policy)
    (hrequested : s.store.requested = true) (hdegraded : ¬ s.store.intelligence.Healthy lower)
    (hp : s.lastPersisted = some p) : policy.factor = latest.elim p fun f => min p f := by
  have hineffective : policy.effective = false := by
    rw [← Bool.not_eq_true, h.effective]
    exact fun heffective => hdegraded heffective.2
  simpa only [hp, Option.getD_some] using h.degraded hrequested hineffective

/-- In every state that storing, switching and reading lead to, reading the policy returns and its
factor only shrinks, exactly when the stored buffer is not a NaN and no smaller factor is
forgotten. -/
theorem ai_factor_only_shrinks_iff (lower : String → String) (events : List AiEvent) :
    (∃ policy store', readAiExecutionPolicy lower (aiHistory lower events).store =
        .ok (policy, store') ∧ OnlyShrinks lower (aiHistory lower events) policy) ↔
      ¬ (aiHistory lower events).store.intelligence.BufferIsNan ∧
        ¬ (aiHistory lower events).ForgetsBuffer lower := by
  have h := remembers_aiHistory lower events
  have hkept := keepsLatest_aiHistory lower events
  generalize aiHistory lower events = s at h hkept ⊢
  by_cases hnan : s.store.intelligence.BufferIsNan
  · refine iff_of_false ?_ fun hnot => hnot.1 hnan
    rintro ⟨policy, store', hread, -⟩
    rw [readAiExecutionPolicy_of_nan hnan h.factor] at hread
    cases hread
  obtain ⟨b, hbuffer⟩ := h.buffer
  obtain ⟨latest, policy, store', hlatest, hread, hderived, -⟩ :=
    readAiExecutionPolicy_isOk lower s.store hnan h.factor hbuffer h.getD_mem.1 h.getD_mem.2
  have hcases := latest_cases hnan hlatest
  constructor
  · rintro ⟨policy', store'', hread', hshrinks⟩
    obtain ⟨rfl, -⟩ := Prod.mk.inj (Except.ok.inj (hread.symm.trans hread'))
    refine ⟨hnan, ?_⟩
    rintro ⟨hrequested, hdegraded, hnone, f, p, hf, hp, hlt⟩
    -- without a buffer in the row the factor is the one last persisted
    have hfactor : policy.factor = p := by
      rw [hderived.degraded_eq hrequested hdegraded hp]
      cases hlast : latest with
      | none => rfl
      | some g =>
          obtain ⟨-, hvalid⟩ | ⟨-, hone⟩ := hcases
          · rw [hnone, hlast] at hvalid
            cases hvalid
          · rw [hone g hlast]
            exact min_eq_left (h.mem p hp).2
    have hle := hshrinks.stored hrequested hdegraded f hf
    rw [hfactor] at hle
    exact absurd hle hlt.not_ge
  · rintro ⟨-, hkeeps⟩
    refine ⟨policy, store', hread, hderived.mem, hderived.shadow, ?_, ?_⟩
    · intro hrequested hdegraded
      obtain ⟨p, hp⟩ := Option.isSome_iff_exists.1 (h.requested hrequested)
      refine ⟨p, hp, ?_⟩
      rw [hderived.degraded_eq hrequested hdegraded hp]
      cases latest with
      | none => exact le_refl p
      | some g => exact min_le_left p g
    · intro hrequested hdegraded f hf
      obtain ⟨p, hp⟩ := Option.isSome_iff_exists.1 (h.requested hrequested)
      rw [hderived.degraded_eq hrequested hdegraded hp]
      obtain ⟨hsome, hvalid⟩ | ⟨hnone, -⟩ := hcases
      · obtain ⟨g, rfl⟩ := Option.isSome_iff_exists.1 hsome
        obtain rfl := Option.some.inj (hf.symm.trans (hkept g hvalid))
        exact min_le_right p f
      · have hle : p ≤ f := not_lt.1 fun hlt =>
          hkeeps ⟨hrequested, hdegraded, hnone, f, p, hf, hp, hlt⟩
        cases latest with
        | none => exact hle
        | some g => exact (min_le_left p g).trans hle

/-- An analysis whose buffer is the text `"NaN"`. -/
def nanState : IntelligenceState := ⟨some "ok", some (some ⟨some (some .nan), false⟩)⟩

/-- Reading the policy raises where the stored buffer is the text `"NaN"`, with no mode
requested. -/
theorem ai_read_raises_on_nan :
    ¬ ∀ (lower : String → String) (events : List AiEvent), ∃ policy store',
      readAiExecutionPolicy lower (aiHistory lower events).store = .ok (policy, store') := by
  intro h
  obtain ⟨policy, store', hread⟩ := h id [.storeState nanState]
  have hraise : readAiExecutionPolicy id (aiHistory id [.storeState nanState]).store =
      .error .invalidOperation := rfl
  rw [hraise] at hread
  cases hread

/-- A healthy analysis with this buffer. -/
def okState (bufferPct : ℚ) : IntelligenceState :=
  ⟨some "ok", some (some ⟨some (some (.finite bufferPct)), false⟩)⟩

/-- The buffer of one fifth is stored and dropped before anybody has read it: the degraded row
leaves the factor one of the first analysis. -/
def forgottenBuffer : List AiEvent :=
  [.storeState (okState 0), .switchMode true true, .storeState (okState (1 / 5)),
    .storeState ⟨some "disabled", none⟩]

example : (aiHistory id forgottenBuffer).latestValid = some (4 / 5) ∧
    (aiHistory id forgottenBuffer).lastPersisted = some 1 ∧
    ((readAiExecutionPolicy id (aiHistory id forgottenBuffer).store).toOption.any fun r =>
      r.1.requested && r.1.factor = 1) = true := by
  decide +kernel

end HyperCopy.AiMode

import HyperCopy.Leverage.Markers

/-!
# The accounts of the leverage markers

Whatever order the scripts run in and however often a call is repeated, the markers and the
metrics stay in step: `marker_accounting`.

A marker that is active blocks an intent above the watermark, so that a repair of the same evidence
finds either no marker or one it does not close.  A blocked intent stays covered once it has been
registered, by the newest blocked intent while the marker is active and by the watermark from then
on (`Covers`).  Both facts make a repeated call neutral.
-/

namespace HyperCopy

open Quantize

/-! ## The accounts -/

/-- The recovery metrics agree with each other. -/
structure RecoveryMetrics.Ok (m : RecoveryMetrics) (active : ℕ) : Prop where
  counted : m.unavailableCount = m.recoveryCount + active
  breaches : m.recoverySloBreachCount ≤ m.recoveryCount
  maximum : ∀ last, m.recoveryLastSeconds = some last → last ≤ m.recoveryMaxSeconds.getD 0

/-- The markers agree with each other and with the metrics. -/
structure MarkerState.Accounted (s : MarkerState) : Prop where
  paired : ∀ member, (s.started.zscore member).isSome = (s.latest.zscore member).isSome
  above : ∀ member latest watermark, s.latest.zscore member = some latest →
    s.repair.zscore member = some watermark → watermark < latest
  metrics : s.metrics.Ok s.started.zcard

/-- The watermark of no marker is lower in `s'`. -/
def WatermarksRise (s s' : MarkerState) : Prop :=
  ∀ member watermark, s.repair.zscore member = some watermark →
    ∃ watermark', s'.repair.zscore member = some watermark' ∧ watermark ≤ watermark'

lemma WatermarksRise.refl (s : MarkerState) : WatermarksRise s s :=
  fun _ watermark h => ⟨watermark, h, le_refl _⟩

lemma WatermarksRise.trans {s s' s'' : MarkerState} (h : WatermarksRise s s')
    (h' : WatermarksRise s' s'') : WatermarksRise s s'' := by
  intro member watermark hwatermark
  obtain ⟨_, hmid, hle⟩ := h member watermark hwatermark
  obtain ⟨watermark', hend, hle'⟩ := h' member _ hmid
  exact ⟨watermark', hend, hle.trans hle'⟩

/-! ## Recovery metrics -/

lemma formatSix_mono {x y : ℚ} (h : x ≤ y) : formatSix x ≤ formatSix y :=
  halfEvenTo_mono (by norm_num) h

lemma formatSix_formatSix (x : ℚ) : formatSix (formatSix x) = formatSix x :=
  halfEvenTo_of_isMultiple (by norm_num) (isMultiple_halfEvenTo _ _)

/-- The maximum is a number that the format writes. -/
def RecoveryMetrics.MaxFormatted (m : RecoveryMetrics) : Prop :=
  formatSix (m.recoveryMaxSeconds.getD 0) = m.recoveryMaxSeconds.getD 0

lemma RecoveryMetrics.MaxFormatted.recover {m : RecoveryMetrics} (h : m.MaxFormatted)
    (duration sloSeconds : ℚ) : (m.recover duration sloSeconds).MaxFormatted := by
  unfold RecoveryMetrics.MaxFormatted RecoveryMetrics.recover
  dsimp only
  split_ifs
  · exact formatSix_formatSix duration
  · exact h

lemma RecoveryMetrics.Ok.recover {m : RecoveryMetrics} {active : ℕ} (h : m.Ok (active + 1))
    (hmax : m.MaxFormatted) (duration sloSeconds : ℚ) : (m.recover duration sloSeconds).Ok active := by
  have hcounted := h.counted
  have hbreaches := h.breaches
  refine ⟨?_, ?_, ?_⟩
  · show m.unavailableCount = m.recoveryCount + 1 + active
    omega
  · simp only [RecoveryMetrics.recover]
    split_ifs <;> omega
  · intro last hlast
    obtain rfl : formatSix duration = last := Option.some.inj hlast
    simp only [RecoveryMetrics.recover]
    by_cases hlt : m.recoveryMaxSeconds.getD 0 < duration
    · simp [hlt]
    · rw [if_neg hlt]
      calc formatSix duration ≤ formatSix (m.recoveryMaxSeconds.getD 0) :=
            formatSix_mono (not_lt.1 hlt)
        _ = m.recoveryMaxSeconds.getD 0 := hmax

/-! ## What a script does -/

section Scripts

variable {s : MarkerState} {member : String} {order : ℤ} {sloSeconds current : ℚ}

/-- A registration finds the intent repaired already, or raises the newest blocked intent of the
marker; one that finds no marker opens it. -/
lemma registerMissing_cases (s : MarkerState) (member : String) (order : ℤ) (current : ℚ) :
    ((∃ watermark, s.repair.zscore member = some watermark ∧ order ≤ watermark) ∧
      (registerMissing s member order current).1 = s) ∨
    ((∀ watermark, s.repair.zscore member = some watermark → watermark < order) ∧
      ((∃ started, s.started.zscore member = some started) ∧
          (registerMissing s member order current).1 =
            { s with latest := s.latest.zraise order member } ∨
        s.started.zscore member = none ∧
          (registerMissing s member order current).1 =
            { s with
              started := s.started.zadd current member
              latest := s.latest.zraise order member
              metrics :=
                { s.metrics with unavailableCount := s.metrics.unavailableCount + 1 } })) := by
  unfold registerMissing
  by_cases hany : (s.repair.zscore member).any (order ≤ ·) = true
  · rw [if_pos hany]
    obtain ⟨watermark, hwatermark, hle⟩ := (Option.any_eq_true _ _).1 hany
    exact Or.inl ⟨⟨watermark, hwatermark, of_decide_eq_true hle⟩, rfl⟩
  · rw [if_neg hany]
    right
    constructor
    · intro watermark hwatermark
      simpa [hwatermark] using hany
    · cases hstarted : s.started.zscore member with
      | some started => exact Or.inl ⟨⟨started, rfl⟩, rfl⟩
      | none => exact Or.inr ⟨rfl, rfl⟩

/-- A repair raises the watermark, and closes the marker if it covers the newest blocked intent. -/
lemma repairMarker_cases (hs : s.Accounted) (member : String) (order : ℤ)
    (sloSeconds current : ℚ) :
    ((∀ latest, s.latest.zscore member = some latest → order < latest) ∧
      (repairMarker s member order sloSeconds current).1 =
        { s with repair := s.repair.zraise order member }) ∨
    ∃ started latest, s.started.zscore member = some started ∧
      s.latest.zscore member = some latest ∧ latest ≤ order ∧
      (repairMarker s member order sloSeconds current).1 =
        { s with
          started := s.started.zrem member
          latest := s.latest.zrem member
          repair := s.repair.zraise order member
          metrics := s.metrics.recover (max (current - started) 0) sloSeconds } := by
  have hpaired := hs.paired member
  unfold repairMarker
  dsimp only
  cases hstarted : s.started.zscore member with
  | none =>
      rw [hstarted] at hpaired
      have hlatest : s.latest.zscore member = none := by simpa using hpaired.symm
      rw [hlatest]
      refine Or.inl ⟨fun latest h => ?_, rfl⟩
      cases h
  | some started =>
      cases hlatest : s.latest.zscore member with
      | none => simp [hstarted, hlatest] at hpaired
      | some latest =>
          by_cases hlt : order < latest
          · left
            refine ⟨fun latest' h => ?_, by simp [hlt]⟩
            obtain rfl := Option.some.inj h
            exact hlt
          · right
            exact ⟨started, latest, rfl, rfl, not_lt.1 hlt, by simp [hlt]⟩

lemma MarkerState.Accounted.registerMissing (h : s.Accounted) :
    (registerMissing s member order current).1.Accounted := by
  have habove : (∀ watermark, s.repair.zscore member = some watermark → watermark < order) →
      ∀ member' latest watermark, (s.latest.zraise order member).zscore member' = some latest →
        s.repair.zscore member' = some watermark → watermark < latest := by
    intro hbelow member' latest watermark hlatest hwatermark
    by_cases hmember : member' = member
    · subst hmember
      obtain ⟨latest', hlatest', hle, -⟩ := s.latest.exists_zscore_zraise order member'
      rw [hlatest'] at hlatest
      obtain rfl := Option.some.inj hlatest
      exact lt_of_lt_of_le (hbelow watermark hwatermark) hle
    · rw [SortedSet.zscore_zraise, if_neg hmember] at hlatest
      exact h.above member' latest watermark hlatest hwatermark
  obtain ⟨-, heq⟩ | ⟨hbelow, ⟨⟨started, hstarted⟩, heq⟩ | ⟨hnone, heq⟩⟩ :=
    registerMissing_cases s member order current <;> rw [heq]
  · exact h
  · refine ⟨fun member' => ?_, habove hbelow, h.metrics⟩
    rw [SortedSet.zscore_zraise]
    by_cases hmember : member' = member
    · simp [hmember, hstarted]
    · rw [if_neg hmember]
      exact h.paired member'
  · refine ⟨fun member' => ?_, habove hbelow, ?_⟩
    · rw [SortedSet.zscore_zraise, SortedSet.zscore_zadd]
      by_cases hmember : member' = member
      · simp [hmember]
      · rw [if_neg hmember, if_neg hmember]
        exact h.paired member'
    · have hcounted := h.metrics.counted
      refine ⟨?_, h.metrics.breaches, h.metrics.maximum⟩
      rw [SortedSet.zcard_zadd_of_none hnone]
      show s.metrics.unavailableCount + 1 = s.metrics.recoveryCount + (s.started.zcard + 1)
      omega

lemma MarkerState.Accounted.repairMarker (h : s.Accounted) (hmax : s.metrics.MaxFormatted) :
    (repairMarker s member order sloSeconds current).1.Accounted := by
  have hwatermark : ∀ member' watermark, member' ≠ member →
      (s.repair.zraise order member).zscore member' = some watermark →
        s.repair.zscore member' = some watermark := by
    intro member' watermark hmember hscore
    rwa [SortedSet.zscore_zraise, if_neg hmember] at hscore
  obtain ⟨hopen, heq⟩ | ⟨started, latest, hstarted, hlatest, hle, heq⟩ :=
    repairMarker_cases h member order sloSeconds current <;> rw [heq]
  · refine ⟨h.paired, fun member' latest watermark hlatest hscore => ?_, h.metrics⟩
    by_cases hmember : member' = member
    · subst hmember
      rw [SortedSet.zscore_zraise, if_pos rfl] at hscore
      obtain rfl := Option.some.inj hscore
      have horder := hopen latest hlatest
      cases hold : s.repair.zscore member' with
      | none => exact horder
      | some old => exact max_lt horder (h.above member' latest old hlatest hold)
    · exact h.above member' latest watermark hlatest (hwatermark member' watermark hmember hscore)
  · refine ⟨fun member' => ?_, fun member' latest' watermark hlatest' hscore => ?_, ?_⟩
    · rw [SortedSet.zscore_zrem, SortedSet.zscore_zrem]
      by_cases hmember : member' = member
      · simp [hmember]
      · rw [if_neg hmember, if_neg hmember]
        exact h.paired member'
    · rw [SortedSet.zscore_zrem] at hlatest'
      split_ifs at hlatest' with hmember
      exact h.above member' latest' watermark hlatest' (hwatermark member' watermark hmember hscore)
    · have hcard := SortedSet.zcard_zrem_of_some hstarted
      have hmetrics : s.metrics.Ok ((s.started.zrem member).zcard + 1) := by
        rw [hcard]
        exact h.metrics
      exact hmetrics.recover hmax _ _

lemma RecoveryMetrics.MaxFormatted.registerMissing (h : s.metrics.MaxFormatted) :
    (registerMissing s member order current).1.metrics.MaxFormatted := by
  obtain ⟨-, heq⟩ | ⟨-, ⟨-, heq⟩ | ⟨-, heq⟩⟩ := registerMissing_cases s member order current <;>
    rw [heq] <;> exact h

lemma RecoveryMetrics.MaxFormatted.repairMarker (hs : s.Accounted) (h : s.metrics.MaxFormatted) :
    (repairMarker s member order sloSeconds current).1.metrics.MaxFormatted := by
  obtain ⟨-, heq⟩ | ⟨started, latest, -, -, -, heq⟩ :=
    repairMarker_cases hs member order sloSeconds current <;> rw [heq]
  · exact h
  · exact h.recover _ _

/-! ## Intents and evidence that are covered -/

/-- The watermark covers the order. -/
def MarkerState.Repaired (s : MarkerState) (member : String) (order : ℤ) : Prop :=
  ∃ watermark, s.repair.zscore member = some watermark ∧ order ≤ watermark

/-- The intent is repaired, or the active marker blocks it. -/
def MarkerState.Registered (s : MarkerState) (member : String) (order : ℤ) : Prop :=
  s.Repaired member order ∨ ∃ latest, s.latest.zscore member = some latest ∧ order ≤ latest

lemma WatermarksRise.repaired {s' : MarkerState} (h : WatermarksRise s s')
    (hrepaired : s.Repaired member order) : s'.Repaired member order := by
  obtain ⟨watermark, hwatermark, hle⟩ := hrepaired
  obtain ⟨watermark', hwatermark', hle'⟩ := h member watermark hwatermark
  exact ⟨watermark', hwatermark', hle.trans hle'⟩

lemma registerMissing_repair (s : MarkerState) (member : String) (order : ℤ) (current : ℚ) :
    (registerMissing s member order current).1.repair = s.repair := by
  obtain ⟨-, heq⟩ | ⟨-, ⟨-, heq⟩ | ⟨-, heq⟩⟩ := registerMissing_cases s member order current <;>
    rw [heq]

lemma repairMarker_repair (hs : s.Accounted) :
    (repairMarker s member order sloSeconds current).1.repair = s.repair.zraise order member := by
  obtain ⟨-, heq⟩ | ⟨started, latest, -, -, -, heq⟩ :=
    repairMarker_cases hs member order sloSeconds current <;> rw [heq]

lemma watermarksRise_repairMarker (hs : s.Accounted) :
    WatermarksRise s (repairMarker s member order sloSeconds current).1 := by
  intro member' watermark hwatermark
  rw [repairMarker_repair hs]
  by_cases hmember : member' = member
  · subst hmember
    obtain ⟨watermark', hscore, -, hle⟩ := s.repair.exists_zscore_zraise order member'
    exact ⟨watermark', hscore, hle watermark hwatermark⟩
  · exact ⟨watermark, by rw [SortedSet.zscore_zraise, if_neg hmember]; exact hwatermark, le_refl _⟩

/-- A repair leaves its evidence covered. -/
lemma repaired_repairMarker (hs : s.Accounted) :
    (repairMarker s member order sloSeconds current).1.Repaired member order := by
  obtain ⟨watermark, hscore, hle, -⟩ := s.repair.exists_zscore_zraise order member
  refine ⟨watermark, ?_, hle⟩
  rw [repairMarker_repair hs]
  exact hscore

/-- A registration leaves its intent registered. -/
lemma registered_registerMissing :
    (registerMissing s member order current).1.Registered member order := by
  obtain ⟨latest, hlatest, hle, -⟩ := s.latest.exists_zscore_zraise order member
  obtain ⟨hrepaired, heq⟩ | ⟨-, ⟨-, heq⟩ | ⟨-, heq⟩⟩ :=
    registerMissing_cases s member order current <;> rw [heq]
  · exact Or.inl hrepaired
  · exact Or.inr ⟨latest, hlatest, hle⟩
  · exact Or.inr ⟨latest, hlatest, hle⟩

lemma MarkerState.Registered.registerMissing {member' : String} {order' : ℤ}
    (h : s.Registered member' order') :
    (registerMissing s member order current).1.Registered member' order' := by
  obtain hrepaired | ⟨latest, hlatest, hle⟩ := h
  · left
    obtain ⟨watermark, hwatermark, hle⟩ := hrepaired
    exact ⟨watermark, by rw [registerMissing_repair]; exact hwatermark, hle⟩
  · right
    have hraised : ∃ latest', (s.latest.zraise order member).zscore member' = some latest' ∧
        order' ≤ latest' := by
      by_cases hmember : member' = member
      · subst hmember
        obtain ⟨latest', hscore, -, hle'⟩ := s.latest.exists_zscore_zraise order member'
        exact ⟨latest', hscore, hle.trans (hle' latest hlatest)⟩
      · exact ⟨latest, by rw [SortedSet.zscore_zraise, if_neg hmember]; exact hlatest, hle⟩
    obtain ⟨-, heq⟩ | ⟨-, ⟨-, heq⟩ | ⟨-, heq⟩⟩ :=
      registerMissing_cases s member order current <;> rw [heq]
    · exact ⟨latest, hlatest, hle⟩
    · exact hraised
    · exact hraised

/-- An intent stays registered: the evidence that closes its marker covers it. -/
lemma MarkerState.Registered.repairMarker (hs : s.Accounted) {member' : String} {order' : ℤ}
    (h : s.Registered member' order') :
    (repairMarker s member order sloSeconds current).1.Registered member' order' := by
  obtain hrepaired | ⟨latest', hlatest', hle'⟩ := h
  · exact Or.inl ((watermarksRise_repairMarker hs).repaired hrepaired)
  obtain ⟨-, heq⟩ | ⟨started, latest, -, hlatest, hle, heq⟩ :=
    repairMarker_cases hs member order sloSeconds current
  · rw [heq]
    exact Or.inr ⟨latest', hlatest', hle'⟩
  · by_cases hmember : member' = member
    · subst hmember
      left
      obtain rfl : latest = latest' := Option.some.inj (hlatest.symm.trans hlatest')
      have hrepaired : (HyperCopy.repairMarker s member' order sloSeconds current).1.Repaired
          member' order := repaired_repairMarker hs
      obtain ⟨watermark, hwatermark, horder⟩ := hrepaired
      exact ⟨watermark, hwatermark, by omega⟩
    · rw [heq]
      right
      refine ⟨latest', ?_, hle'⟩
      show (s.latest.zrem member).zscore member' = some latest'
      rw [SortedSet.zscore_zrem, if_neg hmember]
      exact hlatest'

/-- A registration of an intent that is registered changes no metric. -/
lemma MarkerState.Registered.metrics_registerMissing (hs : s.Accounted)
    (h : s.Registered member order) :
    (HyperCopy.registerMissing s member order current).1.metrics = s.metrics := by
  obtain ⟨-, heq⟩ | ⟨hbelow, ⟨-, heq⟩ | ⟨hnone, heq⟩⟩ :=
    registerMissing_cases s member order current
  · rw [heq]
  · rw [heq]
  · exfalso
    obtain ⟨watermark, hwatermark, hle⟩ | ⟨latest, hlatest, -⟩ := h
    · have hlt := hbelow watermark hwatermark
      omega
    · have hpaired := hs.paired member
      simp [hnone, hlatest] at hpaired

/-- A repair with evidence that is covered changes no metric. -/
lemma MarkerState.Repaired.metrics_repairMarker (hs : s.Accounted) (h : s.Repaired member order) :
    (repairMarker s member order sloSeconds current).1.metrics = s.metrics := by
  obtain ⟨-, heq⟩ | ⟨started, latest, -, hlatest, hle, -⟩ :=
    repairMarker_cases hs member order sloSeconds current
  · rw [heq]
  · exfalso
    obtain ⟨watermark, hwatermark, horder⟩ := h
    have hlt := hs.above member latest watermark hlatest hwatermark
    omega

end Scripts

/-! ## Runs -/

/-- The call has run: its intent is registered, or its evidence is covered. -/
def MarkerState.Covers (s : MarkerState) : MarkerCall → Prop
  | .missing userId asset order => 0 < order → s.Registered (missingMember userId asset) order
  | .repaired userId asset order =>
    ∀ o ∈ order, 0 < o → s.Repaired (missingMember userId asset) o
  | .published jobId userId asset order maxlen =>
    0 < order → 0 < maxlen → jobId ≠ "" → s.Repaired (missingMember userId asset) order

/-- What a call does, and when a state covers it. -/
inductive MarkerEffect (s : MarkerState) (op : MarkerOp) : MarkerState → Prop
  | refused (h : ∀ t : MarkerState, t.Covers op.call) : MarkerEffect s op s
  | registered (member : String) (order : ℤ)
      (h : ∀ t : MarkerState, t.Covers op.call ↔ t.Registered member order) :
      MarkerEffect s op (registerMissing s member order op.current).1
  | repaired (member : String) (order : ℤ) (stream : List String)
      (h : ∀ t : MarkerState, t.Covers op.call ↔ t.Repaired member order) :
      MarkerEffect s op
        (repairMarker { s with stream := stream } member order op.sloSeconds op.current).1

lemma markerStep_effect (s : MarkerState) (op : MarkerOp) : MarkerEffect s op (markerStep s op) := by
  obtain ⟨call, sloSeconds, current⟩ := op
  cases call with
  | missing userId asset order =>
      simp only [markerStep, recordMasterLeverageMissing]
      by_cases hpos : 0 < order
      · rw [if_neg (not_le.2 hpos)]
        refine .registered _ _ fun t => ?_
        simp [MarkerState.Covers, hpos]
      · rw [if_pos (not_lt.1 hpos)]
        refine .refused fun t => ?_
        simp [MarkerState.Covers, hpos]
  | repaired userId asset evidenceOrder =>
      cases evidenceOrder with
      | none =>
          refine .refused fun t => ?_
          simp [MarkerState.Covers]
      | some order =>
          simp only [markerStep, recordMasterLeverageRepaired]
          by_cases hpos : 0 < order
          · rw [if_neg (not_le.2 hpos)]
            refine .repaired _ _ s.stream fun t => ?_
            simp [MarkerState.Covers, hpos]
          · rw [if_pos (not_lt.1 hpos)]
            refine .refused fun t => ?_
            simp [MarkerState.Covers, hpos]
  | published jobId userId asset order maxlen =>
      simp only [markerStep, publishMasterLeverageRepair]
      by_cases hpos : 0 < order ∧ 0 < maxlen
      · have hpass : ¬ (order ≤ 0 || maxlen ≤ 0) = true := by simpa using hpos
        rw [if_neg hpass]
        by_cases hjob : jobId = ""
        · simp only [publishRepair, if_pos hjob]
          refine .refused fun t => ?_
          simp [MarkerState.Covers, hjob]
        · simp only [publishRepair, if_neg hjob]
          refine .repaired _ _ (s.stream ++ [jobId]) fun t => ?_
          simp [MarkerState.Covers, hpos.1, hpos.2, hjob]
      · have hfail : (order ≤ 0 || maxlen ≤ 0) = true := by
          simp only [Bool.or_eq_true, decide_eq_true_eq]
          omega
        rw [if_pos hfail]
        refine .refused fun t h h' => ?_
        exact absurd ⟨h, h'⟩ hpos

lemma MarkerState.Accounted.withStream {s : MarkerState} (h : s.Accounted) (stream : List String) :
    MarkerState.Accounted { s with stream := stream } :=
  ⟨h.paired, h.above, h.metrics⟩

/-- What every state of a run satisfies. -/
structure MarkerState.Ok (s : MarkerState) : Prop where
  accounted : s.Accounted
  formatted : s.metrics.MaxFormatted

section Effects

variable {s s' : MarkerState} {op : MarkerOp}

lemma MarkerState.Ok.step (h : s.Ok) (heffect : MarkerEffect s op s') : s'.Ok := by
  obtain - | ⟨member, order, -⟩ | ⟨member, order, stream, -⟩ := heffect
  · exact h
  · exact ⟨h.accounted.registerMissing, h.formatted.registerMissing⟩
  · have hs := h.accounted.withStream stream
    exact ⟨hs.repairMarker h.formatted, RecoveryMetrics.MaxFormatted.repairMarker hs h.formatted⟩

lemma MarkerState.Ok.watermarksRise (h : s.Ok) (heffect : MarkerEffect s op s') :
    WatermarksRise s s' := by
  obtain - | ⟨member, order, -⟩ | ⟨member, order, stream, -⟩ := heffect
  · exact .refl s
  · intro member' watermark hwatermark
    exact ⟨watermark, by rw [registerMissing_repair]; exact hwatermark, le_refl _⟩
  · have hs := h.accounted.withStream stream
    exact watermarksRise_repairMarker hs

/-- A registered intent stays registered. -/
lemma MarkerState.Ok.registered_step (h : s.Ok) (heffect : MarkerEffect s op s') {member : String}
    {order : ℤ} (hregistered : s.Registered member order) : s'.Registered member order := by
  obtain - | ⟨member', order', -⟩ | ⟨member', order', stream, -⟩ := heffect
  · exact hregistered
  · exact hregistered.registerMissing
  · have hs := h.accounted.withStream stream
    have hkept : MarkerState.Registered { s with stream := stream } member order := hregistered
    exact hkept.repairMarker hs

lemma MarkerState.Ok.covers_step (h : s.Ok) (heffect : MarkerEffect s op s') {call : MarkerCall}
    (hcovers : s.Covers call) : s'.Covers call := by
  cases call with
  | missing userId asset order =>
      intro hpos
      exact h.registered_step heffect (hcovers hpos)
  | repaired userId asset evidenceOrder =>
      intro order horder hpos
      exact (h.watermarksRise heffect).repaired (hcovers order horder hpos)
  | published jobId userId asset order maxlen =>
      intro hpos hmaxlen hjob
      exact (h.watermarksRise heffect).repaired (hcovers hpos hmaxlen hjob)

/-- A call that has run is covered. -/
lemma MarkerState.Ok.covers_own (h : s.Ok) (heffect : MarkerEffect s op s') :
    s'.Covers op.call := by
  obtain hall | ⟨member, order, hiff⟩ | ⟨member, order, stream, hiff⟩ := heffect
  · exact hall s
  · exact (hiff _).2 registered_registerMissing
  · have hs := h.accounted.withStream stream
    exact (hiff _).2 (repaired_repairMarker hs)

/-- A call that is covered changes no metric. -/
lemma MarkerState.Ok.metrics_step (h : s.Ok) (heffect : MarkerEffect s op s')
    (hcovers : s.Covers op.call) : s'.metrics = s.metrics := by
  obtain - | ⟨member, order, hiff⟩ | ⟨member, order, stream, hiff⟩ := heffect
  · rfl
  · exact ((hiff s).1 hcovers).metrics_registerMissing h.accounted
  · have hs := h.accounted.withStream stream
    have hrepaired : MarkerState.Repaired { s with stream := stream } member order :=
      (hiff s).1 hcovers
    exact hrepaired.metrics_repairMarker hs

end Effects

lemma markerState_ok_initial : MarkerState.initial.Ok where
  accounted :=
    { paired := fun member => rfl
      above := fun member latest watermark h => by
        simp [MarkerState.initial, SortedSet.zscore] at h
      metrics := ⟨rfl, le_refl _, fun last h => by simp [MarkerState.initial] at h⟩ }
  formatted := halfEvenTo_of_isMultiple (by norm_num) (IsMultiple.zero _)

lemma MarkerState.Ok.run {s : MarkerState} (h : s.Ok) (ops : List MarkerOp) :
    (ops.foldl markerStep s).Ok :=
  List.foldlRecOn ops markerStep h fun s ht op _ => ht.step (markerStep_effect s op)

lemma MarkerState.Ok.watermarksRise_run {s : MarkerState} (h : s.Ok) (ops : List MarkerOp) :
    WatermarksRise s (ops.foldl markerStep s) := by
  induction ops generalizing s with
  | nil => exact .refl s
  | cons op ops ih =>
      have heffect := markerStep_effect s op
      exact (h.watermarksRise heffect).trans (ih (h.step heffect))

/-- Whatever has run in a run is covered at its end. -/
lemma MarkerState.Ok.covers_run {s : MarkerState} (h : s.Ok) {ops : List MarkerOp}
    {call : MarkerCall} (hcall : s.Covers call ∨ ∃ op ∈ ops, op.call = call) :
    (ops.foldl markerStep s).Covers call := by
  induction ops generalizing s with
  | nil => simpa using hcall
  | cons op ops ih =>
      have heffect := markerStep_effect s op
      refine ih (h.step heffect) ?_
      obtain hcovers | ⟨op', hmem, rfl⟩ := hcall
      · exact Or.inl (h.covers_step heffect hcovers)
      · rcases List.mem_cons.1 hmem with rfl | hrest
        · exact Or.inl (h.covers_own heffect)
        · exact Or.inr ⟨op', hrest, rfl⟩

/-- **The accounts of the leverage markers.**  After any calls, in any order and repeated at will:
the markers and the metrics agree, no later call lowers a watermark, and a call that has run
already changes no metric when it runs again. -/
theorem marker_accounting (ops : List MarkerOp) :
    (markerRun ops).Accounted ∧
      (∀ more, WatermarksRise (markerRun ops) (markerRun (ops ++ more))) ∧
      ∀ op ∈ ops, ∀ again : MarkerOp, again.call = op.call →
        (markerStep (markerRun ops) again).metrics = (markerRun ops).metrics := by
  have hok : (markerRun ops).Ok := markerState_ok_initial.run ops
  refine ⟨hok.accounted, fun more => ?_, fun op hop again hcall => ?_⟩
  · unfold markerRun
    rw [List.foldl_append]
    exact hok.watermarksRise_run more
  · have hcovers : (markerRun ops).Covers op.call :=
      markerState_ok_initial.covers_run (Or.inr ⟨op, hop, rfl⟩)
    rw [← hcall] at hcovers
    exact hok.metrics_step (markerStep_effect _ again) hcovers

/-- A repair that overtakes the registration of its intent suppresses the marker. -/
example : (markerRun [⟨.repaired "u" "BTC" (some 7), 60, 10⟩, ⟨.missing "u" "BTC" 7, 60, 11⟩]).metrics =
    ⟨0, 0, none, none, 0⟩ := by
  decide +kernel

end HyperCopy

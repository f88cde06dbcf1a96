import HyperCopy.Engine.Sizing

/-!
# Runtime risk engine

`engine/risk.py` and `services/effective_risk.py`: what may become of a plan just before
execution.  Exposure-reducing orders bypass the business halts, a reversal keeps its closing leg
and sends its opening leg through the whole engine again with the book it will find after the
close, and every other order is capped and, where the cap binds, trimmed to whole lots.

`evaluate_shape` is the fact the executor needs: whatever the engine lets through still has the
shape of an executable plan (`PlanShape`), so no cap can turn an order around or give a plan a
second leg it did not have.
-/

namespace HyperCopy

/-- `RiskAction`. -/
inductive RiskAction
  | allow
  | trim
  | deny
  | skip
deriving DecidableEq, Repr

/-- `RiskContext`: what a plan is evaluated against. -/
structure RiskContext where
  userActive : Bool
  entitlementActive : Bool
  credentialActive : Bool
  userPaused : Bool
  globalPause : Bool
  emergencyStop : Bool
  closeOnly : Bool
  assetAllowed : Bool
  drawdownHalt : Bool
  dailyLossHalt : Bool
  nearLiquidation : Bool
  dataStale : Bool
  currentTotalExposure : ℚ
  currentAssetExposure : ℚ
  freeMargin : ℚ
  accountEquity : ℚ
  currentLeverage : ℚ
  openPositions : ℤ
  isNewMarket : Bool
  maxNotionalPerTrade : ℚ
  maxTotalExposure : ℚ
  maxAssetExposure : ℚ
  maxLeverage : ℚ
  maxPositions : ℤ
  minimumExecutableNotional : ℚ
deriving DecidableEq, Repr

/-- Why one order is refused, skipped or trimmed. -/
inductive LegReason
  | sizing (reason : SizingReason)
  | emergencyStop
  | globalPause
  | userPaused
  | accountSuspended
  | notEntitled
  | closeOnly
  | assetNotPermitted
  | drawdownHalt
  | dailyLossHalt
  | nearLiquidation
  | credentialUnavailable
  | dataStale
  | positionsExceedMaximum
  | maximumPositionsReached
  | limitReached
  | headroomBelowMinimum (allowed minimum : ℚ)
  | noNotional
  | capRoundsToZero
  | trimmedBelowMinimum (notional minimum : ℚ)
  | trimmedToCap (allowed : ℚ)
deriving DecidableEq, Repr

/-- The reason of a decision; a reversal names what became of its second leg. -/
inductive RiskReason
  | leg (reason : LegReason)
  | openLegSuppressed (action : RiskAction) (reason : Option LegReason)
deriving DecidableEq, Repr

/-- The decision on one leg. -/
structure LegDecision where
  action : RiskAction
  plan : SizingLeg
  reason : Option LegReason
deriving DecidableEq, Repr

/-- `RiskDecision`. -/
structure RiskDecision where
  action : RiskAction
  plan : SizingResult
  reason : Option RiskReason
deriving DecidableEq, Repr

/-- An order that does not add exposure. -/
def SizingLeg.reducing (p : SizingLeg) : Bool :=
  p.intent = .reduce || p.intent = .close || p.reduceOnly

/-- The halts an order that adds exposure must pass, in order. -/
def exposureHalts (ctx : RiskContext) : List (Bool × LegReason) :=
  [(ctx.emergencyStop, .emergencyStop),
   (ctx.globalPause, .globalPause),
   (ctx.userPaused, .userPaused),
   (!ctx.userActive, .accountSuspended),
   (!ctx.entitlementActive, .notEntitled),
   (ctx.closeOnly, .closeOnly),
   (!ctx.assetAllowed, .assetNotPermitted),
   (ctx.drawdownHalt, .drawdownHalt),
   (ctx.dailyLossHalt, .dailyLossHalt),
   (ctx.nearLiquidation, .nearLiquidation)]

/-- The first halt that is in force. -/
def exposureHalt (ctx : RiskContext) : Option LegReason :=
  ((exposureHalts ctx).find? (·.1)).map (·.2)

/-- Why an actionable order is refused before any cap is looked at: adding exposure is halted, or
the account cannot be used at all. -/
def refusal (p : SizingLeg) (ctx : RiskContext) : Option LegReason :=
  (if p.reducing then none else exposureHalt ctx).orElse fun _ =>
    if !ctx.credentialActive then some .credentialUnavailable
    else if ctx.dataStale then some .dataStale
    else none

/-- The checks common to every order; `none` when the order passes them. -/
def gate (p : SizingLeg) (ctx : RiskContext) : Option (RiskAction × Option LegReason) :=
  if !p.actionable then some (.skip, p.reason.map .sizing)
  else (refusal p ctx).map fun reason => (.deny, some reason)

/-- The notional the caps leave for an order that adds exposure. -/
def allowedNotional (ctx : RiskContext) : ℚ :=
  min ctx.maxNotionalPerTrade <|
  min (max (ctx.maxTotalExposure - ctx.currentTotalExposure) 0) <|
  min (max (ctx.maxAssetExposure - ctx.currentAssetExposure) 0) <|
  min (max ctx.freeMargin 0 * max ctx.maxLeverage 1) <|
  max (ctx.maxLeverage * max ctx.accountEquity 0 - ctx.currentTotalExposure) 0

/-- Cap an order that adds exposure and trim it to whole lots where the cap binds. -/
def capExposure (p : SizingLeg) (ctx : RiskContext) : LegDecision :=
  if ctx.maxPositions < ctx.openPositions then ⟨.deny, p, some .positionsExceedMaximum⟩
  else if ctx.isNewMarket && ctx.maxPositions ≤ ctx.openPositions then
    ⟨.deny, p, some .maximumPositionsReached⟩
  else
    let allowed := allowedNotional ctx
    if allowed ≤ 0 then ⟨.deny, p, some .limitReached⟩
    else if allowed < ctx.minimumExecutableNotional then
      ⟨.deny, p, some (.headroomBelowMinimum allowed ctx.minimumExecutableNotional)⟩
    else if p.notional ≤ allowed then ⟨.allow, p, none⟩
    else if p.notional ≤ 0 then ⟨.skip, p, some .noNotional⟩
    else
      let trimmedSize := roundSize (p.orderSize * (allowed / p.notional)) p.sizeDecimals
      let trimmedNotional := trimmedSize * (p.notional / p.orderSize)
      if trimmedSize ≤ 0 then ⟨.deny, p, some .capRoundsToZero⟩
      else if trimmedNotional < ctx.minimumExecutableNotional then
        ⟨.deny, p,
          some (.trimmedBelowMinimum trimmedNotional ctx.minimumExecutableNotional)⟩
      else
        ⟨.trim, { p with orderSize := trimmedSize, notional := trimmedNotional },
          some (.trimmedToCap allowed)⟩

/-- The decision on a leg: the gates, then the caps where it adds exposure. -/
def evaluateLeg (p : SizingLeg) (ctx : RiskContext) : LegDecision :=
  match gate p ctx with
  | some (action, reason) => ⟨action, p, reason⟩
  | none => if p.reducing then ⟨.allow, p, none⟩ else capExposure p ctx

/-- The book the opening leg of a reversal will find. -/
def contextAfterClose (ctx : RiskContext) : RiskContext :=
  let totalAfterClose := max (ctx.currentTotalExposure - ctx.currentAssetExposure) 0
  { ctx with
    currentTotalExposure := totalAfterClose
    currentAssetExposure := 0
    currentLeverage :=
      if 0 < ctx.accountEquity then totalAfterClose / ctx.accountEquity else 999
    openPositions := max (ctx.openPositions - 1) 0
    isNewMarket := true }

/-- `evaluate`: the second leg of a reversal is decided as if the first had closed. -/
def evaluate (p : SizingResult) (ctx : RiskContext) : RiskDecision :=
  match gate p.toSizingLeg ctx with
  | some (action, reason) => ⟨action, p, reason.map .leg⟩
  | none =>
    match if p.intent = .reverse then p.secondary else none with
    | some leg =>
      let d := evaluateLeg leg (contextAfterClose ctx)
      if d.action = .allow ∨ d.action = .trim then
        ⟨.allow, { p with secondary := some d.plan }, d.reason.map .leg⟩
      else
        ⟨.allow, { p with secondary := none }, some (.openLegSuppressed d.action d.reason)⟩
    | none =>
      if p.reducing then ⟨.allow, p, none⟩
      else
        let d := capExposure p.toSizingLeg ctx
        ⟨d.action, { p with toSizingLeg := d.plan }, d.reason.map .leg⟩

/-! ## Effective limits -/

/-- The user's selected limits. -/
structure RiskProfile where
  multiplier : ℚ
  maxNotionalPerTrade : ℚ
  maxTotalExposure : ℚ
  maxAssetExposure : ℚ
  maxLeverage : ℚ
  maxPositions : ℤ
  minNotional : ℚ
deriving DecidableEq, Repr

/-- The commercial limits of the plan, each optional. -/
structure PlanLimits where
  maxMultiplier : Option ℚ
  maxNotionalPerTrade : Option ℚ
  maxPositions : Option ℤ
deriving DecidableEq, Repr

/-- The limits that are in force. -/
structure EffectiveRisk where
  multiplier : ℚ
  maxNotionalPerTrade : ℚ
  maxTotalExposure : ℚ
  maxAssetExposure : ℚ
  maxLeverage : ℚ
  maxPositions : ℤ
deriving DecidableEq, Repr

/-- `_decimal_cap`, and the same cap on integers. -/
def capBy {α : Type} [Min α] (selected : α) (limit : Option α) : α :=
  match limit with
  | none => selected
  | some raw => min selected raw

/-- `resolve_effective_risk`: the profile, capped by the plan and the exchange. -/
def resolveEffectiveRisk (risk : RiskProfile) (limits : PlanLimits)
    (exchangeMaxLeverage : Option ℚ) : EffectiveRisk where
  multiplier := capBy risk.multiplier limits.maxMultiplier
  maxNotionalPerTrade := capBy risk.maxNotionalPerTrade limits.maxNotionalPerTrade
  maxTotalExposure := risk.maxTotalExposure
  maxAssetExposure := risk.maxAssetExposure
  maxLeverage := capBy risk.maxLeverage exchangeMaxLeverage
  maxPositions := capBy risk.maxPositions limits.maxPositions

/-! ## What the engine lets through -/

/-- A decision that lets an order through. -/
def RiskAction.passes : RiskAction → Bool
  | .allow | .trim => true
  | .deny | .skip => false

lemma actionable_of_gate_none {p : SizingLeg} {ctx : RiskContext} (h : gate p ctx = none) :
    p.actionable := by
  unfold gate at h
  split_ifs at h with hact
  simpa using hact

lemma gate_not_passes {p : SizingLeg} {ctx : RiskContext} {a : RiskAction}
    {r : Option LegReason} (h : gate p ctx = some (a, r)) : a.passes = false := by
  unfold gate at h
  split_ifs at h with hact
  · obtain ⟨rfl, -⟩ := Prod.mk.inj (Option.some.inj h)
    rfl
  · obtain ⟨reason, -, hreason⟩ := Option.map_eq_some_iff.1 h
    obtain ⟨rfl, -⟩ := Prod.mk.inj hreason
    rfl

/-- An order without size is skipped. -/
lemma evaluate_not_actionable {p : SizingResult} {ctx : RiskContext}
    (h : p.toSizingLeg.actionable = false) : (evaluate p ctx).action = .skip := by
  simp [evaluate, gate, h]

/-- An order that only reduces is passed as it is, or not at all. -/
lemma evaluate_plan_of_reducing {p : SizingResult} {ctx : RiskContext}
    (hreducing : p.reducing = true) (hintent : p.intent ≠ .reverse) :
    (evaluate p ctx).plan = p := by
  unfold evaluate
  split
  · rfl
  · rw [if_neg hintent]
    simp [hreducing]

/-- An order that only reduces passes where the account can sign and what is known of it is not
stale. -/
lemma evaluate_passes_of_reducing {p : SizingResult} {ctx : RiskContext}
    (hreducing : p.reducing = true) (hintent : p.intent ≠ .reverse) :
    (evaluate p ctx).action.passes = true ↔
      p.toSizingLeg.actionable = true ∧ ctx.credentialActive = true ∧ ctx.dataStale = false := by
  cases hactionable : p.toSizingLeg.actionable with
  | false => simp [evaluate_not_actionable hactionable, RiskAction.passes]
  | true =>
      cases hcredential : ctx.credentialActive with
      | false =>
          simp [evaluate, gate, refusal, hactionable, hreducing, hcredential, RiskAction.passes]
      | true =>
          cases hstale : ctx.dataStale with
          | true =>
              simp [evaluate, gate, refusal, hactionable, hreducing, hcredential, hstale,
                RiskAction.passes]
          | false =>
              simp [evaluate, gate, refusal, hactionable, hreducing, hcredential, hstale, hintent,
                RiskAction.passes]

/-- What a cap leaves of an order: the order itself, or the same order over fewer lots. -/
structure CappedFrom (p q : SizingLeg) : Prop where
  intent : q.intent = p.intent
  targetSize : q.targetSize = p.targetSize
  currentSize : q.currentSize = p.currentSize
  isBuy : q.isBuy = p.isBuy
  reduceOnly : q.reduceOnly = p.reduceOnly
  decimals : q.sizeDecimals = p.sizeDecimals
  pos : 0 < q.orderSize
  rounded : roundSize p.orderSize p.sizeDecimals = p.orderSize →
    roundSize q.orderSize p.sizeDecimals = q.orderSize

lemma CappedFrom.refl {p : SizingLeg} (h : 0 < p.orderSize) : CappedFrom p p :=
  ⟨rfl, rfl, rfl, rfl, rfl, rfl, h, fun hr => hr⟩

lemma capExposure_cappedFrom {p : SizingLeg} (ctx : RiskContext) (hpos : 0 < p.orderSize) :
    CappedFrom p (capExposure p ctx).plan := by
  simp only [capExposure]
  split_ifs with _ _ _ _ _ _ hzero
  all_goals first
    | exact CappedFrom.refl hpos
    | exact ⟨rfl, rfl, rfl, rfl, rfl, rfl, not_le.1 hzero, fun _ => roundSize_roundSize _ _⟩

lemma evaluateLeg_cappedFrom {p : SizingLeg} {ctx : RiskContext}
    (h : (evaluateLeg p ctx).action.passes) : CappedFrom p (evaluateLeg p ctx).plan := by
  unfold evaluateLeg at h ⊢
  cases hgate : gate p ctx with
  | some r =>
      obtain ⟨a, reason⟩ := r
      simp only [hgate, gate_not_passes hgate] at h
      cases h
  | none =>
      have hpos := SizingLeg.orderSize_pos_of_actionable (actionable_of_gate_none hgate)
      dsimp only
      split_ifs
      · exact CappedFrom.refl hpos
      · exact capExposure_cappedFrom ctx hpos

/-- Dropping or capping the second leg, or capping an order that is not a reversal, keeps the
shape of a plan. -/
lemma PlanShape.capped {p : SizingResult} {current : ℚ} {n : ℕ} (h : PlanShape p current n)
    {q : SizingLeg} (hq : CappedFrom p.toSizingLeg q)
    (hsize : p.reduceOnly = true → q.orderSize = p.orderSize) {secondary : Option SizingLeg}
    (hsecondary : ∀ leg, secondary = some leg →
      ∃ leg', p.secondary = some leg' ∧ CappedFrom leg' leg) :
    PlanShape ⟨q, secondary⟩ current n := by
  have hrounded := h.rounded
  refine ⟨?_, hq.pos, ?_, ?_, ?_, ?_, ?_, ?_⟩
  · rw [hq.currentSize]
    exact h.current_eq
  · rw [hq.decimals]
    exact h.decimals
  · rw [← h.decimals] at hrounded ⊢
    exact hq.rounded hrounded
  · intro hreduce
    rw [hq.reduceOnly] at hreduce
    rw [hq.isBuy, hsize hreduce]
    exact h.reduces hreduce
  · intro hadd
    rw [hq.reduceOnly] at hadd
    rw [hq.isBuy]
    exact h.adds hadd
  · intro hintent
    rw [hq.intent] at hintent
    obtain ⟨hreduce, hclose⟩ := h.reverse_size hintent
    rw [hq.reduceOnly, hsize hreduce]
    exact ⟨hreduce, hclose⟩
  · intro leg hleg
    obtain ⟨leg', hleg', hcap⟩ := hsecondary leg hleg
    obtain ⟨hintent, hadd, -, hround, hdecimals, hflat⟩ := h.secondary_reverse leg' hleg'
    refine ⟨hq.intent.trans hintent, hcap.reduceOnly.trans hadd, hcap.pos, ?_,
      hcap.decimals.trans hdecimals, hcap.currentSize.trans hflat⟩
    rw [← hdecimals] at hround ⊢
    exact hcap.rounded hround

/-- **The engine keeps the shape of a plan.**  What it lets through is executable, on the side and
with the target it was planned for. -/
theorem evaluate_shape {p : SizingResult} {ctx : RiskContext} {current : ℚ} {n : ℕ}
    (hshape : PlanShape p current n) (h : (evaluate p ctx).action.passes) :
    PlanShape (evaluate p ctx).plan current n ∧ (evaluate p ctx).plan.intent = p.intent ∧
      (evaluate p ctx).plan.targetSize = p.targetSize := by
  have hkeep : ∀ secondary : Option SizingLeg,
      (∀ leg, secondary = some leg → ∃ leg', p.secondary = some leg' ∧ CappedFrom leg' leg) →
      PlanShape ⟨p.toSizingLeg, secondary⟩ current n :=
    fun _ => hshape.capped (CappedFrom.refl hshape.pos) (fun _ => rfl)
  unfold evaluate at h ⊢
  cases hgate : gate p.toSizingLeg ctx with
  | some r =>
      obtain ⟨a, reason⟩ := r
      simp only [hgate, gate_not_passes hgate] at h
      cases h
  | none =>
      dsimp only
      cases hleg : if p.intent = .reverse then p.secondary else none with
      | some leg =>
          have hsecondary : p.secondary = some leg := by
            split_ifs at hleg
            exact hleg
          dsimp only
          split_ifs with haction
          · have hpasses : (evaluateLeg leg (contextAfterClose ctx)).action.passes := by
              rcases haction with ha | ha <;> rw [ha] <;> rfl
            refine ⟨hkeep _ fun leg' hleg' => ?_, rfl, rfl⟩
            obtain rfl := Option.some.inj hleg'
            exact ⟨leg, hsecondary, evaluateLeg_cappedFrom hpasses⟩
          · exact ⟨hkeep _ fun leg' hleg' => (by cases hleg'), rfl, rfl⟩
      | none =>
          dsimp only
          split_ifs with hreducing
          · exact ⟨hshape, rfl, rfl⟩
          · have hcap := capExposure_cappedFrom ctx hshape.pos
            have hadd : p.reduceOnly = true → False := by
              intro hreduce
              simp [SizingLeg.reducing, hreduce] at hreducing
            refine ⟨hshape.capped hcap (fun hr => (hadd hr).elim) ?_, hcap.intent,
              hcap.targetSize⟩
            intro leg' hleg'
            obtain ⟨hreverse, -⟩ := hshape.secondary_reverse leg' hleg'
            exact (hadd (hshape.reverse_size hreverse).1).elim

/-! ## What the caps leave -/

/-- An order trimmed to an allowed notional, in whole lots and at its own price. -/
def SizingLeg.trimmedTo (p : SizingLeg) (allowed : ℚ) : SizingLeg :=
  let size := roundSize (p.orderSize * (allowed / p.notional)) p.sizeDecimals
  { p with orderSize := size, notional := size * (p.notional / p.orderSize) }

lemma trimmedTo_orderSize_le {p : SizingLeg} {allowed : ℚ} (hpos : 0 < p.orderSize)
    (hnotional : 0 < p.notional) (hallowed : 0 < allowed) :
    (p.trimmedTo allowed).orderSize ≤ p.orderSize * (allowed / p.notional) := by
  have hscale : 0 ≤ p.orderSize * (allowed / p.notional) := by positivity
  have hrounded := roundSize_le_abs (p.orderSize * (allowed / p.notional)) p.sizeDecimals
  rwa [abs_of_nonneg hscale] at hrounded

/-- An order that passes the caps is kept whole, or trimmed to what they leave. -/
lemma capExposure_passes {p : SizingLeg} {ctx : RiskContext}
    (h : (capExposure p ctx).action.passes = true) :
    0 < allowedNotional ctx ∧ ctx.openPositions ≤ ctx.maxPositions ∧
      (ctx.isNewMarket = true → ctx.openPositions < ctx.maxPositions) ∧
      (p.notional ≤ allowedNotional ctx ∧ capExposure p ctx = ⟨.allow, p, none⟩ ∨
        allowedNotional ctx < p.notional ∧
          0 < (p.trimmedTo (allowedNotional ctx)).orderSize ∧
          ctx.minimumExecutableNotional ≤ (p.trimmedTo (allowedNotional ctx)).notional ∧
          capExposure p ctx = ⟨.trim, p.trimmedTo (allowedNotional ctx),
            some (.trimmedToCap (allowedNotional ctx))⟩) := by
  generalize hd : capExposure p ctx = d at h ⊢
  simp only [capExposure] at hd
  split_ifs at hd with hover hnew hallowed hmin hfits hnone hzero htrimmed
  all_goals subst hd
  all_goals try (cases h; done)
  all_goals
    have hmarket : ctx.isNewMarket = true → ctx.openPositions < ctx.maxPositions := by
      intro hopens
      simpa [hopens] using hnew
  · exact ⟨not_le.1 hallowed, not_lt.1 hover, hmarket, Or.inl ⟨hfits, rfl⟩⟩
  · exact ⟨not_le.1 hallowed, not_lt.1 hover, hmarket,
      Or.inr ⟨not_le.1 hfits, not_le.1 hzero, not_lt.1 htrimmed, rfl⟩⟩

/-- An order the caps let through fits the notional they leave, and opens no market over the
limit of positions. -/
lemma capExposure_within {p : SizingLeg} {ctx : RiskContext} {price : ℚ}
    (hpos : 0 < p.orderSize) (hprice : 0 < price) (hnotional : p.notional = p.orderSize * price)
    (h : (capExposure p ctx).action.passes = true) :
    0 < allowedNotional ctx ∧ (capExposure p ctx).plan.orderSize * price ≤ allowedNotional ctx ∧
      (ctx.isNewMarket = true → ctx.openPositions < ctx.maxPositions) := by
  obtain ⟨hallowed, -, hmarket, ⟨hfits, heq⟩ | ⟨-, -, -, heq⟩⟩ := capExposure_passes h
  · refine ⟨hallowed, ?_, hmarket⟩
    rw [heq, ← hnotional]
    exact hfits
  · refine ⟨hallowed, ?_, hmarket⟩
    have hnotionalPos : 0 < p.notional := by
      rw [hnotional]
      positivity
    rw [heq]
    calc (p.trimmedTo (allowedNotional ctx)).orderSize * price
        ≤ p.orderSize * (allowedNotional ctx / p.notional) * price :=
          mul_le_mul_of_nonneg_right (trimmedTo_orderSize_le hpos hnotionalPos hallowed) hprice.le
      _ = allowedNotional ctx := by
          rw [hnotional]
          field_simp

/-- The caps leave nothing beyond the exposure limit. -/
lemma total_add_allowed_le {ctx : RiskContext} (h : 0 < allowedNotional ctx) :
    ctx.currentTotalExposure + allowedNotional ctx ≤ ctx.maxTotalExposure := by
  have hle : allowedNotional ctx ≤ max (ctx.maxTotalExposure - ctx.currentTotalExposure) 0 := by
    unfold allowedNotional
    exact (min_le_right _ _).trans (min_le_left _ _)
  rcases le_max_iff.1 hle with hle | hle
  · linarith
  · linarith

/-- The caps leave nothing beyond the leverage limit. -/
lemma total_add_allowed_le_leverage {ctx : RiskContext} (h : 0 < allowedNotional ctx) :
    ctx.currentTotalExposure + allowedNotional ctx ≤ ctx.maxLeverage * max ctx.accountEquity 0 := by
  have hle : allowedNotional ctx ≤
      max (ctx.maxLeverage * max ctx.accountEquity 0 - ctx.currentTotalExposure) 0 := by
    unfold allowedNotional
    exact (min_le_right _ _).trans ((min_le_right _ _).trans ((min_le_right _ _).trans
      (min_le_right _ _)))
  rcases le_max_iff.1 hle with hle | hle
  · linarith
  · linarith

/-- The same for one leg on its own, when it adds exposure. -/
lemma evaluateLeg_within {p : SizingLeg} {ctx : RiskContext} {price : ℚ}
    (hprice : 0 < price) (hnotional : p.notional = p.orderSize * price)
    (hadds : p.reducing = false) (h : (evaluateLeg p ctx).action.passes = true) :
    0 < allowedNotional ctx ∧ (evaluateLeg p ctx).plan.orderSize * price ≤ allowedNotional ctx ∧
      (ctx.isNewMarket = true → ctx.openPositions < ctx.maxPositions) := by
  unfold evaluateLeg at h ⊢
  cases hgate : gate p ctx with
  | some r =>
      obtain ⟨action, reason⟩ := r
      simp only [hgate, gate_not_passes hgate] at h
      cases h
  | none =>
      have hpos := SizingLeg.orderSize_pos_of_actionable (actionable_of_gate_none hgate)
      simp only [hgate, hadds, Bool.false_eq_true, if_false] at h ⊢
      exact capExposure_within hpos hprice hnotional h

/-- **What the engine lets through fits the caps**: the order itself where it adds exposure, and
the second leg of a reversal with respect to the book after the close. -/
theorem evaluate_within {p : SizingResult} {ctx : RiskContext} {price : ℚ} {current : ℚ} {n : ℕ}
    (hshape : PlanShape p current n) (hpriced : PlanPriced p price) (hprice : 0 < price)
    (h : (evaluate p ctx).action.passes = true) :
    (∀ leg, (evaluate p ctx).plan.secondary = some leg →
      0 < allowedNotional (contextAfterClose ctx) ∧
        leg.orderSize * price ≤ allowedNotional (contextAfterClose ctx)) ∧
    ((evaluate p ctx).plan.secondary = none → (evaluate p ctx).plan.reduceOnly = false →
      0 < allowedNotional ctx ∧ (evaluate p ctx).plan.orderSize * price ≤ allowedNotional ctx ∧
        (ctx.isNewMarket = true → ctx.openPositions < ctx.maxPositions)) := by
  unfold evaluate at h ⊢
  cases hgate : gate p.toSizingLeg ctx with
  | some r =>
      obtain ⟨action, reason⟩ := r
      simp only [hgate, gate_not_passes hgate] at h
      cases h
  | none =>
      dsimp only
      cases hleg : if p.intent = .reverse then p.secondary else none with
      | some leg =>
          have hreverse : p.intent = .reverse ∧ p.secondary = some leg := by
            split_ifs at hleg with hintent
            exact ⟨hintent, hleg⟩
          have hreduceOnly := (hshape.reverse_size hreverse.1).1
          obtain ⟨hnotional, hopen, hadd⟩ := hpriced.secondary leg hreverse.2
          dsimp only
          split_ifs with haction
          · have hpasses : (evaluateLeg leg (contextAfterClose ctx)).action.passes = true := by
              rcases haction with ha | ha <;> rw [ha] <;> rfl
            have hwithin := evaluateLeg_within hprice hnotional
              (by simp [SizingLeg.reducing, hopen, hadd]) hpasses
            refine ⟨fun leg' hleg' => ?_, fun hnone => (by cases hnone)⟩
            obtain rfl := Option.some.inj hleg'
            exact ⟨hwithin.1, hwithin.2.1⟩
          · refine ⟨fun leg' hleg' => (by cases hleg'), fun _ hadds => ?_⟩
            rw [hreduceOnly] at hadds
            cases hadds
      | none =>
          have hsecondary : p.secondary = none := by
            by_cases hintent : p.intent = .reverse
            · rwa [if_pos hintent] at hleg
            · cases hp : p.secondary with
              | none => rfl
              | some leg => exact absurd (hshape.secondary_reverse leg hp).1 hintent
          simp only [hgate, hleg] at h
          dsimp only
          split_ifs at h ⊢ with hreducing
          · refine ⟨fun leg hleg' => ?_, fun _ hadds => ?_⟩
            · rw [hsecondary] at hleg'
              cases hleg'
            · have hreduceOnly : p.reduceOnly = true := by
                simp only [SizingLeg.reducing, Bool.or_eq_true, decide_eq_true_eq] at hreducing
                rcases hreducing with hintent | hreduceOnly
                · exact hpriced.reduces hintent
                · exact hreduceOnly
              rw [hreduceOnly] at hadds
              cases hadds
          · refine ⟨fun leg hleg' => ?_,
              fun _ _ => capExposure_within hshape.pos hprice hpriced.notional h⟩
            rw [hsecondary] at hleg'
            cases hleg'

/-! ## Halted users -/

/-- A halt that is set is found, if not as the first one. -/
lemma exposureHalt_of_mem {ctx : RiskContext} {reason : LegReason}
    (h : (true, reason) ∈ exposureHalts ctx) : exposureHalt ctx ≠ none := by
  intro hnone
  unfold exposureHalt at hnone
  rw [Option.map_eq_none_iff, List.find?_eq_none] at hnone
  exact hnone (true, reason) h rfl

/-- Where adding exposure is halted, only the reducing orders pass the common checks. -/
lemma reducing_of_gate_halted {p : SizingLeg} {ctx : RiskContext} (h : exposureHalt ctx ≠ none)
    (hgate : gate p ctx = none) : p.reducing = true := by
  by_contra hadds
  unfold gate at hgate
  split_ifs at hgate
  rw [Option.map_eq_none_iff, refusal, if_neg hadds] at hgate
  cases hhalt : exposureHalt ctx with
  | none => exact h hhalt
  | some reason =>
      rw [hhalt] at hgate
      cases hgate

/-- **Halted users.**  An order that passes while adding exposure is halted reduces, it is the
planned one, and no second leg that would open a position is left of it. -/
lemma evaluate_of_halted {p : SizingResult} {ctx : RiskContext} (h : exposureHalt ctx ≠ none)
    (hpasses : (evaluate p ctx).action.passes = true) :
    p.toSizingLeg.reducing = true ∧ (evaluate p ctx).plan.toSizingLeg = p.toSizingLeg ∧
      ((∀ leg, p.secondary = some leg → p.intent = .reverse ∧ leg.reducing = false) →
        (evaluate p ctx).plan.secondary = none) := by
  unfold evaluate at hpasses ⊢
  cases hgate : gate p.toSizingLeg ctx with
  | some refused =>
      obtain ⟨action, reason⟩ := refused
      rw [hgate] at hpasses
      rw [gate_not_passes hgate] at hpasses
      cases hpasses
  | none =>
      have hreducing := reducing_of_gate_halted h hgate
      refine ⟨hreducing, ?_⟩
      dsimp only
      by_cases hreverse : p.intent = .reverse
      · rw [if_pos hreverse]
        cases hsecondary : p.secondary with
        | none =>
            dsimp only
            rw [if_pos hreducing]
            exact ⟨rfl, fun _ => hsecondary⟩
        | some leg =>
            dsimp only
            split_ifs with hopen
            · refine ⟨rfl, fun hlegs => ?_⟩
              -- the opening leg would have to pass the halts
              obtain ⟨-, hadds⟩ := hlegs leg rfl
              exfalso
              unfold evaluateLeg at hopen
              cases hleg : gate leg (contextAfterClose ctx) with
              | some refused =>
                  obtain ⟨action, reason⟩ := refused
                  rw [hleg] at hopen
                  have hrefused := gate_not_passes hleg
                  rcases hopen with rfl | rfl
                  · cases hrefused
                  · cases hrefused
              | none =>
                  have hhalted : exposureHalt (contextAfterClose ctx) ≠ none := h
                  rw [reducing_of_gate_halted hhalted hleg] at hadds
                  cases hadds
            · exact ⟨rfl, fun _ => rfl⟩
      · rw [if_neg hreverse]
        dsimp only
        rw [if_pos hreducing]
        refine ⟨rfl, fun hlegs => ?_⟩
        cases hsecondary : p.secondary with
        | none => rfl
        | some leg => exact absurd (hlegs leg hsecondary).1 hreverse

/-- The same for a paused user. -/
lemma evaluate_of_paused {p : SizingResult} {ctx : RiskContext} (h : ctx.userPaused = true)
    (hpasses : (evaluate p ctx).action.passes = true) :
    p.toSizingLeg.reducing = true ∧ (evaluate p ctx).plan.toSizingLeg = p.toSizingLeg ∧
      ((∀ leg, p.secondary = some leg → p.intent = .reverse ∧ leg.reducing = false) →
        (evaluate p ctx).plan.secondary = none) := by
  refine evaluate_of_halted (@exposureHalt_of_mem ctx .userPaused ?_) hpasses
  simp [exposureHalts, h]

/-- A planned order that reduces says so, and only a reversal has a second leg, which opens. -/
lemma plan_legs (m : MasterExposure) (f : FollowerState) (spec : AssetSpec)
    (minNotional mark : ℚ) :
    ((plan m f spec minNotional mark).toSizingLeg.reducing = true →
        (plan m f spec minNotional mark).reduceOnly = true) ∧
      ∀ leg, (plan m f spec minNotional mark).secondary = some leg →
        (plan m f spec minNotional mark).intent = .reverse ∧ leg.reducing = false := by
  have hsame : ∀ (intent : OrderIntent) (target current price : ℚ),
      ((planSameSide m.asset spec intent target current minNotional price).toSizingLeg.reducing =
          true →
        (planSameSide m.asset spec intent target current minNotional price).reduceOnly = true) ∧
      (planSameSide m.asset spec intent target current minNotional price).secondary = none := by
    intro intent target current price
    constructor
    · simp only [planSameSide]
      split_ifs <;> simp [SizingLeg.reducing]
    · simp only [planSameSide]
      split_ifs <;> rfl
  unfold plan
  dsimp only
  split
  · simp [SizingLeg.reducing]
  · refine ⟨fun _ => rfl, fun leg hleg => ⟨rfl, ?_⟩⟩
    simp only [planReversal, Option.ite_none_right_eq_some, Option.some.injEq] at hleg
    obtain ⟨-, rfl⟩ := hleg
    simp [SizingLeg.reducing]
  · obtain ⟨hreduces, hsingle⟩ := hsame (classify (computeTarget m f mark) f.currentSize)
      (computeTarget m f mark) f.currentSize mark
    refine ⟨hreduces, fun leg hleg => ?_⟩
    rw [hsingle] at hleg
    cases hleg

end HyperCopy

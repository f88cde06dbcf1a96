import HyperCopy.Engine.Risk

/-!
# What the risk engine never lets through

`engine/risk.py` read as a law about its answers: an order that adds exposure and passes fits
every cap at once, and an order that reduces is passed as it is or refused for a reason that has
nothing to do with the halts.  The opening leg of a reversal is held to the same caps, with the
book as it is after the close.

The caps are proved once, for one leg in one context (`capExposure_keeps`); a plan is one such leg,
or a close leg in front of one.
-/

namespace HyperCopy

open Quantize

/-- The leg `q` that is kept of a planned leg `p` fits every cap of the context, on a market with
`n` decimals. -/
structure WithinCaps (ctx : RiskContext) (n : ℕ) (p q : SizingLeg) : Prop where
  unhalted : ∀ halt ∈ exposureHalts ctx, halt.1 = false
  usable : ctx.credentialActive = true ∧ ctx.dataStale = false
  pos : 0 < q.orderSize
  le : q.orderSize ≤ p.orderSize
  lots : IsMultiple (lot n) q.orderSize
  unitPrice : q.notional * p.orderSize = p.notional * q.orderSize
  minimum : q.orderSize < p.orderSize → ctx.minimumExecutableNotional ≤ q.notional
  perTrade : q.notional ≤ ctx.maxNotionalPerTrade
  total : q.notional ≤ ctx.maxTotalExposure - ctx.currentTotalExposure
  asset : q.notional ≤ ctx.maxAssetExposure - ctx.currentAssetExposure
  margin : q.notional ≤ ctx.freeMargin * max ctx.maxLeverage 1
  leverage : q.notional ≤ ctx.maxLeverage * ctx.accountEquity - ctx.currentTotalExposure
  positions : ctx.openPositions + (if ctx.isNewMarket then 1 else 0) ≤ ctx.maxPositions

section

variable {p : SizingLeg} {ctx : RiskContext} {price : ℚ} {n : ℕ}

/-! ## The caps -/

/-- The allowed notional, where there is one, is below each of the five caps. -/
lemma allowedNotional_caps (htotal : 0 ≤ ctx.currentTotalExposure) (h : 0 < allowedNotional ctx) :
    allowedNotional ctx ≤ ctx.maxNotionalPerTrade ∧
      allowedNotional ctx ≤ ctx.maxTotalExposure - ctx.currentTotalExposure ∧
      allowedNotional ctx ≤ ctx.maxAssetExposure - ctx.currentAssetExposure ∧
      allowedNotional ctx ≤ ctx.freeMargin * max ctx.maxLeverage 1 ∧
      allowedNotional ctx ≤ ctx.maxLeverage * ctx.accountEquity - ctx.currentTotalExposure := by
  have hle : allowedNotional ctx ≤ allowedNotional ctx := le_rfl
  nth_rewrite 2 [allowedNotional] at hle
  simp only [le_min_iff] at hle
  obtain ⟨htrade, htotalCap, hasset, hmargin, hleverage⟩ := hle
  have hclip : ∀ x : ℚ, allowedNotional ctx ≤ max x 0 → allowedNotional ctx ≤ x := by
    intro x hx
    rcases le_max_iff.1 hx with hx | hx
    · exact hx
    · exact absurd hx h.not_ge
  refine ⟨htrade, hclip _ htotalCap, hclip _ hasset, ?_, ?_⟩
  · -- free margin that is not positive supports nothing
    rcases le_total ctx.freeMargin 0 with hfree | hfree
    · rw [max_eq_right hfree, zero_mul] at hmargin
      exact absurd hmargin h.not_ge
    · rwa [max_eq_left hfree] at hmargin
  · have hheadroom := hclip _ hleverage
    rcases le_total ctx.accountEquity 0 with hequity | hequity
    · rw [max_eq_right hequity, mul_zero] at hheadroom
      linarith
    · rwa [max_eq_left hequity] at hheadroom

/-- Scaling an order to what is allowed makes it smaller. -/
lemma scaled_lt {size notional allowed : ℚ} (hsize : 0 < size) (hallowed : allowed < notional)
    (hnotional : 0 < notional) : size * (allowed / notional) < size := by
  have hratio : allowed / notional < 1 := (div_lt_one hnotional).2 hallowed
  calc size * (allowed / notional) < size * 1 := mul_lt_mul_of_pos_left hratio hsize
    _ = size := mul_one size

/-- **The caps, for one leg.**  An order that passes the caps fits each of them. -/
lemma capExposure_keeps (hpos : 0 < p.orderSize) (hprice : 0 < price)
    (hnotional : p.notional = p.orderSize * price) (hdecimals : p.sizeDecimals = n)
    (hlots : roundSize p.orderSize n = p.orderSize) (htotal : 0 ≤ ctx.currentTotalExposure)
    (hhalts : exposureHalt ctx = none) (hcredential : ctx.credentialActive = true)
    (hfresh : ctx.dataStale = false) (h : (capExposure p ctx).action.passes = true) :
    WithinCaps ctx n p (capExposure p ctx).plan ∧
      ((capExposure p ctx).action = .trim →
        ctx.minimumExecutableNotional ≤ (capExposure p ctx).plan.notional) := by
  obtain ⟨hallowed, hwithin, -⟩ := capExposure_within hpos hprice hnotional h
  obtain ⟨htrade, htotalCap, hasset, hmargin, hleverage⟩ := allowedNotional_caps htotal hallowed
  have hnotionalPos : 0 < p.notional := by
    rw [hnotional]
    positivity
  have hunit : p.notional / p.orderSize = price := by
    rw [hnotional, mul_comm, mul_div_assoc, div_self hpos.ne', mul_one]
  have hunhalted : ∀ halt ∈ exposureHalts ctx, halt.1 = false := by
    intro halt hmem
    unfold exposureHalt at hhalts
    rw [Option.map_eq_none_iff, List.find?_eq_none] at hhalts
    simpa using hhalts halt hmem
  -- what is left to say of a kept order of notional at most what is allowed
  have hkeep : ∀ q : SizingLeg, 0 < q.orderSize → q.orderSize ≤ p.orderSize →
      IsMultiple (lot n) q.orderSize → q.notional * p.orderSize = p.notional * q.orderSize →
      (q.orderSize < p.orderSize → ctx.minimumExecutableNotional ≤ q.notional) →
      q.notional ≤ allowedNotional ctx →
      ctx.openPositions + (if ctx.isNewMarket then 1 else 0) ≤ ctx.maxPositions →
      WithinCaps ctx n p q := by
    intro q hq hle hmultiple hunitPrice hminimum hcap hopen
    exact ⟨hunhalted, ⟨hcredential, hfresh⟩, hq, hle, hmultiple, hunitPrice, hminimum,
      hcap.trans htrade, hcap.trans htotalCap, hcap.trans hasset, hcap.trans hmargin,
      hcap.trans hleverage, hopen⟩
  have hplanned : IsMultiple (lot n) p.orderSize := by
    rw [← hlots]
    exact isMultiple_floorTo _ _
  obtain ⟨-, hopenLe, hopenLt, hcases⟩ := capExposure_passes h
  have hopen : ctx.openPositions + (if ctx.isNewMarket then 1 else 0) ≤ ctx.maxPositions := by
    split_ifs with hmarket
    · have hlt := hopenLt hmarket
      omega
    · omega
  rcases hcases with ⟨hfits, heq⟩ | ⟨hbinds, hsize, hminimum, heq⟩
  · rw [heq]
    exact ⟨hkeep p hpos le_rfl hplanned rfl (fun hlt => absurd hlt (lt_irrefl _)) hfits hopen,
      fun htrim => by cases htrim⟩
  · rw [heq] at hwithin ⊢
    have hsmaller := scaled_lt hpos hbinds hnotionalPos
    have hscaled := trimmedTo_orderSize_le hpos hnotionalPos hallowed
    refine ⟨hkeep _ hsize (hscaled.trans hsmaller.le) ?_ ?_ (fun _ => hminimum) ?_ hopen,
      fun _ => hminimum⟩
    · show IsMultiple (lot n) (roundSize _ p.sizeDecimals)
      rw [hdecimals]
      exact isMultiple_floorTo _ _
    · show (p.trimmedTo _).orderSize * (p.notional / p.orderSize) * p.orderSize =
        p.notional * (p.trimmedTo _).orderSize
      rw [mul_assoc, div_mul_cancel₀ _ hpos.ne', mul_comm]
    · show (p.trimmedTo _).orderSize * (p.notional / p.orderSize) ≤ allowedNotional ctx
      rw [hunit]
      exact hwithin

/-! ## One leg through the whole engine -/

lemma gate_none {ctx : RiskContext} (h : gate p ctx = none) :
    (p.reducing = false → exposureHalt ctx = none) ∧ ctx.credentialActive = true ∧
      ctx.dataStale = false := by
  unfold gate at h
  split_ifs at h
  rw [Option.map_eq_none_iff, refusal] at h
  have hsplit : ∀ (halt : Option LegReason) (rest : Option LegReason),
      (halt.orElse fun _ => rest) = none → halt = none ∧ rest = none := by
    intro halt rest hnone
    cases halt with
    | none => exact ⟨rfl, hnone⟩
    | some reason => cases hnone
  obtain ⟨hhalt, hrest⟩ := hsplit _ _ h
  refine ⟨fun hadds => ?_, ?_, ?_⟩
  · simpa [hadds] using hhalt
  · cases hactive : ctx.credentialActive with
    | true => rfl
    | false => simp [hactive] at hrest
  · cases hstale : ctx.dataStale with
    | false => rfl
    | true =>
        simp only [hstale, if_true] at hrest
        split_ifs at hrest

/-- An order that reduces is refused only for the credential or for stale data. -/
lemma gate_of_reducing (hreducing : p.reducing = true) {action : RiskAction}
    {reason : Option LegReason} (h : gate p ctx = some (action, reason)) :
    action = .skip ∨ action = .deny ∧
      (ctx.credentialActive = false ∧ reason = some .credentialUnavailable ∨
        ctx.dataStale = true ∧ reason = some .dataStale) := by
  unfold gate at h
  split_ifs at h with hactionable
  · exact Or.inl (Prod.mk.inj (Option.some.inj h)).1.symm
  · obtain ⟨cause, hcause, hpair⟩ := Option.map_eq_some_iff.1 h
    obtain ⟨rfl, rfl⟩ := Prod.mk.inj hpair
    simp only [refusal, hreducing, if_true, Option.orElse_none] at hcause
    refine Or.inr ⟨rfl, ?_⟩
    split_ifs at hcause with hcredential hstale
    · obtain rfl := Option.some.inj hcause
      exact Or.inl ⟨by simpa using hcredential, rfl⟩
    · obtain rfl := Option.some.inj hcause
      exact Or.inr ⟨hstale, rfl⟩

lemma evaluateLeg_keeps (hprice : 0 < price) (hnotional : p.notional = p.orderSize * price)
    (hdecimals : p.sizeDecimals = n) (hlots : roundSize p.orderSize n = p.orderSize)
    (htotal : 0 ≤ ctx.currentTotalExposure) (hadds : p.reducing = false)
    (h : (evaluateLeg p ctx).action.passes = true) :
    WithinCaps ctx n p (evaluateLeg p ctx).plan := by
  unfold evaluateLeg at h ⊢
  cases hgate : gate p ctx with
  | some refused =>
      obtain ⟨action, reason⟩ := refused
      simp only [hgate, gate_not_passes hgate] at h
      cases h
  | none =>
      have hpos := SizingLeg.orderSize_pos_of_actionable (actionable_of_gate_none hgate)
      obtain ⟨hhalts, hcredential, hfresh⟩ := gate_none hgate
      simp only [hgate, hadds, Bool.false_eq_true, if_false] at h ⊢
      exact (capExposure_keeps hpos hprice hnotional hdecimals hlots htotal (hhalts hadds)
        hcredential hfresh h).1

end

/-! ## Plans -/

section

variable {m : MasterExposure} {f : FollowerState} {spec : AssetSpec} {minNotional mark : ℚ}

/-- Without a positive mark the target is flat. -/
lemma mark_pos_of_target (h : computeTarget m f mark ≠ 0) : 0 < mark := by
  by_contra hmark
  exact h (if_pos (Or.inr (Or.inl (not_lt.1 hmark))))

/-- Exposure is only added towards a target. -/
lemma mark_pos_of_adds
    (hactionable : (plan m f spec minNotional mark).toSizingLeg.actionable = true)
    (hadds : (plan m f spec minNotional mark).toSizingLeg.reducing = false) : 0 < mark := by
  refine mark_pos_of_target (m := m) (f := f) fun htarget => ?_
  simp only [plan, htarget] at hactionable hadds
  by_cases hflat : f.currentSize = 0
  · simp [classify, hflat, SizingLeg.actionable] at hactionable
  · have hclose : classify 0 f.currentSize = .close := by
      simp [classify, hflat, Ne.symm hflat]
    simp only [hclose, planSameSide] at hactionable hadds
    split_ifs at hactionable hadds <;> simp [SizingLeg.reducing] at hadds

lemma mark_pos_of_secondary {leg : SizingLeg}
    (h : (plan m f spec minNotional mark).secondary = some leg) : 0 < mark := by
  refine mark_pos_of_target (m := m) (f := f) fun htarget => ?_
  have hreverse := ((plan_legs m f spec minNotional mark).2 leg h).1
  simp only [plan, htarget] at hreverse
  by_cases hflat : f.currentSize = 0
  · simp [classify, hflat] at hreverse
  · have hclose : classify 0 f.currentSize = .close := by
      simp [classify, hflat, Ne.symm hflat]
    simp only [hclose, planSameSide] at hreverse
    split_ifs at hreverse

/-- Only an order that reduces comes with a second leg. -/
lemma secondary_none_of_adds
    (hactionable : (plan m f spec minNotional mark).toSizingLeg.actionable = true)
    (hadds : (plan m f spec minNotional mark).toSizingLeg.reducing = false) :
    (plan m f spec minNotional mark).secondary = none := by
  cases hsecondary : (plan m f spec minNotional mark).secondary with
  | none => rfl
  | some leg =>
      have hreverse := ((plan_legs m f spec minNotional mark).2 leg hsecondary).1
      have hreduceOnly := ((plan_shape hactionable).reverse_size hreverse).1
      simp [SizingLeg.reducing, hreduceOnly] at hadds

lemma evaluate_adds_keeps {ctx : RiskContext} (htotal : 0 ≤ ctx.currentTotalExposure)
    (hadds : (plan m f spec minNotional mark).toSizingLeg.reducing = false)
    (hpasses : (evaluate (plan m f spec minNotional mark) ctx).action.passes = true) :
    WithinCaps ctx spec.szDecimals (plan m f spec minNotional mark).toSizingLeg
        (evaluate (plan m f spec minNotional mark) ctx).plan.toSizingLeg ∧
      ((evaluate (plan m f spec minNotional mark) ctx).action = .trim →
        ctx.minimumExecutableNotional ≤
          (evaluate (plan m f spec minNotional mark) ctx).plan.notional) := by
  unfold evaluate at hpasses ⊢
  cases hgate : gate (plan m f spec minNotional mark).toSizingLeg ctx with
  | some refused =>
      obtain ⟨action, reason⟩ := refused
      simp only [hgate, gate_not_passes hgate] at hpasses
      cases hpasses
  | none =>
      have hactionable := actionable_of_gate_none hgate
      have hshape := plan_shape hactionable
      have hpriced := plan_priced hactionable
      have hnone := secondary_none_of_adds hactionable hadds
      obtain ⟨hhalts, hcredential, hfresh⟩ := gate_none hgate
      simp only [hgate, hnone, ite_self, hadds, Bool.false_eq_true, if_false] at hpasses ⊢
      exact capExposure_keeps hshape.pos (mark_pos_of_adds hactionable hadds) hpriced.notional
        hshape.decimals hshape.rounded htotal (hhalts hadds) hcredential hfresh hpasses

end

/-- An order that reduces is never touched, whatever the plan and the context. -/
lemma evaluate_reducing_keeps {p : SizingResult} {ctx : RiskContext}
    (hreducing : p.toSizingLeg.reducing = true) :
    (evaluate p ctx).plan.toSizingLeg = p.toSizingLeg ∧
      ((evaluate p ctx).action = .deny →
        ctx.credentialActive = false ∧
            (evaluate p ctx).reason = some (.leg .credentialUnavailable) ∨
          ctx.dataStale = true ∧ (evaluate p ctx).reason = some (.leg .dataStale)) := by
  unfold evaluate
  cases hgate : gate p.toSizingLeg ctx with
  | some refused =>
      obtain ⟨action, reason⟩ := refused
      refine ⟨rfl, fun hdeny => ?_⟩
      obtain rfl | ⟨-, ⟨hcredential, rfl⟩ | ⟨hstale, rfl⟩⟩ := gate_of_reducing hreducing hgate
      · cases hdeny
      · exact Or.inl ⟨hcredential, rfl⟩
      · exact Or.inr ⟨hstale, rfl⟩
  | none =>
      dsimp only
      split
      · split_ifs
        · exact ⟨rfl, fun hdeny => by cases hdeny⟩
        · exact ⟨rfl, fun hdeny => by cases hdeny⟩
      · rw [if_pos hreducing]
        exact ⟨rfl, fun hdeny => by cases hdeny⟩

/-- The opening leg that is kept of a reversal fits the caps of the book after the close. -/
lemma evaluate_reverse_keeps {m : MasterExposure} {f : FollowerState} {spec : AssetSpec}
    {minNotional mark : ℚ} {ctx : RiskContext}
    (hreverse : (plan m f spec minNotional mark).intent = .reverse)
    (hpasses : (evaluate (plan m f spec minNotional mark) ctx).action.passes = true)
    {leg : SizingLeg}
    (hleg : (evaluate (plan m f spec minNotional mark) ctx).plan.secondary = some leg) :
    ∃ planned, (plan m f spec minNotional mark).secondary = some planned ∧
      WithinCaps (contextAfterClose ctx) spec.szDecimals planned leg := by
  unfold evaluate at hpasses hleg
  cases hgate : gate (plan m f spec minNotional mark).toSizingLeg ctx with
  | some refused =>
      obtain ⟨action, reason⟩ := refused
      simp only [hgate, gate_not_passes hgate] at hpasses
      cases hpasses
  | none =>
      have hactionable := actionable_of_gate_none hgate
      have hshape := plan_shape hactionable
      simp only [hgate, hreverse, if_true] at hleg
      cases hsecondary : (plan m f spec minNotional mark).secondary with
      | none =>
          have hreducing : (plan m f spec minNotional mark).toSizingLeg.reducing = true := by
            rw [SizingLeg.reducing, (hshape.reverse_size hreverse).1, Bool.or_true]
          simp only [hsecondary, hreducing, if_true] at hleg
          cases hleg
      | some planned =>
          obtain ⟨hnotional, hopen, hadd⟩ := (plan_priced hactionable).secondary planned hsecondary
          obtain ⟨-, -, -, hlots, hdecimals, -⟩ := hshape.secondary_reverse planned hsecondary
          simp only [hsecondary] at hleg
          split_ifs at hleg with haction
          obtain rfl := Option.some.inj hleg
          have hkept : (evaluateLeg planned (contextAfterClose ctx)).action.passes = true := by
            rcases haction with ha | ha <;> rw [ha] <;> rfl
          have hbook : 0 ≤ (contextAfterClose ctx).currentTotalExposure := le_max_right _ _
          exact ⟨planned, rfl, evaluateLeg_keeps (mark_pos_of_secondary hsecondary) hnotional
            hdecimals hlots hbook (by simp [SizingLeg.reducing, hopen, hadd]) hkept⟩

/-- **Risk evaluation respects every cap.**  Of every plan, in every context with exposures that
are not negative: a plan that adds exposure passes only with no halt set, and what is kept of it
fits every cap; a plan that reduces keeps its order as it is, and is refused only for the
credential or for stale data; and of a reversal the close leg stays, and an opening leg that is
kept fits every cap against the book after the close. -/
theorem evaluate_respects_caps (m : MasterExposure) (f : FollowerState) (spec : AssetSpec)
    (minNotional mark : ℚ) (ctx : RiskContext) (htotal : 0 ≤ ctx.currentTotalExposure) :
    let p := plan m f spec minNotional mark
    let d := evaluate p ctx
    (p.toSizingLeg.reducing = false → d.action.passes = true →
      WithinCaps ctx spec.szDecimals p.toSizingLeg d.plan.toSizingLeg ∧
        (d.action = .trim → ctx.minimumExecutableNotional ≤ d.plan.notional)) ∧
    (p.toSizingLeg.reducing = true → d.plan.toSizingLeg = p.toSizingLeg ∧
      (d.action = .deny →
        ctx.credentialActive = false ∧ d.reason = some (.leg .credentialUnavailable) ∨
          ctx.dataStale = true ∧ d.reason = some (.leg .dataStale))) ∧
    (p.intent = .reverse → d.action.passes = true → d.plan.toSizingLeg = p.toSizingLeg ∧
      ∀ leg, d.plan.secondary = some leg → ∃ planned, p.secondary = some planned ∧
        WithinCaps (contextAfterClose ctx) spec.szDecimals planned leg) := by
  intro p d
  refine ⟨evaluate_adds_keeps htotal, evaluate_reducing_keeps, fun hreverse hpasses => ?_⟩
  have hreducing : p.toSizingLeg.reducing = true := by
    have hactionable : p.toSizingLeg.actionable = true := by
      by_contra hidle
      have hskip : d.action = .skip := evaluate_not_actionable (Bool.not_eq_true _ ▸ hidle)
      rw [hskip] at hpasses
      cases hpasses
    rw [SizingLeg.reducing, ((plan_shape hactionable).reverse_size hreverse).1, Bool.or_true]
  exact ⟨(evaluate_reducing_keeps hreducing).1,
    fun leg hleg => evaluate_reverse_keeps hreverse hpasses hleg⟩

/-! ## An order over the cap of one trade -/

/-- An account that is short, with room for 301 in one trade. -/
def cappedContext : RiskContext where
  userActive := true
  entitlementActive := true
  credentialActive := true
  userPaused := false
  globalPause := false
  emergencyStop := false
  closeOnly := false
  assetAllowed := true
  drawdownHalt := false
  dailyLossHalt := false
  nearLiquidation := false
  dataStale := false
  currentTotalExposure := 500
  currentAssetExposure := 500
  freeMargin := 900
  accountEquity := 1000
  currentLeverage := 1 / 2
  openPositions := 1
  isNewMarket := false
  maxNotionalPerTrade := 301
  maxTotalExposure := 5000
  maxAssetExposure := 2500
  maxLeverage := 3
  maxPositions := 1
  minimumExecutableNotional := 10

/-- The master turned long, and what the follower should open is over the cap. -/
def cappedPlan : SizingResult :=
  plan ⟨0, 10, 100, 1000⟩ ⟨1000, 0, -5, 1⟩ ⟨2, 10, false, 10⟩ 10 100

/-- The short position is closed whole, and of the ten units three and a lot are opened. -/
theorem evaluate_respects_caps_reversal :
    (evaluate cappedPlan cappedContext).plan.toSizingLeg = cappedPlan.toSizingLeg ∧
      ∃ leg, (evaluate cappedPlan cappedContext).plan.secondary = some leg ∧ leg.orderSize = 301 / 100 ∧
        ∃ planned, cappedPlan.secondary = some planned ∧
          WithinCaps (contextAfterClose cappedContext) 2 planned leg := by
  obtain ⟨-, -, hreverse⟩ := evaluate_respects_caps ⟨0, 10, 100, 1000⟩ ⟨1000, 0, -5, 1⟩
    ⟨2, 10, false, 10⟩ 10 100 cappedContext (by decide)
  obtain ⟨hclose, hopen⟩ := hreverse (by decide +kernel) (by decide +kernel)
  have hsize : (evaluate cappedPlan cappedContext).plan.secondary.map (·.orderSize) =
      some (301 / 100) := by
    decide +kernel
  obtain ⟨leg, hleg, hthree⟩ := Option.map_eq_some_iff.1 hsize
  exact ⟨hclose, leg, hleg, hthree, hopen leg hleg⟩

end HyperCopy

import HyperCopy.Reconcile.Batch

/-!
# The capacity of a batch

A job whose plan was previewed reserves what the engine let through, and the engine is asked with
the totals reserved so far, so no job takes the running totals past a limit they had not passed
before (`reconcileJobFor_within`); by induction over the assets no batch does
(`reconcile_batch_capacity`).

The preview is optional.  Where the specification of the market cannot be read, or the evaluation
raises, the job is queued without a plan and reserves nothing: the executor evaluates it again.
`unplanned_job_reserves_nothing` is such a batch.
-/

namespace HyperCopy

/-! ## What one plan reserves -/

section Turn

variable {f : ReconcileFollower} {a : ReconcileAsset} {risk : CopyRiskProfile}
  {total : ℚ} {openPositions : ℤ}

/-- A reservation keeps the running totals within the limits, or where they were. -/
structure WithinLimits (limits : EffectiveRisk) (equity total : ℚ) (openPositions : ℤ)
    (p : ReconcilePlan) : Prop where
  nonneg : 0 ≤ p.additionalExposure
  exposure : total + p.additionalExposure ≤ max total limits.maxTotalExposure
  leverage : total + p.additionalExposure ≤ max total (limits.maxLeverage * equity)
  positions : p.opensNewMarket = true → openPositions < limits.maxPositions

lemma withinLimits_nothing (limits : EffectiveRisk) (equity total : ℚ) (openPositions : ℤ)
    (size : ℚ) : WithinLimits limits equity total openPositions ⟨size, 0, false⟩ where
  nonneg := le_rfl
  exposure := by rw [add_zero]; exact le_max_left _ _
  leverage := by rw [add_zero]; exact le_max_left _ _
  positions hopens := by cases hopens

lemma add_max_zero_le {total x cap : ℚ} (h : total + x ≤ cap) :
    total + max x 0 ≤ max total cap := by
  rcases max_cases x 0 with ⟨hmax, -⟩ | ⟨hmax, -⟩
  · rw [hmax]
    exact le_max_of_le_right h
  · rw [hmax, add_zero]
    exact le_max_left _ _

/-- The limits without the exchange's leverage are the wider ones. -/
lemma maxLeverage_le (risk : RiskProfile) (limits : PlanLimits) (cap : ℚ) :
    (resolveEffectiveRisk risk limits (some cap)).maxLeverage ≤
      (resolveEffectiveRisk risk limits none).maxLeverage :=
  min_le_left _ _

/-- Exposure the caps leave fits a leverage limit that is at least the asset's, and is only there
for an account with equity. -/
lemma leverage_headroom (ctx : RiskContext) {equity leverage : ℚ}
    (hequity : ctx.accountEquity = max equity 0) (hleverage : ctx.maxLeverage ≤ leverage)
    (htotal : 0 ≤ ctx.currentTotalExposure) (h : 0 < allowedNotional ctx) :
    ctx.currentTotalExposure + allowedNotional ctx ≤ leverage * equity := by
  have hle := total_add_allowed_le_leverage h
  rw [hequity, max_eq_left (le_max_right equity 0)] at hle
  by_cases hpos : 0 < equity
  · rw [max_eq_left hpos.le] at hle
    exact hle.trans (mul_le_mul_of_nonneg_right hleverage hpos.le)
  · rw [max_eq_right (not_lt.1 hpos), mul_zero] at hle
    linarith

theorem riskLimitedReconcilePlan_within {spec : AssetSpec} {p : ReconcilePlan}
    (htotal : 0 ≤ total)
    (h : riskLimitedReconcilePlan f a risk spec total openPositions = some p) :
    WithinLimits (resolveEffectiveRisk risk.toRiskProfile f.limits none) f.equity total
      openPositions p := by
  unfold riskLimitedReconcilePlan at h
  split_ifs at h with hmarks
  simp only [not_or, not_le] at hmarks
  obtain ⟨-, -, hmark⟩ := hmarks
  dsimp only at h
  set limits := resolveEffectiveRisk risk.toRiskProfile f.limits (some (spec.maxLeverage : ℚ))
    with hlimits
  set sizing := plan ⟨a.asset, a.masterPosition * f.aiFactor, a.masterMark, f.masterEquity⟩
    ⟨f.equity, f.unmanagedMargin, a.real, f.multiplier⟩ spec risk.minNotional a.followerMark
    with hsizing
  set ctx := reconcileRiskContext f a risk limits total openPositions with hctx
  split_ifs at h with hpass
  obtain rfl := Option.some.inj h
  obtain ⟨hpasses, -⟩ := Bool.and_eq_true_iff.1 hpass
  have hactionable : sizing.toSizingLeg.actionable = true := by
    by_contra hidle
    rw [evaluate_not_actionable (by simpa using hidle)] at hpasses
    cases hpasses
  have hshape : PlanShape sizing a.real spec.szDecimals := plan_shape hactionable
  obtain ⟨hsecondary, hopening⟩ :=
    evaluate_within hshape (plan_priced hactionable) hmark hpasses
  obtain ⟨hresult, -, -⟩ := evaluate_shape hshape hpasses
  have hleverage := maxLeverage_le risk.toRiskProfile f.limits (spec.maxLeverage : ℚ)
  have hasset : 0 ≤ |a.real| * a.followerMark := mul_nonneg (abs_nonneg _) hmark.le
  unfold reservationOf
  cases hleg : (evaluate sizing ctx).plan.secondary with
  | some leg =>
      obtain ⟨hintent, -, -, hrounded, -, -⟩ := hresult.secondary_reverse leg hleg
      obtain ⟨hroom, hfits⟩ := hsecondary leg hleg
      have hafter : (contextAfterClose ctx).currentTotalExposure =
          max (total - |a.real| * a.followerMark) 0 := rfl
      have hafterTotal : total - |a.real| * a.followerMark ≤
          (contextAfterClose ctx).currentTotalExposure := by
        rw [hafter]
        exact le_max_left _ _
      have hexposure : (contextAfterClose ctx).currentTotalExposure +
          allowedNotional (contextAfterClose ctx) ≤ limits.maxTotalExposure :=
        total_add_allowed_le hroom
      have hheadroom := leverage_headroom (contextAfterClose ctx) rfl hleverage
        (by rw [hafter]; exact le_max_right _ _) hroom
      by_cases hact : leg.actionable = true
      · simp only [Option.filter_some, hact, if_true, hrounded]
        refine ⟨le_max_right _ _, add_max_zero_le ?_, add_max_zero_le ?_, fun hopens => ?_⟩
        · show _ ≤ limits.maxTotalExposure
          linarith
        · linarith
        · cases hopens
      · have hreduceOnly := (hresult.reverse_size hintent).1
        simp only [Option.filter_some, hact, Bool.false_eq_true, if_false, hreduceOnly, if_true]
        exact withinLimits_nothing _ _ _ _ _
  | none =>
      simp only [Option.filter_none]
      split_ifs with hreduce
      · exact withinLimits_nothing _ _ _ _ _
      · obtain ⟨hroom, hfits, hnew⟩ := hopening hleg (by simpa using hreduce)
        have hexposure : total + allowedNotional ctx ≤ limits.maxTotalExposure :=
          total_add_allowed_le hroom
        have hheadroom : total + allowedNotional ctx ≤ _ :=
          leverage_headroom ctx rfl hleverage htotal hroom
        simp only [hresult.rounded]
        refine ⟨mul_nonneg hresult.pos.le hmark.le, le_max_of_le_right ?_,
          le_max_of_le_right ?_, fun hopens => hnew hopens⟩
        · show _ ≤ limits.maxTotalExposure
          linarith
        · linarith

/-! ## What one turn reserves -/

/-- A job that is to add exposure or to turn the position around; one that only aligns the
leverage places no order. -/
def BatchJob.takesExposure (job : BatchJob) : Bool :=
  (job.increasing || job.reversal) && !job.leverageSyncOnly

lemma previewPlan_eq_some {p : ReconcilePlan} (hrisk : f.risk = some risk)
    (h : (previewPlan f a total openPositions).2 = some p) :
    (previewPlan f a total openPositions).1 = true ∧ ∃ spec,
      riskLimitedReconcilePlan f a risk spec total openPositions = some p := by
  unfold previewPlan at h ⊢
  cases hspec : planSpec f a with
  | none =>
      simp only [hrisk, hspec] at h
      cases h
  | some spec =>
      simp only [hrisk, hspec] at h ⊢
      split_ifs at h ⊢ with hdrift
      exact ⟨rfl, spec, h⟩

/-- A preview that is due and is not made has failed. -/
lemma planFails_of_not_evaluated (hrisk : f.risk = some risk)
    (hdrift : f.minNotional ≤ driftNotional f a)
    (h : (previewPlan f a total openPositions).1 = false) : planFails f a = true := by
  unfold previewPlan at h
  unfold planFails
  cases hspec : planSpec f a with
  | none => rfl
  | some spec =>
      simp only [hrisk, hspec] at h
      by_cases hraises : a.planRaises = false
      · rw [if_pos ⟨hdrift, hraises⟩] at h
        cases h
      · simpa using hraises

/-- What a turn that plans a job has done. -/
structure PlannedWithin (f : ReconcileFollower) (a : ReconcileAsset) (limits : EffectiveRisk)
    (total : ℚ) (openPositions : ℤ) (job : BatchJob) : Prop where
  asset : job.asset = a.asset
  total_eq : job.reservedTotalExposure = total + job.reservedAdditionalExposure
  open_eq : job.reservedOpenPositions =
    openPositions + if job.plan.any (·.opensNewMarket) then 1 else 0
  additional : job.reservedAdditionalExposure = (job.plan.map (·.additionalExposure)).getD 0
  within : ∀ p, job.plan = some p → job.evaluated = true ∧
    WithinLimits limits f.equity total openPositions p
  planned : job.takesExposure = true → job.plan = none → planFails f a = true

theorem reconcileJobFor_within {job : BatchJob} (hactive : f.copyState = .active)
    (hrisk : f.risk = some risk) (htotal : 0 ≤ total)
    (h : reconcileJobFor f a total openPositions = some job) :
    PlannedWithin f a (resolveEffectiveRisk risk.toRiskProfile f.limits none) total openPositions
      job := by
  unfold reconcileJobFor at h
  dsimp only at h
  by_cases hrefused : (!reachesPlan f a || refusedByPlan f a
    (previewPlan f a total openPositions).1 (previewPlan f a total openPositions).2) = true
  · rw [if_pos hrefused] at h
    cases h
  rw [if_neg hrefused] at h
  obtain rfl := Option.some.inj h
  refine ⟨rfl, rfl, rfl, rfl, ?_, ?_⟩
  · intro p hp
    obtain ⟨hevaluated, spec, hplan⟩ := previewPlan_eq_some hrisk hp
    exact ⟨hevaluated, riskLimitedReconcilePlan_within htotal hplan⟩
  · intro htakes hnone
    simp only [BatchJob.takesExposure, Bool.and_eq_true, Bool.not_eq_true'] at htakes
    obtain ⟨hkind, hsync⟩ := htakes
    simp only [Bool.or_eq_true, Bool.not_eq_true', not_or, Bool.not_eq_false,
      Bool.not_eq_true] at hrefused
    obtain ⟨hreaches, hplan⟩ := hrefused
    by_cases hdrift : f.minNotional ≤ driftNotional f a
    · have hfailed : (previewPlan f a total openPositions).1 = false := by
        -- an evaluated preview without a plan would have refused the job
        by_contra hevaluated
        rw [Bool.not_eq_false] at hevaluated
        have hempty : (previewPlan f a total openPositions).2 = none := hnone
        have hrefuse : refusedByPlan f a (previewPlan f a total openPositions).1
            (previewPlan f a total openPositions).2 = true := by
          rw [hevaluated, hempty]
          simp only [Bool.or_eq_true] at hkind
          simp [refusedByPlan, hdrift, hactive, hrisk, hkind]
        rw [hplan] at hrefuse
        cases hrefuse
      exact planFails_of_not_evaluated hrisk hdrift hfailed
    · -- without a drift the job is there for the leverage only
      have hmismatch : leverageMismatch f a = true := by
        simp only [reachesPlan, hdrift, Bool.and_eq_true, Bool.or_eq_true, decide_eq_true_eq,
          false_or] at hreaches
        exact hreaches.1.1.2
      have hunsafe : ambiguitySafe f a = false := by
        simp only [leverageMismatch, Bool.and_eq_true, Bool.not_eq_true'] at hmismatch
        exact hmismatch.1
      have hread : (leverageRead f a).2.isSome = true := by
        simp only [leverageMismatch, Bool.and_eq_true] at hmismatch
        obtain ⟨check, hcheck, -⟩ := (Option.any_eq_true _ _).1 hmismatch.2
        rw [hcheck]
        rfl
      simp [hread, hmismatch, hunsafe, not_le.1 hdrift] at hsync

end Turn

/-! ## What a batch reserves -/

/-- Every job's running totals are those in front of it and its own reservation. -/
def RunningTotals (total : ℚ) (openPositions : ℤ) : List BatchJob → Prop
  | [] => True
  | job :: rest =>
      job.reservedTotalExposure = total + job.reservedAdditionalExposure ∧
        (job.reservedOpenPositions = openPositions +
          if job.plan.any (·.opensNewMarket) then 1 else 0) ∧
        RunningTotals job.reservedTotalExposure job.reservedOpenPositions rest

/-- A job's reservation is that of its plan, and a job that takes exposure has a plan unless the
preview of its asset failed. -/
def ReservedForPlan (f : ReconcileFollower) (assets : List ReconcileAsset) (job : BatchJob) :
    Prop :=
  (job.evaluated = true ∧ ∃ p, job.plan = some p ∧
      job.reservedAdditionalExposure = p.additionalExposure) ∨
    (job.plan = none ∧ job.reservedAdditionalExposure = 0 ∧
      ∃ a ∈ assets, a.asset = job.asset ∧ planFails f a = true)

/-- The running totals of a job stay within the limits, or where the batch started. -/
structure TotalsWithin (limits : EffectiveRisk) (equity total : ℚ) (openPositions : ℤ)
    (job : BatchJob) : Prop where
  exposure : job.reservedTotalExposure ≤ max total limits.maxTotalExposure
  leverage : job.reservedTotalExposure ≤ max total (limits.maxLeverage * equity)
  positions : job.reservedOpenPositions ≤ max openPositions limits.maxPositions

section Batch

variable {f : ReconcileFollower} {risk : CopyRiskProfile}

/-- The totals after one job: not less than before, and within the limits. -/
lemma PlannedWithin.totals {a : ReconcileAsset} {limits : EffectiveRisk} {total : ℚ}
    {openPositions : ℤ} {job : BatchJob}
    (h : PlannedWithin f a limits total openPositions job) :
    total ≤ job.reservedTotalExposure ∧ TotalsWithin limits f.equity total openPositions job := by
  have htotal := h.total_eq
  have hopen := h.open_eq
  rw [h.additional] at htotal
  cases hplan : job.plan with
  | none =>
      rw [hplan] at htotal hopen
      simp only [Option.map_none, Option.getD_none, add_zero] at htotal
      simp only [Option.any_none, Bool.false_eq_true, if_false, add_zero] at hopen
      exact ⟨htotal.ge, htotal.le.trans (le_max_left _ _), htotal.le.trans (le_max_left _ _),
        hopen.le.trans (le_max_left _ _)⟩
  | some p =>
      obtain ⟨-, hwithin⟩ := h.within p hplan
      rw [hplan] at htotal hopen
      simp only [Option.map_some, Option.getD_some] at htotal
      refine ⟨?_, ?_, ?_, ?_⟩
      · rw [htotal]
        linarith [hwithin.nonneg]
      · rw [htotal]
        exact hwithin.exposure
      · rw [htotal]
        exact hwithin.leverage
      · rw [hopen]
        by_cases hnew : p.opensNewMarket = true
        · have hroom := hwithin.positions hnew
          simp only [Option.any_some, hnew, if_true]
          exact le_max_of_le_right (by omega)
        · simp only [Option.any_some, hnew, Bool.false_eq_true, if_false, add_zero]
          exact le_max_left _ _

/-- A limit that holds over the totals after a job holds over the totals before it. -/
lemma TotalsWithin.before {limits : EffectiveRisk} {equity total : ℚ} {openPositions : ℤ}
    {first job : BatchJob} (hfirst : TotalsWithin limits equity total openPositions first)
    (h : TotalsWithin limits equity first.reservedTotalExposure first.reservedOpenPositions job) :
    TotalsWithin limits equity total openPositions job where
  exposure := h.exposure.trans (max_le hfirst.exposure (le_max_right _ _))
  leverage := h.leverage.trans (max_le hfirst.leverage (le_max_right _ _))
  positions := h.positions.trans (max_le hfirst.positions (le_max_right _ _))

lemma ReservedForPlan.mono {assets assets' : List ReconcileAsset} {job : BatchJob}
    (h : ReservedForPlan f assets job) (hsub : ∀ a ∈ assets, a ∈ assets') :
    ReservedForPlan f assets' job := by
  rcases h with hplanned | ⟨hnone, hzero, a, ha, hfails⟩
  · exact Or.inl hplanned
  · exact Or.inr ⟨hnone, hzero, a, hsub a ha, hfails⟩

/-- Induction over the assets: the totals a job leaves are the ones the next turn starts from. -/
lemma reconcileBatch_capacity (hactive : f.copyState = .active) (hrisk : f.risk = some risk)
    (assets : List ReconcileAsset) (total : ℚ) (openPositions : ℤ) (htotal : 0 ≤ total) :
    RunningTotals total openPositions (reconcileBatch f total openPositions assets) ∧
      ∀ job ∈ reconcileBatch f total openPositions assets,
        (job.takesExposure = true → ReservedForPlan f assets job) ∧
        TotalsWithin (resolveEffectiveRisk risk.toRiskProfile f.limits none) f.equity total
          openPositions job := by
  induction assets generalizing total openPositions with
  | nil => exact ⟨trivial, fun job hjob => by cases hjob⟩
  | cons a rest ih =>
      have hsub : ∀ b ∈ rest, b ∈ a :: rest := fun b hb => List.mem_cons_of_mem a hb
      unfold reconcileBatch
      by_cases hraises : a.raises = true
      · rw [if_pos hraises]
        exact ⟨trivial, fun job hjob => by cases hjob⟩
      rw [if_neg hraises]
      cases hturn : reconcileJobFor f a total openPositions with
      | none =>
          obtain ⟨hrunning, hjobs⟩ := ih total openPositions htotal
          refine ⟨hrunning, fun job hjob => ⟨fun htakes => ?_, (hjobs job hjob).2⟩⟩
          exact ((hjobs job hjob).1 htakes).mono hsub
      | some first =>
          have hplanned := reconcileJobFor_within hactive hrisk htotal hturn
          obtain ⟨hgrows, hfirst⟩ := hplanned.totals
          obtain ⟨hrunning, hjobs⟩ :=
            ih first.reservedTotalExposure first.reservedOpenPositions (htotal.trans hgrows)
          refine ⟨⟨hplanned.total_eq, hplanned.open_eq, hrunning⟩, fun job hjob => ?_⟩
          rcases List.mem_cons.1 hjob with rfl | hjob
          · refine ⟨fun htakes => ?_, hfirst⟩
            cases hplan : job.plan with
            | none =>
                refine Or.inr ⟨hplan, ?_, a, List.mem_cons_self, hplanned.asset.symm,
                  hplanned.planned htakes hplan⟩
                rw [hplanned.additional, hplan]
                rfl
            | some p =>
                refine Or.inl ⟨(hplanned.within p hplan).1, p, hplan, ?_⟩
                rw [hplanned.additional, hplan]
                rfl
          · exact ⟨fun htakes => ((hjobs job hjob).1 htakes).mono hsub,
              hfirst.before (hjobs job hjob).2⟩

lemma startingExposure_nonneg (assets : List ReconcileAsset) : 0 ≤ startingExposure assets := by
  unfold startingExposure
  refine List.sum_nonneg fun x hx => ?_
  obtain ⟨a, -, rfl⟩ := List.mem_map.1 hx
  exact mul_nonneg (abs_nonneg _) (le_max_right _ _)

/-- **The capacity of one reconciliation.**  For an active follower with a risk profile and any
assets: a job that takes exposure has its plan evaluated and its additional exposure reserved,
unless the preview of its asset raised, and then it reserves nothing; the running totals are the
start and what the jobs reserved; and after every job they are within the limits, or no further
than they were at the start. -/
theorem reconcile_batch_capacity (assets : List ReconcileAsset) (hactive : f.copyState = .active)
    (hrisk : f.risk = some risk) :
    RunningTotals (startingExposure assets) (startingOpenPositions assets)
        (reconcileObservedFollower f assets) ∧
      ∀ job ∈ reconcileObservedFollower f assets,
        (job.takesExposure = true → ReservedForPlan f assets job) ∧
        TotalsWithin (resolveEffectiveRisk risk.toRiskProfile f.limits none) f.equity
          (startingExposure assets) (startingOpenPositions assets) job :=
  reconcileBatch_capacity hactive hrisk assets _ _ (startingExposure_nonneg assets)

end Batch

/-! ## Two markets of one follower -/

/-- An account of 100 with an exposure limit of 100. -/
def cappedFollower : ReconcileFollower where
  scope asset := ⟨0, 1, .hyperliquid, .testnet, asset⟩
  masterNetwork := .testnet
  snapshotStartedOrder := some 1
  copyState := .active
  strictManualTrades := false
  risk := some ⟨⟨1, 100, 100, 100, 3, 5, 10⟩, false, [], [], 50⟩
  limits := ⟨none, none, none⟩
  aiFactor := 1
  masterEquity := 1000
  equity := 100
  unmanagedMargin := 0
  freeMargin := 1000
  drawdownHalt := false
  dailyLossHalt := false
  nearLiquidation := false

/-- A market without a position, of which the master holds three fifths of its equity. -/
def openingAsset (asset : Asset) (spec : Option AssetSpec) : ReconcileAsset where
  asset := asset
  listedByMaster := true
  masterPosition := 6
  real := 0
  followerMark := 100
  masterMark := 100
  ledger := none
  evidence := ⟨[], []⟩
  masterConfig := some ⟨3, true⟩
  followerConfig := none
  liveAmbiguity := false
  terminalAmbiguity := false
  spec := spec
  specAgain := spec
  planRaises := false
  pending := false
  terminalRejection := none
  liquidityWait := 0
  raises := false

/-- A market with three decimals. -/
def threeDecimals : AssetSpec := ⟨3, 10, false, 10⟩

/-- The second job is trimmed to what the first one left. -/
theorem reconcile_batch_capacity_two :
    (reconcileObservedFollower cappedFollower
      [openingAsset 1 (some threeDecimals), openingAsset 2 (some threeDecimals)]).map
        (fun job => (job.takesExposure, job.reservedAdditionalExposure)) =
          [(true, 60), (true, 40)] ∧
      ∀ job ∈ reconcileObservedFollower cappedFollower
        [openingAsset 1 (some threeDecimals), openingAsset 2 (some threeDecimals)],
        TotalsWithin (resolveEffectiveRisk ⟨1, 100, 100, 100, 3, 5, 10⟩ ⟨none, none, none⟩ none) 100
          0 0 job := by
  refine ⟨by decide +kernel, ?_⟩
  obtain ⟨-, hjobs⟩ := reconcile_batch_capacity (f := cappedFollower)
    [openingAsset 1 (some threeDecimals), openingAsset 2 (some threeDecimals)] rfl rfl
  have hexposure : startingExposure
      [openingAsset 1 (some threeDecimals), openingAsset 2 (some threeDecimals)] = 0 := by
    decide +kernel
  intro job hjob
  have hwithin := (hjobs job hjob).2
  rw [hexposure] at hwithin
  exact hwithin

/-- **A job that opens a market without a plan and without a reservation**: the specification of
its market cannot be read. -/
theorem unplanned_job_reserves_nothing :
    ∃ job ∈ reconcileObservedFollower cappedFollower [openingAsset 1 none],
      job.increasing = true ∧ job.leverageSyncOnly = false ∧ job.evaluated = false ∧
        job.plan = none ∧ job.reservedAdditionalExposure = 0 := by
  decide +kernel

end HyperCopy

import HyperCopy.Executor.Planning
import Mathlib.Tactic.Positivity
import Mathlib.Tactic.Ring

/-!
# Planner and executor under the AI factor

The reconciler computes a target, scales it by the AI factor, checks it against the profit-exit
memory and queues a job; the executor later computes the target again from the job's context and
checks it again.  The factor reaches the executor through the stored master position, which
`applyAiFactorToJobContext` rewrites when the row is inserted.

The two targets always agree (`sizeAttempt_reconcileJob`).  The two checks do not: the source
cycle is resolved by comparing the master position with the last recorded one, and the executor
compares the scaled position.  `planner_executor_agree_iff` says exactly when the second check
sees the cycle the first one saw.
-/

namespace HyperCopy

/-- What one reconciliation of a follower market works from, with the leverage and ambiguity
verdicts it writes into the job. -/
structure ReconcileInputs where
  market : Market
  epochId : EpochId
  network : Network
  masterNetwork : Network
  evidence : ProfitExitEvidence
  masterPosition : ℚ
  masterEquity : ℚ
  masterMark : ℚ
  followerMark : ℚ
  accountEquity : ℚ
  unmanagedMargin : ℚ
  real : ℚ
  risk : CopyRiskProfile
  limits : PlanLimits
  aiFactor : ℚ
  snapshotStartedOrder : Option ℚ
  masterLeverage : Option ℚ
  desiredLeverage : Option ℚ
  leverageSyncOnly : Bool
  ambiguitySafeReduction : Bool

/-! ## The reconciler's side -/

/-- `base_target` of one market: the master's exposure copied, where there is one and everything it
is computed from is positive. -/
def baseTarget (master : MasterExposure) (follower : FollowerState) (followerMark : ℚ) : ℚ :=
  if master.positionSize ≠ 0 ∧ 0 < master.eligibleEquity ∧ 0 < master.markPrice ∧
      0 < followerMark then
    computeTarget master follower followerMark
  else 0

/-- `desired_target` of one market: the base target under the AI factor, behind the check against
the profit-exit memory. -/
def protectedTarget (evidence : ProfitExitEvidence) (scope : ProfitExitScope)
    (masterNetwork : Network) (boundary : Option ℤ) (master : MasterExposure)
    (follower : FollowerState) (followerMark aiFactor : ℚ) : ℚ :=
  protectedReconcileTarget evidence scope masterNetwork boundary master.positionSize
    follower.currentSize (baseTarget master follower followerMark * aiFactor)

/-- The order of the snapshot, where it is one the source events can be cut at. -/
def reconcileBoundary (i : ReconcileInputs) : Option ℤ :=
  i.snapshotStartedOrder.bind positiveInteger

/-- The multiplier of the profile under the plan's limits. -/
def reconcileMultiplier (i : ReconcileInputs) : ℚ :=
  (resolveEffectiveRisk i.risk.toRiskProfile i.limits none).multiplier

/-- The master as the reconciler sees it. -/
def reconcileMaster (i : ReconcileInputs) : MasterExposure :=
  ⟨i.market.asset, i.masterPosition, i.masterMark, i.masterEquity⟩

/-- The follower as the reconciler sees it. -/
def reconcileFollower (i : ReconcileInputs) : FollowerState :=
  ⟨i.accountEquity, i.unmanagedMargin, i.real, reconcileMultiplier i⟩

/-- The reconciler's target before the AI factor. -/
def reconcileBaseTarget (i : ReconcileInputs) : ℚ :=
  baseTarget (reconcileMaster i) (reconcileFollower i) i.followerMark

/-- The reconciler's target before the check. -/
def reconcileDesiredTarget (i : ReconcileInputs) : ℚ := reconcileBaseTarget i * i.aiFactor

/-- The destination and market whose profit exits the reconciler's check looks at. -/
def reconcileScope (i : ReconcileInputs) : ProfitExitScope :=
  ⟨i.market.userId, i.epochId, .hyperliquid, i.network, i.market.asset⟩

/-- The reconciler's target behind the check. -/
def reconcileProtectedTarget (i : ReconcileInputs) : ℚ :=
  protectedTarget i.evidence (reconcileScope i) i.masterNetwork (reconcileBoundary i)
    (reconcileMaster i) (reconcileFollower i) i.followerMark i.aiFactor

/-! ## The queued job -/

/-- `MIN_AI_EXECUTION_FACTOR`. -/
def minAiExecutionFactor : ℚ := 7 / 10

/-- `_bounded_factor`; a context without a factor is executed at one. -/
def boundedFactor (raw : Option ℚ) : ℚ := max minAiExecutionFactor (min (raw.getD 1) 1)

/-- Persist the conservative target into the execution inputs themselves. -/
def applyAiFactorToJobContext (ctx : JobContext) : JobContext :=
  let factor := boundedFactor ctx.aiExecutionFactor
  if 1 ≤ factor then ctx
  else if ctx.masterPosition = 0 then ctx
  else
    { ctx with
      sourceMasterPosition := some ctx.masterPosition
      masterPosition := ctx.masterPosition * factor }

/-- The context of the queued job, as the reconciler writes it. -/
def reconcileContext (i : ReconcileInputs) : JobContext where
  followerNetwork := some i.network
  masterPosition := i.masterPosition
  masterEquity := i.masterEquity
  masterMarkPrice := i.masterMark
  masterLeverage := i.masterLeverage
  desiredFollowerLeverage := i.desiredLeverage
  masterIntentOrder := (reconcileBoundary i).map (↑)
  masterSnapshotStartedOrder := (reconcileBoundary i).map (↑)
  aiExecutionFactor := some i.aiFactor
  sourceMasterPosition := none
  leverageSyncOnly := i.leverageSyncOnly
  ambiguitySafeReduction := i.ambiguitySafeReduction

/-- The job as it is executed: the context after the insert hook, and the binding to the active
destination that the job gets before it is claimed. -/
def reconcileJob (i : ReconcileInputs) : CopyJob where
  market := i.market
  origin := .reconcile
  context := applyAiFactorToJobContext (reconcileContext i)
  executionEpochId := some i.epochId
  executionProvider := some .hyperliquid
  executionNetwork := some i.network

/-- Nothing the two computations share has changed when the executor reads it. -/
structure Unchanged (i : ReconcileInputs) (r : AttemptReads) : Prop where
  evidence : r.evidence = i.evidence
  masterNetwork : r.masterNetwork = i.masterNetwork
  account : r.accountFound = true
  risk : r.risk = some i.risk
  limits : r.limits = i.limits
  equity : ∃ e, r.equity = some e ∧ e.accountValue = i.accountEquity ∧
    e.unmanagedMargin = i.unmanagedMargin
  followerMark : r.followerMark = some i.followerMark

/-! ## The targets agree -/

lemma boundedFactor_of_mem {f : ℚ} (hlo : minAiExecutionFactor ≤ f) (hhi : f ≤ 1) :
    boundedFactor (some f) = f := by
  simp [boundedFactor, min_eq_left hhi, max_eq_right hlo]

/-- Whatever the factor, the stored position is the scaled one. -/
lemma masterPosition_reconcileJob {i : ReconcileInputs} (hlo : minAiExecutionFactor ≤ i.aiFactor)
    (hhi : i.aiFactor ≤ 1) :
    (reconcileJob i).context.masterPosition = i.masterPosition * i.aiFactor := by
  have hfactor : boundedFactor (reconcileContext i).aiExecutionFactor = i.aiFactor :=
    boundedFactor_of_mem hlo hhi
  simp only [reconcileJob, applyAiFactorToJobContext, hfactor]
  split_ifs with hone hzero
  · rw [le_antisymm hhi hone, mul_one]
    rfl
  · have hposition : i.masterPosition = 0 := hzero
    rw [hposition, zero_mul]
    exact hposition
  · rfl

@[simp] lemma origin_reconcileJob (i : ReconcileInputs) : (reconcileJob i).origin = .reconcile :=
  rfl

/-- The hook touches nothing else the executor reads. -/
lemma context_reconcileJob (i : ReconcileInputs) :
    (reconcileJob i).context.masterEquity = i.masterEquity ∧
      (reconcileJob i).context.masterMarkPrice = i.masterMark ∧
      (reconcileJob i).context.masterSnapshotStartedOrder = (reconcileBoundary i).map (↑) := by
  simp only [reconcileJob, applyAiFactorToJobContext]
  split_ifs <;> exact ⟨rfl, rfl, rfl⟩

/-- Scaling the master's position by a positive factor scales the target. -/
lemma computeTarget_scale {m : MasterExposure} {f : FollowerState} {mark factor : ℚ}
    (hfactor : 0 < factor) :
    computeTarget { m with positionSize := m.positionSize * factor } f mark =
      computeTarget m f mark * factor := by
  have hsign : (0 ≤ m.positionSize * factor) = (0 ≤ m.positionSize) :=
    propext ⟨fun h => le_of_mul_le_mul_right (by simpa using h) hfactor,
      fun h => mul_nonneg h hfactor.le⟩
  unfold computeTarget
  split_ifs
  · rw [zero_mul]
  · simp only [MasterExposure.exposureRatio, MasterExposure.notional, hsign, abs_mul,
      abs_of_pos hfactor]
    split_ifs <;> ring

lemma followerState_congr {m : MasterExposure} {f g : FollowerState} {mark : ℚ}
    (hvalue : f.accountValue = g.accountValue)
    (hunmanaged : f.marginUsedUnmanaged = g.marginUsedUnmanaged)
    (hmultiplier : f.multiplier = g.multiplier) :
    computeTarget m f mark = computeTarget m g mark := by
  simp [computeTarget, FollowerState.eligibleEquity, hvalue, hunmanaged, hmultiplier]

/-- A non-zero desired target comes from positive prices and equity. -/
lemma inputs_pos_of_desired {i : ReconcileInputs} (h : reconcileDesiredTarget i ≠ 0) :
    i.masterPosition ≠ 0 ∧ 0 < i.masterEquity ∧ 0 < i.masterMark ∧ 0 < i.followerMark := by
  by_contra hno
  have hbase : reconcileBaseTarget i = 0 := if_neg hno
  exact h (by rw [reconcileDesiredTarget, hbase, zero_mul])

/-- **The targets agree.**  The executor sizes the job, and its target is the reconciler's. -/
theorem sizeAttempt_reconcileJob {i : ReconcileInputs} {r : AttemptReads}
    (hlo : minAiExecutionFactor ≤ i.aiFactor) (hhi : i.aiFactor ≤ 1)
    (hdesired : reconcileDesiredTarget i ≠ 0) (hr : Unchanged i r) :
    ∃ s, sizeAttempt (reconcileJob i) i.real r = .ok s ∧
      s.sizing.targetSize = reconcileDesiredTarget i := by
  obtain ⟨hposition, hequity, hmaster, hmark⟩ := inputs_pos_of_desired hdesired
  obtain ⟨e, he, hvalue, hunmanaged⟩ := hr.equity
  obtain ⟨hctxEquity, hctxMark, -⟩ := context_reconcileJob i
  have hinputs : readInputs (reconcileJob i) r = .ok (i.risk, e, i.followerMark) := by
    simp [readInputs, hr.account, hr.risk, hctxEquity, hequity.not_ge, he, hr.followerMark,
      hmark.not_ge]
  have heffective : effectiveMasterMark (reconcileJob i).origin
      (reconcileJob i).context.masterMarkPrice i.followerMark (r.masterNetwork = r.network) =
      i.masterMark := by
    rw [hctxMark]
    simp [effectiveMasterMark, hmaster.not_ge, origin_reconcileJob]
  have hfactor : 0 < i.aiFactor := lt_of_lt_of_le (by norm_num [minAiExecutionFactor]) hlo
  refine ⟨_, by simp only [sizeAttempt, hinputs, heffective, if_neg hmaster.not_ge]; rfl, ?_⟩
  dsimp only
  have hbase : reconcileBaseTarget i =
      computeTarget (reconcileMaster i) (reconcileFollower i) i.followerMark :=
    if_pos ⟨hposition, hequity, hmaster, hmark⟩
  rw [plan_targetSize, reconcileDesiredTarget, hbase, ← computeTarget_scale hfactor]
  simp only [attemptMaster, reconcileMaster, hctxEquity, masterPosition_reconcileJob hlo hhi]
  exact followerState_congr hvalue hunmanaged (by rw [hr.limits]; rfl)

/-! ## The checks agree exactly when … -/

/-- The cycle the reconciler's check saw. -/
def reconcileCycle (i : ReconcileInputs) : Option SourceCycle :=
  readCurrentSourceCycle i.evidence.events i.market.asset i.masterNetwork (reconcileBoundary i)
    i.masterPosition

/-- The executor takes the decision the reconciler took: the same target, the same source cycle,
and the fence stops the job exactly when the reconciler's check had replaced the target. -/
structure PlannerExecutorAgree (i : ReconcileInputs) (r : AttemptReads) : Prop where
  target : ∃ s, sizeAttempt (reconcileJob i) i.real r = .ok s ∧
    s.sizing.targetSize = reconcileDesiredTarget i
  cycle : (attemptCycle (reconcileJob i) r).map (·.sourceCycleId) =
    (reconcileCycle i).map (·.sourceCycleId)
  decision : retargetFence (reconcileJob i) i.real (reconcileDesiredTarget i) r = none ↔
    reconcileProtectedTarget i = reconcileDesiredTarget i

/-- The recorded events prove no cycle that ends at the master's position, or at the scaled one. -/
def NoChainAtPosition (i : ReconcileInputs) : Prop :=
  ∀ boundary, reconcileBoundary i = some boundary → ∀ chain,
    provableChain (sourceCycleEvents i.evidence.events i.market.asset boundary) i.market.asset
      i.masterNetwork = some chain →
    chain.latestPosition ≠ i.masterPosition ∧
      chain.latestPosition ≠ i.masterPosition * i.aiFactor

lemma positiveInteger_eq_some {q : ℚ} {n : ℤ} : positiveInteger q = some n ↔ 0 < n ∧ q = n := by
  have htruncate : ∀ m : ℤ, truncate (m : ℚ) = m := by
    intro m
    simp [truncate]
  unfold positiveInteger
  constructor
  · intro h
    split_ifs at h with hno
    obtain rfl := Option.some.inj h
    push Not at hno
    exact hno
  · rintro ⟨hpos, rfl⟩
    simp [htruncate, hpos.not_ge]

/-- The executor reads the source cycle at the reconciler's boundary. -/
lemma snapshotBoundary_reconcileJob (i : ReconcileInputs) :
    snapshotBoundary (reconcileJob i) = reconcileBoundary i := by
  obtain ⟨-, -, horder⟩ := context_reconcileJob i
  unfold snapshotBoundary
  rw [origin_reconcileJob, if_neg (by decide), horder]
  cases hboundary : reconcileBoundary i with
  | none => rfl
  | some n =>
      obtain ⟨q, -, hq⟩ := Option.bind_eq_some_iff.1 hboundary
      exact positiveInteger_eq_some.2 ⟨(positiveInteger_eq_some.1 hq).1, rfl⟩

lemma reconcileBoundary_pos {i : ReconcileInputs} {boundary : ℤ}
    (h : reconcileBoundary i = some boundary) : 0 < boundary := by
  obtain ⟨q, -, hq⟩ := Option.bind_eq_some_iff.1 h
  exact (positiveInteger_eq_some.1 hq).1

section Agreement

variable {i : ReconcileInputs} {r : AttemptReads}

/-- The executor's cycle is the reconciler's, read at the scaled position. -/
lemma attemptCycle_reconcileJob (hlo : minAiExecutionFactor ≤ i.aiFactor) (hhi : i.aiFactor ≤ 1)
    (hr : Unchanged i r) :
    attemptCycle (reconcileJob i) r =
      readCurrentSourceCycle i.evidence.events i.market.asset i.masterNetwork
        (reconcileBoundary i) (i.masterPosition * i.aiFactor) := by
  rw [attemptCycle, hr.evidence, hr.masterNetwork, snapshotBoundary_reconcileJob,
    masterPosition_reconcileJob hlo hhi]
  rfl

/-- Two readings of one boundary see the same cycle when no chain ends at either position. -/
lemma cycles_agree_of_noChain (hchain : NoChainAtPosition i) (hlo : minAiExecutionFactor ≤ i.aiFactor)
    (hhi : i.aiFactor ≤ 1) (hr : Unchanged i r) :
    (attemptCycle (reconcileJob i) r).map (·.sourceCycleId) =
      (reconcileCycle i).map (·.sourceCycleId) := by
  have hnone : ∀ position, (∀ boundary chain, reconcileBoundary i = some boundary →
      provableChain (sourceCycleEvents i.evidence.events i.market.asset boundary) i.market.asset
        i.masterNetwork = some chain → chain.latestPosition ≠ position) →
      (readCurrentSourceCycle i.evidence.events i.market.asset i.masterNetwork
        (reconcileBoundary i) position).map (·.sourceCycleId) = none := by
    intro position hno
    refine Option.eq_none_iff_forall_ne_some.2 fun id hid => ?_
    obtain ⟨-, boundary, chain, hboundary, -, hc, hlatest, -⟩ := readCurrentSourceCycle_id.1 hid
    exact hno boundary chain hboundary hc hlatest
  rw [attemptCycle_reconcileJob hlo hhi hr, reconcileCycle,
    hnone _ fun boundary chain hb hc => (hchain boundary hb chain hc).2,
    hnone _ fun boundary chain hb hc => (hchain boundary hb chain hc).1]

/-- A proven cycle is lost, or found, by any factor below one. -/
lemma factor_eq_one_of_cycles_agree (hposition : i.masterPosition ≠ 0) {boundary : ℤ}
    (hboundary : reconcileBoundary i = some boundary) {chain : SourceChain}
    (hchain : provableChain (sourceCycleEvents i.evidence.events i.market.asset boundary)
      i.market.asset i.masterNetwork = some chain)
    (hlatest : chain.latestPosition = i.masterPosition ∨
      chain.latestPosition = i.masterPosition * i.aiFactor)
    (hlo : minAiExecutionFactor ≤ i.aiFactor) (hhi : i.aiFactor ≤ 1) (hr : Unchanged i r)
    (hcycle : (attemptCycle (reconcileJob i) r).map (·.sourceCycleId) =
      (reconcileCycle i).map (·.sourceCycleId)) :
    i.aiFactor = 1 := by
  have hfactor : i.aiFactor ≠ 0 :=
    (lt_of_lt_of_le (by norm_num [minAiExecutionFactor]) hlo).ne'
  have hsees : ∀ position ≠ 0, chain.latestPosition = position →
      (readCurrentSourceCycle i.evidence.events i.market.asset i.masterNetwork
        (reconcileBoundary i) position).map (·.sourceCycleId) = some chain.sourceCycleId :=
    fun position hne hlatest => readCurrentSourceCycle_id.2
      ⟨hne, boundary, chain, hboundary, reconcileBoundary_pos hboundary, hchain, hlatest, rfl⟩
  have hends : ∀ position, (readCurrentSourceCycle i.evidence.events i.market.asset
      i.masterNetwork (reconcileBoundary i) position).map (·.sourceCycleId) =
        some chain.sourceCycleId → chain.latestPosition = position := by
    intro position h
    obtain ⟨-, boundary', chain', hboundary', -, hchain', hlatest', -⟩ :=
      readCurrentSourceCycle_id.1 h
    obtain rfl := Option.some.inj (hboundary.symm.trans hboundary')
    obtain rfl := Option.some.inj (hchain.symm.trans hchain')
    exact hlatest'
  rw [attemptCycle_reconcileJob hlo hhi hr, reconcileCycle] at hcycle
  have hboth : i.masterPosition = i.masterPosition * i.aiFactor := by
    rcases hlatest with h | h
    · exact h.symm.trans (hends _ (hcycle.trans (hsees _ hposition h)))
    · exact (hends _ (hcycle.symm.trans (hsees _ (mul_ne_zero hposition hfactor) h))).symm.trans h
  exact mul_left_cancel₀ hposition (by rw [mul_one]; exact hboth.symm)

/-- With the same cycle the fence repeats the reconciler's decision. -/
lemma retargetFence_reconcileJob (hdesired : reconcileDesiredTarget i ≠ 0)
    (hlo : minAiExecutionFactor ≤ i.aiFactor) (hhi : i.aiFactor ≤ 1) (hr : Unchanged i r)
    (hcycle : (attemptCycle (reconcileJob i) r).map (·.sourceCycleId) =
      (reconcileCycle i).map (·.sourceCycleId)) :
    retargetFence (reconcileJob i) i.real (reconcileDesiredTarget i) r = none ↔
      reconcileProtectedTarget i = reconcileDesiredTarget i := by
  rw [attemptCycle_reconcileJob hlo hhi hr, reconcileCycle] at hcycle
  have hprotected : protectedReconcileTarget r.evidence (reconcileScope i) r.masterNetwork
      (snapshotBoundary (reconcileJob i)) (reconcileJob i).context.masterPosition i.real
      (reconcileDesiredTarget i) = reconcileProtectedTarget i := by
    rw [hr.evidence, hr.masterNetwork, snapshotBoundary_reconcileJob,
      masterPosition_reconcileJob hlo hhi]
    exact protectedReconcileTarget_eq_of_cycleId hcycle
  have hscope : profitExitScope (reconcileJob i) = some (reconcileScope i) := rfl
  simp [retargetFence, JobOrigin.isStrategy, hdesired, hscope, hprotected]

end Agreement

/-- **When the executor repeats the reconciler's decision.**  With nothing changed in between it
does so exactly when the factor is one, or the events prove no cycle ending at the position either
of the two checks compares with. -/
theorem planner_executor_agree_iff (i : ReconcileInputs) (r : AttemptReads)
    (hlo : 7 / 10 ≤ i.aiFactor) (hhi : i.aiFactor ≤ 1) (hdesired : reconcileDesiredTarget i ≠ 0)
    (hr : Unchanged i r) :
    PlannerExecutorAgree i r ↔ i.aiFactor = 1 ∨ NoChainAtPosition i := by
  have hposition := (inputs_pos_of_desired hdesired).1
  constructor
  · intro hagree
    by_contra hno
    push Not at hno
    obtain ⟨hfactor, hchain⟩ := hno
    unfold NoChainAtPosition at hchain
    push Not at hchain
    obtain ⟨boundary, hboundary, chain, hproven, hlatest⟩ := hchain
    refine hfactor (factor_eq_one_of_cycles_agree hposition hboundary hproven ?_ hlo hhi hr
      hagree.cycle)
    exact or_iff_not_imp_left.2 hlatest
  · intro hcondition
    have hcycle : (attemptCycle (reconcileJob i) r).map (·.sourceCycleId) =
        (reconcileCycle i).map (·.sourceCycleId) := by
      rcases hcondition with hone | hchain
      · rw [attemptCycle_reconcileJob hlo hhi hr, reconcileCycle, hone, mul_one]
      · exact cycles_agree_of_noChain hchain hlo hhi hr
    exact ⟨sizeAttempt_reconcileJob hlo hhi hdesired hr, hcycle,
      retargetFence_reconcileJob hdesired hlo hhi hr hcycle⟩

/-! ## A new cycle under a factor -/

/-- The master closed the cycle of event 1, which the follower had left in profit, and opened a
new one with event 3. -/
def newCycle : ProfitExitEvidence where
  events :=
    [⟨1, 0, some .mainnet, some 3, 3, 0, 2⟩, ⟨2, 0, some .mainnet, some 5, 5, 2, 0⟩,
     ⟨3, 0, some .mainnet, some 7, 7, 0, 2⟩]
  decisions :=
    [{ id := 1
       scope := ⟨0, 0, .hyperliquid, .mainnet, 0⟩
       action := .closeProfit
       intentState := some .completed
       sourceCycleId := ⟨.mainnet, 0, 1⟩
       decidedAt := 4
       createdAt := 4 }]

/-- A flat follower of the new cycle. -/
def newCycleInputs (factor : ℚ) : ReconcileInputs where
  market := ⟨0, 0⟩
  epochId := 0
  network := .mainnet
  masterNetwork := .mainnet
  evidence := newCycle
  masterPosition := 2
  masterEquity := 100
  masterMark := 10
  followerMark := 10
  accountEquity := 1000
  unmanagedMargin := 0
  real := 0
  risk := ⟨⟨1, 1000, 5000, 2500, 3, 5, 10⟩, false, [], [], 50⟩
  limits := ⟨none, none, none⟩
  aiFactor := factor
  snapshotStartedOrder := some 10
  masterLeverage := some 3
  desiredLeverage := some 3
  leverageSyncOnly := false
  ambiguitySafeReduction := false

/-- What the executor reads, unchanged. -/
def newCycleReads : AttemptReads where
  now := 20
  user := some ⟨true, .active⟩
  destinationMatches := true
  network := .mainnet
  adapterNetwork := .mainnet
  masterNetwork := .mainnet
  accountFound := true
  risk := some ⟨⟨1, 1000, 5000, 2500, 3, 5, 10⟩, false, [], [], 50⟩
  drawdownHalt := false
  dailyLossHalt := false
  nearLiquidation := false
  credential := some true
  entitled := true
  limits := ⟨none, none, none⟩
  equity := some ⟨1000, 1000, 0, 15⟩
  followerMark := some 10
  spec := ⟨2, 10, false, 10⟩
  evidence := newCycle
  managedLedgers := []
  globalPause := false
  emergencyStop := false
  liveTradingAllowed := true
  leverageUpdated := true

lemma newCycle_unchanged (factor : ℚ) : Unchanged (newCycleInputs factor) newCycleReads :=
  ⟨rfl, rfl, rfl, rfl, rfl, ⟨_, rfl, rfl, rfl⟩, rfl⟩

/-- At factor one the new cycle is copied by both. -/
theorem planner_executor_agree_newCycle : PlannerExecutorAgree (newCycleInputs 1) newCycleReads :=
  (planner_executor_agree_iff (newCycleInputs 1) newCycleReads (by norm_num [newCycleInputs])
    (by norm_num [newCycleInputs]) (by decide +kernel) (newCycle_unchanged 1)).2 (Or.inl rfl)

/-- At factor `9/10` the reconciler proves the new cycle and queues the job, and the executor,
which compares the scaled position with the events, takes it for the old cycle and stops it. -/
theorem factor_suppresses_newCycle :
    reconcileDesiredTarget (newCycleInputs (9 / 10)) ≠ 0 ∧
      Unchanged (newCycleInputs (9 / 10)) newCycleReads ∧
      reconcileProtectedTarget (newCycleInputs (9 / 10)) =
        reconcileDesiredTarget (newCycleInputs (9 / 10)) ∧
      planAttempt (reconcileJob (newCycleInputs (9 / 10))) 0 newCycleReads =
        .stop (.finish .skipped .sameCycleProfitExit) ∧
      ¬ PlannerExecutorAgree (newCycleInputs (9 / 10)) newCycleReads := by
  have hpass : reconcileProtectedTarget (newCycleInputs (9 / 10)) =
      reconcileDesiredTarget (newCycleInputs (9 / 10)) := by decide +kernel
  refine ⟨by decide +kernel, newCycle_unchanged _, hpass, by decide +kernel, ?_⟩
  intro hagree
  have hfence := hagree.decision.2 hpass
  have hstop : retargetFence (reconcileJob (newCycleInputs (9 / 10))) 0
      (reconcileDesiredTarget (newCycleInputs (9 / 10))) newCycleReads =
        some (.finish .skipped .sameCycleProfitExit) := by decide +kernel
  cases hstop.symm.trans hfence

end HyperCopy

import HyperCopy.Executor.Planning

/-!
# The anti-reopen fence at the execution boundary

A profit exit closes a position that the master still holds.  Until the master's source cycle has
provably changed, neither the reconciler nor an event may buy that position back.  The guard's
laws are in `ProfitExit.Memory`; here they meet the executor: `planAttempt` turns a suppressed
target into a finished job, so no order leaves for it.

The statements quantify over the whole tables of events and decisions, in whatever order their
rows were written.
-/

namespace HyperCopy

section Fence

variable {job : CopyJob} {current : ℚ} {r : AttemptReads}

/-- An admitted job is bound to its user's Hyperliquid destination. -/
lemma provider_of_admitJob (h : admitJob job r = none) :
    job.executionProvider = some .hyperliquid := by
  unfold admitJob at h
  split_ifs at h with _ _ hprovider
  exact not_not.1 hprovider

/-- A strategy job that retargets a held cycle is stopped. -/
lemma retargetFence_of_held {scope : ProfitExitScope} {target : ℚ}
    (hscope : profitExitScope job = some scope)
    (hprovider : scope.executionProvider = .hyperliquid) (hstrategy : job.origin.isStrategy)
    (htarget : target ≠ 0) (hmove : target ≠ current) {d : ProfitExitDecision}
    (hd : d ∈ r.evidence.decisions) (hdscope : d.scope = scope) (hop : d.operational)
    (hheld : CycleHeldBy (attemptCycle job r) d) :
    retargetFence job current target r = some (.finish .skipped .sameCycleProfitExit) := by
  have hasset : scope.asset = job.market.asset := by
    unfold profitExitScope at hscope
    split at hscope
    · obtain rfl := Option.some.inj hscope
      rfl
    · cases hscope
  have hprotected : protectedReconcileTarget r.evidence scope r.masterNetwork (snapshotBoundary job)
      job.context.masterPosition current target = current := by
    refine protectedReconcileTarget_suppressed hprovider htarget hd hdscope hop ?_
    rw [hasset]
    exact hheld
  simp [retargetFence, hstrategy, htarget, hscope, hprotected, Ne.symm hmove]

/-- No order is planned for a strategy job while an operational exit holds its cycle: either the
target is the position already, or the fence stops the attempt. -/
lemma planAttempt_ne_submit_of_held {scope : ProfitExitScope}
    (hscope : profitExitScope job = some scope) (hstrategy : job.origin.isStrategy)
    {d : ProfitExitDecision} (hd : d ∈ r.evidence.decisions) (hdscope : d.scope = scope)
    (hop : d.operational) (hheld : CycleHeldBy (attemptCycle job r) d)
    (htarget : ∀ s, sizeAttempt job current r = .ok s → s.sizing.targetSize ≠ 0)
    (submission : Submission) : planAttempt job current r ≠ .submit submission := by
  intro hsubmit
  obtain ⟨status, s, -, hadmit, -, hsize, hfence, -, -, hstop, -⟩ :=
    planAttempt_submit_iff.1 hsubmit
  have hprovider : scope.executionProvider = .hyperliquid := by
    have hjob := provider_of_admitJob hadmit
    unfold profitExitScope at hscope
    split at hscope
    · rename_i hp _
      obtain rfl := Option.some.inj hscope
      exact Option.some.inj (hp.symm.trans hjob)
    · cases hscope
  by_cases hmove : s.sizing.targetSize = current
  · obtain ⟨-, masterMark, -, hsizing⟩ := sizeAttempt_ok hsize
    have honTarget : s.sizing.toSizingLeg.actionable = false := by
      rw [hsizing] at hmove ⊢
      rw [plan_targetSize] at hmove
      exact plan_not_actionable_of_onTarget hmove
    have hskip : (evaluate s.sizing (attemptRiskContext job current s status r)).action = .skip :=
      evaluate_not_actionable honTarget
    simp [submissionStop, hskip, RiskAction.passes] at hstop
  · rw [retargetFence_of_held hscope hprovider hstrategy (htarget s hsize) hmove hd hdscope hop
      hheld] at hfence
    cases hfence

end Fence

/-- The Hyperliquid scope of one follower market in one destination epoch. -/
def hyperliquidScope (userId : UserId) (epochId : EpochId) (network : Network) (asset : Asset) :
    ProfitExitScope :=
  ⟨userId, epochId, .hyperliquid, network, asset⟩

/-- **Anti-reopen.**  For an operational `CLOSE_PROFIT` decision `d` of a follower market:
while the source cycle is `d`'s or cannot be proven, a non-zero target is replaced by the
follower's position and no event or reconcile job of the market gets an order planned; a target of
zero passes; once a cycle is proven that has no operational decision, targets pass; and for a
proven cycle only the decisions of that cycle matter. -/
theorem anti_reopen (evidence : ProfitExitEvidence) (userId : UserId) (epochId : EpochId)
    (network masterNetwork : Network) (asset : Asset) (d : ProfitExitDecision)
    (hd : d ∈ evidence.decisions)
    (hdscope : d.scope = hyperliquidScope userId epochId network asset) (hop : d.operational) :
    let scope := hyperliquidScope userId epochId network asset
    (∀ boundary masterPosition position desired,
        CycleHeldBy
          (readCurrentSourceCycle evidence.events asset masterNetwork boundary masterPosition) d →
        desired ≠ 0 →
        protectedReconcileTarget evidence scope masterNetwork boundary masterPosition position
          desired = position) ∧
      (∀ (job : CopyJob) (current : ℚ) (r : AttemptReads), profitExitScope job = some scope →
        job.origin = .event ∨ job.origin = .reconcile → r.evidence = evidence →
        r.masterNetwork = masterNetwork → CycleHeldBy (attemptCycle job r) d →
        (∀ s, sizeAttempt job current r = .ok s → s.sizing.targetSize ≠ 0) →
        ∀ submission, planAttempt job current r ≠ .submit submission) ∧
      (∀ boundary masterPosition position,
        protectedReconcileTarget evidence scope masterNetwork boundary masterPosition position 0
          = 0) ∧
      (∀ boundary masterPosition position desired c,
        readCurrentSourceCycle evidence.events asset masterNetwork boundary masterPosition
          = some c →
        (∀ d' ∈ evidence.decisions, d'.scope = scope → d'.operational →
          d'.sourceCycleId ≠ c.sourceCycleId) →
        protectedReconcileTarget evidence scope masterNetwork boundary masterPosition position
          desired = desired) ∧
      (∀ boundary masterPosition position desired c decisions',
        readCurrentSourceCycle evidence.events asset masterNetwork boundary masterPosition
          = some c →
        (evidence.decisions.filter fun d' => d'.sourceCycleId = c.sourceCycleId) =
          (decisions'.filter fun d' => d'.sourceCycleId = c.sourceCycleId) →
        protectedReconcileTarget evidence scope masterNetwork boundary masterPosition position
            desired =
          protectedReconcileTarget { evidence with decisions := decisions' } scope masterNetwork
            boundary masterPosition position desired) := by
  intro scope
  refine ⟨?_, ?_, ?_, ?_, ?_⟩
  · intro boundary masterPosition position desired hheld hdesired
    exact protectedReconcileTarget_suppressed rfl hdesired hd hdscope hop hheld
  · intro job current r hscope horigin hevidence hnetwork hheld htarget submission
    have hstrategy : job.origin.isStrategy := by
      rcases horigin with h | h <;> rw [h] <;> rfl
    subst hevidence hnetwork
    exact planAttempt_ne_submit_of_held hscope hstrategy hd hdscope hop hheld htarget submission
  · intro boundary masterPosition position
    exact protectedReconcileTarget_zero
  · intro boundary masterPosition position desired c hproven hother
    exact protectedReconcileTarget_of_other_cycle hproven hother
  · intro boundary masterPosition position desired c decisions' hproven hsame
    exact protectedReconcileTarget_congr hproven hsame

/-! ## A cycle that was exited in profit -/

/-- The master opens two units; the follower's copy of it was closed in profit. -/
def exitedCycle : ProfitExitEvidence where
  events :=
    [{ id := 1
       asset := 0
       network := some .mainnet
       causalOrder := some 3
       eventTs := 3
       startPosition := 0
       positionAfter := 2 }]
  decisions :=
    [{ id := 1
       scope := hyperliquidScope 0 0 .mainnet 0
       action := .closeProfit
       intentState := some .completed
       sourceCycleId := ⟨.mainnet, 0, 1⟩
       decidedAt := 5
       createdAt := 5 }]

/-- A snapshot taken in that cycle may not rebuy: the follower stays flat. -/
theorem anti_reopen_exitedCycle :
    readCurrentSourceCycle exitedCycle.events 0 .mainnet (some 10) 2 =
        some ⟨⟨.mainnet, 0, 1⟩, 3, 2, .long⟩ ∧
      protectedReconcileTarget exitedCycle (hyperliquidScope 0 0 .mainnet 0) .mainnet (some 10) 2 0
        1 = 0 := by
  have hcycle : readCurrentSourceCycle exitedCycle.events 0 .mainnet (some 10) 2 =
      some ⟨⟨.mainnet, 0, 1⟩, 3, 2, .long⟩ := by rfl
  refine ⟨hcycle, ?_⟩
  refine (anti_reopen exitedCycle 0 0 .mainnet .mainnet 0 _ List.mem_cons_self rfl rfl).1 (some 10)
    2 0 1 ?_ one_ne_zero
  intro c hc
  rw [hcycle] at hc
  obtain rfl := Option.some.inj hc
  rfl

end HyperCopy

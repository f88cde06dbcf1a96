import HyperCopy.ProfitExit.SourceCycle

/-!
# Durable anti-reopen memory

When the engine has closed a position in profit, ordinary copying must not buy it back while the
master is still in the same source cycle.  The memory is the table of profit-exit decisions:
`operationalProfitExitMemory` looks up the latest operational `CLOSE_PROFIT` decision of a scope,
of one cycle where the current cycle is proven and of any cycle where it is not, and
`protectedReconcileTarget` replaces a non-zero target by the follower's current position where
that memory applies.

The three laws of the guard are `protectedReconcileTarget_zero` (a target of zero always passes),
`protectedReconcileTarget_suppressed` (the decision's cycle, or a cycle that cannot be proven) and
`protectedReconcileTarget_of_other_cycle` (a proven cycle without a decision of its own).
-/

namespace HyperCopy

/-- What a decision says. -/
inductive ProfitExitAction
  | hold
  | closeProfit
  | abstain
deriving DecidableEq, Repr

/-- How far the intent of a decision has come. -/
inductive ProfitExitIntentState
  | pending
  | partialExit
  | completed
  | failed
  | ambiguous
deriving DecidableEq, Repr

namespace ProfitExitIntentState

/-- The states in which an executable exit may have touched the position. -/
def operational : ProfitExitIntentState → Bool
  | pending | partialExit | completed | ambiguous => true
  | failed => false

end ProfitExitIntentState

/-- The primary key of a decision. -/
abbrev DecisionId := ℕ

/-- A scope: one follower, one destination epoch, one market. -/
structure ProfitExitScope where
  userId : UserId
  executionEpochId : EpochId
  executionProvider : ExecutionProvider
  executionNetwork : Network
  asset : Asset
deriving DecidableEq, Repr

/-- The columns of a decision the memory reads.  `intentState` is null for decisions that were
never executable. -/
structure ProfitExitDecision where
  id : DecisionId
  scope : ProfitExitScope
  action : ProfitExitAction
  intentState : Option ProfitExitIntentState
  sourceCycleId : SourceCycleId
  decidedAt : ℕ
  createdAt : ℕ
deriving DecidableEq, Repr

/-- An operational `CLOSE_PROFIT` decision. -/
def ProfitExitDecision.operational (d : ProfitExitDecision) : Bool :=
  d.action = .closeProfit && d.intentState.any (·.operational)

/-- `ORDER BY decided_at DESC, created_at DESC`. -/
def ProfitExitDecision.newer (d d' : ProfitExitDecision) : Bool :=
  d'.decidedAt < d.decidedAt || (d'.decidedAt = d.decidedAt && d'.createdAt < d.createdAt)

/-- The first row of an ordered query, if there is one. -/
def latestDecision : List ProfitExitDecision → Option ProfitExitDecision
  | [] => none
  | d :: ds =>
    match latestDecision ds with
    | none => some d
    | some best => if best.newer d then some best else some d

/-- The rows of the memory query: one cycle's where the cycle is known, the scope's otherwise. -/
def memoryRows (decisions : List ProfitExitDecision) (scope : ProfitExitScope)
    (sourceCycleId : Option SourceCycleId) : List ProfitExitDecision :=
  decisions.filter fun d => d.scope = scope && d.operational &&
    (match sourceCycleId with
      | none => true
      | some id => d.sourceCycleId = id)

/-- The newest decision of the scope and cycle that still counts. -/
def operationalProfitExitMemory (decisions : List ProfitExitDecision) (scope : ProfitExitScope)
    (sourceCycleId : Option SourceCycleId) : Option ProfitExitDecision :=
  latestDecision (memoryRows decisions scope sourceCycleId)

/-- Ordinary copying may not retarget a cycle an executable exit already touched. -/
def suppressesSameCycleRetarget (intentState : Option ProfitExitIntentState)
    (intentSourceCycleId currentSourceCycleId : SourceCycleId) : Bool :=
  intentSourceCycleId = currentSourceCycleId && intentState.any (·.operational)

/-- `profit_exit_reconcile_target`: hold the position in the cycle that was left in profit. -/
def profitExitReconcileTarget (desiredTarget currentPosition : ℚ)
    (currentSourceCycle : Option SourceCycle) (intentState : Option ProfitExitIntentState)
    (intentSourceCycleId : SourceCycleId) : ℚ :=
  if desiredTarget = 0 then desiredTarget
  else if !(intentState.any (·.operational)) then desiredTarget
  else
    match currentSourceCycle with
    | none => currentPosition
    | some cycle =>
      if suppressesSameCycleRetarget intentState intentSourceCycleId cycle.sourceCycleId then
        currentPosition
      else desiredTarget

/-- The evidence the guard reads: the recorded master events and the decisions. -/
structure ProfitExitEvidence where
  events : List MasterEvent
  decisions : List ProfitExitDecision

/-- Apply the memory to a target derived from the master. -/
def protectedReconcileTarget (evidence : ProfitExitEvidence) (scope : ProfitExitScope)
    (masterNetwork : Network) (snapshotStartedOrder : Option ℤ)
    (currentMasterPosition currentPosition desiredTarget : ℚ) : ℚ :=
  if desiredTarget = 0 then desiredTarget
  else if scope.executionProvider ≠ .hyperliquid then desiredTarget
  else
    let currentCycle := readCurrentSourceCycle evidence.events scope.asset masterNetwork
      snapshotStartedOrder currentMasterPosition
    match operationalProfitExitMemory evidence.decisions scope
        (currentCycle.map (·.sourceCycleId)) with
    | none => desiredTarget
    | some memory =>
      profitExitReconcileTarget desiredTarget currentPosition currentCycle memory.intentState
        memory.sourceCycleId

/-! ## The lookup -/

lemma latestDecision_mem {ds : List ProfitExitDecision} {d : ProfitExitDecision}
    (h : latestDecision ds = some d) : d ∈ ds := by
  induction ds with
  | nil => cases h
  | cons e es ih =>
      simp only [latestDecision] at h
      split at h
      · obtain rfl := Option.some.inj h
        exact List.mem_cons_self
      · rename_i best hbest
        split_ifs at h
        · obtain rfl := Option.some.inj h
          exact List.mem_cons_of_mem _ (ih hbest)
        · obtain rfl := Option.some.inj h
          exact List.mem_cons_self

lemma latestDecision_eq_none {ds : List ProfitExitDecision} :
    latestDecision ds = none ↔ ds = [] := by
  cases ds with
  | nil => simp [latestDecision]
  | cons d ds =>
      simp only [latestDecision, reduceCtorEq, iff_false]
      split
      · simp
      · split_ifs <;> simp

lemma mem_memoryRows {decisions : List ProfitExitDecision} {scope : ProfitExitScope}
    {id : Option SourceCycleId} {d : ProfitExitDecision} :
    d ∈ memoryRows decisions scope id ↔ d ∈ decisions ∧ d.scope = scope ∧ d.operational ∧
      ∀ c, id = some c → d.sourceCycleId = c := by
  cases id with
  | none => simp [memoryRows]
  | some c =>
      simp only [memoryRows, List.mem_filter, Bool.and_eq_true, decide_eq_true_eq,
        Option.some.injEq, forall_eq', and_assoc]

/-- What the memory finds is an operational decision of the scope and of the cycle asked for. -/
lemma operationalProfitExitMemory_spec {decisions : List ProfitExitDecision}
    {scope : ProfitExitScope} {id : Option SourceCycleId} {m : ProfitExitDecision}
    (h : operationalProfitExitMemory decisions scope id = some m) :
    m ∈ decisions ∧ m.scope = scope ∧ m.operational ∧ ∀ c, id = some c → m.sourceCycleId = c :=
  mem_memoryRows.1 (latestDecision_mem h)

/-- It finds one exactly when there is one. -/
lemma operationalProfitExitMemory_eq_none {decisions : List ProfitExitDecision}
    {scope : ProfitExitScope} {id : Option SourceCycleId} :
    operationalProfitExitMemory decisions scope id = none ↔
      ∀ d ∈ decisions, d.scope = scope → d.operational →
        ∃ c, id = some c ∧ d.sourceCycleId ≠ c := by
  rw [operationalProfitExitMemory, latestDecision_eq_none, List.eq_nil_iff_forall_not_mem]
  simp only [mem_memoryRows]
  constructor
  · intro h d hd hscope hop
    by_contra hno
    push Not at hno
    exact h d ⟨hd, hscope, hop, hno⟩
  · rintro h d ⟨hd, hscope, hop, hid⟩
    obtain ⟨c, hc, hne⟩ := h d hd hscope hop
    exact hne (hid c hc)

/-! ## The laws of the guard -/

section Laws

variable {evidence : ProfitExitEvidence} {scope : ProfitExitScope} {masterNetwork : Network}
  {boundary : Option ℤ} {masterPosition position desired : ℚ}

/-- A target of zero always passes. -/
lemma protectedReconcileTarget_zero :
    protectedReconcileTarget evidence scope masterNetwork boundary masterPosition position 0 = 0 := by
  simp [protectedReconcileTarget]

/-- The guard either passes the target or holds the current position. -/
lemma protectedReconcileTarget_cases :
    protectedReconcileTarget evidence scope masterNetwork boundary masterPosition position desired
        = desired ∨
      protectedReconcileTarget evidence scope masterNetwork boundary masterPosition position desired
        = position := by
  unfold protectedReconcileTarget
  split_ifs
  · exact Or.inl rfl
  · exact Or.inl rfl
  · dsimp only
    split
    · exact Or.inl rfl
    · unfold profitExitReconcileTarget
      split_ifs
      · exact Or.inl rfl
      · split
        · exact Or.inr rfl
        · split_ifs
          · exact Or.inr rfl
          · exact Or.inl rfl

/-- The current cycle is the decision's, or is not proven. -/
def CycleHeldBy (cycle : Option SourceCycle) (d : ProfitExitDecision) : Prop :=
  ∀ c, cycle = some c → c.sourceCycleId = d.sourceCycleId

/-- While the cycle is held by an operational decision, a non-zero target is replaced by the
position the follower has. -/
lemma protectedReconcileTarget_suppressed (hprovider : scope.executionProvider = .hyperliquid)
    (hdesired : desired ≠ 0) {d : ProfitExitDecision} (hd : d ∈ evidence.decisions)
    (hscope : d.scope = scope) (hop : d.operational)
    (hcycle : CycleHeldBy (readCurrentSourceCycle evidence.events scope.asset masterNetwork boundary
      masterPosition) d) :
    protectedReconcileTarget evidence scope masterNetwork boundary masterPosition position desired
      = position := by
  unfold protectedReconcileTarget
  rw [if_neg hdesired, if_neg (not_not.2 hprovider)]
  generalize readCurrentSourceCycle evidence.events scope.asset masterNetwork boundary
    masterPosition = cycle at hcycle
  dsimp only
  cases hmemory : operationalProfitExitMemory evidence.decisions scope
      (cycle.map (·.sourceCycleId)) with
  | none =>
      obtain ⟨c, hc, hne⟩ := operationalProfitExitMemory_eq_none.1 hmemory d hd hscope hop
      obtain ⟨c', rfl, rfl⟩ := Option.map_eq_some_iff.1 hc
      exact absurd (hcycle c' rfl).symm hne
  | some m =>
      obtain ⟨-, -, hmop, hmcycle⟩ := operationalProfitExitMemory_spec hmemory
      have hstate : m.intentState.any (·.operational) = true := by
        simp only [ProfitExitDecision.operational, Bool.and_eq_true] at hmop
        exact hmop.2
      dsimp only [profitExitReconcileTarget]
      rw [if_neg hdesired, hstate]
      cases cycle with
      | none => rfl
      | some c =>
          have hid : m.sourceCycleId = c.sourceCycleId := hmcycle _ rfl
          simp [suppressesSameCycleRetarget, hid, hstate]

/-- Once a cycle is proven that no operational decision belongs to, targets pass. -/
lemma protectedReconcileTarget_of_other_cycle {c : SourceCycle}
    (hproven : readCurrentSourceCycle evidence.events scope.asset masterNetwork boundary
      masterPosition = some c)
    (hother : ∀ d ∈ evidence.decisions, d.scope = scope → d.operational →
      d.sourceCycleId ≠ c.sourceCycleId) :
    protectedReconcileTarget evidence scope masterNetwork boundary masterPosition position desired
      = desired := by
  unfold protectedReconcileTarget
  split_ifs
  · rfl
  · rfl
  · have hnone : operationalProfitExitMemory evidence.decisions scope (some c.sourceCycleId) = none :=
      operationalProfitExitMemory_eq_none.2 fun d hd hscope hop =>
        ⟨c.sourceCycleId, rfl, hother d hd hscope hop⟩
    simp [hproven, hnone]

/-- The guard sees the cycle only through its identity. -/
lemma protectedReconcileTarget_eq_of_cycleId {boundary' : Option ℤ} {masterPosition' : ℚ}
    (hcycle : (readCurrentSourceCycle evidence.events scope.asset masterNetwork boundary
        masterPosition).map (·.sourceCycleId) =
      (readCurrentSourceCycle evidence.events scope.asset masterNetwork boundary'
        masterPosition').map (·.sourceCycleId)) :
    protectedReconcileTarget evidence scope masterNetwork boundary masterPosition position desired =
      protectedReconcileTarget evidence scope masterNetwork boundary' masterPosition' position
        desired := by
  have hexit : ∀ (c c' : Option SourceCycle) (m : ProfitExitDecision),
      c.map (·.sourceCycleId) = c'.map (·.sourceCycleId) →
      profitExitReconcileTarget desired position c m.intentState m.sourceCycleId =
        profitExitReconcileTarget desired position c' m.intentState m.sourceCycleId := by
    intro c c' m h
    cases c with
    | none =>
        cases c' with
        | none => rfl
        | some _ => cases h
    | some x =>
        cases c' with
        | none => cases h
        | some y =>
            have hid : x.sourceCycleId = y.sourceCycleId := Option.some.inj h
            simp [profitExitReconcileTarget, hid]
  unfold protectedReconcileTarget
  dsimp only
  rw [hcycle]
  split_ifs
  · rfl
  · rfl
  · split
    · rfl
    · exact hexit _ _ _ hcycle

/-- For a proven cycle only the decisions of that cycle matter. -/
lemma protectedReconcileTarget_congr {decisions' : List ProfitExitDecision} {c : SourceCycle}
    (hproven : readCurrentSourceCycle evidence.events scope.asset masterNetwork boundary
      masterPosition = some c)
    (hsame : (evidence.decisions.filter fun d => d.sourceCycleId = c.sourceCycleId) =
      decisions'.filter fun d => d.sourceCycleId = c.sourceCycleId) :
    protectedReconcileTarget evidence scope masterNetwork boundary masterPosition position desired =
      protectedReconcileTarget { evidence with decisions := decisions' } scope masterNetwork
        boundary masterPosition position desired := by
  have hrows : ∀ ds : List ProfitExitDecision,
      memoryRows ds scope (some c.sourceCycleId) =
        (ds.filter fun d => d.sourceCycleId = c.sourceCycleId).filter fun d =>
          d.scope = scope && d.operational := by
    intro ds
    simp [memoryRows, List.filter_filter, Bool.and_assoc]
  have hmemory : operationalProfitExitMemory evidence.decisions scope (some c.sourceCycleId) =
      operationalProfitExitMemory decisions' scope (some c.sourceCycleId) := by
    rw [operationalProfitExitMemory, operationalProfitExitMemory, hrows, hrows, hsame]
  unfold protectedReconcileTarget
  simp [hproven, hmemory]

end Laws

end HyperCopy

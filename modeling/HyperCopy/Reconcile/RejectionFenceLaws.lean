import HyperCopy.Reconcile.RejectionFence

/-!
# What the fence holds back

An order with the recorded target, position and size is held back exactly while the rejected job
is the newest `EVENT` or `RECONCILE` job of its asset in the active epoch
(`terminal_rejection_fence_iff`).  The query behind the fence asks for the newest job, not for the
newest one that submitted an order, so a job that never reaches the exchange, an event that came
to nothing or an alignment of the leverage, lifts it (`fence_lifted_by_skipped_event`).

The other direction has no exception: a target, position or planned size that is a lot away from
the recorded one is stored as another value, and the fence lets the turn through.
-/

namespace HyperCopy

open Transition

/-! ## Which job the fence reads -/

/-- The first element that satisfies a test comes before any other that does. -/
lemma eq_or_rel_of_find? {α : Type*} {r : α → α → Prop} {p : α → Bool} {l : List α} {a b : α}
    (h : l.Pairwise r) (hfind : l.find? p = some a) (hb : b ∈ l) (hp : p b = true) :
    a = b ∨ r a b := by
  induction l with
  | nil => cases hb
  | cons c rest ih =>
      obtain ⟨hc, hrest⟩ := List.pairwise_cons.1 h
      cases hpc : p c with
      | true =>
          obtain rfl : c = a := by simpa [List.find?_cons, hpc] using hfind
          rcases List.mem_cons.1 hb with rfl | hmem
          · exact .inl rfl
          · exact .inr (hc b hmem)
      | false =>
          rw [List.find?_cons, hpc] at hfind
          rcases List.mem_cons.1 hb with rfl | hmem
          · rw [hpc] at hp
            cases hp
          · exact ih hrest hfind hmem

section Latest

variable {s : IntentHistory} {job latest : IntentJob}

lemma mem_of_latestIntent (h : latestIntent s = some latest) :
    latest ∈ s.jobs ∧ s.startedAt ≤ latest.createdAt := by
  have htest := List.find?_some h
  exact ⟨List.mem_of_find?_eq_some h, by simpa using (Bool.and_eq_true_iff.1 htest).2⟩

/-- The job the fence reads is the given one, or newer than it. -/
lemma latestIntent_newest (h : latestIntent s = some latest) (hjob : job ∈ s.jobs)
    (hstrategy : job.origin.isStrategy = true) :
    latest = job ∨ job.createdAt < latest.createdAt := by
  by_cases hepoch : s.startedAt ≤ job.createdAt
  · exact eq_or_rel_of_find? s.ordered h hjob (by simp [hstrategy, hepoch])
  · have hlatest := (mem_of_latestIntent h).2
    exact .inr (by omega)

end Latest

/-! ## The rejection and the turn -/

/-- The job's order was rejected for good, and this is what the fence can read of it. -/
structure TerminallyRejected (job : IntentJob) (error : ActionRejection)
    (execution : IntentExecution) : Prop where
  strategy : job.origin.isStrategy = true
  skipped : job.state = .skipped
  recorded : job.lastActionError = some error
  policy : error.decision.retryPolicy = .none
  rejected : rejectedExecution job.executions = some execution

/-- The executor's record of such a rejection, on either leg. -/
lemma finishActionRejection_terminallyRejected {job : IntentJob} {network : Network}
    {leg : RejectedLeg} {reason : Option String} {rejectedTarget rejectedReal : ℚ}
    {execution : IntentExecution} (hstrategy : job.origin.isStrategy = true)
    (hpolicy : (classifyActionError reason).retryPolicy = .none)
    (hexecution : rejectedExecution job.executions = some execution)
    (h : (rejectedExecution job.executions).isSome) :
    TerminallyRejected
      (finishActionRejection job network leg reason rejectedTarget rejectedReal h)
      ⟨classifyActionError reason, reason, network, leg, rejectedTarget, rejectedReal⟩ execution :=
  ⟨hstrategy, rfl, rfl, hpolicy, hexecution⟩

/-- No job newer than this one has come to an order. -/
def NoNewerOrder (s : IntentHistory) (job : IntentJob) : Prop :=
  ∀ newer ∈ s.jobs, job.createdAt < newer.createdAt → newer.executions = []

/-- At the precision of the ledger the turn computes what was recorded. -/
structure SameIntent (t : FenceTurn) (error : ActionRejection) (execution : IntentExecution) :
    Prop where
  target : persistedLedgerDecimal t.desiredTarget = persistedLedgerDecimal error.rejectedTarget
  real : persistedLedgerDecimal t.asset.real = persistedLedgerDecimal error.rejectedReal
  size : ∀ size, t.plannedSize = some size →
    persistedLedgerDecimal size = execution.requestedSize

/-- The turn computes something that is at least a lot away from what was recorded. -/
def MovedIntent (t : FenceTurn) (error : ActionRejection) (execution : IntentExecution)
    (szDecimals : ℕ) : Prop :=
  lot szDecimals ≤ |t.desiredTarget - error.rejectedTarget| ∨
    lot szDecimals ≤ |t.asset.real - error.rejectedReal| ∨
    ∃ size, t.plannedSize = some size ∧ lot szDecimals ≤ |size - execution.requestedSize.value|

/-- What the fence is for: the same order is not queued again, and another one is not held back. -/
structure FenceHolds (s : IntentHistory) (t : FenceTurn) (error : ActionRejection)
    (execution : IntentExecution) (szDecimals : ℕ) : Prop where
  same : SameIntent t error execution →
    ∀ job, t.jobIn s = some job → job.leverageSyncOnly = true
  moved : MovedIntent t error execution szDecimals → t.heldBack s = false

/-- The rejected job is the newest of its strategy in the active epoch, on the turn's network. -/
def FenceCovers (s : IntentHistory) (t : FenceTurn) (job : IntentJob) (error : ActionRejection) :
    Prop :=
  latestIntent s = some job ∧ error.network = t.network

/-! ## Orders of a turn -/

/-- The turn's checks other than the fence let an order through. -/
def wantsOrder (f : ReconcileFollower) (a : ReconcileAsset) (total : ℚ) (openPositions : ℤ) :
    Bool :=
  let preview := previewPlan f a total openPositions
  reachesPlan f a && f.minNotional ≤ driftNotional f a &&
    !(f.copyState = .active && f.risk.isSome && (increasingExposure f a || reversal f a) &&
      preview.1 && preview.2.isNone) &&
    !(f.copyState = .active && increasingExposure f a && 0 < a.liquidityWait)

section Orders

variable {f : ReconcileFollower} {a : ReconcileAsset} {total : ℚ} {openPositions : ℤ}

/-- A turn with less drift than an order needs is there for the leverage. -/
lemma leverageSyncOnly_of_small_drift (hreach : reachesPlan f a = true)
    (hdrift : ¬f.minNotional ≤ driftNotional f a) :
    ((leverageRead f a).2.isSome && leverageMismatch f a && driftNotional f a < f.minNotional &&
      !ambiguitySafe f a) = true := by
  have hmismatch : leverageMismatch f a = true := by
    simp only [reachesPlan, Bool.and_eq_true, Bool.or_eq_true, decide_eq_true_eq] at hreach
    exact hreach.1.1.2.resolve_left hdrift
  have hparts := hmismatch
  unfold leverageMismatch at hparts
  obtain ⟨hsafe, hread⟩ := Bool.and_eq_true_iff.1 hparts
  have hsome : (leverageRead f a).2.isSome = true := by
    cases hcheck : (leverageRead f a).2 with
    | none =>
        rw [hcheck] at hread
        cases hread
    | some check => rfl
  simp [hsome, hmismatch, hsafe, not_le.1 hdrift]

lemma reconcileJobFor_order_iff :
    (∃ job, reconcileJobFor f a total openPositions = some job ∧ job.leverageSyncOnly = false) ↔
      wantsOrder f a total openPositions = true ∧
        rejectionBlocks f a
          ((previewPlan f a total openPositions).2.map (·.submittedSize)) = false := by
  unfold reconcileJobFor wantsOrder
  dsimp only
  by_cases hreach : reachesPlan f a = true
  · by_cases hdrift : f.minNotional ≤ driftNotional f a
    · -- with enough drift every job is an order, and the plan's checks decide
      by_cases hrefused : refusedByPlan f a (previewPlan f a total openPositions).1
          (previewPlan f a total openPositions).2 = true
      · rw [if_pos (by simp [hrefused])]
        constructor
        · rintro ⟨job, hjob, -⟩
          cases hjob
        · rintro ⟨hwants, hblocks⟩
          exfalso
          simp only [refusedByPlan, hdrift, hblocks, decide_true, Bool.true_and, Bool.or_false,
            Bool.or_eq_true] at hrefused
          simp only [hreach, hdrift, decide_true, Bool.true_and, Bool.and_eq_true,
            Bool.not_eq_true'] at hwants
          rcases hrefused with hplan | hwait
          · rw [hwants.1] at hplan
            cases hplan
          · rw [hwants.2] at hwait
            cases hwait
      · have hpasses := hrefused
        simp only [refusedByPlan, hdrift, decide_true, Bool.true_and, Bool.or_eq_true,
          not_or, Bool.not_eq_true] at hpasses
        obtain ⟨⟨hplan, hblocks⟩, hwait⟩ := hpasses
        rw [if_neg (by simp [hreach, hrefused])]
        constructor
        · rintro -
          exact ⟨by simp only [hreach, hdrift, hplan, hwait, decide_true]; rfl, hblocks⟩
        · rintro -
          exact ⟨_, rfl, by simp [not_lt.2 hdrift]⟩
    · apply iff_of_false
      · rintro ⟨job, hjob, hsync⟩
        have honly := leverageSyncOnly_of_small_drift hreach hdrift
        by_cases hstops : (!reachesPlan f a || refusedByPlan f a
            (previewPlan f a total openPositions).1 (previewPlan f a total openPositions).2) = true
        · rw [if_pos hstops] at hjob
          cases hjob
        · rw [if_neg hstops] at hjob
          obtain rfl := Option.some.inj hjob
          dsimp only at hsync
          rw [honly] at hsync
          cases hsync
      · rintro ⟨hwants, -⟩
        simp [hdrift] at hwants
  · apply iff_of_false
    · rintro ⟨job, hjob, -⟩
      rw [if_pos (by simp [hreach])] at hjob
      cases hjob
    · rintro ⟨hwants, -⟩
      simp [hreach] at hwants

end Orders

/-! ## The fence at one turn -/

section Turn

variable {s : IntentHistory} {t : FenceTurn} {job : IntentJob} {error : ActionRejection}
  {execution : IntentExecution} {szDecimals : ℕ}

/-- What the fence compares with, where it covers the rejection. -/
lemma terminalRejection_of_covers (hrejected : TerminallyRejected job error execution)
    (hcovers : FenceCovers s t job error) :
    terminalRejection s t.network =
      some ⟨error.rejectedTarget, error.rejectedReal, some execution.requestedSize.value⟩ := by
  obtain ⟨hlatest, hnetwork⟩ := hcovers
  unfold terminalRejection
  simp only [hlatest, hrejected.recorded]
  rw [if_pos hrejected.skipped, if_pos ⟨hrejected.policy, hnetwork⟩, hrejected.rejected]
  rfl

/-- Behind the rejected job nothing newer can have left a record without an order. -/
lemma covers_of_terminalRejection (hjob : job ∈ s.jobs)
    (hrejected : TerminallyRejected job error execution) (hnewer : NoNewerOrder s job)
    {rejection : TerminalRejection} (h : terminalRejection s t.network = some rejection) :
    FenceCovers s t job error := by
  unfold terminalRejection at h
  cases hlatest : latestIntent s with
  | none =>
      simp only [hlatest] at h
      cases h
  | some latest =>
      simp only [hlatest] at h
      by_cases hskipped : latest.state = .skipped
      · rw [if_pos hskipped] at h
        cases hrecorded : latest.lastActionError with
        | none =>
            simp only [hrecorded] at h
            cases h
        | some recorded =>
            simp only [hrecorded] at h
            by_cases hpolicy :
                recorded.decision.retryPolicy = .none ∧ recorded.network = t.network
            · rcases latestIntent_newest hlatest hjob hrejected.strategy with rfl | hlt
              · rw [hrejected.recorded] at hrecorded
                obtain rfl := Option.some.inj hrecorded
                exact ⟨hlatest, hpolicy.2⟩
              · have hevidence := latest.evidenced (by rw [hrecorded]; rfl)
                rw [hnewer latest (mem_of_latestIntent hlatest).1 hlt] at hevidence
                cases hevidence
            · rw [if_neg hpolicy] at h
              cases h
      · rw [if_neg hskipped] at h
        cases h

lemma heldBack_eq (s : IntentHistory) (t : FenceTurn) :
    t.heldBack s = (terminalRejection s t.network).any fun rejection =>
      persistedLedgerDecimal rejection.rejectedTarget = persistedLedgerDecimal t.desiredTarget &&
        persistedLedgerDecimal rejection.rejectedReal = persistedLedgerDecimal t.asset.real &&
        match rejection.requestedSize, t.plannedSize with
        | some requested, some submitted =>
            persistedLedgerDecimal requested = persistedLedgerDecimal submitted
        | _, _ => true :=
  rfl

/-- Where the fence covers the rejection it holds back the same intent and no other. -/
lemma heldBack_of_covers (hrejected : TerminallyRejected job error execution)
    (hcovers : FenceCovers s t job error) :
    t.heldBack s = true ↔ SameIntent t error execution := by
  rw [heldBack_eq, terminalRejection_of_covers hrejected hcovers, Option.any_some]
  cases hsize : t.plannedSize with
  | none =>
      simp only [Bool.and_true, Bool.and_eq_true, decide_eq_true_eq]
      constructor
      · rintro ⟨htarget, hreal⟩
        refine ⟨htarget.symm, hreal.symm, fun size hsome => ?_⟩
        rw [hsize] at hsome
        cases hsome
      · rintro ⟨htarget, hreal, -⟩
        exact ⟨htarget.symm, hreal.symm⟩
  | some submitted =>
      simp only [Bool.and_eq_true, decide_eq_true_eq, persistedLedgerDecimal_value]
      constructor
      · rintro ⟨⟨htarget, hreal⟩, hequal⟩
        refine ⟨htarget.symm, hreal.symm, fun size hsome => ?_⟩
        rw [hsize] at hsome
        obtain rfl := Option.some.inj hsome
        exact hequal.symm
      · rintro ⟨htarget, hreal, hequal⟩
        exact ⟨⟨htarget.symm, hreal.symm⟩, (hequal submitted hsize).symm⟩

/-- Without its cover nothing is held back. -/
lemma heldBack_of_not_covers (hjob : job ∈ s.jobs)
    (hrejected : TerminallyRejected job error execution) (hnewer : NoNewerOrder s job)
    (hcovers : ¬FenceCovers s t job error) : t.heldBack s = false := by
  rw [heldBack_eq]
  cases hrejection : terminalRejection s t.network with
  | none => rfl
  | some rejection =>
      exact absurd (covers_of_terminalRejection hjob hrejected hnewer hrejection) hcovers

/-- The lots of an asset are not finer than the ledger. -/
lemma ledgerQuantum_le_lot (h : szDecimals ≤ 12) : ledgerQuantum ≤ lot szDecimals := by
  unfold ledgerQuantum lot
  gcongr
  norm_num

/-- A lot apart, two values are stored as two values. -/
lemma persisted_ne_of_lot (h : szDecimals ≤ 12) {x y : ℚ} (hlot : lot szDecimals ≤ |x - y|) :
    persistedLedgerDecimal x ≠ persistedLedgerDecimal y := by
  intro heq
  have hvalue := congrArg LedgerDecimal.value heq
  exact Quantize.halfUpTo_ne (lot_pos 12) ((ledgerQuantum_le_lot h).trans hlot) hvalue

lemma not_sameIntent_of_moved (h : szDecimals ≤ 12)
    (hmoved : MovedIntent t error execution szDecimals) : ¬SameIntent t error execution := by
  rintro ⟨htarget, hreal, hsame⟩
  rcases hmoved with hlot | hlot | ⟨size, hsize, hlot⟩
  · exact persisted_ne_of_lot h hlot htarget
  · exact persisted_ne_of_lot h hlot hreal
  · have hpersisted := hsame size hsize
    rw [← persistedLedgerDecimal_value execution.requestedSize] at hpersisted
    exact persisted_ne_of_lot h hlot hpersisted

/-- The turn queues an order exactly where its other checks and the fence let one through. -/
lemma jobIn_order_iff (s : IntentHistory) (t : FenceTurn) :
    (∃ job, t.jobIn s = some job ∧ job.leverageSyncOnly = false) ↔
      wantsOrder t.follower (t.assetIn s) t.total t.openPositions = true ∧ t.heldBack s = false :=
  reconcileJobFor_order_iff

theorem fenceHolds_iff (hjob : job ∈ s.jobs) (hrejected : TerminallyRejected job error execution)
    (hnewer : NoNewerOrder s job) (hdecimals : szDecimals ≤ 12) :
    FenceHolds s t error execution szDecimals ↔
      (SameIntent t error execution → FenceCovers s t job error ∨
        wantsOrder t.follower (t.assetIn s) t.total t.openPositions = false) := by
  have hmoved : MovedIntent t error execution szDecimals → t.heldBack s = false := by
    intro hmoved
    by_cases hcovers : FenceCovers s t job error
    · have hdiffers := not_sameIntent_of_moved hdecimals hmoved
      rw [← heldBack_of_covers hrejected hcovers] at hdiffers
      simpa using hdiffers
    · exact heldBack_of_not_covers hjob hrejected hnewer hcovers
  have horders : (∀ job, t.jobIn s = some job → job.leverageSyncOnly = true) ↔
      (t.heldBack s = true ∨
        wantsOrder t.follower (t.assetIn s) t.total t.openPositions = false) := by
    have hiff := not_congr (jobIn_order_iff s t)
    rw [not_exists] at hiff
    constructor
    · intro hall
      have hno := hiff.1 fun job ⟨hsome, hfalse⟩ => by
        rw [hall job hsome] at hfalse
        cases hfalse
      by_cases hwants : wantsOrder t.follower (t.assetIn s) t.total t.openPositions = true
      · exact .inl (by simpa [hwants] using hno)
      · exact .inr (by simpa using hwants)
    · intro hstops job hsome
      have hno := hiff.2 (by rintro ⟨hwants, hheld⟩; rcases hstops with h | h <;> simp_all) job
      simpa [hsome] using hno
  constructor
  · rintro ⟨hsame, -⟩ hintent
    rcases horders.1 (hsame hintent) with hheld | hwants
    · by_contra hno
      rw [not_or] at hno
      rw [heldBack_of_not_covers hjob hrejected hnewer hno.1] at hheld
      cases hheld
    · exact .inr hwants
  · intro hcondition
    refine ⟨fun hintent => horders.2 ?_, hmoved⟩
    rcases hcondition hintent with hcovers | hwants
    · exact .inl ((heldBack_of_covers hrejected hcovers).2 hintent)
    · exact .inr hwants

end Turn

/-! ## Runs -/

section Runs

variable {s₀ s : IntentHistory} {actions : List IntentAction} {job : IntentJob}
  {error : ActionRejection} {execution : IntentExecution}

lemma worked_of_ended {act : WorkerAct} {createdAt : ℕ} (h : job.state.active = false) :
    worked createdAt act job = job := by
  have hnone : workerStep job act = none := by
    unfold workerStep
    rw [if_neg (by simp [h])]
  unfold worked
  rw [hnone]
  exact ite_self _

/-- A job that has ended stays in the history as it is. -/
lemma mem_jobs_of_run (h : job.state.active = false) (hjob : job ∈ s₀.jobs)
    (hrun : run intentStep s₀ actions = some s) : job ∈ s.jobs := by
  apply run_invariant (I := fun s => job ∈ s.jobs) ?_ hjob hrun
  intro s a s' hmem hstep
  cases a with
  | reconcile t =>
      simp only [intentStep] at hstep
      cases hturn : t.jobIn s with
      | none =>
          rw [hturn] at hstep
          obtain rfl := Option.some.inj hstep
          exact hmem
      | some queued =>
          rw [hturn] at hstep
          obtain rfl := Option.some.inj hstep
          exact List.mem_cons_of_mem _ hmem
  | enqueue origin leverageSyncOnly =>
      obtain rfl := Option.some.inj hstep
      exact List.mem_cons_of_mem _ hmem
  | work createdAt act =>
      obtain rfl := Option.some.inj hstep
      exact List.mem_map.2 ⟨job, hmem, worked_of_ended h⟩
  | startEpoch =>
      obtain rfl := Option.some.inj hstep
      exact hmem

/-- **The terminal rejection fence.**  In whatever happens after a terminal rejection, at every
turn with no newer order in the market, the fence does what it is for exactly where it covers the
rejection or the turn's other checks stop the order. -/
theorem terminal_rejection_fence_iff {szDecimals : ℕ} (hdecimals : szDecimals ≤ 12)
    (hjob : job ∈ s₀.jobs) (hrejected : TerminallyRejected job error execution)
    (hrun : run intentStep s₀ actions = some s) (hnewer : NoNewerOrder s job) (t : FenceTurn) :
    FenceHolds s t error execution szDecimals ↔
      (SameIntent t error execution → FenceCovers s t job error ∨
        wantsOrder t.follower (t.assetIn s) t.total t.openPositions = false) := by
  have hended : job.state.active = false := by
    rw [hrejected.skipped]
    rfl
  exact fenceHolds_iff (mem_jobs_of_run hended hjob hrun) hrejected hnewer hdecimals

/-- What keeps the rejected job the newest: passes that queue nothing, workers, and jobs of other
origins. -/
def LeavesNewest (s : IntentHistory) : IntentAction → Prop
  | .reconcile t => t.jobIn s = none
  | .enqueue origin _ => origin.isStrategy = false
  | .work _ _ => True
  | .startEpoch => False

lemma latestIntent_step {a : IntentAction} {s' : IntentHistory} (h : job.state.active = false)
    (hlatest : latestIntent s = some job) (hleaves : LeavesNewest s a)
    (hstep : intentStep s a = some s') : latestIntent s' = some job := by
  cases a with
  | reconcile t =>
      have hnone : t.jobIn s = none := hleaves
      simp only [intentStep, hnone] at hstep
      obtain rfl := Option.some.inj hstep
      exact hlatest
  | enqueue origin leverageSyncOnly =>
      obtain rfl := Option.some.inj hstep
      have hother : origin.isStrategy = false := hleaves
      unfold latestIntent IntentHistory.enqueue
      rw [List.find?_cons_of_neg (by simp [hother])]
      exact hlatest
  | work createdAt act =>
      obtain rfl := Option.some.inj hstep
      unfold latestIntent at hlatest ⊢
      have htest : (fun job : IntentJob => job.origin.isStrategy && s.startedAt ≤ job.createdAt) ∘
          worked createdAt act =
          fun job => job.origin.isStrategy && s.startedAt ≤ job.createdAt := by
        funext job
        simp
      show (s.jobs.map (worked createdAt act)).find? (fun job =>
        job.origin.isStrategy && s.startedAt ≤ job.createdAt) = some job
      rw [List.find?_map, htest, hlatest]
      exact congrArg some (worked_of_ended h)
  | startEpoch => exact hleaves.elim

/-- A turn that is held back queues nothing, where its drift is that of an order. -/
lemma jobIn_of_heldBack {t : FenceTurn}
    (hdrift : t.follower.minNotional ≤ driftNotional t.follower t.asset)
    (hheld : t.heldBack s = true) : t.jobIn s = none := by
  have hdrift' : t.follower.minNotional ≤ driftNotional t.follower (t.assetIn s) := hdrift
  have hblocks : rejectionBlocks t.follower (t.assetIn s)
      ((previewPlan t.follower (t.assetIn s) t.total t.openPositions).2.map (·.submittedSize)) =
      true := hheld
  unfold FenceTurn.jobIn reconcileJobFor
  dsimp only
  rw [if_pos (by simp [refusedByPlan, hdrift', hblocks])]

/-- Passes that compute the rejected order again, workers, and jobs of other origins. -/
def RepeatsIntent (error : ActionRejection) (execution : IntentExecution) (s : IntentHistory) :
    IntentAction → Prop
  | .reconcile t => SameIntent t error execution ∧ error.network = t.network ∧
      t.follower.minNotional ≤ driftNotional t.follower t.asset
  | a => LeavesNewest s a

/-- **No pass queues the rejected order again**, however many there are, while nothing newer of
the strategy is queued. -/
theorem repeated_intent_queues_nothing (hrejected : TerminallyRejected job error execution)
    (hlatest : latestIntent s₀ = some job)
    (hmeets : RunMeets intentStep (RepeatsIntent error execution) s₀ actions) :
    RunMeets intentStep LeavesNewest s₀ actions := by
  have hended : job.state.active = false := by
    rw [hrejected.skipped]
    rfl
  have hleaves : ∀ s a, latestIntent s = some job → RepeatsIntent error execution s a →
      LeavesNewest s a := by
    intro s a hnewest hrepeats
    cases a with
    | reconcile t =>
        obtain ⟨hsame, hnetwork, hdrift⟩ := hrepeats
        exact jobIn_of_heldBack hdrift ((heldBack_of_covers hrejected ⟨hnewest, hnetwork⟩).2 hsame)
    | enqueue origin leverageSyncOnly => exact hrepeats
    | work createdAt act => trivial
    | startEpoch => exact hrepeats
  refine runMeets_of_meets (I := fun s => latestIntent s = some job) ?_ hleaves hlatest hmeets
  intro s a s' hnewest hrepeats hstep
  exact latestIntent_step hended hnewest (hleaves s a hnewest hrepeats) hstep

end Runs

/-! ## An event that comes to nothing -/

/-- The close of a position of ten was rejected for good. -/
def rejectedClose : IntentJob where
  origin := .reconcile
  createdAt := 1
  state := .skipped
  leverageSyncOnly := false
  lastActionError := some ⟨⟨.terminal, .none⟩, some "Reduce only order would increase position.",
    .mainnet, .primary, 0, 10⟩
  executions := [⟨.rejected, persistedLedgerDecimal 10⟩]
  evidenced := fun _ => rfl

/-- One close, whose order was rejected. -/
def closeHistory : IntentHistory where
  jobs := [rejectedClose]
  startedAt := 0
  clock := 1
  ordered := by simp
  created := by simp [rejectedClose]

/-- A pass that finds the position of ten again. -/
def closeTurn : FenceTurn where
  follower :=
    { scope := fun asset => ⟨1, 1, .hyperliquid, .mainnet, asset⟩
      masterNetwork := .mainnet
      snapshotStartedOrder := none
      copyState := .active
      strictManualTrades := true
      risk := none
      limits := ⟨none, none, none⟩
      aiFactor := 1
      masterEquity := 1000
      equity := 1000
      unmanagedMargin := 0
      freeMargin := 1000
      drawdownHalt := false
      dailyLossHalt := false
      nearLiquidation := false }
  asset :=
    { asset := 1
      listedByMaster := false
      masterPosition := 0
      real := 10
      followerMark := 100
      masterMark := 100
      ledger := none
      evidence := ⟨[], []⟩
      masterConfig := none
      followerConfig := none
      liveAmbiguity := false
      terminalAmbiguity := false
      spec := none
      specAgain := none
      planRaises := false
      pending := false
      terminalRejection := none
      liquidityWait := 0
      raises := false }
  total := 1000
  openPositions := 1

/-- The rejection of that order. -/
def closeError : ActionRejection :=
  ⟨⟨.terminal, .none⟩, some "Reduce only order would increase position.", .mainnet, .primary, 0, 10⟩

lemma rejectedClose_terminallyRejected :
    TerminallyRejected rejectedClose closeError ⟨.rejected, persistedLedgerDecimal 10⟩ :=
  ⟨rfl, rfl, rfl, rfl, rfl⟩

lemma closeTurn_sameIntent :
    SameIntent closeTurn closeError ⟨.rejected, persistedLedgerDecimal 10⟩ := by
  refine ⟨?_, rfl, ?_⟩
  · have htarget : closeTurn.desiredTarget = 0 := by decide +kernel
    rw [htarget]
    rfl
  · intro size hsize
    have hnone : closeTurn.plannedSize = none := by decide +kernel
    rw [hnone] at hsize
    cases hsize

/-- The pass right after the rejection is held back. -/
theorem terminal_rejection_fence_close :
    (closeTurn.jobIn closeHistory).all (fun job => job.leverageSyncOnly) = true := by
  have hdecimals : 3 ≤ 12 := by decide
  have hrun : run intentStep closeHistory [] = some closeHistory := rfl
  have hnewest : NoNewerOrder closeHistory rejectedClose := by
    intro newer hnewer hlt
    simp [closeHistory] at hnewer
    subst hnewer
    omega
  have hfence := terminal_rejection_fence_iff hdecimals (List.mem_singleton.2 rfl)
    rejectedClose_terminallyRejected hrun hnewest closeTurn
  exact (Option.all_eq_true _ _).2 ((hfence.2 fun _ => .inl ⟨rfl, rfl⟩).same closeTurn_sameIntent)

/-- Nor does any later pass, workers or not, queue the close again. -/
theorem repeated_intent_queues_nothing_close :
    RunMeets intentStep LeavesNewest closeHistory
      [.reconcile closeTurn, .work 1 (.move .done), .reconcile closeTurn] := by
  have hdrift : closeTurn.follower.minNotional ≤ driftNotional closeTurn.follower closeTurn.asset := by
    decide +kernel
  refine repeated_intent_queues_nothing rejectedClose_terminallyRejected rfl ?_
  refine ⟨⟨closeTurn_sameIntent, rfl, hdrift⟩, fun _ _ => ⟨trivial, fun _ _ => ?_⟩⟩
  exact ⟨⟨closeTurn_sameIntent, rfl, hdrift⟩, fun _ _ => trivial⟩

/-- An event is queued, and a worker skips it without an order. -/
def skippedEvent : List IntentAction :=
  [.enqueue .event false, .work 2 (.move .processing), .work 2 (.move .skipped)]

/-- **The skipped event lifts the fence**: the next pass queues the rejected order again. -/
theorem fence_lifted_by_skipped_event :
    ¬∀ (s₀ s : IntentHistory) (actions : List IntentAction) (job : IntentJob)
      (error : ActionRejection) (execution : IntentExecution) (szDecimals : ℕ) (t : FenceTurn),
      szDecimals ≤ 12 → job ∈ s₀.jobs → TerminallyRejected job error execution →
        run intentStep s₀ actions = some s → NoNewerOrder s job →
          FenceHolds s t error execution szDecimals := by
  intro h
  cases hrun : run intentStep closeHistory skippedEvent with
  | none => cases hrun
  | some s =>
      have hs : s = ((closeHistory.enqueue .event false).work 2 (.move .processing)).work 2
          (.move .skipped) := (Option.some.inj hrun).symm
      have hnewer : NoNewerOrder s rejectedClose := by
        rw [hs]
        unfold NoNewerOrder
        decide +kernel
      have hholds := h closeHistory s skippedEvent rejectedClose closeError _ 3 closeTurn (by decide)
        (List.mem_singleton.2 rfl) rejectedClose_terminallyRejected hrun hnewer
      have hqueued : ((closeTurn.jobIn s).map (·.leverageSyncOnly)) = some false := by
        rw [hs]
        decide +kernel
      obtain ⟨job, hjob, hfalse⟩ := Option.map_eq_some_iff.1 hqueued
      rw [hholds.same closeTurn_sameIntent job hjob] at hfalse
      cases hfalse

end HyperCopy

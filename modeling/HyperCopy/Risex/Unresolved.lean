import HyperCopy.Risex.FirstPost

/-!
# At most one unresolved execution of a user and asset

Both settlement routines refuse to settle while another execution of the same user and asset is
unresolved, so two of them block each other for good.  `prepare_risex_worker_submission` keeps
the second one out with a check, but the check and the insertion are two transactions with the
provider's answers between them.  `at_most_one_unresolved` is the condition under which the check
is enough: no other attempt on the user and asset is between the two when it is made
(`NoOverlap`).  Two attempts that overlap leave two executions that neither settlement touches
(`overlapping_preparations_block`).
-/

namespace HyperCopy

open Transition

/-! ## The property -/

/-- At most one execution of a user and asset is `SUBMITTING` or `UNKNOWN`. -/
def AtMostOneUnresolved (s : RisexState) : Prop :=
  ∀ j j' row row', s.executions.lookup j = some row → s.executions.lookup j' = some row' →
    row.state.unresolved = true → row'.state.unresolved = true → row.market = row'.market →
    j = j'

/-- A settlement leaves every execution as it is while the one it settles has an unresolved
peer. -/
def RefusesPeers (normalized : Symbol → Symbol) (s : RisexState) : Prop :=
  ∀ t task seen outcome, s.tasks.lookup t = some task → task.phase = .settling seen outcome →
    unresolvedSameAsset s.executions seen.userId seen.asset (some task.jobId) = true →
    ∀ baseline s', risexStep normalized s (.settle t baseline) = some s' →
      s'.executions = s.executions

/-- Between the check of the preparation and its insertion. -/
def RisexPhase.preparing : RisexPhase → Bool
  | .checked | .signed _ _ _ => true
  | .started | .prepared _ | .loaded _ _ | .claimed _ _ | .posted _ _ | .settling _ _ => false

/-- Some attempt on the user and asset is between its check and its insertion. -/
def preparingMarket (s : RisexState) (market : UserId × Asset) : Bool :=
  Table.any s.tasks fun _ task => task.phase.preparing && marketOf s.jobs task.jobId = some market

/-- A preparation makes its check while no other one of its user and asset is between its own
check and its insertion. -/
def NoOverlap (s : RisexState) : RisexOp → Prop
  | .check t => ∀ task ∈ s.tasks.lookup t, ∀ job ∈ s.jobs.lookup task.jobId,
      preparingMarket s job.market = false
  | _ => True

instance (s : RisexState) (op : RisexOp) : Decidable (NoOverlap s op) :=
  match op with
  | .check t => inferInstanceAs (Decidable (∀ task ∈ s.tasks.lookup t,
      ∀ job ∈ s.jobs.lookup task.jobId, preparingMarket s job.market = false))
  | .begin _ _ | .sign _ _ _ _ _ | .persist _ _ | .load _ | .refuseStrategy _ | .claim _ _
  | .post _ | .respond _ _ | .resolve _ _ _ | .settle _ _ | .fail _ => isTrue trivial

/-! ## The invariant -/

/-- The invariant of a run: one unresolved row or preparation in a market. -/
structure UnresolvedFence (s : RisexState) : Prop where
  once : AtMostOneUnresolved s
  preparing : ∀ t t' task task', s.tasks.lookup t = some task → s.tasks.lookup t' = some task' →
    task.phase.preparing = true → task'.phase.preparing = true →
    ∀ market, marketOf s.jobs task.jobId = some market →
      marketOf s.jobs task'.jobId = some market → t = t'
  clear : ∀ t task, s.tasks.lookup t = some task → task.phase.preparing = true →
    ∀ market, marketOf s.jobs task.jobId = some market → ∀ j row,
      s.executions.lookup j = some row → row.state.unresolved = true → row.market ≠ market

section

variable {normalized : Symbol → Symbol} {s s' : RisexState} {op : RisexOp} {t : RisexTaskId}
  {task : RisexTask} {job : RisexJob}

/-- Every unresolved execution afterwards was one of the same user and asset before. -/
def KeepsResolved (s s' : RisexState) : Prop :=
  ∀ j row', s'.executions.lookup j = some row' → row'.state.unresolved = true →
    ∃ row, s.executions.lookup j = some row ∧ row.state.unresolved = true ∧
      row.market = row'.market

/-- Every attempt that is preparing afterwards was preparing for the same job before. -/
def KeepsPreparing (s s' : RisexState) : Prop :=
  ∀ t task, s'.tasks.lookup t = some task → task.phase.preparing = true →
    ∃ old, s.tasks.lookup t = some old ∧ old.phase.preparing = true ∧ old.jobId = task.jobId

lemma modify_keepsResolved {jobId : JobId} {f : RisexExecution → RisexExecution}
    (hf : ∀ row, RisexRewrite row (f row)) :
    KeepsResolved s { s with executions := Table.modify s.executions jobId f } := by
  intro j row' hrow' hunresolved
  have h : (Table.modify s.executions jobId f).lookup j = some row' := hrow'
  rw [Table.lookup_modify] at h
  split_ifs at h with hj
  · subst hj
    obtain ⟨row, hrow, rfl⟩ := Option.map_eq_some_iff.1 h
    exact ⟨row, hrow, (hf row).unresolved hunresolved,
      (Prod.ext (hf row).userId (hf row).asset).symm⟩
  · exact ⟨row', h, hunresolved, rfl⟩

lemma keepsResolved_of_eq (h : s'.executions = s.executions) : KeepsResolved s s' := by
  intro j row hrow hunresolved
  exact ⟨row, by rw [← h]; exact hrow, hunresolved, rfl⟩

/-- An attempt that changes its phase to one outside the preparation. -/
lemma toPhase_keepsPreparing {phase : RisexPhase} (hnot : phase.preparing = false) :
    KeepsPreparing s (s.toPhase t task phase) := by
  intro t' task' htask' hpreparing
  rw [lookup_toPhase] at htask'
  split_ifs at htask' with ht
  · obtain rfl := Option.some.inj htask'
    rw [hnot] at hpreparing
    cases hpreparing
  · exact ⟨task', htask', hpreparing, rfl⟩

lemma UnresolvedFence.frame (hs : UnresolvedFence s)
    (hjobs : ∀ j, marketOf s'.jobs j = marketOf s.jobs j) (hrows : KeepsResolved s s')
    (htasks : KeepsPreparing s s') : UnresolvedFence s' := by
  refine ⟨?_, ?_, ?_⟩
  · intro j j' row row' hrow hrow' hunresolved hunresolved' hmarket
    obtain ⟨old, hold, holdUnresolved, holdMarket⟩ := hrows j row hrow hunresolved
    obtain ⟨old', hold', holdUnresolved', holdMarket'⟩ := hrows j' row' hrow' hunresolved'
    exact hs.once j j' old old' hold hold' holdUnresolved holdUnresolved'
      (by rw [holdMarket, holdMarket', hmarket])
  · intro t t' task task' htask htask' hpreparing hpreparing' market hmarket hmarket'
    obtain ⟨old, hold, holdPreparing, hjob⟩ := htasks t task htask hpreparing
    obtain ⟨old', hold', holdPreparing', hjob'⟩ := htasks t' task' htask' hpreparing'
    rw [hjobs, ← hjob] at hmarket
    rw [hjobs, ← hjob'] at hmarket'
    exact hs.preparing t t' old old' hold hold' holdPreparing holdPreparing' market hmarket
      hmarket'
  · intro t task htask hpreparing market hmarket j row hrow hunresolved
    obtain ⟨old, hold, holdPreparing, hjob⟩ := htasks t task htask hpreparing
    obtain ⟨oldRow, holdRow, holdUnresolved, holdMarket⟩ := hrows j row hrow hunresolved
    rw [hjobs, ← hjob] at hmarket
    rw [← holdMarket]
    exact hs.clear t old hold holdPreparing market hmarket j oldRow holdRow holdUnresolved

/-- The check: no other attempt prepares for the user and asset, and no execution of theirs is
unresolved. -/
lemma UnresolvedFence.check (hs : UnresolvedFence s) (hjob : s.jobs.lookup task.jobId = some job)
    (hfree : unresolvedSameAsset s.executions job.userId job.asset none = false)
    (halone : preparingMarket s job.market = false) :
    UnresolvedFence (s.toPhase t task .checked) := by
  have hmarketOf : marketOf s.jobs task.jobId = some job.market := by
    rw [marketOf, hjob]
    rfl
  have hother : ∀ t' task', s.tasks.lookup t' = some task' → task'.phase.preparing = true →
      marketOf s.jobs task'.jobId ≠ some job.market := by
    intro t' task' htask' hpreparing hmarket
    have hno := Table.any_eq_false.1 halone t' task' htask'
    simp [hpreparing, hmarket] at hno
  refine ⟨hs.once, ?_, ?_⟩
  · intro t₁ t₂ task₁ task₂ htask₁ htask₂ hp₁ hp₂ market hm₁ hm₂
    rw [lookup_toPhase] at htask₁ htask₂
    split_ifs at htask₁ htask₂ with h₁ h₂ h₂
    · rw [h₁, h₂]
    · obtain rfl := Option.some.inj htask₁
      obtain rfl : job.market = market := Option.some.inj (hmarketOf.symm.trans hm₁)
      exact absurd hm₂ (hother t₂ task₂ htask₂ hp₂)
    · obtain rfl := Option.some.inj htask₂
      obtain rfl : job.market = market := Option.some.inj (hmarketOf.symm.trans hm₂)
      exact absurd hm₁ (hother t₁ task₁ htask₁ hp₁)
    · exact hs.preparing t₁ t₂ task₁ task₂ htask₁ htask₂ hp₁ hp₂ market hm₁ hm₂
  · intro t' task' htask' hpreparing market hmarket j row hrow hunresolved hrowMarket
    rw [lookup_toPhase] at htask'
    split_ifs at htask' with ht
    · obtain rfl := Option.some.inj htask'
      obtain rfl : job.market = market := Option.some.inj (hmarketOf.symm.trans hmarket)
      obtain ⟨huser, hasset⟩ := Prod.mk.inj hrowMarket
      have hno := Table.any_eq_false.1 hfree j row hrow
      simp [huser, hasset, hunresolved] at hno
    · exact hs.clear t' task' htask' hpreparing market hmarket j row hrow hunresolved hrowMarket

/-- The insertion: the attempt was the only one preparing, and no execution of its user and asset
was unresolved. -/
lemma UnresolvedFence.insert (hs : UnresolvedFence s) {row : RisexExecution}
    {submission : RisexSubmission} (htask : s.tasks.lookup t = some task)
    (hjob : s.jobs.lookup task.jobId = some job) (hpreparing : task.phase.preparing = true)
    (hmarket : row.market = job.market) :
    UnresolvedFence { s.toPhase t task (.prepared (some submission)) with
      executions := s.executions.insert task.jobId row } := by
  have hmarketOf : marketOf s.jobs task.jobId = some job.market := by
    rw [marketOf, hjob]
    rfl
  have hclear := hs.clear t task htask hpreparing job.market hmarketOf
  refine ⟨?_, ?_, ?_⟩
  · intro j j' r r' hr hr' hunresolved hunresolved' hsame
    rcases Table.lookup_insert_cases hr with ⟨hj, hrow⟩ | hold
    · rcases Table.lookup_insert_cases hr' with ⟨hj', hrow'⟩ | hold'
      · rw [hj, hj']
      · rw [hrow, hmarket] at hsame
        exact absurd hsame.symm (hclear j' r' hold' hunresolved')
    · rcases Table.lookup_insert_cases hr' with ⟨hj', hrow'⟩ | hold'
      · rw [hrow', hmarket] at hsame
        exact absurd hsame (hclear j r hold hunresolved)
      · exact hs.once j j' r r' hold hold' hunresolved hunresolved' hsame
  · intro t₁ t₂ task₁ task₂ htask₁ htask₂ hp₁ hp₂ market hm₁ hm₂
    obtain ⟨old₁, hold₁, hpre₁, hj₁⟩ := toPhase_keepsPreparing rfl t₁ task₁ htask₁ hp₁
    obtain ⟨old₂, hold₂, hpre₂, hj₂⟩ := toPhase_keepsPreparing rfl t₂ task₂ htask₂ hp₂
    refine hs.preparing t₁ t₂ old₁ old₂ hold₁ hold₂ hpre₁ hpre₂ market ?_ ?_
    · rw [hj₁]
      exact hm₁
    · rw [hj₂]
      exact hm₂
  · intro t' task' htask' hpreparing' market' hmarket' j r hr hunresolved hsame
    rw [lookup_toPhase] at htask'
    split_ifs at htask' with ht
    · obtain rfl := Option.some.inj htask'
      cases hpreparing'
    · rcases Table.lookup_insert_cases hr with ⟨-, hrow⟩ | hold
      · rw [hrow, hmarket] at hsame
        have hshared : marketOf s.jobs task'.jobId = some job.market := by
          rw [hsame]
          exact hmarket'
        exact ht (hs.preparing t' t task' task htask' htask hpreparing' hpreparing job.market
          hshared hmarketOf)
      · exact hs.clear t' task' htask' hpreparing' market' hmarket' j r hold hunresolved hsame

lemma UnresolvedFence.move (hs : UnresolvedFence s) (hguard : NoOverlap s op)
    (htask : s.tasks.lookup t = some task) (hjob : s.jobs.lookup task.jobId = some job)
    {phase : RisexPhase} (hmove : PhaseMove s op t task.jobId job task.phase phase) :
    UnresolvedFence (s.toPhase t task phase) := by
  have houtside : phase.preparing = false → UnresolvedFence (s.toPhase t task phase) := fun h =>
    hs.frame (fun _ => rfl) (keepsResolved_of_eq rfl) (toPhase_keepsPreparing h)
  generalize hfrom : task.phase = before at hmove
  cases hmove with
  | found => exact houtside rfl
  | checked hop hnone hfree =>
      subst hop
      exact hs.check hjob hfree (hguard task htask job hjob)
  | signed intent plan request =>
      refine hs.frame (fun _ => rfl) (keepsResolved_of_eq rfl) ?_
      intro t' task' htask' hpreparing
      rw [lookup_toPhase] at htask'
      split_ifs at htask' with ht
      · obtain rfl := Option.some.inj htask'
        subst ht
        exact ⟨task, htask, by rw [hfrom]; rfl, rfl⟩
      · exact ⟨task', htask', hpreparing, rfl⟩
  | existing intent plan request submission => exact houtside rfl
  | loaded row submission => exact houtside rfl
  | settling submission row outcome => exact houtside rfl

/-- **Step lemma.** -/
theorem UnresolvedFence.step (hs : UnresolvedFence s) (hguard : NoOverlap s op)
    (h : risexStep normalized s op = some s') : UnresolvedFence s' := by
  cases risexStep_effect h with
  | finished jobs hjobs =>
      exact hs.frame hjobs (keepsResolved_of_eq rfl)
        fun t task htask hpreparing => ⟨task, htask, hpreparing, rfl⟩
  | began t jobId phase hfree hphase =>
      refine hs.frame (fun _ => rfl) (keepsResolved_of_eq rfl) ?_
      intro t' task' htask' hpreparing
      rcases Table.lookup_insert_cases htask' with ⟨-, rfl⟩ | hold
      · rcases hphase with rfl | ⟨row, outcome, rfl⟩
        · cases hpreparing
        · cases hpreparing
      · exact ⟨task', hold, hpreparing, rfl⟩
  | ended t jobs hjobs =>
      exact hs.frame hjobs (keepsResolved_of_eq rfl)
        fun t' task' htask' hpreparing =>
          ⟨task', Table.lookup_of_erase htask', hpreparing, rfl⟩
  | moved t task job phase htask hjob hmove => exact hs.move hguard htask hjob hmove
  | inserted t task job intent plan request row submission htask hjob hphase hnone hnew huser
      hasset =>
      exact hs.insert htask hjob (by rw [hphase]; rfl) (Prod.ext huser hasset)
  | claimed t task fence seen claimed row submission htask hop hphase hseen hrow hid hstatus =>
      exact hs.frame (fun _ => rfl)
        (modify_keepsResolved (writeResponse_rewrite (by rw [hstatus]; simp)))
        (toPhase_keepsPreparing rfl)
  | posted t task seen submission htask hphase =>
      exact hs.frame (fun _ => rfl) (keepsResolved_of_eq rfl) (toPhase_keepsPreparing rfl)
  | answered t task seen answered submission outcome htask hphase hstatus =>
      exact hs.frame (fun _ => rfl) (modify_keepsResolved (writeResponse_rewrite hstatus))
        (toPhase_keepsPreparing rfl)
  | rewritten t task jobs f htask hjobs hf =>
      exact hs.frame hjobs (modify_keepsResolved hf)
        fun t' task' htask' hpreparing =>
          ⟨task', Table.lookup_of_erase htask', hpreparing, rfl⟩

lemma refusesPeers (normalized : Symbol → Symbol) (s : RisexState) :
    RefusesPeers normalized s := by
  intro t task seen outcome htask hphase hpeer baseline s' h
  obtain ⟨task', job, htask', -, h⟩ := withTask_eq_some h
  obtain rfl : task = task' := Option.some.inj (htask.symm.trans htask')
  rw [hphase] at h
  obtain rfl := Option.some.inj h
  unfold settleStep
  dsimp only
  split_ifs <;> rfl

end

/-- **At most one unresolved execution, where preparations of a user and asset do not overlap.**
For every run of the attempts of any number of workers on any number of jobs, with crashes and
settlements anywhere, in which no preparation makes its check while another one of its user and
asset is between check and insertion; in every state both settlement routines refuse an execution
with an unresolved peer. -/
theorem at_most_one_unresolved (normalized : Symbol → Symbol) {s₀ s : RisexState}
    {ops : List RisexOp} (htasks : s₀.tasks = ∅) (honce : AtMostOneUnresolved s₀)
    (hguard : RunMeets (risexStep normalized) NoOverlap s₀ ops)
    (hrun : run (risexStep normalized) s₀ ops = some s) :
    AtMostOneUnresolved s ∧ RefusesPeers normalized s := by
  have hinit : UnresolvedFence s₀ := by
    refine ⟨honce, fun t t' task task' htask => ?_, fun t task htask => ?_⟩
    · rw [htasks] at htask
      cases htask
    · rw [htasks] at htask
      cases htask
  have hfence : UnresolvedFence s :=
    run_invariant_of_meets (fun _ _ _ hs hop hstep => hs.step hop hstep) hinit hguard hrun
  exact ⟨hfence.once, refusesPeers normalized s⟩

/-! ## Two jobs on one asset -/

/-- A second job of the same user on BTC. -/
def secondBtcJob : RisexJob := { btcJob with cloid := 21, clientOrderId := 22 }

/-- Two jobs of one market. -/
def twoJobState : RisexState :=
  ⟨((∅ : Table JobId RisexJob).insert 5 btcJob).insert 6 secondBtcJob, ∅, ∅, []⟩

lemma twoJobState_once : AtMostOneUnresolved twoJobState := fun _ _ _ _ hrow => by cases hrow

/-- The second job is prepared when the first one has its execution. -/
def oneAfterTheOther : List RisexOp :=
  .begin 1 5 :: signActions 1 ++ [.persist 1 100, .begin 2 6, .check 2, .load 2]

/-- Both jobs pass their checks before either is persisted. -/
def overlappingPreparations : List RisexOp :=
  .begin 1 5 :: .begin 2 6 :: .check 1 :: signActions 2 ++
    [.sign 1 btcReads (btcPreparation true) 1 0, .persist 1 100, .persist 2 101]

/-- The jobs with an unresolved row. -/
def unresolvedJobs (s : RisexState) : List JobId :=
  (s.executions.entries.filter fun e => e.2.state.unresolved).map (·.1)

/-- The check of the second job keeps it out. -/
theorem at_most_one_unresolved_in_turn :
    ∃ s, run (risexStep asciiUpper) twoJobState oneAfterTheOther = some s ∧
      unresolvedJobs s = [5] ∧ AtMostOneUnresolved s ∧ RefusesPeers asciiUpper s := by
  have hjobs : (run (risexStep asciiUpper) twoJobState oneAfterTheOther).map unresolvedJobs =
      some [5] := by decide +kernel
  have hguard : RunMeets (risexStep asciiUpper) NoOverlap twoJobState oneAfterTheOther := by
    decide +kernel
  obtain ⟨s, hrun, hs⟩ := Option.map_eq_some_iff.1 hjobs
  exact ⟨s, hrun, hs, at_most_one_unresolved asciiUpper rfl twoJobState_once hguard hrun⟩

/-- **Two unresolved executions of one user and asset.** -/
theorem overlapping_preparations_block :
    AtMostOneUnresolved twoJobState ∧
      ∃ s, run (risexStep asciiUpper) twoJobState overlappingPreparations = some s ∧
        unresolvedJobs s = [6, 5] ∧ ¬AtMostOneUnresolved s := by
  have hrows : (run (risexStep asciiUpper) twoJobState overlappingPreparations).map
      (fun s => (unresolvedJobs s, s.executions.lookup 5, s.executions.lookup 6)) =
        some ([6, 5], some (btcExecution .prePostCommitted),
          some { btcExecution .prePostCommitted with
            executionId := 101, cloid := 21, clientOrderId := 22 }) := by
    decide +kernel
  obtain ⟨s, hrun, hs⟩ := Option.map_eq_some_iff.1 hrows
  obtain ⟨hjobs, hrest⟩ := Prod.mk.inj hs
  obtain ⟨hfirst, hsecond⟩ := Prod.mk.inj hrest
  refine ⟨twoJobState_once, s, hrun, hjobs, fun honce => ?_⟩
  have heq : (5 : JobId) = 6 := honce 5 6 _ _ hfirst hsecond rfl rfl rfl
  cases heq

end HyperCopy

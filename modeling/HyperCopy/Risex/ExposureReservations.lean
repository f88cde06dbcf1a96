import HyperCopy.Risex.Binding
import HyperCopy.Risex.ExposureBudget
import HyperCopy.Library.Transition
import HyperCopy.Risex.SubmissionEffect
import Mathlib.Tactic.Linarith

/-!
# What an exposure reservation guarantees

The advisory lock makes the sums of an admission an upper bound of what is reserved when it commits,
and the check of the locked row lets one settlement through.  That check, and the one in front of
the first POST, judge the instance the session has loaded: `FreshInstance` is the condition that it
is no older than the last release.  `exposure_reservations_of_fresh` is what then holds in every
run; without it an execution is released twice (`stale_settlement_releases_again`).
-/

namespace HyperCopy

open Transition Fallible

/-! ## The property -/

namespace BudgetState

/-- The reservations granted so far. -/
def grants (s : BudgetState) : List ReservationGrant :=
  s.events.filterMap fun
    | .granted grant => some grant
    | .released _ _ _ | .claimed _ => none

/-- The executions whose reservation was released. -/
def releases (s : BudgetState) : List JobId :=
  s.events.filterMap fun
    | .released jobId _ _ => some jobId
    | .granted _ | .claimed _ => none

end BudgetState

/-- The outcomes a piece of evidence stands for. -/
def ReleaseEvidence.supports : ReleaseEvidence → ExecutionState → Prop
  | .providerTruth, state => state = .filled ∨ state = .canceled
  | .rejected, state => state = .rejected
  | .preSubmitBlocked, state => state = .canceled

/-- The reservations of RISEx mainnet against the two ceilings. -/
structure ExposureReservations (userCeiling totalCeiling : ℚ) (s : BudgetState) : Prop where
  /-- Each was within the ceilings when it was committed. -/
  ceilings : ∀ grant ∈ s.grants,
    grant.userExposure + grant.userActive + grant.amount ≤ userCeiling ∧
      grant.totalExposure + grant.totalActive + grant.amount ≤ totalCeiling
  /-- An execution that adds exposure has one reservation. -/
  reserved : ∀ jobId row, s.executions.lookup jobId = some row →
    row.executionNetwork = some .mainnet → row.reduceOnly = false →
      ∃ grant ∈ s.grants, grant.jobId = jobId ∧ row.reserved = some grant.amount ∧ 0 < grant.amount
  onePerExecution : (s.grants.map (·.jobId)).Nodup
  /-- It is active until it is released. -/
  held : ∀ grant ∈ s.grants, grant.jobId ∉ s.releases →
    ∃ row, s.executions.lookup grant.jobId = some row ∧ row.reservedExposureUsdc = grant.amount
  releasedOnce : s.releases.Nodup
  /-- What was released has the outcome it was released with. -/
  releasedWith : ∀ jobId state evidence, .released jobId state evidence ∈ s.events →
    evidence.supports state ∧
      ∃ row, s.executions.lookup jobId = some row ∧ row.state = state ∧
        row.reservedExposureUsdc = 0
  /-- No execution on mainnet has been claimed for a POST. -/
  unclaimed : ∀ jobId row, .claimed jobId ∈ s.events → s.executions.lookup jobId = some row →
    row.executionNetwork ≠ some .mainnet

/-- What a session has loaded as active has not been released since. -/
def activeInstance (s : BudgetState) (c : SessionId) (jobId : JobId) : Prop :=
  ∀ row ∈ s.executions.lookup jobId, ∀ seen ∈ s.instanceOf c jobId,
    seen.state.unresolved = true → row.state.unresolved = true

instance (s : BudgetState) (c : SessionId) (jobId : JobId) : Decidable (activeInstance s c jobId) :=
  inferInstanceAs (Decidable (∀ row ∈ s.executions.lookup jobId, ∀ seen ∈ s.instanceOf c jobId,
    seen.state.unresolved = true → row.state.unresolved = true))

/-- The checks that lead to a release judge no instance that is older than a release. -/
def FreshInstance (s : BudgetState) : BudgetOp → Prop
  | .settle c jobId _ | .claim c jobId _ _ => activeInstance s c jobId
  | .load _ _ | .refresh _ _ | .reserve _ _ | .readExposure _ _ | .sumAggregate _ | .sumUser _
  | .insert _ | .commitSettlement _ _ | .commit _ | .fail _ => True

instance (s : BudgetState) (op : BudgetOp) : Decidable (FreshInstance s op) :=
  match op with
  | .settle c jobId _ | .claim c jobId _ _ => inferInstanceAs (Decidable (activeInstance s c jobId))
  | .load _ _ | .refresh _ _ | .reserve _ _ | .readExposure _ _ | .sumAggregate _ | .sumUser _
  | .insert _ | .commitSettlement _ _ | .commit _ | .fail _ => isTrue trivial

/-! ## Sums -/

/-- A flush that keeps what a reservation is made of, and does not make it active. -/
structure KeepsReservation (row row' : ReservedExecution) : Prop where
  userId : row'.userId = row.userId
  executionNetwork : row'.executionNetwork = row.executionNetwork
  reduceOnly : row'.reduceOnly = row.reduceOnly
  reserved : row'.reserved = row.reserved
  unresolved : row'.state.unresolved = true → row.state.unresolved = true

lemma KeepsReservation.countsAsReserved {row row' : ReservedExecution}
    (h : KeepsReservation row row') (hcounts : row'.countsAsReserved = true) :
    row.countsAsReserved = true := by
  simp only [ReservedExecution.countsAsReserved, Bool.and_eq_true, decide_eq_true_eq,
    h.executionNetwork, h.reduceOnly] at hcounts ⊢
  exact ⟨⟨hcounts.1.1, h.unresolved hcounts.1.2⟩, hcounts.2⟩

/-- Every reserved amount is there and not negative. -/
def ReservedAmounts (executions : Table JobId ReservedExecution) : Prop :=
  ∀ jobId row, executions.lookup jobId = some row → ∃ amount, row.reserved = some amount ∧ 0 ≤ amount

/-- A flush does not raise the sums. -/
lemma sumReserved_modify_le {executions : Table JobId ReservedExecution} {jobId : JobId}
    {f : ReservedExecution → ReservedExecution} (hamounts : ReservedAmounts executions)
    (hf : ∀ row, KeepsReservation row (f row)) (users : UserId → Bool) :
    sumReserved (Table.modify executions jobId f) users ≤ sumReserved executions users := by
  refine Table.sum_modify_le fun row hrow => ?_
  obtain ⟨amount, hreserved, hnonneg⟩ := hamounts jobId row hrow
  have hkeeps := hf row
  by_cases hcounts : (f row).countsAsReserved = true
  · rw [hkeeps.countsAsReserved hcounts, hcounts, hkeeps.userId, hkeeps.reserved]
  · rw [Bool.not_eq_true] at hcounts
    rw [hcounts, Bool.false_and, if_neg (by simp)]
    split_ifs
    · rw [hreserved]
      exact hnonneg
    · exact le_rfl

/-- The sums of the database are the active reservations. -/
lemma sumReserved_eq {executions : Table JobId ReservedExecution}
    (hamounts : ReservedAmounts executions) (users : UserId → Bool) :
    sumReserved executions users = activeReservations executions users := by
  refine Table.sum_congr fun jobId row hrow => ?_
  obtain ⟨amount, hreserved, hnonneg⟩ := hamounts jobId row hrow
  unfold ReservedExecution.reservedExposureUsdc
  rw [hreserved]
  by_cases hcounts : row.countsAsReserved = true
  · by_cases husers : users row.userId = true
    · simp only [hcounts, husers, Bool.and_self, if_true, Option.getD_some]
      split_ifs with hpositive
      · rfl
      · exact le_antisymm (not_lt.1 hpositive) hnonneg
    · simp [husers]
  · simp [hcounts]

/-! ## The tables -/

section Books

variable {jobs : Table JobId RisexJob} {userCeiling totalCeiling : ℚ} {s s' : BudgetState}
  {jobId : JobId}

/-- The executions and the history agree. -/
structure ReservationBooks (jobs : Table JobId RisexJob) (userCeiling totalCeiling : ℚ)
    (s : BudgetState) : Prop where
  network : ∀ jobId row, s.executions.lookup jobId = some row →
    ∃ job, jobs.lookup jobId = some job ∧ job.executionNetwork = row.executionNetwork
  amounts : ReservedAmounts s.executions
  ceilings : ∀ grant ∈ s.grants,
    grant.userExposure + grant.userActive + grant.amount ≤ userCeiling ∧
      grant.totalExposure + grant.totalActive + grant.amount ≤ totalCeiling
  reserved : ∀ jobId row, s.executions.lookup jobId = some row →
    row.executionNetwork = some .mainnet → row.reduceOnly = false →
      ∃ grant ∈ s.grants, grant.jobId = jobId ∧ row.reserved = some grant.amount ∧ 0 < grant.amount
  onePerExecution : (s.grants.map (·.jobId)).Nodup
  held : ∀ grant ∈ s.grants, ∃ row, s.executions.lookup grant.jobId = some row ∧
    row.executionNetwork = some .mainnet ∧ row.reduceOnly = false ∧
      row.reserved = some grant.amount ∧ 0 < grant.amount ∧
        (grant.jobId ∉ s.releases → row.state.unresolved = true)
  releasedOnce : s.releases.Nodup
  releasedWith : ∀ jobId state evidence, .released jobId state evidence ∈ s.events →
    evidence.supports state ∧ ∃ row, s.executions.lookup jobId = some row ∧ row.state = state
  claimed : ∀ jobId, .claimed jobId ∈ s.events →
    ∃ job, jobs.lookup jobId = some job ∧ job.executionNetwork = some .testnet

lemma ReleaseEvidence.resolved {evidence : ReleaseEvidence} {state : ExecutionState}
    (h : evidence.supports state) : state.unresolved = false := by
  cases evidence with
  | providerTruth =>
      rcases h with rfl | rfl
      · rfl
      · rfl
  | rejected =>
      obtain rfl : state = .rejected := h
      rfl
  | preSubmitBlocked =>
      obtain rfl : state = .canceled := h
      rfl

lemma mem_releases (h : jobId ∈ s.releases) :
    ∃ state evidence, .released jobId state evidence ∈ s.events := by
  obtain ⟨event, hmem, hevent⟩ := List.mem_filterMap.1 h
  cases event with
  | granted grant => cases hevent
  | released j state evidence =>
      obtain rfl := Option.some.inj hevent
      exact ⟨state, evidence, hmem⟩
  | claimed j => cases hevent

/-- The row of a released reservation is resolved. -/
lemma ReservationBooks.resolved (h : ReservationBooks jobs userCeiling totalCeiling s)
    (hreleased : jobId ∈ s.releases) :
    ∃ row, s.executions.lookup jobId = some row ∧ row.state.unresolved = false := by
  obtain ⟨state, evidence, hmem⟩ := mem_releases hreleased
  obtain ⟨hsupports, row, hrow, hstate⟩ := h.releasedWith jobId state evidence hmem
  refine ⟨row, hrow, ?_⟩
  rw [hstate]
  exact ReleaseEvidence.resolved hsupports

lemma ReservationBooks.not_released (h : ReservationBooks jobs userCeiling totalCeiling s)
    {row : ReservedExecution} (hrow : s.executions.lookup jobId = some row)
    (hactive : row.state.unresolved = true) : jobId ∉ s.releases := by
  intro hreleased
  obtain ⟨row', hrow', hresolved⟩ := h.resolved hreleased
  obtain rfl := Option.some.inj (hrow.symm.trans hrow')
  rw [hactive] at hresolved
  cases hresolved

lemma ReservationBooks.exposureReservations
    (h : ReservationBooks jobs userCeiling totalCeiling s) :
    ExposureReservations userCeiling totalCeiling s where
  ceilings := h.ceilings
  reserved := h.reserved
  onePerExecution := h.onePerExecution
  held grant hgrant hheld := by
    obtain ⟨row, hrow, hmainnet, hincreasing, hreserved, hpositive, hactive⟩ := h.held grant hgrant
    refine ⟨row, hrow, ?_⟩
    simp [ReservedExecution.reservedExposureUsdc, ReservedExecution.countsAsReserved, hmainnet,
      hincreasing, hreserved, hpositive, hactive hheld]
  releasedOnce := h.releasedOnce
  releasedWith jobId state evidence hmem := by
    obtain ⟨hsupports, row, hrow, hstate⟩ := h.releasedWith jobId state evidence hmem
    refine ⟨hsupports, row, hrow, hstate, ?_⟩
    have hresolved := ReleaseEvidence.resolved hsupports
    simp [ReservedExecution.reservedExposureUsdc, ReservedExecution.countsAsReserved, hstate,
      hresolved]
  unclaimed jobId row hmem hrow hmainnet := by
    obtain ⟨job, hjob, htestnet⟩ := h.claimed jobId hmem
    obtain ⟨job', hjob', hnetwork⟩ := h.network jobId row hrow
    obtain rfl := Option.some.inj (hjob.symm.trans hjob')
    rw [htestnet, hmainnet] at hnetwork
    cases Option.some.inj hnetwork

/-- The books speak of the executions and the events. -/
lemma ReservationBooks.congr (h : ReservationBooks jobs userCeiling totalCeiling s)
    (hexecutions : s'.executions = s.executions) (hevents : s'.events = s.events) :
    ReservationBooks jobs userCeiling totalCeiling s' := by
  cases s
  cases s'
  subst hexecutions
  subst hevents
  exact ⟨h.network, h.amounts, h.ceilings, h.reserved, h.onePerExecution, h.held, h.releasedOnce,
    h.releasedWith, h.claimed⟩

/-! ### Flushes -/

/-- A row after a flush was there before. -/
lemma lookup_flush {executions : Table JobId ReservedExecution}
    {f : ReservedExecution → ReservedExecution} (hf : ∀ row, KeepsReservation row (f row))
    {j : JobId} {row' : ReservedExecution}
    (h : (Table.modify executions jobId f).lookup j = some row') :
    ∃ row, executions.lookup j = some row ∧ KeepsReservation row row' := by
  rw [Table.lookup_modify] at h
  split_ifs at h with hj
  · subst hj
    obtain ⟨row, hrow, rfl⟩ := Option.map_eq_some_iff.1 h
    exact ⟨row, hrow, hf row⟩
  · exact ⟨row', h, rfl, rfl, rfl, rfl, id⟩

/-- A flush of an execution, with the event that goes with it, where it keeps what the history says
of the executions that are not released. -/
lemma ReservationBooks.flush (h : ReservationBooks jobs userCeiling totalCeiling s)
    {f : ReservedExecution → ReservedExecution} (hf : ∀ row, KeepsReservation row (f row))
    (hexecutions : s'.executions = Table.modify s.executions jobId f)
    (hgrants : s'.grants = s.grants) (hreleases : s'.releases.Nodup)
    (hactive : ∀ j, j ∉ s'.releases → j ∉ s.releases ∧
      (j = jobId → ∀ row, (f row).state = row.state))
    (hreleasedWith : ∀ j state evidence, .released j state evidence ∈ s'.events →
      evidence.supports state ∧ ∃ row, s'.executions.lookup j = some row ∧ row.state = state)
    (hclaimed : ∀ j, .claimed j ∈ s'.events →
      ∃ job, jobs.lookup j = some job ∧ job.executionNetwork = some .testnet) :
    ReservationBooks jobs userCeiling totalCeiling s' := by
  refine ⟨?_, ?_, ?_, ?_, ?_, ?_, hreleases, hreleasedWith, hclaimed⟩
  · intro j row' hrow'
    rw [hexecutions] at hrow'
    obtain ⟨row, hrow, hkeeps⟩ := lookup_flush hf hrow'
    rw [hkeeps.executionNetwork]
    exact h.network j row hrow
  · intro j row' hrow'
    rw [hexecutions] at hrow'
    obtain ⟨row, hrow, hkeeps⟩ := lookup_flush hf hrow'
    rw [hkeeps.reserved]
    exact h.amounts j row hrow
  · rw [hgrants]
    exact h.ceilings
  · intro j row' hrow' hmainnet hincreasing
    rw [hexecutions] at hrow'
    obtain ⟨row, hrow, hkeeps⟩ := lookup_flush hf hrow'
    rw [hgrants, hkeeps.reserved]
    exact h.reserved j row hrow (hkeeps.executionNetwork ▸ hmainnet) (hkeeps.reduceOnly ▸ hincreasing)
  · rw [hgrants]
    exact h.onePerExecution
  · intro grant hgrant
    rw [hgrants] at hgrant
    obtain ⟨row, hrow, hmainnet, hincreasing, hreserved, hpositive, hunreleased⟩ :=
      h.held grant hgrant
    rw [hexecutions, Table.lookup_modify]
    by_cases hj : grant.jobId = jobId
    · rw [if_pos hj, ← hj, hrow]
      have hkeeps := hf row
      refine ⟨f row, rfl, hkeeps.executionNetwork.trans hmainnet,
        hkeeps.reduceOnly.trans hincreasing, hkeeps.reserved.trans hreserved, hpositive,
        fun hreleased => ?_⟩
      obtain ⟨hbefore, hstate⟩ := hactive grant.jobId hreleased
      rw [hstate hj row]
      exact hunreleased hbefore
    · rw [if_neg hj]
      exact ⟨row, hrow, hmainnet, hincreasing, hreserved, hpositive,
        fun hreleased => hunreleased (hactive grant.jobId hreleased).1⟩

/-- A release: the row was active, and gets the outcome. -/
lemma ReservationBooks.release (h : ReservationBooks jobs userCeiling totalCeiling s)
    {f : ReservedExecution → ReservedExecution} {state : ExecutionState}
    {evidence : ReleaseEvidence} {row : ReservedExecution}
    (hrow : s.executions.lookup jobId = some row) (hactive : row.state.unresolved = true)
    (hf : ∀ row, KeepsReservation row (f row)) (hstate : ∀ row, (f row).state = state)
    (hsupports : evidence.supports state)
    (hexecutions : s'.executions = Table.modify s.executions jobId f)
    (hevents : s'.events = .released jobId state evidence :: s.events) :
    ReservationBooks jobs userCeiling totalCeiling s' := by
  have hnew : jobId ∉ s.releases := h.not_released hrow hactive
  have hgrants : s'.grants = s.grants := by
    unfold BudgetState.grants
    rw [hevents]
    rfl
  have hreleases : s'.releases = jobId :: s.releases := by
    unfold BudgetState.releases
    rw [hevents]
    rfl
  refine h.flush hf hexecutions hgrants ?_ ?_ ?_ ?_
  · rw [hreleases]
    exact List.nodup_cons.2 ⟨hnew, h.releasedOnce⟩
  · intro j hj
    rw [hreleases, List.mem_cons, not_or] at hj
    exact ⟨hj.2, fun heq => absurd heq hj.1⟩
  · intro j state' evidence' hmem
    rw [hevents] at hmem
    rw [hexecutions, Table.lookup_modify]
    rcases List.mem_cons.1 hmem with heq | hmem
    · obtain ⟨rfl, rfl, rfl⟩ := BudgetEvent.released.inj heq
      rw [if_pos rfl, hrow]
      exact ⟨hsupports, f row, rfl, hstate row⟩
    · -- an earlier release is of another execution
      have hreleased : j ∈ s.releases := List.mem_filterMap.2 ⟨_, hmem, rfl⟩
      have hne : j ≠ jobId := by
        rintro rfl
        exact hnew hreleased
      rw [if_neg hne]
      exact h.releasedWith j state' evidence' hmem
  · intro j hmem
    rw [hevents] at hmem
    rcases List.mem_cons.1 hmem with heq | hmem
    · cases heq
    · exact h.claimed j hmem

/-- A claim for a POST, which is on testnet. -/
lemma ReservationBooks.claim (h : ReservationBooks jobs userCeiling totalCeiling s)
    {f : ReservedExecution → ReservedExecution} {job : RisexJob}
    (hjob : jobs.lookup jobId = some job) (htestnet : job.executionNetwork = some .testnet)
    (hf : ∀ row, KeepsReservation row (f row)) (hstate : ∀ row, (f row).state = row.state)
    (hexecutions : s'.executions = Table.modify s.executions jobId f)
    (hevents : s'.events = .claimed jobId :: s.events) :
    ReservationBooks jobs userCeiling totalCeiling s' := by
  have hgrants : s'.grants = s.grants := by
    unfold BudgetState.grants
    rw [hevents]
    rfl
  have hreleases : s'.releases = s.releases := by
    unfold BudgetState.releases
    rw [hevents]
    rfl
  refine h.flush hf hexecutions hgrants ?_ ?_ ?_ ?_
  · rw [hreleases]
    exact h.releasedOnce
  · intro j hj
    rw [hreleases] at hj
    exact ⟨hj, fun _ => hstate⟩
  · intro j state evidence hmem
    rw [hevents] at hmem
    rcases List.mem_cons.1 hmem with heq | hmem
    · cases heq
    · obtain ⟨hsupports, row, hrow, hrowState⟩ := h.releasedWith j state evidence hmem
      refine ⟨hsupports, ?_⟩
      rw [hexecutions, Table.lookup_modify]
      by_cases hj : j = jobId
      · rw [if_pos hj, ← hj, hrow]
        exact ⟨f row, rfl, (hstate row).trans hrowState⟩
      · rw [if_neg hj]
        exact ⟨row, hrow, hrowState⟩
  · intro j hmem
    rw [hevents] at hmem
    rcases List.mem_cons.1 hmem with heq | hmem
    · obtain rfl := BudgetEvent.claimed.inj heq
      exact ⟨job, hjob, htestnet⟩
    · exact h.claimed j hmem

/-! ### Insertions -/

/-- The checks and the row of an order whose job has no execution. -/
lemma persist_empty {newId : ExecutionId} {job : RisexJob} {intent : RisexOrderIntent}
    {plan : RisexIocPlan} {request : RisexRequest} {result : RisexExecutions × RisexExecution}
    (h : persistRisexPrePostExecution ∅ newId jobId job intent plan request = .ok result) :
    result.2.state = .submitting ∧ result.2.userId = job.userId ∧
      result.2.reduceOnly = intent.reduceOnly ∧ 0 < plan.requestedSize ∧ 0 < plan.limitPrice := by
  obtain ⟨-, h⟩ := require_bind_eq_ok.1 h
  obtain ⟨epochId, -, h⟩ := bind_eq_ok.1 h
  obtain ⟨-, h⟩ := require_bind_eq_ok.1 h
  obtain ⟨-, h⟩ := require_bind_eq_ok.1 h
  obtain ⟨-, h⟩ := require_bind_eq_ok.1 h
  obtain ⟨hpositive, h⟩ := require_bind_eq_ok.1 h
  obtain ⟨-, h⟩ := require_bind_eq_ok.1 h
  obtain rfl := Except.ok.inj h
  simp only [Bool.and_eq_true, decide_eq_true_eq] at hpositive
  exact ⟨rfl, rfl, rfl, hpositive.1, hpositive.2⟩

lemma prePostRow_eq_ok {job : RisexJob} {call : PrePostCall} {row : RisexExecution}
    (h : prePostRow job call = .ok row) :
    row.state = .submitting ∧ row.userId = job.userId ∧ row.reduceOnly = call.intent.reduceOnly ∧
      0 < reservation call := by
  unfold prePostRow at h
  cases hpersist : persistRisexPrePostExecution ∅ call.newId call.jobId job call.intent call.plan
      call.request with
  | error error =>
      rw [hpersist] at h
      cases h
  | ok result =>
      rw [hpersist] at h
      obtain rfl : result.2 = row := Except.ok.inj h
      obtain ⟨hstate, huser, hreduce, hsize, hprice⟩ := persist_empty hpersist
      exact ⟨hstate, huser, hreduce, mul_pos hsize hprice⟩

/-- The history with the reservation of a new row, where it has one. -/
def withGrant (granted : Option ReservationGrant) (events : List BudgetEvent) : List BudgetEvent :=
  match granted with
  | none => events
  | some grant => .granted grant :: events

lemma mem_grants_withGrant {granted : Option ReservationGrant} {grant : ReservationGrant}
    (hevents : s'.events = withGrant granted s.events) (h : grant ∈ s'.grants) :
    granted = some grant ∨ grant ∈ s.grants := by
  unfold BudgetState.grants at h ⊢
  rw [hevents] at h
  cases granted with
  | none => exact .inr h
  | some new =>
      rcases List.mem_cons.1 h with heq | hold
      · exact .inl (by rw [heq])
      · exact .inr hold

/-- A new row of the job, with its reservation where it adds exposure on mainnet. -/
lemma ReservationBooks.insert (h : ReservationBooks jobs userCeiling totalCeiling s)
    {job : RisexJob} {row : ReservedExecution} {amount : ℚ} {granted : Option ReservationGrant}
    (hjob : jobs.lookup jobId = some job) (hnone : s.executions.lookup jobId = none)
    (hnetwork : row.executionNetwork = job.executionNetwork)
    (hreserved : row.reserved = some amount) (hnonneg : 0 ≤ amount)
    (hstate : row.state.unresolved = true)
    (hgrant : ∀ grant, granted = some grant → grant.jobId = jobId ∧ grant.amount = amount ∧
      0 < amount ∧ row.executionNetwork = some .mainnet ∧ row.reduceOnly = false ∧
        grant.userExposure + grant.userActive + grant.amount ≤ userCeiling ∧
          grant.totalExposure + grant.totalActive + grant.amount ≤ totalCeiling)
    (hincreasing : row.executionNetwork = some .mainnet → row.reduceOnly = false → granted ≠ none)
    (hexecutions : s'.executions = s.executions.insert jobId row)
    (hevents : s'.events = withGrant granted s.events) :
    ReservationBooks jobs userCeiling totalCeiling s' := by
  have hreleases : s'.releases = s.releases := by
    unfold BudgetState.releases
    rw [hevents]
    cases granted <;> rfl
  have hold : ∀ {j old}, s.executions.lookup j = some old → s'.executions.lookup j = some old := by
    intro j old hlookup
    rw [hexecutions, Table.lookup_insert_eq]
    by_cases hj : j = jobId
    · subst hj
      rw [hnone] at hlookup
      cases hlookup
    · rw [if_neg hj]
      exact hlookup
  have hgrants : ∀ grant ∈ s.grants, grant ∈ s'.grants := by
    intro grant hmem
    unfold BudgetState.grants at hmem ⊢
    rw [hevents]
    cases granted with
    | none => exact hmem
    | some new => exact List.mem_cons_of_mem _ hmem
  refine ⟨?_, ?_, ?_, ?_, ?_, ?_, ?_, ?_, ?_⟩
  · intro j row' hrow'
    rw [hexecutions] at hrow'
    rcases Table.lookup_insert_cases hrow' with ⟨rfl, rfl⟩ | hbefore
    · exact ⟨job, hjob, hnetwork.symm⟩
    · exact h.network j row' hbefore
  · intro j row' hrow'
    rw [hexecutions] at hrow'
    rcases Table.lookup_insert_cases hrow' with ⟨rfl, rfl⟩ | hbefore
    · exact ⟨amount, hreserved, hnonneg⟩
    · exact h.amounts j row' hbefore
  · intro grant hmem
    rcases mem_grants_withGrant hevents hmem with hnew | hbefore
    · exact (hgrant grant hnew).2.2.2.2.2
    · exact h.ceilings grant hbefore
  · intro j row' hrow' hmainnet hincreases
    rw [hexecutions] at hrow'
    rcases Table.lookup_insert_cases hrow' with ⟨rfl, rfl⟩ | hbefore
    · cases hgranted : granted with
      | none => exact absurd hgranted (hincreasing hmainnet hincreases)
      | some grant =>
          obtain ⟨hgrantJob, hamount, hpositive, -⟩ := hgrant grant hgranted
          refine ⟨grant, ?_, hgrantJob, by rw [hreserved, hamount], by rw [hamount]; exact hpositive⟩
          unfold BudgetState.grants
          rw [hevents, hgranted]
          exact List.mem_cons_self ..
    · obtain ⟨grant, hmem, hgrantJob⟩ := h.reserved j row' hbefore hmainnet hincreases
      exact ⟨grant, hgrants grant hmem, hgrantJob⟩
  · have hfresh : jobId ∉ s.grants.map (·.jobId) := by
      intro hmem
      obtain ⟨grant, hgranted, rfl⟩ := List.mem_map.1 hmem
      obtain ⟨row', hrow', -⟩ := h.held grant hgranted
      rw [hnone] at hrow'
      cases hrow'
    unfold BudgetState.grants
    rw [hevents]
    cases hgranted : granted with
    | none => exact h.onePerExecution
    | some grant =>
        show ((grant :: s.grants).map (·.jobId)).Nodup
        rw [List.map_cons, (hgrant grant hgranted).1]
        exact List.nodup_cons.2 ⟨hfresh, h.onePerExecution⟩
  · intro grant hmem
    rw [hreleases]
    rcases mem_grants_withGrant hevents hmem with hnew | hbefore
    · obtain ⟨hgrantJob, hamount, hpositive, hmainnet, hincreases, -⟩ := hgrant grant hnew
      refine ⟨row, ?_, hmainnet, hincreases, by rw [hreserved, hamount], by rw [hamount]; exact hpositive,
        fun _ => hstate⟩
      rw [hexecutions, Table.lookup_insert_eq, if_pos hgrantJob]
    · obtain ⟨row', hrow', hrest⟩ := h.held grant hbefore
      exact ⟨row', hold hrow', hrest⟩
  · rw [hreleases]
    exact h.releasedOnce
  · intro j state evidence hmem
    have hbefore : .released j state evidence ∈ s.events := by
      rw [hevents] at hmem
      cases granted with
      | none => exact hmem
      | some grant =>
          rcases List.mem_cons.1 hmem with heq | hmem
          · cases heq
          · exact hmem
    obtain ⟨hsupports, row', hrow', hrowState⟩ := h.releasedWith j state evidence hbefore
    exact ⟨hsupports, row', hold hrow', hrowState⟩
  · intro j hmem
    refine h.claimed j ?_
    rw [hevents] at hmem
    cases granted with
    | none => exact hmem
    | some grant =>
        rcases List.mem_cons.1 hmem with heq | hmem
        · cases heq
        · exact hmem

end Books

/-! ## The transactions -/

/-- What holds while a session is in a phase: who holds the lock, and that the sums it has read are
upper bounds of what is reserved. -/
def PhaseFacts (jobs : Table JobId RisexJob) (s : BudgetState) (c : SessionId) :
    BudgetPhase → Prop
  | .reserving call job => jobs.lookup call.jobId = some job ∧
      (job.executionNetwork = some .mainnet → s.budgetLock = some c)
  | .exposed call job _ _ => jobs.lookup call.jobId = some job ∧ reservesExposure job call = true ∧
      s.budgetLock = some c
  | .aggregated call job _ _ aggregateReserved => jobs.lookup call.jobId = some job ∧
      reservesExposure job call = true ∧ s.budgetLock = some c ∧
        sumReserved s.executions everyUser ≤ aggregateReserved
  | .summed call job _ _ aggregateReserved userReserved => jobs.lookup call.jobId = some job ∧
      reservesExposure job call = true ∧ s.budgetLock = some c ∧
        sumReserved s.executions everyUser ≤ aggregateReserved ∧
          sumReserved s.executions (onlyUser job.userId) ≤ userReserved
  | .returned => True
  | .settling jobId outcome _ => s.budgetLock = some c ∧
      caseATerminal outcome.executionState = true ∧
        ∃ row, s.executions.lookup jobId = some row ∧ row.state.unresolved = true

/-- The invariant of a run: the books, and what each session holds. -/
structure BudgetFence (jobs : Table JobId RisexJob) (userCeiling totalCeiling : ℚ)
    (s : BudgetState) : Prop where
  books : ReservationBooks jobs userCeiling totalCeiling s
  phases : ∀ c phase, s.sessions.lookup c = some phase → PhaseFacts jobs s c phase

section Sessions

variable {jobs : Table JobId RisexJob} {userCeiling totalCeiling : ℚ} {s s' : BudgetState}
  {jobId : JobId} {c : SessionId}

/-- The facts of a session survive a step of another one that leaves it its lock, its sums and the
row it settles. -/
lemma PhaseFacts.frame {phase : BudgetPhase} (h : PhaseFacts jobs s c phase)
    (hlock : s.budgetLock = some c → s'.budgetLock = some c)
    (hsums : s.budgetLock = some c → ∀ users,
      sumReserved s'.executions users ≤ sumReserved s.executions users)
    (hrow : ∀ j outcome seen, phase = .settling j outcome seen → s.budgetLock = some c →
      s'.executions.lookup j = s.executions.lookup j) : PhaseFacts jobs s' c phase := by
  cases phase with
  | reserving call job => exact ⟨h.1, fun hmainnet => hlock (h.2 hmainnet)⟩
  | exposed call job user total => exact ⟨h.1, h.2.1, hlock h.2.2⟩
  | aggregated call job user total aggregateReserved =>
      obtain ⟨hjob, hreserves, hheld, haggregate⟩ := h
      exact ⟨hjob, hreserves, hlock hheld, (hsums hheld _).trans haggregate⟩
  | summed call job user total aggregateReserved userReserved =>
      obtain ⟨hjob, hreserves, hheld, haggregate, huser⟩ := h
      exact ⟨hjob, hreserves, hlock hheld, (hsums hheld _).trans haggregate,
        (hsums hheld _).trans huser⟩
  | returned => trivial
  | settling j outcome seen =>
      obtain ⟨hheld, hterminal, hactive⟩ := h
      refine ⟨hlock hheld, hterminal, ?_⟩
      rw [hrow j outcome seen rfl hheld]
      exact hactive

/-- A step of one session, for the others. -/
lemma BudgetFence.frame (h : BudgetFence jobs userCeiling totalCeiling s)
    (hbooks : ReservationBooks jobs userCeiling totalCeiling s')
    (hothers : ∀ c' phase, c' ≠ c → s'.sessions.lookup c' = some phase →
      s.sessions.lookup c' = some phase)
    (hlock : ∀ c', c' ≠ c → s.budgetLock = some c' → s'.budgetLock = some c')
    (hsums : ∀ c', c' ≠ c → s.budgetLock = some c' → ∀ users,
      sumReserved s'.executions users ≤ sumReserved s.executions users)
    (hrow : ∀ c' j outcome seen, c' ≠ c → s.sessions.lookup c' = some (.settling j outcome seen) →
      s.budgetLock = some c' → s'.executions.lookup j = s.executions.lookup j)
    (hself : ∀ phase, s'.sessions.lookup c = some phase → PhaseFacts jobs s' c phase) :
    BudgetFence jobs userCeiling totalCeiling s' := by
  refine ⟨hbooks, fun c' phase hphase => ?_⟩
  by_cases hc : c' = c
  · subst hc
    exact hself phase hphase
  · have hbefore := hothers c' phase hc hphase
    refine (h.phases c' phase hbefore).frame (hlock c' hc) (hsums c' hc) fun j outcome seen heq => ?_
    exact hrow c' j outcome seen hc (heq ▸ hbefore)

/-- A step that leaves the executions and the history. -/
lemma BudgetFence.quiet (h : BudgetFence jobs userCeiling totalCeiling s)
    (hexecutions : s'.executions = s.executions) (hevents : s'.events = s.events)
    (hothers : ∀ c' phase, c' ≠ c → s'.sessions.lookup c' = some phase →
      s.sessions.lookup c' = some phase)
    (hlock : ∀ c', c' ≠ c → s.budgetLock = some c' → s'.budgetLock = some c')
    (hself : ∀ phase, s'.sessions.lookup c = some phase → PhaseFacts jobs s' c phase) :
    BudgetFence jobs userCeiling totalCeiling s' := by
  refine h.frame (h.books.congr hexecutions hevents) hothers hlock (fun _ _ _ users => ?_) ?_ hself
  · rw [hexecutions]
  · intro c' j outcome seen _ _ _
    rw [hexecutions]

/-- The instances are no part of the fence. -/
lemma BudgetFence.setInstance (h : BudgetFence jobs userCeiling totalCeiling s)
    (row : ReservedExecution) :
    BudgetFence jobs userCeiling totalCeiling (s.setInstance c jobId row) := by
  refine ⟨h.books.congr rfl rfl, fun c' phase hphase => ?_⟩
  have hfacts := h.phases c' phase hphase
  exact hfacts.frame id (fun _ _ => le_rfl) fun _ _ _ _ _ => rfl

/-- A session moves on. -/
lemma BudgetFence.toPhase (h : BudgetFence jobs userCeiling totalCeiling s) {phase : BudgetPhase}
    (hphase : PhaseFacts jobs s c phase) :
    BudgetFence jobs userCeiling totalCeiling (s.toPhase c phase) := by
  have hfacts : PhaseFacts jobs (s.toPhase c phase) c phase :=
    hphase.frame id (fun _ _ => le_rfl) fun _ _ _ _ _ => rfl
  refine h.quiet (c := c) rfl rfl (fun c' phase' hc hlookup => ?_) (fun _ _ hlock => hlock)
    fun phase' hlookup => ?_
  · rcases Table.lookup_insert_cases hlookup with ⟨rfl, -⟩ | hbefore
    · exact absurd rfl hc
    · exact hbefore
  · have hself : (s.sessions.insert c phase).lookup c = some phase' := hlookup
    rw [Table.lookup_insert_eq, if_pos rfl] at hself
    obtain rfl := Option.some.inj hself
    exact hfacts

lemma endTransaction_sessions {c' : SessionId} {phase : BudgetPhase}
    (h : (s.endTransaction c).sessions.lookup c' = some phase) :
    c' ≠ c ∧ s.sessions.lookup c' = some phase := by
  have herase : (s.sessions.erase c).lookup c' = some phase := h
  by_cases hc : c' = c
  · subst hc
    simp at herase
  · exact ⟨hc, Table.lookup_of_erase herase⟩

lemma endTransaction_lock {c' : SessionId} (hc : c' ≠ c) (h : s.budgetLock = some c') :
    (s.endTransaction c).budgetLock = some c' := by
  show (if s.budgetLock = some c then none else s.budgetLock) = some c'
  rw [h, if_neg]
  intro heq
  exact hc (Option.some.inj heq)

lemma BudgetFence.endTransaction (h : BudgetFence jobs userCeiling totalCeiling s) :
    BudgetFence jobs userCeiling totalCeiling (s.endTransaction c) :=
  h.quiet (c := c) rfl rfl (fun _ _ _ hlookup => (endTransaction_sessions hlookup).2)
    (fun _ hc hlock => endTransaction_lock hc hlock)
    fun _ hlookup => absurd rfl (endTransaction_sessions hlookup).1

lemma BudgetFence.rollback (h : BudgetFence jobs userCeiling totalCeiling s) :
    BudgetFence jobs userCeiling totalCeiling (s.rollback c) :=
  h.quiet (c := c) rfl rfl (fun _ _ _ hlookup => (endTransaction_sessions hlookup).2)
    (fun _ hc hlock => endTransaction_lock hc hlock)
    fun _ hlookup => absurd rfl (endTransaction_sessions hlookup).1

/-- An idle session takes the lock. -/
lemma BudgetFence.lock (h : BudgetFence jobs userCeiling totalCeiling s)
    (hidle : s.sessions.lookup c = none) (hfree : s.budgetLock = none) :
    BudgetFence jobs userCeiling totalCeiling { s with budgetLock := some c } := by
  refine h.quiet (c := c) rfl rfl (fun _ _ _ hlookup => hlookup) (fun c' _ hlock => ?_)
    fun phase hlookup => ?_
  · rw [hfree] at hlock
    cases hlock
  · have hbefore : s.sessions.lookup c = some phase := hlookup
    rw [hidle] at hbefore
    cases hbefore

/-! ### Reservations -/

lemma BudgetFence.reserveStep (h : BudgetFence jobs userCeiling totalCeiling s)
    {call : PrePostCall} {job : RisexJob} (hidle : s.sessions.lookup c = none)
    (hjob : jobs.lookup call.jobId = some job)
    (hstep : HyperCopy.reserveStep s c call job = some s') :
    BudgetFence jobs userCeiling totalCeiling s' := by
  unfold HyperCopy.reserveStep at hstep
  split at hstep
  · obtain rfl := Option.some.inj hstep
    exact h
  · split_ifs at hstep with hwaits hmainnet
    all_goals dsimp only at hstep
    · have hfree : s.budgetLock = none := by
        cases hlock : s.budgetLock with
        | none => rfl
        | some c' => exact absurd ⟨hmainnet, by rw [hlock]; rfl⟩ hwaits
      have hlocked := h.lock hidle hfree
      split at hstep
      · obtain rfl := Option.some.inj hstep
        exact (hlocked.setInstance _).toPhase trivial
      · obtain rfl := Option.some.inj hstep
        exact hlocked.toPhase ⟨hjob, fun _ => rfl⟩
    · split at hstep
      · obtain rfl := Option.some.inj hstep
        exact (h.setInstance _).toPhase trivial
      · obtain rfl := Option.some.inj hstep
        exact h.toPhase ⟨hjob, fun hnetwork => absurd hnetwork hmainnet⟩

/-- Where a new row is counted, its session holds the lock, so that nobody else has read a sum. -/
lemma sumReserved_insert_le {executions : Table JobId ReservedExecution}
    {row : ReservedExecution} (hnone : executions.lookup jobId = none)
    (huncounted : row.executionNetwork ≠ some .mainnet) (users : UserId → Bool) :
    sumReserved (executions.insert jobId row) users ≤ sumReserved executions users := by
  have hcounts : row.countsAsReserved = false := by
    simp [ReservedExecution.countsAsReserved, huncounted]
  unfold sumReserved
  rw [Table.sum_insert_of_none hnone, hcounts]
  simp

/-- The insertion of a checked order by the session that made the checks. -/
lemma BudgetFence.insertRow (h : BudgetFence jobs userCeiling totalCeiling s) {call : PrePostCall}
    {job : RisexJob} {amount : ℚ} (granted : Option ReservationGrant)
    (hjob : jobs.lookup call.jobId = some job)
    (hlock : job.executionNetwork = some .mainnet → s.budgetLock = some c)
    (hzero : granted = none → amount = 0 ∧ reservesExposure job call = false)
    (hgrant : ∀ grant, granted = some grant → grant.jobId = call.jobId ∧ grant.amount = amount ∧
      amount = reservation call ∧ reservesExposure job call = true ∧
        grant.userExposure + grant.userActive + grant.amount ≤ userCeiling ∧
          grant.totalExposure + grant.totalActive + grant.amount ≤ totalCeiling) :
    BudgetFence jobs userCeiling totalCeiling
      (HyperCopy.insertRow s c call job amount (withGrant granted s.events)) := by
  unfold HyperCopy.insertRow
  split
  · exact h.rollback
  · rename_i row hrow
    obtain ⟨hstate, -, hreduce, hpositive⟩ := prePostRow_eq_ok hrow
    split_ifs with hunique
    · exact h.rollback
    · have hnone : s.executions.lookup call.jobId = none := by
        rw [not_or] at hunique
        simpa using hunique.1
      have hincreases : reservesExposure job call = true ↔
          job.executionNetwork = some .mainnet ∧ row.reduceOnly = false := by
        simp [reservesExposure, hreduce]
      dsimp only
      refine h.frame (c := c) ?_ (fun c' phase _ hlookup => (endTransaction_sessions hlookup).2)
        (fun c' hc hheld => endTransaction_lock hc hheld) ?_ ?_
        fun phase hlookup => absurd rfl (endTransaction_sessions hlookup).1
      · refine h.books.insert hjob hnone rfl rfl
          ?_ ?_ ?_ ?_ rfl rfl
        · cases hgranted : granted with
          | none => exact (hzero hgranted).1.ge
          | some grant =>
              obtain ⟨-, -, hamount, -⟩ := hgrant grant hgranted
              rw [hamount]
              exact hpositive.le
        · show row.state.unresolved = true
          rw [hstate]
          rfl
        · intro grant hgranted
          obtain ⟨hgrantJob, hgrantAmount, hamount, hreserves, hceilings⟩ := hgrant grant hgranted
          obtain ⟨hmainnet, hincreasing⟩ := hincreases.1 hreserves
          exact ⟨hgrantJob, hgrantAmount, hamount ▸ hpositive, hmainnet, hincreasing, hceilings⟩
        · intro hmainnet hincreasing hgranted
          have hreserves := hincreases.2 ⟨hmainnet, hincreasing⟩
          rw [(hzero hgranted).2] at hreserves
          cases hreserves
      · intro c' hc hheld users
        refine sumReserved_insert_le hnone (fun hmainnet => ?_) users
        rw [hlock hmainnet] at hheld
        exact hc (Option.some.inj hheld).symm
      · intro c' j outcome seen _ hphase _
        obtain ⟨-, -, settled, hsettled, -⟩ := h.phases c' _ hphase
        have hne : j ≠ call.jobId := by
          rintro rfl
          rw [hnone] at hsettled
          cases hsettled
        exact AList.lookup_insert_ne hne

/-- The sums that were read bound what is reserved at the commit, so the ceilings hold there. -/
lemma BudgetFence.insertStep (h : BudgetFence jobs userCeiling totalCeiling s)
    {phase : BudgetPhase} (hphase : s.sessions.lookup c = some phase)
    (hstep : HyperCopy.insertStep userCeiling totalCeiling s c phase = some s') :
    BudgetFence jobs userCeiling totalCeiling s' := by
  have hfacts := h.phases c phase hphase
  cases phase with
  | reserving call job =>
      obtain ⟨hjob, hlock⟩ := hfacts
      simp only [HyperCopy.insertStep] at hstep
      split_ifs at hstep with hreserves
      obtain rfl := Option.some.inj hstep
      exact h.insertRow none hjob hlock
        (fun _ => ⟨rfl, by simpa using hreserves⟩) fun grant hgranted => by cases hgranted
  | summed call job user total aggregateReserved userReserved =>
      obtain ⟨hjob, hreserves, hheld, haggregate, huser⟩ := hfacts
      simp only [HyperCopy.insertStep] at hstep
      split_ifs at hstep with hceiling
      · obtain rfl := Option.some.inj hstep
        exact h.rollback
      · obtain rfl := Option.some.inj hstep
        rw [not_or, not_lt, not_lt] at hceiling
        rw [sumReserved_eq h.books.amounts] at haggregate huser
        refine h.insertRow (some _) hjob (fun _ => hheld)
          (fun hgranted => by cases hgranted) fun grant hgranted => ?_
        obtain rfl := Option.some.inj hgranted
        refine ⟨rfl, rfl, rfl, hreserves, ?_, ?_⟩
        · show user + activeReservations s.executions (onlyUser job.userId) + reservation call ≤
            userCeiling
          linarith [hceiling.1]
        · show total + activeReservations s.executions everyUser + reservation call ≤ totalCeiling
          linarith [hceiling.2]
  | _ => cases hstep

/-! ### Releases -/

/-- What a fresh query returns as active is active. -/
lemma active_of_seen {row : ReservedExecution} (hfresh : activeInstance s c jobId)
    (hrow : s.executions.lookup jobId = some row)
    (hseen : (s.seenBy c jobId row).state.unresolved = true) : row.state.unresolved = true := by
  unfold BudgetState.seenBy at hseen
  cases hinstance : s.instanceOf c jobId with
  | none =>
      rw [hinstance] at hseen
      exact hseen
  | some seen =>
      rw [hinstance] at hseen
      exact hfresh row hrow seen hinstance hseen

lemma BudgetFence.settleRead (h : BudgetFence jobs userCeiling totalCeiling s)
    {outcome : RisexSubmissionOutcome} (hidle : s.sessions.lookup c = none)
    (hfresh : activeInstance s c jobId)
    (hstep : HyperCopy.settleRead s c jobId outcome = some s') :
    BudgetFence jobs userCeiling totalCeiling s' := by
  unfold HyperCopy.settleRead at hstep
  split_ifs at hstep with hterminal hwaits
  · obtain rfl := Option.some.inj hstep
    exact h
  · have hfree : s.budgetLock = none := by simpa using hwaits
    split at hstep
    · obtain rfl := Option.some.inj hstep
      exact h.rollback
    · rename_i row hrow
      dsimp only at hstep
      split_ifs at hstep with hseen
      · obtain rfl := Option.some.inj hstep
        simp only [Bool.or_eq_true, Bool.not_eq_true', not_or, Bool.not_eq_false] at hterminal
        exact ((h.lock hidle hfree).setInstance _).toPhase
          ⟨rfl, hterminal.2, row, hrow, active_of_seen hfresh hrow hseen⟩
      · obtain rfl := Option.some.inj hstep
        exact h.rollback

/-- The flush of an outcome keeps the reservation's columns. -/
lemma writeSettled_keeps {outcome : RisexSubmissionOutcome}
    (hterminal : caseATerminal outcome.executionState = true) (seen : RisexExecution)
    (row : ReservedExecution) :
    KeepsReservation row
      { row with toRisexExecution := writeSettled outcome seen row.toRisexExecution } :=
  ⟨rfl, rfl, rfl, rfl, (writeSettled_rewrite hterminal seen row.toRisexExecution).unresolved⟩

lemma settlementEvidence_supports {outcome : RisexSubmissionOutcome}
    (hterminal : caseATerminal outcome.executionState = true) :
    (settlementEvidence outcome).supports outcome.executionState := by
  unfold settlementEvidence
  split_ifs with hrejected
  · exact hrejected
  · show outcome.executionState = .filled ∨ outcome.executionState = .canceled
    cases hstate : outcome.executionState with
    | filled => exact .inl rfl
    | canceled => exact .inr rfl
    | rejected => exact absurd hstate hrejected
    | submitting => rw [hstate] at hterminal; cases hterminal
    | unknown => rw [hstate] at hterminal; cases hterminal
    | quarantined => rw [hstate] at hterminal; cases hterminal

/-- The settlement holds the lock from its locked read on, so it is the only one. -/
lemma BudgetFence.settleCommit (h : BudgetFence jobs userCeiling totalCeiling s)
    {outcome : RisexSubmissionOutcome} {seen : ReservedExecution} {truth : ProviderTruth}
    (hphase : s.sessions.lookup c = some (.settling jobId outcome seen)) :
    BudgetFence jobs userCeiling totalCeiling
      (HyperCopy.settleCommit s c jobId outcome seen truth) := by
  obtain ⟨hheld, hterminal, row, hrow, hactive⟩ := h.phases c _ hphase
  unfold HyperCopy.settleCommit
  split_ifs with htruth
  · exact h.rollback
  · dsimp only
    -- no other session holds the lock, and none but its holder has read a sum or locked a row
    have halone : ∀ c', c' ≠ c → s.budgetLock ≠ some c' := by
      intro c' hc hlock
      rw [hheld] at hlock
      exact hc (Option.some.inj hlock).symm
    refine h.frame (c := c) ?_ (fun c' phase _ hlookup => (endTransaction_sessions hlookup).2)
      (fun c' hc hlock => endTransaction_lock hc hlock)
      (fun c' hc hlock => absurd hlock (halone c' hc))
      (fun c' j outcome' seen' hc _ hlock => absurd hlock (halone c' hc))
      fun phase hlookup => absurd rfl (endTransaction_sessions hlookup).1
    exact h.books.release hrow hactive (writeSettled_keeps hterminal seen.toRisexExecution)
      (fun _ => rfl) (settlementEvidence_supports hterminal) rfl rfl

/-- What is not refused in front of the first POST is `SUBMITTING`. -/
lemma claim_submitting {job : RisexJob} {fence : FenceReads} {row : RisexExecution}
    {submission : RisexSubmission} {outcome : ClaimOutcome}
    (h : claimRisexFirstPost job fence row submission = .ok outcome) (hclaim : outcome ≠ .refused) :
    row.state = .submitting := by
  obtain ⟨activeEpochId, -, h⟩ := bind_eq_ok.1 h
  by_contra hstate
  rw [if_pos (.inl hstate)] at h
  exact hclaim (Except.ok.inj h).symm

/-- Only a testnet execution is claimed. -/
lemma claim_testnet {job : RisexJob} {fence : FenceReads} {row claimed : RisexExecution}
    {submission : RisexSubmission}
    (h : claimRisexFirstPost job fence row submission = .ok (.claimed claimed)) :
    job.executionNetwork = some .testnet := by
  obtain ⟨activeEpochId, -, h⟩ := bind_eq_ok.1 h
  split_ifs at h with hstatus hsuperseded
  · cases Except.ok.inj h
  · obtain ⟨-, h⟩ := require_bind_eq_ok.1 h
    cases Except.ok.inj h
  · by_contra hnetwork
    exact hsuperseded (by simp [superseded, hnetwork])

/-- A flush without the lock: it raises no sum, and the row is not being settled. -/
lemma BudgetFence.flushUnlocked (h : BudgetFence jobs userCeiling totalCeiling s)
    {f : ReservedExecution → ReservedExecution} (hidle : s.sessions.lookup c = none)
    (hunlocked : s.rowLocked jobId = false) (hf : ∀ row, KeepsReservation row (f row))
    (hbooks : ReservationBooks jobs userCeiling totalCeiling s')
    (hsessions : s'.sessions = s.sessions) (hlock : s'.budgetLock = s.budgetLock)
    (hexecutions : s'.executions = Table.modify s.executions jobId f) :
    BudgetFence jobs userCeiling totalCeiling s' := by
  refine h.frame (c := c) hbooks ?_ ?_ ?_ ?_ ?_
  · intro c' phase _ hlookup
    rw [hsessions] at hlookup
    exact hlookup
  · intro c' _ hheld
    rw [hlock]
    exact hheld
  · intro c' _ _ users
    rw [hexecutions]
    exact sumReserved_modify_le h.books.amounts hf users
  · intro c' j outcome seen _ hphase _
    have hne : j ≠ jobId := by
      have hno := Table.any_eq_false.1 hunlocked c' _ hphase
      simpa using hno
    rw [hexecutions, Table.lookup_modify_of_ne _ _ hne]
  · intro phase hlookup
    rw [hsessions, hidle] at hlookup
    cases hlookup

lemma BudgetFence.claimRead (h : BudgetFence jobs userCeiling totalCeiling s) {job : RisexJob}
    {fence : FenceReads} {submission : RisexSubmission} (hidle : s.sessions.lookup c = none)
    (hunlocked : s.rowLocked jobId = false) (hjob : jobs.lookup jobId = some job)
    (hfresh : activeInstance s c jobId) :
    BudgetFence jobs userCeiling totalCeiling
      (HyperCopy.claimRead s c jobId job fence submission) := by
  unfold HyperCopy.claimRead
  split
  · exact h.rollback
  · rename_i row hrow
    split_ifs with hid
    · exact h.rollback
    · dsimp only
      split
      · exact h.rollback
      · exact h.rollback
      · rename_i blocked hclaim
        have hsubmitting := claim_submitting hclaim (by simp)
        have hactive := active_of_seen hfresh hrow (by rw [hsubmitting]; rfl)
        have hkeeps : ∀ row : ReservedExecution, KeepsReservation row
            { row with toRisexExecution := writeBlocked blocked row.toRisexExecution } :=
          fun row => ⟨rfl, rfl, rfl, rfl, (writeBlocked_rewrite blocked _).unresolved⟩
        have hevidence : ReleaseEvidence.preSubmitBlocked.supports .canceled := rfl
        refine h.flushUnlocked hidle hunlocked hkeeps ?_ rfl rfl rfl
        exact h.books.release hrow hactive hkeeps (fun _ => rfl) hevidence rfl rfl
      · rename_i claimed hclaim
        have hkeeps : ∀ row : ReservedExecution, KeepsReservation row
            { row with toRisexExecution := writeResponse claimed row.toRisexExecution } :=
          fun row => ⟨rfl, rfl, rfl, rfl, id⟩
        refine h.flushUnlocked hidle hunlocked hkeeps ?_ rfl rfl rfl
        exact h.books.claim hjob (claim_testnet hclaim) hkeeps (fun _ => rfl) rfl rfl

/-! ### Every step -/

/-- **Step lemma.** -/
theorem BudgetFence.step {op : BudgetOp} (h : BudgetFence jobs userCeiling totalCeiling s)
    (hfresh : FreshInstance s op)
    (hstep : budgetStep jobs userCeiling totalCeiling s op = some s') :
    BudgetFence jobs userCeiling totalCeiling s' := by
  cases op with
  | load c jobId =>
      obtain ⟨row, -, rfl⟩ := Option.map_eq_some_iff.1 hstep
      exact h.setInstance _
  | refresh c jobId =>
      obtain ⟨row, -, rfl⟩ := Option.map_eq_some_iff.1 hstep
      exact h.setInstance _
  | reserve c call =>
      simp only [budgetStep] at hstep
      split_ifs at hstep with hbusy
      obtain ⟨job, hjob, hstep⟩ := Option.bind_eq_some_iff.1 hstep
      exact h.reserveStep (by simpa using hbusy) hjob hstep
  | readExposure c exposure =>
      simp only [budgetStep] at hstep
      split at hstep
      · rename_i call job hphase
        obtain ⟨hjob, hlock⟩ := h.phases c _ hphase
        split_ifs at hstep with hreserves
        have hmainnet : job.executionNetwork = some .mainnet := by
          simp only [reservesExposure, Bool.and_eq_true, decide_eq_true_eq] at hreserves
          exact hreserves.1
        split at hstep
        · split_ifs at hstep
          · obtain rfl := Option.some.inj hstep
            exact h.toPhase ⟨hjob, hreserves, hlock hmainnet⟩
          · obtain rfl := Option.some.inj hstep
            exact h.rollback
        · obtain rfl := Option.some.inj hstep
          exact h.rollback
      · cases hstep
  | sumAggregate c =>
      simp only [budgetStep] at hstep
      split at hstep
      · rename_i call job user total hphase
        obtain ⟨hjob, hreserves, hheld⟩ := h.phases c _ hphase
        obtain rfl := Option.some.inj hstep
        exact h.toPhase ⟨hjob, hreserves, hheld, le_rfl⟩
      · cases hstep
  | sumUser c =>
      simp only [budgetStep] at hstep
      split at hstep
      · rename_i call job user total aggregateReserved hphase
        obtain ⟨hjob, hreserves, hheld, haggregate⟩ := h.phases c _ hphase
        obtain rfl := Option.some.inj hstep
        exact h.toPhase ⟨hjob, hreserves, hheld, haggregate, le_rfl⟩
      · cases hstep
  | insert c =>
      obtain ⟨phase, hphase, hstep⟩ := Option.bind_eq_some_iff.1 hstep
      exact h.insertStep hphase hstep
  | settle c jobId outcome =>
      simp only [budgetStep] at hstep
      split_ifs at hstep with hbusy
      exact h.settleRead (by simpa using hbusy) hfresh hstep
  | commitSettlement c truth =>
      simp only [budgetStep] at hstep
      split at hstep
      · rename_i jobId outcome seen hphase
        obtain rfl := Option.some.inj hstep
        exact h.settleCommit hphase
      · cases hstep
  | claim c jobId fence submission =>
      simp only [budgetStep] at hstep
      split_ifs at hstep with hwaits
      obtain ⟨job, hjob, rfl⟩ := Option.map_eq_some_iff.1 hstep
      rw [not_or] at hwaits
      exact h.claimRead (by simpa using hwaits.1) (by simpa using hwaits.2) hjob hfresh
  | commit c =>
      simp only [budgetStep] at hstep
      split at hstep
      · obtain rfl := Option.some.inj hstep
        exact h.endTransaction
      · cases hstep
  | fail c =>
      obtain rfl := Option.some.inj hstep
      exact h.rollback

end Sessions

/-- No execution, no transaction and no history. -/
structure BudgetInitial (s : BudgetState) : Prop where
  executions : s.executions = ∅
  sessions : s.sessions = ∅
  events : s.events = []

lemma BudgetInitial.fence {jobs : Table JobId RisexJob} {userCeiling totalCeiling : ℚ}
    {s : BudgetState} (h : BudgetInitial s) : BudgetFence jobs userCeiling totalCeiling s := by
  have hgrants : s.grants = [] := by
    unfold BudgetState.grants
    rw [h.events]
    rfl
  have hreleases : s.releases = [] := by
    unfold BudgetState.releases
    rw [h.events]
    rfl
  have hno : ∀ jobId row, s.executions.lookup jobId ≠ some row := by
    intro jobId row hrow
    rw [h.executions] at hrow
    cases hrow
  refine ⟨⟨?_, ?_, ?_, ?_, ?_, ?_, ?_, ?_, ?_⟩, ?_⟩
  · exact fun jobId row hrow => absurd hrow (hno jobId row)
  · exact fun jobId row hrow => absurd hrow (hno jobId row)
  · intro grant hmem
    rw [hgrants] at hmem
    cases hmem
  · exact fun jobId row hrow => absurd hrow (hno jobId row)
  · rw [hgrants]
    exact List.nodup_nil
  · intro grant hmem
    rw [hgrants] at hmem
    cases hmem
  · rw [hreleases]
    exact List.nodup_nil
  · intro jobId state evidence hmem
    rw [h.events] at hmem
    cases hmem
  · intro jobId hmem
    rw [h.events] at hmem
    cases hmem
  · intro c phase hphase
    rw [h.sessions] at hphase
    cases hphase

/-- **Reservations stay within the ceilings and are released once, where no settlement judges an
instance older than a release.**  In every run of the sessions of any users, with crashes and
errors anywhere, in which whoever settles or cancels an execution that it has loaded as active finds
it active: each reservation was within both ceilings at its commit, is the only one of its execution,
stays active until it is released, and is released once, with the outcome the row then has. -/
theorem exposure_reservations_of_fresh (jobs : Table JobId RisexJob) (userCeiling totalCeiling : ℚ)
    {s₀ s : BudgetState} {ops : List BudgetOp} (hinit : BudgetInitial s₀)
    (hfresh : RunMeets (budgetStep jobs userCeiling totalCeiling) FreshInstance s₀ ops)
    (hrun : run (budgetStep jobs userCeiling totalCeiling) s₀ ops = some s) :
    ExposureReservations userCeiling totalCeiling s := by
  have hfence : BudgetFence jobs userCeiling totalCeiling s :=
    run_invariant_of_meets (fun _ _ _ hs hop hstep => hs.step hop hstep) hinit.fence hfresh hrun
  exact hfence.books.exposureReservations

/-! ## Two orders under one ceiling -/

/-- The job `5` of the first user and the job `6` of the second one. -/
def mainnetJobs : Table JobId RisexJob :=
  ((∅ : Table JobId RisexJob).insert 5 { btcJob with executionNetwork := some .mainnet }).insert 6
    { btcJob with executionNetwork := some .mainnet, userId := 2, cloid := 21, clientOrderId := 22 }

/-- Nothing is reserved yet. -/
def emptyBudget : BudgetState := ⟨∅, ∅, none, ∅, []⟩

lemma emptyBudget_initial : BudgetInitial emptyBudget := ⟨rfl, rfl, rfl⟩

/-- A session reserves the exposure of a job's order, about 5026 USDC. -/
def reserveActions (c : SessionId) (jobId : JobId) (newId : ExecutionId) (user total : ℚ) :
    List BudgetOp :=
  [.reserve c ⟨jobId, newId, btcIntent, btcPlan 1, btcRequest 1⟩, .readExposure c (some (user, total)),
    .sumAggregate c, .sumUser c, .insert c]

/-- A session settles the execution of the job `5`. -/
def settleActions (c : SessionId) : List BudgetOp :=
  [.settle c 5 ⟨true, .filled, some 77, some (1 / 10)⟩, .commitSettlement c .persisted]

/-- The second order is over the ceiling until the first one is settled; the session that made the
first reservation has died. -/
def reservedInTurn : List BudgetOp :=
  reserveActions 1 5 100 15000 68000 ++ .fail 1 :: reserveActions 2 6 101 0 68000 ++
    settleActions 3 ++ reserveActions 2 6 101 0 68000

/-- Another session settles the execution, and then the one that made the reservation, on the
instance it has kept. -/
def settledTwice : List BudgetOp :=
  reserveActions 1 5 100 15000 68000 ++ settleActions 3 ++ settleActions 1

/-- The executions with a reservation, and those whose reservation was released. -/
def reservationsOf (s : BudgetState) : List JobId × List JobId :=
  (s.grants.map (·.jobId), s.releases)

/-- A crash, a refusal and a settlement. -/
theorem exposure_reservations_of_fresh_inTurn :
    ∃ s, run (budgetStep mainnetJobs 25000 75000) emptyBudget reservedInTurn = some s ∧
      reservationsOf s = ([6, 5], [5]) ∧ ExposureReservations 25000 75000 s := by
  have hreservations : (run (budgetStep mainnetJobs 25000 75000) emptyBudget reservedInTurn).map
      reservationsOf = some ([6, 5], [5]) := by decide +kernel
  have hfresh : RunMeets (budgetStep mainnetJobs 25000 75000) FreshInstance emptyBudget
      reservedInTurn := by decide +kernel
  obtain ⟨s, hrun, hs⟩ := Option.map_eq_some_iff.1 hreservations
  exact ⟨s, hrun, hs, exposure_reservations_of_fresh mainnetJobs 25000 75000 emptyBudget_initial
    hfresh hrun⟩

/-- **Two releases of one reservation.**  The locked read of the second settlement returns the
instance its session loaded before the first one. -/
theorem stale_settlement_releases_again :
    BudgetInitial emptyBudget ∧
      ∃ s, run (budgetStep mainnetJobs 25000 75000) emptyBudget settledTwice = some s ∧
        reservationsOf s = ([5], [5, 5]) ∧ ¬ExposureReservations 25000 75000 s := by
  have hreservations : (run (budgetStep mainnetJobs 25000 75000) emptyBudget settledTwice).map
      reservationsOf = some ([5], [5, 5]) := by decide +kernel
  obtain ⟨s, hrun, hs⟩ := Option.map_eq_some_iff.1 hreservations
  refine ⟨emptyBudget_initial, s, hrun, hs, fun hreserved => ?_⟩
  have honce := hreserved.releasedOnce
  have hreleases : s.releases = [5, 5] := (Prod.mk.inj hs).2
  rw [hreleases] at honce
  simp at honce

end HyperCopy

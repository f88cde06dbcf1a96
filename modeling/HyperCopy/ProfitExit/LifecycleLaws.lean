import HyperCopy.Executor.AntiReopen
import HyperCopy.Executor.Moves
import HyperCopy.ProfitExit.Lifecycle

/-!
# One exit at a time

In a source cycle a position may be exited more than once, since an exit can fill in part, or fail
before it has ordered anything.  The evaluation decides again only when the newest decision of the
cycle is PARTIAL, or there is none but FAILED ones, and it reads that without the lock of the user,
from rows that an attempt at the exit may be about to write.

What makes this sound is that PARTIAL and FAILED are final: whoever writes them ends the job in the
same transaction, under the user's lock, and a job that is over stays over (`JobOver.step`).  So the
invariant `ExitBooks.order` says of any two exits of a cycle that the older is settled.  The one
writer that does not hold the lock is the evaluation itself, which gives up a decision whose
destination has changed before it was published; that destination never comes back.
-/

namespace HyperCopy

namespace ExitSystem

variable {venue : Venue} {ttl : ℕ} {profitExitJobId : DecisionId → JobId} {s s' : ExitSystem}

/-! ## The invariant -/

/-- The epoch of the scope is not the active one of its user. -/
def Closed (s : ExitSystem) (scope : ProfitExitScope) : Prop :=
  ∀ destination, s.active scope.userId = some destination →
    destination.epochId ≠ scope.executionEpochId

/-- The scope of a destination there has been. -/
structure ScopeTrue (s : ExitSystem) (scope : ProfitExitScope) : Prop where
  epoch : scope.executionEpochId ∈ s.epochs
  provider : scope.executionProvider = .hyperliquid
  destination : ∀ destination, s.active scope.userId = some destination →
    destination.epochId = scope.executionEpochId →
    destination.provider = scope.executionProvider ∧ destination.network = scope.executionNetwork

/-- An operational decision and its job. -/
structure IsExit (s : ExitSystem) (id : DecisionId) (d : ProfitExitIntent) (job : JobId) : Prop where
  row : s.decisions.lookup id = some d
  job : d.copyJobId = some job

/-- The exit has ended, and its cycle may be decided again. -/
structure Settled (s : ExitSystem) (d : ProfitExitIntent) (job : JobId) : Prop where
  jobOver : JobOver s.executor job
  result : d.intentState = some .partialExit ∧ Filled s.executor job ∨
    d.intentState = some .failed ∧ Unfilled s.executor job

/-- What the intent state of an exit says about its job and its order. -/
def IntentTrue (s : ExitSystem) (d : ProfitExitIntent) (job : JobId) : Prop :=
  match d.intentState with
  | none => False
  | some .pending | some .ambiguous => True
  | some .partialExit | some .completed => JobOver s.executor job ∧ Filled s.executor job
  | some .failed => JobOver s.executor job ∧ Unfilled s.executor job ∨ s.Closed d.scope

/-- A decision and its job belong together. -/
structure Bound (s : ExitSystem) (id : DecisionId) (d : ProfitExitIntent) (job : JobId) : Prop where
  action : d.action = .closeProfit
  context : s.contexts.lookup job = some id
  row : ∃ row, s.executor.jobs.lookup job = some row ∧ row.job = exitJob d.scope
  decided : d.decidedAt ≤ s.executor.clock
  intent : s.IntentTrue d job

/-- What the decisions and the jobs say of each other. -/
structure ExitBooks (s : ExitSystem) : Prop where
  id : ∀ id d, s.decisions.lookup id = some d → d.id = id
  scope : ∀ id d, s.decisions.lookup id = some d → s.ScopeTrue d.scope
  recorded : ∀ id d, s.decisions.lookup id = some d → d.copyJobId = none → d.intentState = none
  bound : ∀ id d job, s.IsExit id d job → s.Bound id d job
  context : ∀ job id, s.contexts.lookup job = some id → ∃ d, s.IsExit id d job
  order : ∀ id id' d d' job job', s.IsExit id d job → s.IsExit id' d' job' → d.scope = d'.scope →
    d.sourceCycleId = d'.sourceCycleId → id ≠ id' →
    d.decidedAt < d'.decidedAt ∧ s.Settled d job ∨ d'.decidedAt < d.decidedAt ∧ s.Settled d' job'

/-- The leg of an exit is its only one. -/
structure ExitLeg (a : Attempt) (leg : AttemptLeg) : Prop where
  kind : leg.kind = .o
  single : leg.opening = false ∧ a.plan.secondary = none

/-- An intent state that is set and not committed is true of what the session has seen. -/
def IntentBacked (s : ExecutorState) (job : JobId) (stage : Stage) : ProfitExitIntentState → Prop
  | .pending => False
  | .ambiguous => ∀ w, stage ≠ .waiting w
  | .failed => (∃ state, stage = .closing (.finish state) ∧ state.active = false) ∧ Unfilled s job
  | .partialExit | .completed =>
    (∃ state, stage = .closing (.finish state) ∧ state.active = false) ∧ Filled s job

/-- The attempt that has set an intent state, and its exit. -/
def Backed (s : ExecutorState) (contexts : Table JobId DecisionId) (t : TaskId)
    (intent : ProfitExitIntentState) : Prop :=
  ∃ id u n stage, s.tasks.lookup t = some (.attempt id u n stage) ∧
    (contexts.lookup id).isSome = true ∧ IntentBacked s id stage intent

/-- All other exits of the cycle are older. -/
def Newest (s : ExitSystem) (id : DecisionId) (d : ProfitExitIntent) : Prop :=
  ∀ id' d' job', s.IsExit id' d' job' → d'.scope = d.scope →
    d'.sourceCycleId = d.sourceCycleId → id' ≠ id → d'.decidedAt < d.decidedAt

/-- What the evaluation has read stays true until it has decided. -/
def EvaluationTrue (s : ExitSystem) : EvaluationStage → Prop
  | .between => True
  | .deciding scope cycle _ shadow => s.ScopeTrue scope ∧
      (shadow = false → ∀ id d job, s.IsExit id d job → d.scope = scope →
        d.sourceCycleId = cycle → s.Settled d job)
  | .publishing id job => ∃ d, s.IsExit id d job ∧ s.Newest id d

end ExitSystem

/-- The leg an attempt is working on. -/
def Stage.leg? : Stage → Option (Attempt × AttemptLeg)
  | entering a leg | journaled a leg | inFlight a leg | filled a leg _ => some (a, leg)
  | waiting _ | locked | closing _ => none

namespace ExitSystem

variable {venue : Venue} {ttl : ℕ} {profitExitJobId : DecisionId → JobId} {s s' : ExitSystem}

/-- The invariant of a run. -/
structure ExitInv (venue : Venue) (s : ExitSystem) : Prop where
  books : s.ExitBooks
  disciplined : Disciplined venue s.executor
  active : ∀ user destination, s.active user = some destination → destination.epochId ∈ s.epochs
  legs : ∀ t id u n stage a leg, s.executor.tasks.lookup t = some (.attempt id u n stage) →
    (s.contexts.lookup id).isSome = true → stage.leg? = some (a, leg) → ExitLeg a leg
  uncommitted : ∀ t intent, s.uncommitted.lookup t = some intent →
    Backed s.executor s.contexts t intent
  evaluation : ∀ e, s.evaluation = some e → s.EvaluationTrue e.stage

/-! ## What stays -/

/-- What is known about jobs, orders and epochs stays. -/
structure Later (s s' : ExitSystem) : Prop where
  clock : s.executor.clock ≤ s'.executor.clock
  jobs : JobsKept s.executor.jobs s'.executor.jobs
  jobOver : ∀ job, JobOver s.executor job → JobOver s'.executor job
  filled : ∀ job, Filled s.executor job → Filled s'.executor job
  unfilled : ∀ job, JobOver s.executor job → Unfilled s.executor job → Unfilled s'.executor job
  scopes : ∀ scope, s.ScopeTrue scope → s'.ScopeTrue scope
  closed : ∀ scope, s.ScopeTrue scope → s.Closed scope → s'.Closed scope

lemma Settled.later {d : ProfitExitIntent} {job : JobId} (h : s.Settled d job) (hlater : Later s s') :
    s'.Settled d job := by
  refine ⟨hlater.jobOver job h.jobOver, ?_⟩
  obtain ⟨hstate, hfilled⟩ | ⟨hstate, hunfilled⟩ := h.result
  · exact Or.inl ⟨hstate, hlater.filled job hfilled⟩
  · exact Or.inr ⟨hstate, hlater.unfilled job h.jobOver hunfilled⟩

lemma IntentTrue.later {d : ProfitExitIntent} {job : JobId} (h : s.IntentTrue d job)
    (hscope : s.ScopeTrue d.scope) (hlater : Later s s') : s'.IntentTrue d job := by
  unfold IntentTrue at h ⊢
  split at h
  · exact h
  · trivial
  · trivial
  · exact ⟨hlater.jobOver job h.1, hlater.filled job h.2⟩
  · exact ⟨hlater.jobOver job h.1, hlater.filled job h.2⟩
  · obtain ⟨hover, hunfilled⟩ | hclosed := h
    · exact Or.inl ⟨hlater.jobOver job hover, hlater.unfilled job hover hunfilled⟩
    · exact Or.inr (hlater.closed _ hscope hclosed)

/-- The job is bound to its decision by what never changes. -/
lemma Bound.later {id : DecisionId} {d d' : ProfitExitIntent} {job : JobId} (h : s.Bound id d job)
    (hlater : Later s s') (haction : d'.action = d.action) (hscope : d'.scope = d.scope)
    (hdecided : d'.decidedAt = d.decidedAt) (hcontext : s'.contexts.lookup job = some id)
    (hintent : s'.IntentTrue d' job) : s'.Bound id d' job := by
  obtain ⟨row, hrow, heq⟩ := h.row
  obtain ⟨row', hrow', heq'⟩ := hlater.jobs job row hrow
  refine ⟨haction.trans h.action, hcontext, ⟨row', hrow', ?_⟩, ?_, hintent⟩
  · rw [heq', heq, hscope]
  · rw [hdecided]
    exact le_trans h.decided hlater.clock

/-- A step that leaves the decisions alone. -/
lemma ExitBooks.later (h : s.ExitBooks) (hlater : Later s s')
    (hdecisions : s'.decisions = s.decisions) (hcontexts : s'.contexts = s.contexts) :
    s'.ExitBooks := by
  have hexit : ∀ id d job, s'.IsExit id d job → s.IsExit id d job :=
    fun id d job hexit => ⟨hdecisions ▸ hexit.row, hexit.job⟩
  refine ⟨?_, ?_, ?_, ?_, ?_, ?_⟩
  · rw [hdecisions]
    exact h.id
  · rw [hdecisions]
    exact fun id d hd => hlater.scopes _ (h.scope id d hd)
  · rw [hdecisions]
    exact h.recorded
  · intro id d job hd
    have hbound := h.bound id d job (hexit id d job hd)
    refine hbound.later hlater rfl rfl rfl (hcontexts ▸ hbound.context) ?_
    exact hbound.intent.later (h.scope id d (hexit id d job hd).row) hlater
  · intro job id hjob
    obtain ⟨d, hd⟩ := h.context job id (hcontexts ▸ hjob)
    exact ⟨d, ⟨hdecisions ▸ hd.row, hd.job⟩⟩
  · intro id id' d d' job job' hd hd' hscope hcycle hne
    exact (h.order id id' d d' job job' (hexit _ _ _ hd) (hexit _ _ _ hd') hscope hcycle hne).imp
      (And.imp_right fun hsettled => hsettled.later hlater)
      (And.imp_right fun hsettled => hsettled.later hlater)

/-- A write to the intent state of one decision, the newest of its cycle. -/
lemma ExitBooks.write {id : DecisionId} {d : ProfitExitIntent} {job : JobId}
    {intent : ProfitExitIntentState} (h : s.ExitBooks) (hlater : Later s s') (hd : s.IsExit id d job)
    (hnewest : s.Newest id d)
    (hdecisions : s'.decisions =
      Table.modify s.decisions id fun d => { d with intentState := some intent })
    (hcontexts : s'.contexts = s.contexts)
    (hintent : s'.IntentTrue { d with intentState := some intent } job) : s'.ExitBooks := by
  set written : ProfitExitIntent := { d with intentState := some intent } with hwritten
  have hrow : ∀ id' d', s'.decisions.lookup id' = some d' →
      (id' ≠ id ∧ s.decisions.lookup id' = some d') ∨ id' = id ∧ d' = written := by
    intro id' d' hd'
    rw [hdecisions] at hd'
    obtain hold | ⟨rfl, old, hold, rfl⟩ := Table.lookup_modify_eq_some.1 hd'
    · exact Or.inl hold
    · obtain rfl := Option.some.inj (hd.row.symm.trans hold)
      exact Or.inr ⟨rfl, rfl⟩
  have hwas : ∀ id' d', s'.decisions.lookup id' = some d' → ∃ old,
      s.decisions.lookup id' = some old ∧ d'.id = old.id ∧ d'.scope = old.scope ∧
        d'.copyJobId = old.copyJobId := by
    intro id' d' hd'
    obtain ⟨-, hold⟩ | ⟨rfl, rfl⟩ := hrow id' d' hd'
    · exact ⟨d', hold, rfl, rfl, rfl⟩
    · exact ⟨d, hd.row, rfl, rfl, rfl⟩
  refine ⟨?_, ?_, ?_, ?_, ?_, ?_⟩
  · intro id' d' hd'
    obtain ⟨old, hold, hid, -, -⟩ := hwas id' d' hd'
    rw [hid]
    exact h.id id' old hold
  · intro id' d' hd'
    obtain ⟨old, hold, -, hscope, -⟩ := hwas id' d' hd'
    rw [hscope]
    exact hlater.scopes _ (h.scope id' old hold)
  · intro id' d' hd' hnone
    obtain ⟨-, hold⟩ | ⟨rfl, rfl⟩ := hrow id' d' hd'
    · exact h.recorded id' d' hold hnone
    · exact absurd (hd.job.symm.trans hnone) (by simp)
  · intro id' d' job' hd'
    obtain ⟨-, hold⟩ | ⟨rfl, rfl⟩ := hrow id' d' hd'.row
    · have hbound := h.bound id' d' job' ⟨hold, hd'.job⟩
      exact hbound.later hlater rfl rfl rfl (hcontexts ▸ hbound.context)
        (hbound.intent.later (h.scope id' d' hold) hlater)
    · obtain rfl := Option.some.inj (hd.job.symm.trans hd'.job)
      have hbound := h.bound id' d job hd
      exact hbound.later hlater rfl rfl rfl (hcontexts ▸ hbound.context) hintent
  · intro job' id' hjob'
    obtain ⟨d', hd'⟩ := h.context job' id' (hcontexts ▸ hjob')
    by_cases hid : id' = id
    · subst hid
      obtain rfl := Option.some.inj (hd.row.symm.trans hd'.row)
      exact ⟨written, by rw [hdecisions, Table.lookup_modify_self, hd.row]; rfl, hd'.job⟩
    · exact ⟨d', by rw [hdecisions, Table.lookup_modify_of_ne _ _ hid]; exact hd'.row, hd'.job⟩
  · intro id₁ id₂ d₁ d₂ job₁ job₂ hd₁ hd₂ hscope hcycle hne
    obtain ⟨hne₁, hold₁⟩ | ⟨rfl, rfl⟩ := hrow id₁ d₁ hd₁.row
    · obtain ⟨-, hold₂⟩ | ⟨rfl, rfl⟩ := hrow id₂ d₂ hd₂.row
      · exact (h.order id₁ id₂ d₁ d₂ job₁ job₂ ⟨hold₁, hd₁.job⟩ ⟨hold₂, hd₂.job⟩ hscope hcycle
          hne).imp (And.imp_right fun hsettled => hsettled.later hlater)
            (And.imp_right fun hsettled => hsettled.later hlater)
      · have hlt := hnewest id₁ d₁ job₁ ⟨hold₁, hd₁.job⟩ hscope hcycle hne₁
        obtain ⟨-, hsettled⟩ | ⟨hgt, -⟩ := h.order id₁ id₂ d₁ d job₁ job ⟨hold₁, hd₁.job⟩ hd hscope
          hcycle hne
        · exact Or.inl ⟨hlt, hsettled.later hlater⟩
        · exact absurd hgt (not_lt_of_gt hlt)
    · obtain ⟨hne₂, hold₂⟩ | ⟨rfl, rfl⟩ := hrow id₂ d₂ hd₂.row
      · have hlt := hnewest id₂ d₂ job₂ ⟨hold₂, hd₂.job⟩ hscope.symm hcycle.symm hne₂
        obtain ⟨hgt, -⟩ | ⟨-, hsettled⟩ := h.order id₁ id₂ d d₂ job job₂ hd ⟨hold₂, hd₂.job⟩ hscope
          hcycle hne
        · exact absurd hgt (not_lt_of_gt hlt)
        · exact Or.inr ⟨hlt, hsettled.later hlater⟩
      · exact absurd rfl hne

/-- The destinations stay. -/
lemma scopeTrue_of_same {scope : ProfitExitScope} (hactive : s'.active = s.active)
    (hepochs : s'.epochs = s.epochs) (h : s.ScopeTrue scope) : s'.ScopeTrue scope := by
  refine ⟨hepochs ▸ h.epoch, h.provider, ?_⟩
  rw [hactive]
  exact h.destination

lemma closed_of_same {scope : ProfitExitScope} (hactive : s'.active = s.active)
    (h : s.Closed scope) : s'.Closed scope := by
  unfold Closed
  rw [hactive]
  exact h

/-- A step of the job path. -/
lemma later_of_executor {action : ExecutorAction} (hd : Disciplined venue s.executor)
    (hstep : executorStep venue s.executor action = some s'.executor)
    (hactive : s'.active = s.active) (hepochs : s'.epochs = s.epochs) : Later s s' := by
  obtain ⟨hclock, actor, s₁, heffect, heq⟩ := executorStep_effect hstep
  refine ⟨?_, ?_, fun job hover => hover.step hstep, fun job hfilled => hfilled.step hd hstep,
    fun job hover hunfilled => hunfilled.step hover.idle hd hstep,
    fun scope hscope => scopeTrue_of_same hactive hepochs hscope,
    fun scope _ hclosed => closed_of_same hactive hclosed⟩
  · rw [heq]
    exact le_of_lt hclock
  · rw [heq]
    exact heffect.jobsKept

/-- A step that leaves the job path alone. -/
lemma later_of_same (hexecutor : s'.executor = s.executor)
    (hscopes : ∀ scope, s.ScopeTrue scope → s'.ScopeTrue scope)
    (hclosed : ∀ scope, s.ScopeTrue scope → s.Closed scope → s'.Closed scope) :
    Later s s' := by
  refine ⟨?_, ?_, ?_, ?_, ?_, hscopes, hclosed⟩
  · rw [hexecutor]
  · rw [hexecutor]
    exact JobsKept.refl _
  · rw [hexecutor]
    exact fun _ h => h
  · rw [hexecutor]
    exact fun _ h => h
  · rw [hexecutor]
    exact fun _ _ h => h

/-- An exit whose job is not over is the newest of its cycle. -/
lemma ExitBooks.newest (h : s.ExitBooks) {id : DecisionId} {d : ProfitExitIntent} {job : JobId}
    (hd : s.IsExit id d job) (hopen : ¬ JobOver s.executor job) : s.Newest id d := by
  intro id' d' job' hd' hscope hcycle hne
  obtain ⟨hlt, -⟩ | ⟨-, hsettled⟩ := h.order id' id d' d job' job hd' hd hscope hcycle hne
  · exact hlt
  · exact absurd hsettled.jobOver hopen

/-- The intent state of one exit is written, or none is. -/
inductive DecisionsMoved (s s' : ExitSystem) : Prop
  | same (hdecisions : s'.decisions = s.decisions)
  | wrote (id : DecisionId) (d : ProfitExitIntent) (job : JobId) (intent : ProfitExitIntentState)
      (hd : s.IsExit id d job) (hopen : ¬ JobOver s.executor job)
      (hdecisions : s'.decisions =
        Table.modify s.decisions id fun d => { d with intentState := some intent })
      (hintent : s'.IntentTrue { d with intentState := some intent } job)

lemma DecisionsMoved.books (h : DecisionsMoved s s') (hbooks : s.ExitBooks) (hlater : Later s s')
    (hcontexts : s'.contexts = s.contexts) : s'.ExitBooks := by
  cases h with
  | same hdecisions => exact hbooks.later hlater hdecisions hcontexts
  | wrote id d job intent hd hopen hdecisions hintent =>
      exact hbooks.write hlater hd (hbooks.newest hd hopen) hdecisions hcontexts hintent

/-- An exit after the step was one before it, and one that had settled is the same. -/
lemma DecisionsMoved.before (h : DecisionsMoved s s') {id : DecisionId} {d' : ProfitExitIntent}
    {job : JobId} (hd' : s'.IsExit id d' job) : ∃ d, s.IsExit id d job ∧ d'.scope = d.scope ∧
      d'.sourceCycleId = d.sourceCycleId ∧ d'.decidedAt = d.decidedAt ∧
      (JobOver s.executor job → d' = d) := by
  cases h with
  | same hdecisions => exact ⟨d', ⟨hdecisions ▸ hd'.row, hd'.job⟩, rfl, rfl, rfl, fun _ => rfl⟩
  | wrote id₀ d job₀ intent hd hopen hdecisions hintent =>
      have hrow := hd'.row
      rw [hdecisions] at hrow
      obtain ⟨hne, hold⟩ | ⟨rfl, old, hold, rfl⟩ := Table.lookup_modify_eq_some.1 hrow
      · exact ⟨d', ⟨hold, hd'.job⟩, rfl, rfl, rfl, fun _ => rfl⟩
      · refine ⟨old, ⟨hold, hd'.job⟩, rfl, rfl, rfl, fun hover => ?_⟩
        obtain rfl := Option.some.inj (hold.symm.trans hd.row)
        obtain rfl := Option.some.inj (hd.job.symm.trans hd'.job)
        exact absurd hover hopen

lemma DecisionsMoved.after (h : DecisionsMoved s s') {id : DecisionId} {d : ProfitExitIntent}
    {job : JobId} (hd : s.IsExit id d job) : ∃ d', s'.IsExit id d' job ∧ d'.scope = d.scope ∧
      d'.sourceCycleId = d.sourceCycleId ∧ d'.decidedAt = d.decidedAt := by
  cases h with
  | same hdecisions => exact ⟨d, ⟨hdecisions ▸ hd.row, hd.job⟩, rfl, rfl, rfl⟩
  | wrote id₀ d₀ job₀ intent hd₀ hopen hdecisions hintent =>
      by_cases hid : id = id₀
      · subst hid
        refine ⟨{ d with intentState := some intent }, ⟨?_, hd.job⟩, rfl, rfl, rfl⟩
        rw [hdecisions, Table.lookup_modify_self, hd.row]
        rfl
      · refine ⟨d, ⟨?_, hd.job⟩, rfl, rfl, rfl⟩
        rw [hdecisions, Table.lookup_modify_of_ne _ _ hid]
        exact hd.row

/-- The evaluation need not look again. -/
lemma DecisionsMoved.evaluation (h : DecisionsMoved s s') (hlater : Later s s')
    {stage : EvaluationStage} (hstage : s.EvaluationTrue stage) : s'.EvaluationTrue stage := by
  cases stage with
  | between => trivial
  | deciding scope cycle position shadow =>
      refine ⟨hlater.scopes scope hstage.1, fun hshadow id d' job hd' hscope hcycle => ?_⟩
      obtain ⟨d, hd, hsame, hsameCycle, -, hkept⟩ := h.before hd'
      have hsettled := hstage.2 hshadow id d job hd (hsame ▸ hscope) (hsameCycle ▸ hcycle)
      rw [hkept hsettled.jobOver]
      exact hsettled.later hlater
  | publishing id job =>
      obtain ⟨d, hd, hnewest⟩ := hstage
      obtain ⟨d', hd', hscope, hcycle, hdecided⟩ := h.after hd
      refine ⟨d', hd', fun id₁ d₁ job₁ hd₁ hscope₁ hcycle₁ hne => ?_⟩
      obtain ⟨d₀, hd₀, hsame, hsameCycle, hsameTime, -⟩ := h.before hd₁
      have hlt := hnewest id₁ d₀ job₁ hd₀ (by rw [← hsame, hscope₁, hscope])
        (by rw [← hsameCycle, hcycle₁, hcycle]) hne
      rw [hsameTime, hdecided]
      exact hlt

lemma EvaluationTrue.later {stage : EvaluationStage} (h : s.EvaluationTrue stage)
    (hlater : Later s s') (hdecisions : s'.decisions = s.decisions) : s'.EvaluationTrue stage :=
  (DecisionsMoved.same hdecisions).evaluation hlater h

/-- A step that leaves the job path and the decisions alone. -/
lemma ExitInv.frame (h : ExitInv venue s) (hexecutor : s'.executor = s.executor)
    (hdecisions : s'.decisions = s.decisions) (hcontexts : s'.contexts = s.contexts)
    (huncommitted : s'.uncommitted = s.uncommitted) (hlater : Later s s')
    (hactive : ∀ user destination, s'.active user = some destination →
      destination.epochId ∈ s'.epochs)
    (hevaluation : ∀ e, s'.evaluation = some e → s'.EvaluationTrue e.stage) :
    ExitInv venue s' := by
  refine ⟨h.books.later hlater hdecisions hcontexts, hexecutor ▸ h.disciplined, hactive, ?_, ?_,
    hevaluation⟩
  · rw [hexecutor, hcontexts]
    exact h.legs
  · rw [hexecutor, hcontexts, huncommitted]
    exact h.uncommitted

/-! ## Attempts at exits -/

/-- An exit's job is a job of a profit exit. -/
lemma ExitBooks.origin (h : s.ExitBooks) {job : JobId} {row : CopyJobRow}
    (hcontext : (s.contexts.lookup job).isSome = true)
    (hrow : s.executor.jobs.lookup job = some row) : ∃ id d, s.contexts.lookup job = some id ∧
      s.IsExit id d job ∧ row.job = exitJob d.scope := by
  obtain ⟨id, hid⟩ := Option.isSome_iff_exists.1 hcontext
  obtain ⟨d, hd⟩ := h.context job id hid
  obtain ⟨row', hrow', hjob⟩ := (h.bound id d job hd).row
  obtain rfl := Option.some.inj (hrow.symm.trans hrow')
  exact ⟨id, d, hid, hd, hjob⟩

/-- An attempt at an exit begins with the leg that is its only one. -/
lemma exitLeg_of_begin {e : ExecutorState} {id : JobId} {job : CopyJob} {reads : ProfitExitReads}
    {a : Attempt} (h : BeginsWith e id job reads a) (horigin : job.origin = .aiProfitExit) :
    ExitLeg a a.primaryLeg := by
  cases h with
  | submit submission hplan ha =>
      obtain ⟨-, -, -, -, hstrategy, -⟩ := planAttempt_submit_iff.1 hplan
      exact absurd horigin hstrategy
  | exit status order hattempt hagree hplan ha =>
      subst ha
      obtain ⟨-, d, -, hfresh⟩ := planProfitExit_goesOn.1 order hplan
      obtain ⟨-, -, o, -, hclose⟩ := planFreshProfitExit_ok hfresh
      exact ⟨by simp [Attempt.primaryLeg, primaryKind, hclose.intent], rfl, hclose.single⟩
  | recover status intent existing current hattempt hagree hplan ha =>
      subst ha
      exact ⟨rfl, rfl, rfl⟩

/-- The legs of the attempts at exits stay what they are. -/
lemma legs_step {e e' : ExecutorState} {now : ℕ} {op : ExecutorOp} {actor : Option TaskId}
    (hc : Coherent e) (h : ExecutorEffect venue e now op actor e') {exits : JobId → Prop}
    (horigin : ∀ id row, exits id → e.jobs.lookup id = some row → row.job.origin = .aiProfitExit)
    (hlegs : ∀ t id u n stage a leg, e.tasks.lookup t = some (.attempt id u n stage) → exits id →
      stage.leg? = some (a, leg) → ExitLeg a leg) :
    ∀ t id u n stage a leg, e'.tasks.lookup t = some (.attempt id u n stage) → exits id →
      stage.leg? = some (a, leg) → ExitLeg a leg := by
  intro t id u n stage a leg ht hexit hleg
  by_cases hactor : actor = some t
  · subst hactor
    cases h with
    | acquire =>
        cases eq_of_lookup_insert ht
        cases hleg
    | begin _ id₀ u₀ n₀ row reads stage₀ hop htask hjob hdecimals hstage =>
        cases eq_of_lookup_insert ht
        obtain ⟨c, rfl⟩ | ⟨b, rfl, hbegin⟩ := beginStage_cases hstage
        · cases hleg
        · obtain ⟨rfl, rfl⟩ := Prod.mk.inj (Option.some.inj hleg)
          exact exitLeg_of_begin hbegin (horigin id row hexit hjob)
    | leave =>
        cases eq_of_lookup_insert ht
        cases hleg
    | replay _ id₀ u₀ n₀ b leg₀ row htask hrow hfilled =>
        cases eq_of_lookup_insert ht
        obtain ⟨rfl, rfl⟩ := Prod.mk.inj (Option.some.inj hleg)
        exact hlegs t id u n _ _ _ htask hexit rfl
    | journal _ id₀ u₀ n₀ b leg₀ htask hrow =>
        cases eq_of_lookup_insert ht
        obtain ⟨rfl, rfl⟩ := Prod.mk.inj (Option.some.inj hleg)
        exact hlegs t id u n _ _ _ htask hexit rfl
    | place _ id₀ u₀ n₀ b leg₀ row reaches htask hrow =>
        cases eq_of_lookup_insert ht
        obtain ⟨rfl, rfl⟩ := Prod.mk.inj (Option.some.inj hleg)
        exact hlegs t id u n _ _ _ htask hexit rfl
    | record _ id₀ u₀ n₀ stage₀ b leg₀ row row' o hop htask hstage hrow hreported hrow' =>
        cases eq_of_lookup_insert ht
        obtain ⟨-, hnext⟩ | ⟨-, c, hnext⟩ := afterOutcome_cases b leg₀ o
        · rw [hnext] at hleg
          obtain ⟨rfl, rfl⟩ := Prod.mk.inj (Option.some.inj hleg)
          obtain ⟨rfl, -⟩ | rfl := hstage
          · exact hlegs t id u n _ _ _ htask hexit rfl
          · exact hlegs t id u n _ _ _ htask hexit rfl
        · rw [hnext] at hleg
          cases hleg
    | apply _ id₀ u₀ n₀ b leg₀ filledSize row row' ledger' added htask hrow happly =>
        cases eq_of_lookup_insert ht
        have hold : ExitLeg b leg₀ := hlegs t id u n _ _ _ htask hexit rfl
        obtain ⟨c, hnext⟩ | ⟨second, -, -, hsecond, -⟩ := afterApply_cases b leg₀ filledSize
          ledger'.size.value (venue.szDecimals b.market.asset)
        · rw [hnext] at hleg
          cases hleg
        · rw [hold.single.2] at hsecond
          cases hsecond
    | snapshot => cases eq_of_lookup_insert ht
    | query => cases eq_of_lookup_insert ht
    | reconcile => exact absurd ht (by simp [ExecutorState.dropTask])
    | resolve => exact absurd ht (by simp [ExecutorState.dropTask])
  · cases stage with
    | waiting | locked | closing => cases hleg
    | entering | journaled | inFlight | filled =>
        obtain ⟨hold, -⟩ := h.others_kept hc hactor ht rfl
        exact hlegs t id u n _ a leg hold hexit hleg

end ExitSystem

end HyperCopy

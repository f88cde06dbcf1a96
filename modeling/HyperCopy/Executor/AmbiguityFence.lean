import HyperCopy.Executor.AtMostOnce

/-!
# The ambiguity fence

No order should go out in a market while another order of the market has an unknown fate.  The
reconciler looks before it queues a job, but the executor does not look before it submits one, and
event jobs are queued without looking at all.  `fenced` is the look that is missing: at the begin of
an attempt that may still journal a row, no execution of the market is unresolved but the one the
attempt itself will resolve first.  Runs in which every attempt begins so keep the fence, since
nobody else can journal a row of the market while the attempt holds the lock.
-/

namespace HyperCopy

/-- No execution of the market is unresolved, except `k`. -/
def OnlyUnresolved (s : ExecutorState) (market : Market) (k : Cloid) : Prop :=
  ∀ k' row, s.executions.lookup k' = some row → row.market = market →
    row.state.unresolved = true → k' = k

/-- The attempt may still journal a row: the one of its leg, or the one of a second leg. -/
def MayJournal (s : ExecutorState) (id : JobId) (a : Attempt) (leg : AttemptLeg) : Prop :=
  s.executions.lookup ⟨id, leg.kind⟩ = none ∨
    leg.opening = false ∧ a.plan.secondary.isSome = true ∧ s.executions.lookup ⟨id, .o⟩ = none

/-- The exception: a marked job with a plan that only reduces the current side. -/
def SafeReduction (s : ExecutorState) (a : Attempt) : Prop :=
  a.job.context.ambiguitySafeReduction = true ∧ a.plan.reduceOnly = true ∧
    a.plan.secondary = none ∧ ReducesSide (s.ledger a.market).size.value a.plan.isBuy

/-- An attempt of the job is on its way with such a plan. -/
def SafelyReducing (s : ExecutorState) (id : JobId) : Prop :=
  ∃ t u n stage a, s.tasks.lookup t = some (.attempt id u n stage) ∧ stage.attempt? = some a ∧
    SafeReduction s a

/-- The fence: a step that journals or submits an order does so while no other execution of the
market is unresolved, or for a safe reduction. -/
def AmbiguityFence (venue : Venue) (s : ExecutorState) : Prop :=
  ∀ action s' k job, executorStep venue s action = some s' → s.jobs.lookup k.jobId = some job →
    (s.executions.lookup k = none ∧ (s'.executions.lookup k).isSome = true ∨
      s'.calls = s.calls ++ [k]) →
    OnlyUnresolved s job.job.market k ∨ SafelyReducing s k.jobId

instance (s : ExecutorState) (market : Market) (k : Cloid) : Decidable (OnlyUnresolved s market k) :=
  decidable_of_iff
    (Table.any s.executions (fun k' row =>
      row.market = market && row.state.unresolved && k' ≠ k) = false) (by
      simp only [Table.any_eq_false, OnlyUnresolved]
      grind)

instance (s : ExecutorState) (id : JobId) (a : Attempt) (leg : AttemptLeg) :
    Decidable (MayJournal s id a leg) :=
  inferInstanceAs (Decidable (_ ∨ _))

/-- An attempt begins where it cannot collide with an unresolved execution. -/
def fenced (s : ExecutorState) (action : ExecutorAction) : Bool :=
  match action.op with
  | .begin t reads =>
    match s.tasks.lookup t with
    | some (.attempt id _ _ .locked) =>
      match s.jobs.lookup id with
      | some row =>
        match beginStage s id row.job reads with
        | some (.entering a leg) =>
          (row.job.origin ≠ .aiProfitExit && row.job.context.ambiguitySafeReduction) ||
            (MayJournal s id a leg → OnlyUnresolved s row.job.market ⟨id, leg.kind⟩)
        | _ => true
      | none => true
    | _ => true
  | _ => true

/-- What a fenced begin leaves with the attempt. -/
def FenceOk (s : ExecutorState) (id : JobId) : Stage → Prop
  | .waiting _ | .locked | .closing _ => True
  | .journaled a leg => SafeReduction s a ∨ OnlyUnresolved s a.market ⟨id, leg.kind⟩
  | .entering a leg | .inFlight a leg | .filled a leg _ =>
      SafeReduction s a ∨
        (MayJournal s id a leg → OnlyUnresolved s a.market ⟨id, leg.kind⟩)

section

variable {venue : Venue} {s s' : ExecutorState} {now : ℕ} {op : ExecutorOp}
  {actor : Option TaskId} {id : JobId}
  {a : Attempt} {leg : AttemptLeg}

/-! ## The fence under the steps of others -/

lemma OnlyUnresolved.sameFor {u : UserId} {market : Market} {k : Cloid} (hsame : SameFor u s s')
    (hu : market.userId = u) (h : OnlyUnresolved s market k) : OnlyUnresolved s' market k := by
  intro k' row hrow hmarket hopen
  exact h k' row ((hsame.rows k' row (by rw [hmarket, hu])).1 hrow) hmarket hopen

lemma SafeReduction.of_ledger (hledger : s'.ledger a.market = s.ledger a.market)
    (h : SafeReduction s a) : SafeReduction s' a := by
  obtain ⟨hmarked, hreduce, hsingle, hside⟩ := h
  exact ⟨hmarked, hreduce, hsingle, by rw [hledger]; exact hside⟩

lemma FenceOk.sameFor {u : UserId} {stage : Stage} (hsame : SameFor u s s')
    (hjob : JobOfUser s.jobs id u) (hu : ∀ a, stage.attempt? = some a → a.market.userId = u)
    (h : FenceOk s id stage) : FenceOk s' id stage := by
  have hmay : ∀ a leg, MayJournal s' id a leg → MayJournal s id a leg := by
    intro a leg hmay
    simpa [MayJournal, hsame.executions id _ hjob] using hmay
  cases stage with
  | waiting | locked | closing => trivial
  | journaled a leg =>
      exact h.imp (fun hsafe => hsafe.of_ledger (hsame.ledger _ (hu a rfl)))
        fun honly => honly.sameFor hsame (hu a rfl)
  | entering a leg | inFlight a leg | filled a leg filledSize =>
      exact h.imp (fun hsafe => hsafe.of_ledger (hsame.ledger _ (hu a rfl)))
        fun honly hmay' => (honly (hmay a leg hmay')).sameFor hsame (hu a rfl)

/-! ## The fence under the steps of the attempt -/

/-- Only the row `k` is written. -/
lemma OnlyUnresolved.write {market : Market} {k : Cloid} {row : Execution}
    (h : OnlyUnresolved s market k) (hrows : s'.executions = s.executions.insert k row) :
    OnlyUnresolved s' market k := by
  intro k' row' hrow' hmarket hopen
  rw [hrows] at hrow'
  obtain ⟨rfl, -⟩ | hold := Table.lookup_insert_cases hrow'
  · rfl
  · exact h k' row' hold hmarket hopen

/-- Once the row `k` is terminal, no execution of the market is unresolved. -/
lemma OnlyUnresolved.closed {market : Market} {k k₁ : Cloid} {row : Execution}
    (h : OnlyUnresolved s market k) (hrow : s.executions.lookup k = some row)
    (hterminal : row.state.terminal = true) : OnlyUnresolved s market k₁ := by
  intro k' row' hrow' hmarket hopen
  obtain rfl := h k' row' hrow' hmarket hopen
  obtain rfl := Option.some.inj (hrow.symm.trans hrow')
  simp [ExecutionState.unresolved, hterminal] at hopen

/-- Writing the row of the leg opens no new way to journal one. -/
lemma MayJournal.of_write {row : Execution}
    (hrows : s'.executions = s.executions.insert ⟨id, leg.kind⟩ row)
    (h : MayJournal s' id a leg) : MayJournal s id a leg := by
  unfold MayJournal at h ⊢
  rw [hrows] at h
  rw [AList.lookup_insert, Table.lookup_insert_eq] at h
  obtain hnone | ⟨hopening, hsecond, hnone⟩ := h
  · cases hnone
  · split_ifs at hnone with hkey
    exact Or.inr ⟨hopening, hsecond, hnone⟩

lemma planAttempt_profitExit {job : CopyJob} {current : ℚ} {r : AttemptReads}
    (h : planAttempt job current r = .profitExit) : job.origin = .aiProfitExit := by
  unfold planAttempt at h
  split at h
  · cases h
  · cases h
  · split at h
    · assumption
    · split at h
      · cases h
      · split at h
        · cases h
        · dsimp only at h
          split_ifs at h
          split at h <;> cases h

/-- A marked strategy job begins with a safe reduction or not at all. -/
lemma BeginsWith.safeReduction {job : CopyJob} {reads : ProfitExitReads}
    (h : BeginsWith s id job reads a) (horigin : job.origin ≠ .aiProfitExit)
    (hmarked : job.context.ambiguitySafeReduction = true) : SafeReduction s a := by
  cases h with
  | submit submission hplan ha =>
      subst ha
      obtain ⟨-, -, hshape⟩ := planAttempt_submit hplan
      obtain ⟨hreduce, hsingle⟩ := hshape.safe hmarked
      exact ⟨hmarked, hreduce, hsingle, (hshape.shape.reduces hreduce).1⟩
  | exit status order hattempt => exact absurd (planAttempt_profitExit hattempt) horigin
  | recover status intent existing current hattempt =>
      exact absurd (planAttempt_profitExit hattempt) horigin

lemma fenced_begin {t : TaskId} {reads : ProfitExitReads} {u : UserId} {n : ℕ} {row : CopyJobRow}
    (h : fenced s ⟨now, .begin t reads⟩ = true)
    (ht : s.tasks.lookup t = some (.attempt id u n .locked)) (hjob : s.jobs.lookup id = some row)
    (hstage : beginStage s id row.job reads = some (.entering a leg)) :
    row.job.origin ≠ .aiProfitExit ∧ row.job.context.ambiguitySafeReduction = true ∨
      (MayJournal s id a leg → OnlyUnresolved s row.job.market ⟨id, leg.kind⟩) := by
  simp only [fenced, ht, hjob, hstage, Bool.or_eq_true, Bool.and_eq_true, decide_eq_true_eq] at h
  exact h

/-- A step of an attempt that began fenced keeps the fence. -/
lemma FenceOk.of_actor
    (hfence : ∀ t id u n stage, s.tasks.lookup t = some (.attempt id u n stage) →
      FenceOk s id stage)
    {t : TaskId} (hguard : fenced s ⟨now, op⟩ = true) (h : ExecutorEffect venue s now op (some t) s')
    {u : UserId} {n : ℕ} {stage : Stage}
    (ht : s'.tasks.lookup t = some (.attempt id u n stage)) : FenceOk s' id stage := by
  cases h with
  | acquire =>
      cases eq_of_lookup_insert ht
      trivial
  | begin _ id₀ u₀ n₀ row reads stage₀ hop htask hjob hdecimals hstage =>
      cases eq_of_lookup_insert ht
      subst hop
      obtain ⟨c, rfl⟩ | ⟨a, rfl, hbegin⟩ := beginStage_cases hstage
      · trivial
      · obtain ⟨horigin, hmarked⟩ | honly := fenced_begin hguard htask hjob hstage
        · exact Or.inl (hbegin.safeReduction horigin hmarked)
        · refine Or.inr fun hmay => ?_
          have hmarket : a.market = row.job.market := by rw [Attempt.market, hbegin.job_eq]
          rw [hmarket]
          exact honly hmay
  | leave =>
      cases eq_of_lookup_insert ht
      trivial
  | replay _ id₀ u₀ n₀ a leg row htask hrow hfilled =>
      cases eq_of_lookup_insert ht
      exact hfence t id u n _ htask
  | journal _ id₀ u₀ n₀ a leg htask hrow =>
      cases eq_of_lookup_insert ht
      exact (hfence t id u n _ htask).imp (fun hsafe => hsafe) fun honly =>
        (honly (Or.inl hrow)).write rfl
  | place _ id₀ u₀ n₀ a leg row reaches htask hrow =>
      cases eq_of_lookup_insert ht
      exact (hfence t id u n _ htask).imp (fun hsafe => hsafe) fun honly _ => honly
  | record _ id₀ u₀ n₀ stage₀ a leg row row' o hop htask hstage hrow hreported hrow' =>
      cases eq_of_lookup_insert ht
      have hold : SafeReduction s a ∨
          (MayJournal s id a leg → OnlyUnresolved s a.market ⟨id, leg.kind⟩) := by
        obtain ⟨rfl, -⟩ | rfl := hstage
        · exact hfence t id u n _ htask
        · exact hfence t id u n _ htask
      obtain ⟨-, hnext⟩ | ⟨-, c, hnext⟩ := afterOutcome_cases a leg o
      · rw [hnext]
        exact hold.imp (fun hsafe => hsafe) fun honly hmay =>
          (honly (MayJournal.of_write rfl hmay)).write rfl
      · rw [hnext]
        trivial
  | apply _ id₀ u₀ n₀ a leg filledSize row row' ledger' added htask hrow happly =>
      cases eq_of_lookup_insert ht
      obtain ⟨c, hnext⟩ | ⟨second, hnext, hopening, hsecond, -⟩ := afterApply_cases a leg
        filledSize ledger'.size.value (venue.szDecimals a.market.asset)
      · rw [hnext]
        trivial
      rw [hnext]
      -- the second leg: the row of the first is terminal by now
      obtain ⟨hfilled, hfill⟩ := applyFillToLedger_eq_some happly
      have hterminal : row'.state.terminal = true := by
        have hstate := (hfill.evolves.terminal (by rw [hfilled]; rfl)).1
        rw [hstate, hfilled]
        rfl
      refine Or.inr fun hmay => ?_
      have hnone : s.executions.lookup ⟨id, .o⟩ = none := by
        obtain hnone | ⟨hfalse, -⟩ := hmay
        · change (s.executions.insert _ row').lookup ⟨id, .o⟩ = none at hnone
          rw [Table.lookup_insert_eq] at hnone
          split_ifs at hnone
          exact hnone
        · cases hfalse
      obtain ⟨-, -, hsingle, -⟩ | honly := hfence t id u n _ htask
      · rw [hsecond] at hsingle
        cases hsingle
      · have hopen := honly (Or.inr ⟨hopening, by rw [hsecond]; rfl, hnone⟩)
        have hwritten : OnlyUnresolved ((s.writeFill a.market ⟨id, leg.kind⟩ row' ledger'
            added).putTask t (.attempt id u n (afterApply a leg filledSize ledger'.size.value
              (venue.szDecimals a.market.asset)))) a.market ⟨id, leg.kind⟩ := hopen.write rfl
        exact hwritten.closed (AList.lookup_insert _) hterminal
  | snapshot => cases eq_of_lookup_insert ht
  | query => cases eq_of_lookup_insert ht
  | reconcile => exact absurd ht (by simp [ExecutorState.dropTask])
  | resolve => exact absurd ht (by simp [ExecutorState.dropTask])

end

/-! ## Fenced runs -/

/-- The state of a run all of whose attempts began fenced. -/
structure FencedState (venue : Venue) (s : ExecutorState) : Prop where
  disciplined : Disciplined venue s
  stages : ∀ t id u n stage, s.tasks.lookup t = some (.attempt id u n stage) → FenceOk s id stage

section

variable {venue : Venue} {s s' : ExecutorState}

lemma FencedState.step (hf : FencedState venue s) {action : ExecutorAction}
    (hguard : fenced s action = true) (h : executorStep venue s action = some s') :
    FencedState venue s' := by
  refine ⟨hf.disciplined.executorStep h, ?_⟩
  obtain ⟨-, actor, s₁, heffect, rfl⟩ := executorStep_effect h
  intro t id u n stage ht
  have hd := hf.disciplined.step heffect
  have hrows : RowsKept s₁ { s₁ with clock := action.now } := ⟨rfl, rfl, rfl⟩
  have hnext : FenceOk s₁ id stage := by
    by_cases hactor : actor = some t
    · subst hactor
      exact .of_actor hf.stages hguard heffect ht
    · cases stage with
      | waiting w => trivial
      | locked | closing | entering | journaled | inFlight | filled =>
          obtain ⟨hold, hsame⟩ := heffect.others_kept hf.disciplined.coherent hactor ht rfl
          exact (hf.stages t id u n _ hold).sameFor hsame
            (hf.disciplined.coherent.jobOfUser hold)
            fun a ha => hf.disciplined.coherent.market_userId hold ha
  exact hnext.sameFor (hrows.sameFor u) (hd.coherent.jobOfUser ht)
    fun a ha => hd.coherent.market_userId ht ha

/-- What a journaling or submitting step finds in a fenced state. -/
lemma FencedState.fence (hf : FencedState venue s) : AmbiguityFence venue s := by
  intro action s' k job hstep hjob hacts
  have hd := hf.disciplined
  -- the market of the job is the one of the attempt that acts
  have hmarket : ∀ t id u n stage a kind, k = ⟨id, kind⟩ →
      s.tasks.lookup t = some (.attempt id u n stage) → stage.attempt? = some a →
      a.market = job.job.market := by
    rintro t id u n stage a kind rfl ht ha
    obtain ⟨job', hjob', hmarket⟩ := hd.coherent.attempt_market ht ha
    obtain rfl := Option.some.inj (hjob.symm.trans hjob')
    exact hmarket
  obtain ⟨-, actor, s₁, heffect, rfl⟩ := executorStep_effect hstep
  obtain ⟨hnone, hsome⟩ | hcalls := hacts
  · obtain ⟨row', hrow'⟩ := Option.isSome_iff_exists.1 hsome
    obtain ⟨row, hrow, -⟩ | ⟨-, t, id, u, n, a, leg, -, rfl, ht, -⟩ :=
      hd.row_backward heffect hrow'
    · rw [hnone] at hrow
      cases hrow
    · obtain hsafe | honly := hf.stages t id u n _ ht
      · exact Or.inr ⟨t, u, n, _, a, ht, rfl, hsafe⟩
      · rw [← hmarket t id u n _ a leg.kind rfl ht rfl]
        exact Or.inl (honly (Or.inl hnone))
  · obtain heq | ⟨t, id, u, n, a, leg, -, ht, heq⟩ := heffect.calls_cases
    · exact absurd (hcalls.symm.trans heq) (by simp)
    · obtain rfl : ⟨id, leg.kind⟩ = k := by simpa using heq.symm.trans hcalls
      obtain hsafe | honly := hf.stages t id u n _ ht
      · exact Or.inr ⟨t, u, n, _, a, ht, rfl, hsafe⟩
      · rw [← hmarket t id u n _ a leg.kind rfl ht rfl]
        exact Or.inl honly

end

/-- **The ambiguity fence, where attempts begin fenced.**  In every run in which no attempt that may
still journal a row begins while another execution of its market is unresolved, unless it is a
marked strategy job, every order is journaled and submitted behind the fence. -/
theorem ambiguity_fence_of_fenced (venue : Venue) (lots : Market → ℤ)
    (actions : List ExecutorAction) (s : ExecutorState)
    (hfenced : Transition.RunMeets (executorStep venue) (fun s action => fenced s action = true)
      (.initial venue lots) actions)
    (hrun : Transition.run (executorStep venue) (.initial venue lots) actions = some s) :
    AmbiguityFence venue s := by
  have hinitial : FencedState venue (.initial venue lots) :=
    ⟨disciplined_initial venue lots, fun t id u n stage ht => by
      simp [ExecutorState.initial] at ht⟩
  have hf : FencedState venue s :=
    Transition.run_invariant_of_meets (fun _ _ _ hf hguard hstep => hf.step hguard hstep) hinitial
      hfenced hrun
  exact hf.fence

/-- A fenced attempt has journaled its row and is about to submit. -/
theorem ambiguity_fence_of_fenced_retried :
    ∃ s, Transition.run (executorStep hundredths) (.initial hundredths fun _ => 0) retriedRun =
      some s ∧ AmbiguityFence hundredths s := by
  obtain ⟨s, hrun, -⟩ := Option.map_eq_some_iff.1 retriedRun_calls
  exact ⟨s, hrun, ambiguity_fence_of_fenced _ _ _ s (by decide +kernel) hrun⟩

/-! ## Two event jobs of one market -/

/-- The order of the first job gets lost on its way back, and while its fate is unknown the second
job begins. -/
def collidingRun : List ExecutorAction :=
  [⟨1, .enqueue 1 (eventJob 2)⟩, ⟨2, .enqueue 2 (eventJob 3)⟩, ⟨3, .claim 1 7 0⟩, ⟨4, .acquire 0⟩,
   ⟨5, .begin 0 eventReads⟩, ⟨6, .enterLeg 0 ⟨.unknown, none⟩⟩, ⟨7, .placeIoc 0 true⟩,
   ⟨8, .respond 0 none⟩, ⟨9, .close 0 2⟩, ⟨10, .claim 2 7 1⟩, ⟨11, .acquire 1⟩,
   ⟨12, .begin 1 eventReads⟩]

/-- The second job journals its row next. -/
def journalSecond : ExecutorAction := ⟨13, .enterLeg 1 ⟨.unknown, none⟩⟩

/-- The row of the first job is unresolved, and the row of the second is about to be written. -/
def collides (s : ExecutorState) : Bool :=
  (s.jobs.lookup 2).any (fun row => row.job = eventJob 3) &&
    (s.executions.lookup ⟨1, .o⟩).any (fun row => row.market = ⟨0, 0⟩ && row.state.unresolved) &&
    (s.executions.lookup ⟨2, .o⟩).isNone &&
    (executorStep hundredths s journalSecond).any fun s' => (s'.executions.lookup ⟨2, .o⟩).isSome

lemma collidingRun_collides :
    (Transition.run (executorStep hundredths) (.initial hundredths fun _ => 0) collidingRun).any
      collides = true := by
  decide +kernel

/-- Nothing stops the second event job from ordering on top of the unresolved order of the
first. -/
theorem event_jobs_collide :
    ∃ s, Transition.run (executorStep hundredths) (.initial hundredths fun _ => 0) collidingRun =
      some s ∧ ¬ AmbiguityFence hundredths s := by
  obtain ⟨s, hrun, hcollides⟩ := (Option.any_eq_true _ _).1 collidingRun_collides
  simp only [collides, Bool.and_eq_true, Option.any_eq_true, decide_eq_true_eq,
    Option.isNone_iff_eq_none] at hcollides
  obtain ⟨⟨⟨⟨job, hjob, hevent⟩, row, hrow, hmarket, hopen⟩, hnone⟩, s', hstep, hsome⟩ := hcollides
  refine ⟨s, hrun, fun hfence => ?_⟩
  obtain honly | ⟨t, u, n, stage, a, ht, ha, hmarked, -⟩ :=
    hfence journalSecond s' ⟨2, .o⟩ job hstep hjob (Or.inl ⟨hnone, hsome⟩)
  · have hsame := honly ⟨1, .o⟩ row hrow (by rw [hmarket, hevent]; rfl) hopen
    cases hsame
  · obtain ⟨job', hjob', -, hattempt⟩ := (disciplined_of_run hrun).coherent.tasks t _ ht
    obtain rfl := Option.some.inj (hjob.symm.trans hjob')
    rw [hattempt a ha, hevent] at hmarked
    cases hmarked

end HyperCopy

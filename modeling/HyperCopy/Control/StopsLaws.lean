import HyperCopy.Control.CloseAll

/-!
# What a stop stops

A stop lasts until it is lifted (`CopyStop.inForce_apply`).  An attempt that has taken the lock
behind it reads rows in which it is in force, so what the attempt plans is what the stop permits
(`planAttempt_of_stopped`), and what it has planned is all it goes on with: `StageStopped` follows
it to the call.  `stop_stops` is about whole runs, with every interleaving of the writers and the
attempts.  An attempt that took the lock before the stop may still place what it has planned: no
writer waits for it, and after its plan it reads none of the rows again.
-/

namespace HyperCopy

/-! ## Stops last -/

section Controls

variable {settings : CopySettings}

/-- A halt that is set stays, whatever is observed later. -/
lemma observedRiskState_halted {r : RiskControls} (reading : LossReading)
    (h : r.state = .drawdownHalt ∨ r.state = .dailyLossHalt) :
    (observedRiskState (some r) reading).state = .drawdownHalt ∨
      (observedRiskState (some r) reading).state = .dailyLossHalt := by
  simp only [observedRiskState]
  split
  · exact h
  · split_ifs
    · exact Or.inr rfl
    · exact Or.inl rfl
    · exact h

lemma UserStop.inForce_apply {k : UserStop} {row : UserControls} {op : UserControlOp}
    (h : k.inForce row = true) (hlift : k.liftedBy op = false) :
    k.inForce (row.apply settings op) = true := by
  cases k with
  | notActive =>
      cases op with
      | activate => cases hlift
      | pause | shadow => rfl
      | link =>
          simp only [UserControls.apply]
          split_ifs
          · rfl
          · exact h
      | putRisk | observeLoss | expireCredential | deleteRiskState => exact h
  | closeOnly =>
      cases op with
      | putRisk profile => simpa [inForce, UserControls.apply, liftedBy] using hlift
      | link =>
          simp only [UserControls.apply]
          split_ifs <;> exact h
      | pause | shadow | activate | observeLoss | expireCredential | deleteRiskState => exact h
  | assetNotPermitted asset =>
      cases op with
      | putRisk profile => simpa [inForce, UserControls.apply, liftedBy] using hlift
      | link =>
          simp only [UserControls.apply]
          split_ifs <;> exact h
      | pause | shadow | activate | observeLoss | expireCredential | deleteRiskState => exact h
  | lossHalt =>
      cases op with
      | observeLoss reading =>
          obtain ⟨r, hr, hhalted⟩ := (Option.any_eq_true _ _).1 h
          have hnext := observedRiskState_halted reading (by simpa using hhalted)
          simpa [inForce, UserControls.apply, hr] using hnext
      | expireCredential | deleteRiskState => cases hlift
      | link =>
          simp only [UserControls.apply]
          split_ifs <;> exact h
      | pause | shadow | activate | putRisk => exact h
  | nearLiquidation =>
      cases op with
      | observeLoss reading =>
          simpa [inForce, UserControls.apply, liftedBy, observedRiskState] using hlift
      | expireCredential =>
          simpa [inForce, UserControls.apply] using h
      | deleteRiskState => cases hlift
      | link =>
          simp only [UserControls.apply]
          split_ifs <;> exact h
      | pause | shadow | activate | putRisk => exact h

/-- **A stop lasts** until it is lifted. -/
lemma CopyStop.inForce_apply {k : CopyStop} {c : CopyControls} {op : CopyControlOp}
    (h : k.inForce settings c = true) (hlift : k.liftedBy op = false) :
    k.inForce settings (c.apply settings op) = true := by
  cases op with
  | user u op =>
      cases k with
      | emergencyStop | globalPause | liveGateClosed => exact h
      | user u' stop =>
          simp only [inForce, CopyControls.apply, Function.update_apply]
          split_ifs with hu
          · subst hu
            exact UserStop.inForce_apply h (by simpa [liftedBy] using hlift)
          · exact h
  | setFlag flag enabled =>
      cases k with
      | user u' stop => cases flag <;> exact h
      | emergencyStop | globalPause =>
          cases flag <;> first | exact h | simpa [inForce, CopyControls.apply, liftedBy] using hlift
      | liveGateClosed =>
          cases flag with
          | globalPause | emergencyStop => exact h
          | liveTrading =>
              have henabled : enabled = false := hlift
              simp [inForce, CopyControls.apply, henabled]

end Controls

/-! ## What an attempt plans behind a stop -/

section Reads

variable {settings : CopySettings} {seen : List CopyControls} {job : CopyJob} {r : AttemptReads}
  {k : CopyStop} {current : ℚ} {submission : Submission}

/-- The values an attempt goes by, each from a view. -/
structure ReadFrom (settings : CopySettings) (seen : List CopyControls) (u : UserId)
    (r : AttemptReads) : Prop where
  user : ∀ status, r.user = some status → ∃ c ∈ seen, (c.users u).status = status
  risk : ∃ c ∈ seen, (c.users u).risk = r.risk
  halts : ∃ c ∈ seen, haltReads (c.users u).riskState =
    (r.drawdownHalt, r.dailyLossHalt, r.nearLiquidation)
  globalPause : ∃ c ∈ seen, c.globalPause = r.globalPause
  emergencyStop : ∃ c ∈ seen, c.emergencyStop = r.emergencyStop
  live : ∃ c ∈ seen, c.liveTradingAllowed settings r.network = r.liveTradingAllowed

lemma readFrom_of_readsAgree {u : UserId} (h : readsAgree settings seen u r = true) :
    ReadFrom settings seen u r := by
  simp only [readsAgree, Bool.and_eq_true, List.any_eq_true, decide_eq_true_eq] at h
  obtain ⟨⟨⟨⟨⟨huser, hrisk⟩, hhalts⟩, hpause⟩, hstop⟩, hlive⟩ := h
  refine ⟨fun status hstatus => ?_, hrisk, hhalts, hpause, hstop, hlive⟩
  rw [hstatus] at huser
  simpa using huser

/-- The job goes where the follower is. -/
lemma network_of_admitJob (h : admitJob job r = none) :
    job.context.followerNetwork.getD r.network = r.network := by
  unfold admitJob at h
  split_ifs at h with _ _ _ hnetwork
  exact not_not.1 hnetwork

/-- Behind a closed live gate a mainnet job has nothing to go by. -/
lemma ReadFrom.gateClosed (hread : ReadFrom settings seen job.market.userId r)
    (hforce : ∀ c ∈ seen, CopyStop.liveGateClosed.inForce settings c = true)
    (hcovers : CopyStop.liveGateClosed.covers job = true) (hadmitted : admitJob job r = none) :
    r.liveTradingAllowed = false := by
  obtain ⟨c, hc, hlive⟩ := hread.live
  have hmainnet : job.context.followerNetwork = some .mainnet := by
    simpa [CopyStop.covers] using hcovers
  have hnetwork := network_of_admitJob hadmitted
  rw [hmainnet] at hnetwork
  have hclosed : (settings.enableLiveTrading && c.liveTrading) = false := by
    simpa only [CopyStop.inForce, Bool.not_eq_true'] using hforce c hc
  rw [← hlive, CopyControls.liveTradingAllowed, hclosed, ← hnetwork]
  rfl

/-- An exposure halt in the view is an exposure halt of the attempt. -/
lemma ReadFrom.halted (hread : ReadFrom settings seen job.market.userId r)
    (hforce : ∀ c ∈ seen, k.inForce settings c = true) (hcovers : k.covers job = true)
    (hgate : k ≠ .liveGateClosed) {status : UserStatus} {s : SizedAttempt}
    (huser : r.user = some status) (hrisk : r.risk = some s.risk)
    (hshadow : status.copyState ≠ .shadow) :
    exposureHalt (attemptRiskContext job current s status r) ≠ none := by
  cases k with
  | emergencyStop =>
      obtain ⟨c, hc, heq⟩ := hread.emergencyStop
      have hset : r.emergencyStop = true := heq ▸ hforce c hc
      exact @exposureHalt_of_mem _ .emergencyStop
        (by simp [exposureHalts, attemptRiskContext, hset])
  | globalPause =>
      obtain ⟨c, hc, heq⟩ := hread.globalPause
      have hset : r.globalPause = true := heq ▸ hforce c hc
      exact @exposureHalt_of_mem _ .globalPause (by simp [exposureHalts, attemptRiskContext, hset])
  | liveGateClosed => exact absurd rfl hgate
  | user u stop =>
      simp only [CopyStop.covers, Bool.and_eq_true, decide_eq_true_eq] at hcovers
      obtain ⟨hu, hasset⟩ := hcovers
      rw [hu] at hread
      cases stop with
      | notActive =>
          obtain ⟨c, hc, heq⟩ := hread.user status huser
          have hne : (c.users u).status.copyState ≠ .active := by
            simpa [CopyStop.inForce, UserStop.inForce] using hforce c hc
          have hpaused : status.copyState = .paused := by
            rw [heq] at hne
            cases hstate : status.copyState with
            | paused => rfl
            | active => exact absurd hstate hne
            | shadow => exact absurd hstate hshadow
          exact @exposureHalt_of_mem _ .userPaused
            (by simp [exposureHalts, attemptRiskContext, hpaused])
      | closeOnly =>
          obtain ⟨c, hc, heq⟩ := hread.risk
          have hset : s.risk.closeOnly = true := by
            have h := hforce c hc
            simpa [CopyStop.inForce, UserStop.inForce, heq, hrisk] using h
          exact @exposureHalt_of_mem _ .closeOnly
            (by simp [exposureHalts, attemptRiskContext, hset])
      | assetNotPermitted asset =>
          obtain ⟨c, hc, heq⟩ := hread.risk
          have hname : job.market.asset = asset := by simpa [UserStop.covers] using hasset
          have hset : assetAllowed s.risk job.market.asset = false := by
            have h := hforce c hc
            rw [hname]
            simpa [CopyStop.inForce, UserStop.inForce, heq, hrisk] using h
          exact @exposureHalt_of_mem _ .assetNotPermitted
            (by simp [exposureHalts, attemptRiskContext, hset])
      | lossHalt =>
          obtain ⟨c, hc, heq⟩ := hread.halts
          obtain ⟨row, hrow, hhalted⟩ := (Option.any_eq_true _ _).1 (hforce c hc)
          rw [hrow] at heq
          simp only [haltReads, Option.any_some, Prod.mk.injEq] at heq
          obtain ⟨hdrawdown, hdaily, -⟩ := heq
          simp only [Bool.or_eq_true, decide_eq_true_eq] at hhalted
          obtain hstate | hstate := hhalted
          · have hset : r.drawdownHalt = true := by rw [← hdrawdown, hstate]; rfl
            exact @exposureHalt_of_mem _ .drawdownHalt
              (by simp [exposureHalts, attemptRiskContext, hset])
          · have hset : r.dailyLossHalt = true := by rw [← hdaily, hstate]; rfl
            exact @exposureHalt_of_mem _ .dailyLossHalt
              (by simp [exposureHalts, attemptRiskContext, hset])
      | nearLiquidation =>
          obtain ⟨c, hc, heq⟩ := hread.halts
          have hset : r.nearLiquidation = true := by
            have h : (c.users u).riskState.any (·.nearLiquidation) = true := hforce c hc
            simp only [haltReads, Prod.mk.injEq] at heq
            rw [← heq.2.2, h]
          exact @exposureHalt_of_mem _ .nearLiquidation
            (by simp [exposureHalts, attemptRiskContext, hset])

/-- **Behind a stop** an attempt submits nothing but what the stop permits, and no second leg. -/
lemma planAttempt_of_stopped (hread : ReadFrom settings seen job.market.userId r)
    (hforce : ∀ c ∈ seen, k.inForce settings c = true) (hcovers : k.covers job = true)
    (hclose : job.origin = .closeAll → job.context.masterPosition = 0)
    (h : planAttempt job current r = .submit submission) :
    submission.plan.secondary = none ∧ k.permits submission.plan.reduceOnly = true := by
  obtain ⟨status, s, huser, hadmitted, -, -, -, hshadow, -, hstop, -⟩ := planAttempt_submit_iff.1 h
  by_cases hgate : k = .liveGateClosed
  · subst hgate
    have hclosed := hread.gateClosed hforce hcovers hadmitted
    rw [(submissionStop_eq_none hstop).2] at hclosed
    cases hclosed
  · have hreduces : submission.plan.reduceOnly = true ∧ submission.plan.secondary = none := by
      by_cases hstate : status.copyState = .shadow
      · -- in shadow mode only the jobs of `close_positions` get here
        have horigin : job.origin = .closeAll := by
          simpa [shadowSuppressesExchange, hstate] using hshadow
        have hcloses := planAttempt_of_flat (hclose horigin) h
        exact ⟨hcloses.reduceOnly, hcloses.single⟩
      · refine planAttempt_of_halted h fun status' s' huser' hrisk' => ?_
        obtain rfl : status = status' := Option.some.inj (huser.symm.trans huser')
        exact hread.halted hforce hcovers hgate huser hrisk' hstate
    refine ⟨hreduces.2, ?_⟩
    cases k with
    | liveGateClosed => exact absurd rfl hgate
    | emergencyStop | globalPause | user => exact hreduces.1

lemma admitJob_of_profitExit (h : planAttempt job current r = .profitExit) :
    admitJob job r = none := by
  unfold planAttempt at h
  split at h
  · cases h
  · cases h
  · assumption

end Reads

/-! ## What a stop leaves of an attempt -/

/-- What an attempt still means to do about a job that a stop covers: it has no second leg, and a
leg whose row is not journaled yet is one the stop permits. -/
def CopyStop.StageStopped (k : CopyStop) (s : ExecutorState) (id : JobId) : Stage → Prop
  | .waiting _ | .locked | .closing _ => True
  | .entering a leg => k.covers a.job = true → a.plan.secondary = none ∧
      ((s.executions.lookup ⟨id, leg.kind⟩).isSome = true ∨ k.permits leg.order.reduceOnly = true)
  | .journaled a leg =>
      k.covers a.job = true → a.plan.secondary = none ∧ k.permits leg.order.reduceOnly = true
  | .inFlight a _ | .filled a _ _ => k.covers a.job = true → a.plan.secondary = none

section Stages

variable {venue : Venue} {settings : CopySettings} {seen : List CopyControls} {k : CopyStop}
  {s s' : ExecutorState} {now : ℕ} {op : ExecutorOp} {actor : Option TaskId} {t : TaskId}
  {id : JobId} {u : UserId} {n : ℕ} {stage : Stage}

/-- **Behind a stop** an attempt begins with what the stop permits, or replays a row. -/
lemma stageStopped_of_beginStage {job : CopyJob} {reads : ProfitExitReads}
    (hread : ReadFrom settings seen job.market.userId reads.toAttemptReads)
    (hforce : ∀ c ∈ seen, k.inForce settings c = true)
    (hclose : job.origin = .closeAll → job.context.masterPosition = 0)
    (h : beginStage s id job reads = some stage) : k.StageStopped s id stage := by
  obtain ⟨c, rfl⟩ | ⟨a, rfl, hbegin⟩ := beginStage_cases h
  · trivial
  intro hcovers
  rw [hbegin.job_eq] at hcovers
  cases hbegin with
  | submit submission hplan ha =>
      subst ha
      obtain ⟨hsingle, hpermits⟩ := planAttempt_of_stopped hread hforce hcovers hclose hplan
      exact ⟨hsingle, Or.inr hpermits⟩
  | exit status order hattempt hagree hplan ha =>
      subst ha
      obtain ⟨-, d, -, hfresh⟩ := planProfitExit_goesOn.1 order hplan
      obtain ⟨-, -, o, -, hcloses⟩ := planFreshProfitExit_ok hfresh
      refine ⟨hcloses.single, Or.inr ?_⟩
      show k.permits order.plan.reduceOnly = true
      cases k with
      | liveGateClosed =>
          have hclosed := hread.gateClosed hforce hcovers (admitJob_of_profitExit hattempt)
          rw [planFreshProfitExit_live hfresh] at hclosed
          cases hclosed
      | emergencyStop | globalPause | user => exact hcloses.reduceOnly
  | recover status intent existing current hattempt hagree hplan ha =>
      subst ha
      refine ⟨rfl, Or.inl ?_⟩
      have hexisting := planProfitExit_goesOn.2 intent existing current hplan
      simp only [profitExitReadsAgree, Bool.and_eq_true, decide_eq_true_eq] at hagree
      have hrow : existingExecution s id = some existing := by rw [← hagree.1.2, hexisting]
      show (s.executions.lookup ⟨id, .o⟩).isSome = true
      simpa [existingExecution] using congrArg Option.isSome hrow

lemma CopyStop.StageStopped.mono (h : k.StageStopped s id stage)
    (hrows : ∀ cloid, (s.executions.lookup cloid).isSome = true →
      (s'.executions.lookup cloid).isSome = true) : k.StageStopped s' id stage := by
  cases stage with
  | waiting | locked | closing => trivial
  | entering a leg =>
      intro hcovers
      obtain ⟨hsingle, hleg⟩ := h hcovers
      exact ⟨hsingle, hleg.imp_left (hrows _)⟩
  | journaled | inFlight | filled => exact h

/-- **An attempt goes on as the stop leaves it.** -/
lemma stageStopped_of_effect (hd : Disciplined venue s) (h : ExecutorEffect venue s now op actor s')
    (hold : ∀ n stage, s.tasks.lookup t = some (.attempt id u n stage) →
      (∀ w, stage ≠ .waiting w) → k.StageStopped s id stage)
    (hbegin : ∀ reads row, op = .begin t reads → s.jobs.lookup id = some row →
      beginStage s id row.job reads = some stage → k.StageStopped s id stage)
    (ht : s'.tasks.lookup t = some (.attempt id u n stage)) (hpast : ∀ w, stage ≠ .waiting w) :
    k.StageStopped s' id stage := by
  by_cases hactor : actor = some t
  · subst hactor
    cases h with
    | acquire _ id₀ u₀ n₀ n₁ w jobs' hjobs htask hfree =>
        cases eq_of_lookup_insert ht
        trivial
    | begin _ id₀ u₀ n₀ row reads stage₀ hop htask hjob hdecimals hstage =>
        cases eq_of_lookup_insert ht
        exact (hbegin reads row hop hjob hstage).mono fun _ h => h
    | leave _ id₀ u₀ n₀ stage₀ c htask hleg =>
        cases eq_of_lookup_insert ht
        trivial
    | replay _ id₀ u₀ n₀ a leg row htask hrow hfilled =>
        cases eq_of_lookup_insert ht
        have hstopped := hold _ _ htask (by simp)
        exact fun hcovers => (hstopped hcovers).1
    | journal _ id₀ u₀ n₀ a leg htask hrow =>
        cases eq_of_lookup_insert ht
        intro hcovers
        obtain ⟨hsingle, hleg⟩ := hold _ _ htask (by simp) hcovers
        refine ⟨hsingle, hleg.resolve_left ?_⟩
        simp [hrow]
    | place _ id₀ u₀ n₀ a leg row reaches htask hrow =>
        cases eq_of_lookup_insert ht
        have hstopped := hold _ _ htask (by simp)
        exact fun hcovers => (hstopped hcovers).1
    | record _ id₀ u₀ n₀ stage₀ a leg row row' o hop htask hstage hrow hreported hrow' =>
        cases eq_of_lookup_insert ht
        have hsingle : k.covers a.job = true → a.plan.secondary = none := by
          obtain ⟨rfl, -⟩ | rfl := hstage
          · have hstopped := hold _ _ htask (by simp)
            exact fun hcovers => (hstopped hcovers).1
          · exact hold _ _ htask (by simp)
        obtain ⟨-, hnext⟩ | ⟨-, c, hnext⟩ := afterOutcome_cases a leg o
        · rw [hnext]
          exact hsingle
        · rw [hnext]
          trivial
    | apply _ id₀ u₀ n₀ a leg filledSize row row' ledger' added htask hrow happly =>
        cases eq_of_lookup_insert ht
        obtain ⟨c, hnext⟩ | ⟨second, hnext, -, hsecond, -⟩ := afterApply_cases a leg filledSize
          ledger'.size.value (venue.szDecimals a.market.asset)
        · rw [hnext]
          trivial
        · -- only a plan with a second leg goes on
          rw [hnext]
          intro hcovers
          have hsingle : a.plan.secondary = none := hold _ _ htask (by simp) hcovers
          rw [hsecond] at hsingle
          cases hsingle
    | snapshot => cases eq_of_lookup_insert ht
    | query => cases eq_of_lookup_insert ht
    | reconcile => exact absurd ht (by simp [ExecutorState.dropTask])
    | resolve => exact absurd ht (by simp [ExecutorState.dropTask])
  · obtain ⟨hsame, -⟩ := h.others_kept hd.coherent hactor ht (holds_of_ne_waiting hpast)
    exact (hold n stage hsame hpast).mono fun _ hrow => hd.row_isSome h hrow

end Stages

/-! ## What holds in every run -/

lemma CopySystem.viewsAfter_of_ne {s : CopySystem} {op : ExecutorOp} {t : TaskId}
    (h : op ≠ .acquire t) : s.viewsAfter op t = s.views t := by
  unfold viewsAfter
  split
  · rename_i task
    exact Function.update_of_ne (fun heq => h (by rw [heq])) _ _
  · rfl

lemma CopySystem.mem_placedBy {s : CopySystem} {op : ExecutorOp} {p : PlacedOrder}
    (h : p ∈ s.placedBy op) : ∃ t reaches id u n a leg, op = .placeIoc t reaches ∧
      s.executor.tasks.lookup t = some (.attempt id u n (.journaled a leg)) ∧
      p = ⟨⟨id, leg.kind⟩, a.job, leg.order.reduceOnly, (s.views t).lockedAt⟩ := by
  unfold placedBy at h
  split at h
  · rename_i t reaches
    split at h
    · rename_i id u n a leg htask
      exact ⟨t, reaches, id, u, n, a, leg, rfl, htask, List.mem_singleton.1 h⟩
    · cases h
  · cases h

lemma CopySystem.calls_follow {venue : Venue} {s : CopySystem} {now : ℕ} {op : ExecutorOp}
    {e : ExecutorState} (h : executorStep venue s.executor ⟨now, op⟩ = some e) :
    e.calls = s.executor.calls ++ (s.placedBy op).map (·.cloid) := by
  by_cases hop : ∃ t reaches, op = .placeIoc t reaches
  · obtain ⟨t, reaches, rfl⟩ := hop
    obtain ⟨-, s₁, happly, rfl⟩ := executorStep_op h
    simp only [applyExecutorOp, callPlaceIoc] at happly
    split at happly
    · rename_i id u n a leg htask
      split at happly
      · cases happly
      obtain rfl := Option.some.inj happly
      simp only [placedBy, htask]
      rfl
    · cases happly
  · push Not at hop
    rw [calls_of_step h hop]
    unfold placedBy
    split
    · exact absurd rfl (hop _ _)
    · simp

/-- What holds of the rows and the history in every run: the jobs of `close_positions` follow a
master that holds nothing, and `placed` is the history of the calls. -/
structure CopyInv (venue : Venue) (s : CopySystem) : Prop where
  disciplined : Disciplined venue s.executor
  closeJobs : ∀ id row, s.executor.jobs.lookup id = some row → row.job.origin = .closeAll →
    row.job.context.masterPosition = 0
  locked : ∀ t id u n stage, s.executor.tasks.lookup t = some (.attempt id u n stage) →
    (∀ w, stage ≠ .waiting w) → (s.views t).lockedAt < s.steps
  calls : s.placed.map (·.cloid) = s.executor.calls
  placed : ∀ p ∈ s.placed, p.lockedAt < s.steps ∧
    ∃ row, s.executor.jobs.lookup p.cloid.jobId = some row ∧ row.job = p.job

/-- What a stop that has been in force from step `since` on has made of the attempts that took the
lock from then on. -/
structure StopHolds (settings : CopySettings) (k : CopyStop) (since : ℕ) (s : CopySystem) :
    Prop where
  inForce : k.inForce settings s.controls = true
  seen : ∀ t id u n stage, s.executor.tasks.lookup t = some (.attempt id u n stage) →
    (∀ w, stage ≠ .waiting w) → since ≤ (s.views t).lockedAt →
      ∀ c ∈ (s.views t).seen, k.inForce settings c = true
  stages : ∀ t id u n stage, s.executor.tasks.lookup t = some (.attempt id u n stage) →
    (∀ w, stage ≠ .waiting w) → since ≤ (s.views t).lockedAt →
      k.StageStopped s.executor id stage
  placed : ∀ p ∈ s.placed, since ≤ p.lockedAt → k.covers p.job = true →
    k.permits p.reduceOnly = true

section Runs

variable {venue : Venue} {settings : CopySettings} {k : CopyStop} {since : ℕ} {s s' : CopySystem}
  {now : ℕ} {op : ExecutorOp} {e : ExecutorState}

lemma copyInv_initial (venue : Venue) (lots : Market → ℤ) (controls : CopyControls) :
    CopyInv venue (.initial venue lots controls) where
  disciplined := disciplined_initial venue lots
  closeJobs id row h := by simp [CopySystem.initial, ExecutorState.initial] at h
  locked t id u n stage h := by simp [CopySystem.initial, ExecutorState.initial] at h
  calls := rfl
  placed p h := by cases h

lemma CopyInv.follow (hinv : CopyInv venue s) (hadmits : s.admits settings op = true)
    (hstep : executorStep venue s.executor ⟨now, op⟩ = some e) : CopyInv venue (s.follow op e) := by
  obtain ⟨-, actor, s₂, heffect, hs₂⟩ := executorStep_effect hstep
  have hkept : JobsKept s.executor.jobs e.jobs := by
    rw [hs₂]
    exact heffect.jobsKept
  obtain ⟨-, s₁, happly, hs₁⟩ := executorStep_op hstep
  refine ⟨hinv.disciplined.executorStep hstep, ?_, ?_, ?_, ?_⟩
  · intro id row hrow horigin
    change e.jobs.lookup id = some row at hrow
    rw [hs₁] at hrow
    obtain ⟨row₀, hrow₀, hjob⟩ | rfl | hreconcile := job_of_op happly hrow
    · rw [hjob] at horigin ⊢
      exact hinv.closeJobs id row₀ hrow₀ horigin
    · simp [CopySystem.admits, horigin] at hadmits
    · rw [horigin] at hreconcile
      cases hreconcile
  · intro t id u n stage ht hpast
    change e.tasks.lookup t = _ at ht
    rw [hs₁] at ht
    show (s.viewsAfter op t).lockedAt < s.steps + 1
    obtain ⟨rfl, -⟩ | ⟨hop, n', stage', hold, hpast'⟩ := past_of_op happly ht hpast
    · simp [CopySystem.viewsAfter]
    · rw [CopySystem.viewsAfter_of_ne hop]
      have hbefore := hinv.locked t id u n' stage' hold hpast'
      omega
  · show (s.placed ++ s.placedBy op).map (·.cloid) = e.calls
    rw [List.map_append, hinv.calls, CopySystem.calls_follow hstep]
  · intro p hp
    show p.lockedAt < s.steps + 1 ∧ ∃ row, e.jobs.lookup p.cloid.jobId = some row ∧ row.job = p.job
    have hjobs : ∀ row, s.executor.jobs.lookup p.cloid.jobId = some row → row.job = p.job →
        ∃ row, e.jobs.lookup p.cloid.jobId = some row ∧ row.job = p.job := by
      intro row hrow hjob
      obtain ⟨row', hrow', heq⟩ := hkept _ row hrow
      exact ⟨row', hrow', heq.trans hjob⟩
    obtain hp | hp := List.mem_append.1 hp
    · obtain ⟨hbefore, row, hrow, hjob⟩ := hinv.placed p hp
      exact ⟨by omega, hjobs row hrow hjob⟩
    · obtain ⟨t, reaches, id, u, n, a, leg, -, htask, rfl⟩ := CopySystem.mem_placedBy hp
      have hbefore := hinv.locked t id u n _ htask (by simp)
      obtain ⟨row, hrow, -, hjob⟩ := hinv.disciplined.coherent.tasks t _ htask
      exact ⟨by show (s.views t).lockedAt < _; omega, hjobs row hrow (hjob a rfl).symm⟩

lemma StopHolds.follow (h : StopHolds settings k since s) (hinv : CopyInv venue s)
    (hadmits : s.admits settings op = true)
    (hstep : executorStep venue s.executor ⟨now, op⟩ = some e) :
    StopHolds settings k since (s.follow op e) := by
  obtain ⟨-, actor, s₂, heffect, hs₂⟩ := executorStep_effect hstep
  obtain ⟨-, s₁, happly, hs₁⟩ := executorStep_op hstep
  have hd := hinv.disciplined
  refine ⟨h.inForce, ?_, ?_, ?_⟩
  · intro t id u n stage ht hpast hsince c hc
    change e.tasks.lookup t = _ at ht
    change since ≤ (s.viewsAfter op t).lockedAt at hsince
    change c ∈ (s.viewsAfter op t).seen at hc
    rw [hs₁] at ht
    obtain ⟨rfl, -⟩ | ⟨hop, n', stage', hold, hpast'⟩ := past_of_op happly ht hpast
    · -- the view of an attempt that takes the lock are the rows as they are
      simp only [CopySystem.viewsAfter, Function.update_self, List.mem_singleton] at hc
      rw [hc]
      exact h.inForce
    · rw [CopySystem.viewsAfter_of_ne hop] at hsince hc
      exact h.seen t id u n' stage' hold hpast' hsince c hc
  · intro t id u n stage ht hpast hsince
    change e.tasks.lookup t = _ at ht
    change since ≤ (s.viewsAfter op t).lockedAt at hsince
    have ht₁ : s₁.tasks.lookup t = some (.attempt id u n stage) := by
      rw [hs₁] at ht
      exact ht
    obtain ⟨-, rfl⟩ | ⟨hop, n', stage', hold, hpast'⟩ := past_of_op happly ht₁ hpast
    · trivial
    rw [CopySystem.viewsAfter_of_ne hop] at hsince
    show k.StageStopped e id stage
    rw [hs₂] at ht ⊢
    refine CopyStop.StageStopped.mono (s := s₂) ?_ fun _ hrow => hrow
    refine stageStopped_of_effect hd heffect ?_ ?_ ht hpast
    · intro n₀ stage₀ ht₀ hpast₀
      exact h.stages t id u n₀ stage₀ ht₀ hpast₀ hsince
    · intro reads row hbegin hrow hstage
      subst hbegin
      obtain ⟨row', hrow', hu, -⟩ := hd.coherent.tasks t _ hold
      obtain rfl := Option.some.inj (hrow.symm.trans hrow')
      have hagree : readsAgree settings (s.views t).seen u reads.toAttemptReads = true := by
        simpa only [CopySystem.admits, hold] using hadmits
      refine stageStopped_of_beginStage (hu ▸ readFrom_of_readsAgree hagree) ?_
        (hinv.closeJobs id row hrow) hstage
      exact h.seen t id u n' stage' hold hpast' hsince
  · intro p hp hsince hcovers
    obtain hp | hp := List.mem_append.1 hp
    · exact h.placed p hp hsince hcovers
    · obtain ⟨t, reaches, id, u, n, a, leg, -, htask, rfl⟩ := CopySystem.mem_placedBy hp
      exact (h.stages t id u n _ htask (by simp) hsince hcovers).2

/-- The rows are written, and some jobs are new: what the attempts are doing goes on. -/
lemma CopyInv.write (hinv : CopyInv venue s) {jobs : Table JobId CopyJobRow}
    {controls : CopyControls} (hkept : JobsKept s.executor.jobs jobs)
    (hclose : ∀ id row, jobs.lookup id = some row → row.job.origin = .closeAll →
      row.job.context.masterPosition = 0) :
    CopyInv venue (s.write { s.executor with jobs := jobs } controls) where
  disciplined := hinv.disciplined.step (@schedule_jobs venue s.executor 0 (.crash 0) jobs hkept)
  closeJobs := hclose
  locked t id u n stage ht hpast := by
    have hbefore := hinv.locked t id u n stage ht hpast
    show (s.views t).lockedAt < s.steps + 1
    omega
  calls := hinv.calls
  placed p hp := by
    obtain ⟨hbefore, row, hrow, hjob⟩ := hinv.placed p hp
    obtain ⟨row', hrow', heq⟩ := hkept _ row hrow
    refine ⟨?_, row', hrow', heq.trans hjob⟩
    show p.lockedAt < s.steps + 1
    omega

lemma StopHolds.write (h : StopHolds settings k since s) {jobs : Table JobId CopyJobRow}
    {controls : CopyControls} (hforce : k.inForce settings controls = true) :
    StopHolds settings k since (s.write { s.executor with jobs := jobs } controls) where
  inForce := hforce
  seen t id u n stage ht hpast hsince c hc := by
    obtain hc | hc := List.mem_append.1 hc
    · exact h.seen t id u n stage ht hpast hsince c hc
    · rw [List.mem_singleton.1 hc]
      exact hforce
  stages t id u n stage ht hpast hsince :=
    (h.stages t id u n stage ht hpast hsince).mono fun _ hrow => hrow
  placed := h.placed

lemma CloseRequest.flat_of_mem_jobs {request : CloseRequest} {id : JobId} {job : CopyJob}
    (h : (id, job) ∈ request.jobs) : job.context.masterPosition = 0 := by
  obtain ⟨row, -, heq⟩ := List.mem_map.1 h
  obtain ⟨-, rfl⟩ := Prod.mk.inj heq
  rfl

lemma CopyInv.step {op : CopyOp} (hinv : CopyInv venue s)
    (h : copyStep venue settings s op = some s') : CopyInv venue s' := by
  cases op with
  | executor now op =>
      simp only [copyStep] at h
      split_ifs at h with hadmits
      obtain ⟨e, he, rfl⟩ := Option.map_eq_some_iff.1 h
      exact hinv.follow hadmits he
  | control op =>
      obtain rfl := Option.some.inj h
      exact hinv.write (JobsKept.refl _) hinv.closeJobs
  | closePositions request =>
      obtain ⟨e, he, rfl⟩ := Option.map_eq_some_iff.1 h
      obtain ⟨table, rfl, hkept, -, hback⟩ := enqueueAll_eq he
      refine hinv.write hkept fun id row hrow horigin => ?_
      obtain hold | hmem := hback id row hrow
      · exact hinv.closeJobs id row hold horigin
      · exact CloseRequest.flat_of_mem_jobs hmem

lemma StopHolds.step {op : CopyOp} (h : StopHolds settings k since s) (hinv : CopyInv venue s)
    (hlift : ∀ c, op.control? = some c → k.liftedBy c = false)
    (hstep : copyStep venue settings s op = some s') : StopHolds settings k since s' := by
  cases op with
  | executor now op =>
      simp only [copyStep] at hstep
      split_ifs at hstep with hadmits
      obtain ⟨e, he, rfl⟩ := Option.map_eq_some_iff.1 hstep
      exact h.follow hinv hadmits he
  | control op =>
      obtain rfl := Option.some.inj hstep
      exact h.write (CopyStop.inForce_apply h.inForce (hlift op rfl))
  | closePositions request =>
      obtain ⟨e, he, rfl⟩ := Option.map_eq_some_iff.1 hstep
      obtain ⟨table, rfl, -⟩ := enqueueAll_eq he
      exact h.write (CopyStop.inForce_apply h.inForce (hlift _ rfl))

/-- No attempt that is running has taken the lock later than now. -/
lemma CopyInv.stopHolds (hinv : CopyInv venue s) (hforce : k.inForce settings s.controls = true) :
    StopHolds settings k s.steps s where
  inForce := hforce
  seen t id u n stage ht hpast hsince := by
    have hbefore := hinv.locked t id u n stage ht hpast
    omega
  stages t id u n stage ht hpast hsince := by
    have hbefore := hinv.locked t id u n stage ht hpast
    omega
  placed p hp hsince := by
    have hbefore := (hinv.placed p hp).1
    omega

/-- **A stop stops.**  Once a stop is in force it lasts until it is lifted, and meanwhile every
order of an attempt that took the lock since then, on a job the stop covers, is one the stop
permits: behind a closed live gate there is none, and behind every other stop it only reduces.
`placed` is the whole history of the calls. -/
theorem stop_stops {lots : Market → ℤ} {controls : CopyControls} {before after : List CopyOp}
    (hbefore : Transition.run (copyStep venue settings) (.initial venue lots controls) before =
      some s)
    (hforce : k.inForce settings s.controls = true)
    (hafter : Transition.run (copyStep venue settings) s after = some s')
    (hlift : ∀ op ∈ after, ∀ c, op.control? = some c → k.liftedBy c = false) :
    k.inForce settings s'.controls = true ∧ s'.placed.map (·.cloid) = s'.executor.calls ∧
      ∀ p ∈ s'.placed,
        (∃ row, s'.executor.jobs.lookup p.cloid.jobId = some row ∧ row.job = p.job) ∧
        (s.steps ≤ p.lockedAt → k.covers p.job = true → k.permits p.reduceOnly = true) := by
  have hinv : CopyInv venue s :=
    Transition.run_invariant (fun _ _ _ hinv hstep => hinv.step hstep)
      (copyInv_initial venue lots controls) hbefore
  have hstep : ∀ x op x', CopyInv venue x ∧ StopHolds settings k s.steps x →
      (∀ c, CopyOp.control? op = some c → k.liftedBy c = false) →
        copyStep venue settings x op = some x' →
          CopyInv venue x' ∧ StopHolds settings k s.steps x' :=
    fun x op x' hheld hlift hstep => ⟨hheld.1.step hstep, hheld.2.step hheld.1 hlift hstep⟩
  have hheld := Transition.run_invariant_of_meets hstep ⟨hinv, hinv.stopHolds hforce⟩
    (Transition.RunMeets.of_forall (fun a ha _ => hlift a ha) s) hafter
  refine ⟨hheld.2.inForce, hheld.1.calls, fun p hp => ⟨(hheld.1.placed p hp).2, ?_⟩⟩
  exact hheld.2.placed p hp

end Runs

/-! ## A pause in the middle of an attempt

The first attempt has planned to buy when the user pauses, the second takes the lock after that. -/

/-- An attempt begins, and its user pauses. -/
def untilPause : List CopyOp :=
  [.executor 1 (.enqueue 1 (eventJob 6)), .executor 2 (.enqueue 2 (eventJob 2)),
    .executor 3 (.claim 1 7 0), .executor 4 (.acquire 0), .executor 5 (.begin 0 eventReads),
    .control (.user 0 .pause)]

/-- The attempt and the next one go on. -/
def afterPause : List CopyOp :=
  [.executor 6 (.enterLeg 0 ⟨.unknown, none⟩), .executor 7 (.placeIoc 0 true),
    .executor 8 (.crash 0), .executor 9 (.claim 2 7 1), .executor 10 (.acquire 1),
    .executor 11 (.begin 1 pausedReads), .executor 12 (.enterLeg 1 ⟨.unknown, none⟩),
    .executor 13 (.placeIoc 1 true)]

/-- The order of the first attempt still goes out and adds exposure, that of the second reduces. -/
theorem stop_stops_paused :
    ∃ s s', Transition.run (copyStep hundredths liveSettings) openSystem untilPause = some s ∧
      Transition.run (copyStep hundredths liveSettings) s afterPause = some s' ∧
      s'.placed = [⟨⟨1, .o⟩, eventJob 6, false, 3⟩, ⟨⟨2, .o⟩, eventJob 2, true, 10⟩] ∧
      ∀ p ∈ s'.placed, s.steps ≤ p.lockedAt → p.reduceOnly = true := by
  have hrun : (Transition.run (copyStep hundredths liveSettings) openSystem untilPause).any
      (fun s => (CopyStop.user 0 .notActive).inForce liveSettings s.controls &&
        (Transition.run (copyStep hundredths liveSettings) s afterPause).any fun s' =>
          s'.placed = [⟨⟨1, .o⟩, eventJob 6, false, 3⟩, ⟨⟨2, .o⟩, eventJob 2, true, 10⟩]) =
      true := by
    decide +kernel
  obtain ⟨s, hs, hrest⟩ := (Option.any_eq_true _ _).1 hrun
  obtain ⟨hforce, hrest⟩ := Bool.and_eq_true_iff.1 hrest
  obtain ⟨s', hs', hplaced⟩ := (Option.any_eq_true _ _).1 hrest
  have hplaced := of_decide_eq_true hplaced
  have hlift : ∀ op ∈ afterPause, ∀ c, op.control? = some c →
      (CopyStop.user 0 .notActive).liftedBy c = false := by
    simp [afterPause, CopyOp.control?]
  obtain ⟨-, -, hstops⟩ := stop_stops hs hforce hs' hlift
  refine ⟨s, s', hs, hs', hplaced, fun p hp hlocked => (hstops p hp).2 hlocked ?_⟩
  rw [hplaced] at hp
  simp only [List.mem_cons, List.not_mem_nil, or_false] at hp
  obtain rfl | rfl := hp <;> rfl

end HyperCopy

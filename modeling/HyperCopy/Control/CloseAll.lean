import HyperCopy.Control.Stops
import HyperCopy.Executor.AmbiguityFence
import HyperCopy.ProfitExit.LifecycleSteps

/-!
# Closing everything

A `CLOSE_ALL` job follows a master that holds nothing, so its target is zero.  Its plan sells or
buys back the whole lots of the ledger size in one order that only reduces, and of all that can
keep an attempt from submitting it only the state of the account is left: none of the stops of a
user is among them, `CloseReady`.
-/

namespace HyperCopy

/-! ## A master that holds nothing -/

/-- The plan closes the whole lots of a position. -/
structure ClosesWhole (p : SizingResult) (size : ℚ) (n : ℕ) : Prop where
  intent : p.intent = .close
  current : p.currentSize = size
  orderSize : p.orderSize = roundSize size n
  isBuy : p.isBuy = decide (size < 0)
  reduceOnly : p.reduceOnly = true
  single : p.secondary = none

section Flat

variable {m : MasterExposure} {f : FollowerState} {spec : AssetSpec} {minNotional mark : ℚ}

lemma computeTarget_of_flat (h : m.positionSize = 0) : computeTarget m f mark = 0 := by
  simp [computeTarget, MasterExposure.exposureRatio, MasterExposure.notional, h]

lemma plan_of_flat (h : m.positionSize = 0) (hcurrent : f.currentSize ≠ 0) :
    plan m f spec minNotional mark =
      planSameSide m.asset spec .close 0 f.currentSize minNotional mark := by
  have hclass : classify 0 f.currentSize = .close := by
    simp [classify, hcurrent, hcurrent.symm]
  simp only [plan, computeTarget_of_flat h, hclass]

lemma roundSize_zero_sub (x : ℚ) (n : ℕ) : roundSize (0 - x) n = roundSize x n := by
  simp [roundSize]

/-- What follows a flat master closes, if it does anything. -/
lemma plan_closesWhole_of_flat (h : m.positionSize = 0)
    (hactionable : (plan m f spec minNotional mark).toSizingLeg.actionable = true) :
    ClosesWhole (plan m f spec minNotional mark) f.currentSize spec.szDecimals ∧
      max minNotional spec.minNotional ≤ roundSize f.currentSize spec.szDecimals * mark := by
  have hcurrent : f.currentSize ≠ 0 := by
    intro hzero
    rw [plan_not_actionable_of_onTarget ((computeTarget_of_flat h).trans hzero.symm)] at hactionable
    cases hactionable
  have hfits : ¬ |f.currentSize| < roundSize f.currentSize spec.szDecimals :=
    not_lt.2 (roundSize_le_abs _ _)
  rw [plan_of_flat h hcurrent] at hactionable ⊢
  simp only [planSameSide, roundSize_zero_sub, hfits, decide_false, Bool.and_false,
    Bool.false_eq_true, if_false] at hactionable ⊢
  split_ifs at hactionable ⊢ with hsize hfloor
  · cases hactionable
  · cases hactionable
  · exact ⟨⟨rfl, rfl, rfl, by simp, rfl, rfl⟩, not_lt.1 hfloor⟩

lemma plan_actionable_of_flat (h : m.positionSize = 0)
    (hsize : 0 < roundSize f.currentSize spec.szDecimals)
    (hfloor : max minNotional spec.minNotional ≤ roundSize f.currentSize spec.szDecimals * mark) :
    (plan m f spec minNotional mark).toSizingLeg.actionable = true := by
  have hcurrent : f.currentSize ≠ 0 := by
    intro hzero
    simp [hzero, roundSize, Quantize.floorTo] at hsize
  have hfits : ¬ |f.currentSize| < roundSize f.currentSize spec.szDecimals :=
    not_lt.2 (roundSize_le_abs _ _)
  rw [plan_of_flat h hcurrent]
  simp only [planSameSide, roundSize_zero_sub, hfits, decide_false, Bool.and_false,
    Bool.false_eq_true, if_false, not_le.2 hsize, not_lt.2 hfloor]
  simpa [SizingLeg.actionable] using hsize

end Flat

/-! ## A requested close -/

/-- What a requested close still needs: the job is delivered to where it was staged for, the rows
and prices are there, the account can sign, and the order is one the exchange takes.  The stops
are not among it, but for the live gate. -/
structure CloseReady (request : CloseRequest) (size : ℚ) (r : AttemptReads) (risk : CopyRiskProfile)
    (mark : ℚ) : Prop where
  user : r.user.isSome = true
  destination : r.destinationMatches = true
  provider : request.provider = .hyperliquid
  network : request.network = r.network
  adapter : r.adapterNetwork = r.network
  account : r.accountFound = true
  profile : r.risk = some risk
  equity : r.equity.isSome = true
  followerMark : r.followerMark = some mark
  positive : 0 < mark
  credential : r.credential = some true
  live : r.liveTradingAllowed = true
  whole : 0 < roundSize size r.spec.szDecimals
  floor : max risk.minNotional r.spec.minNotional ≤ roundSize size r.spec.szDecimals * mark

section Attempt

variable {request : CloseRequest} {row : CloseRow} {size : ℚ} {r : AttemptReads}
  {submission : Submission} {job : CopyJob} {current : ℚ}

lemma sizing_of_flat {s : SizedAttempt} (hflat : job.context.masterPosition = 0)
    (hsize : sizeAttempt job current r = .ok s) {ctx : RiskContext}
    (hpasses : (evaluate s.sizing ctx).action.passes = true) :
    ClosesWhole s.sizing current r.spec.szDecimals ∧ s.sizing.toSizingLeg.actionable = true ∧
      max s.risk.minNotional r.spec.minNotional ≤
        roundSize current r.spec.szDecimals * s.followerMark := by
  have hactionable : s.sizing.toSizingLeg.actionable = true := by
    by_contra hno
    rw [evaluate_not_actionable (Bool.not_eq_true _ ▸ hno)] at hpasses
    cases hpasses
  obtain ⟨-, masterMark, -, hsizing⟩ := sizeAttempt_ok hsize
  have hplan : ClosesWhole s.sizing current r.spec.szDecimals ∧
      max s.risk.minNotional r.spec.minNotional ≤
        roundSize current r.spec.szDecimals * s.followerMark := by
    rw [hsizing] at hactionable ⊢
    exact plan_closesWhole_of_flat hflat hactionable
  exact ⟨hplan.1, hactionable, hplan.2⟩

lemma ClosesWhole.reducing {p : SizingResult} {n : ℕ} (h : ClosesWhole p size n) :
    p.reducing = true ∧ p.intent ≠ .reverse :=
  ⟨by simp [SizingLeg.reducing, h.intent], by simp [h.intent]⟩

/-- A job of a flat master submits the close of its whole ledger size. -/
lemma planAttempt_of_flat (hflat : job.context.masterPosition = 0)
    (h : planAttempt job current r = .submit submission) :
    ClosesWhole submission.plan current r.spec.szDecimals := by
  obtain ⟨status, s, -, -, -, hsize, -, -, -, hstop, rfl⟩ := planAttempt_submit_iff.1 h
  obtain ⟨hcloses, -, -⟩ := sizing_of_flat hflat hsize (submissionStop_eq_none hstop).1
  show ClosesWhole (evaluate s.sizing _).plan _ _
  rw [evaluate_plan_of_reducing hcloses.reducing.1 hcloses.reducing.2]
  exact hcloses

/-- What an attempt at a requested close works out: the plan of a flat master, and no leverage to
set. -/
def closeSized (request : CloseRequest) (row : CloseRow) (size : ℚ) (r : AttemptReads)
    (risk : CopyRiskProfile) (equity : EquitySnapshot) (mark : ℚ) : SizedAttempt :=
  let effective := resolveEffectiveRisk risk.toRiskProfile r.limits (some (r.spec.maxLeverage : ℚ))
  { risk := risk
    equity := equity
    followerMark := mark
    effectiveRisk := effective
    leverage := none
    sizing := plan (attemptMaster (closeJob request row) mark)
      ⟨equity.accountValue, equity.unmanagedMargin, size, effective.multiplier⟩
      r.spec risk.minNotional mark }

lemma sizeAttempt_closeJob {risk : CopyRiskProfile} {equity : EquitySnapshot} {mark : ℚ}
    (h : readInputs (closeJob request row) r = .ok (risk, equity, mark)) (hmark : 0 < mark) :
    sizeAttempt (closeJob request row) size r =
      .ok (closeSized request row size r risk equity mark) := by
  have heffective : effectiveMasterMark (closeJob request row).origin
      (closeJob request row).context.masterMarkPrice mark (r.masterNetwork = r.network) = mark :=
    rfl
  simp only [sizeAttempt, h, heffective, if_neg (not_le.2 hmark)]
  rfl

lemma CloseReady.admitJob {risk : CopyRiskProfile} {mark : ℚ}
    (h : CloseReady request size r risk mark) :
    HyperCopy.admitJob (closeJob request row) r = none := by
  obtain ⟨status, huser⟩ := Option.isSome_iff_exists.1 h.user
  simp [HyperCopy.admitJob, closeJob, huser, h.destination, h.provider, h.network, h.adapter]

lemma submissionStop_closeJob {s : SizedAttempt} {d : RiskDecision} (hleverage : s.leverage = none)
    (hpasses : d.action.passes = true) (hlive : r.liveTradingAllowed = true)
    (hcredential : r.credential = some true) :
    submissionStop (closeJob request row) s d r = none := by
  simp [submissionStop, closeJob, hleverage, hpasses, hlive, hcredential]

/-- **A requested close is submitted exactly where it is ready.** -/
lemma planAttempt_closeJob_iff :
    (∃ submission, planAttempt (closeJob request row) size r = .submit submission) ↔
      ∃ risk mark, CloseReady request size r risk mark := by
  constructor
  · rintro ⟨submission, h⟩
    obtain ⟨status, s, huser, hadmitted, -, hsize, -, -, -, hstop, -⟩ := planAttempt_submit_iff.1 h
    obtain ⟨hpasses, hlive⟩ := submissionStop_eq_none hstop
    obtain ⟨hcloses, hactionable, hfloor⟩ :=
      @sizing_of_flat r (closeJob request row) size s rfl hsize _ hpasses
    obtain ⟨-, hcredential, -⟩ :=
      (evaluate_passes_of_reducing hcloses.reducing.1 hcloses.reducing.2).1 hpasses
    obtain ⟨haccount, hrisk, -, hequity, hmark, hpos⟩ :=
      readInputs_ok_iff.1 (sizeAttempt_inputs hsize)
    have hwhole := SizingLeg.orderSize_pos_of_actionable hactionable
    rw [hcloses.orderSize] at hwhole
    unfold HyperCopy.admitJob at hadmitted
    split_ifs at hadmitted with _ hdestination hprovider hnetwork hadapter
    exact ⟨s.risk, s.followerMark,
      { user := by rw [huser]; rfl
        destination := by simpa using hdestination
        provider := by simpa [closeJob] using hprovider
        network := by simpa [closeJob] using hnetwork
        adapter := not_not.1 hadapter
        account := haccount
        profile := hrisk
        equity := by rw [hequity]; rfl
        followerMark := hmark
        positive := hpos
        credential := by simpa [attemptRiskContext] using hcredential
        live := hlive
        whole := hwhole
        floor := hfloor }⟩
  · rintro ⟨risk, mark, h⟩
    obtain ⟨status, huser⟩ := Option.isSome_iff_exists.1 h.user
    obtain ⟨equity, hequity⟩ := Option.isSome_iff_exists.1 h.equity
    have hinputs : readInputs (closeJob request row) r = .ok (risk, equity, mark) :=
      readInputs_ok_iff.2 ⟨h.account, h.profile, one_pos, hequity, h.followerMark, h.positive⟩
    have hactionable :
        (closeSized request row size r risk equity mark).sizing.toSizingLeg.actionable = true :=
      plan_actionable_of_flat rfl h.whole h.floor
    have hcloses : ClosesWhole (closeSized request row size r risk equity mark).sizing size
        r.spec.szDecimals := (plan_closesWhole_of_flat rfl hactionable).1
    have hpasses : (evaluate (closeSized request row size r risk equity mark).sizing
        (attemptRiskContext (closeJob request row) size
          (closeSized request row size r risk equity mark) status r)).action.passes = true := by
      refine (evaluate_passes_of_reducing hcloses.reducing.1 hcloses.reducing.2).2
        ⟨hactionable, ?_, ?_⟩
      · simp [attemptRiskContext, h.credential]
      · simp [attemptRiskContext, closeJob]
    refine ⟨_, planAttempt_submit_iff.2 ⟨status, _, huser, h.admitJob, by simp [closeJob],
      sizeAttempt_closeJob hinputs h.positive, ?_, ?_, rfl, ?_, rfl⟩⟩
    · simp [retargetFence, closeJob, JobOrigin.isStrategy]
    · simp [shadowSuppressesExchange, closeJob]
    · exact submissionStop_closeJob rfl hpasses h.live h.credential

end Attempt

/-! ## In every run -/

section Runs

variable {venue : Venue} {settings : CopySettings} {request : CloseRequest} {row : CloseRow}

/-- Where an attempt at a requested close goes from its plan. -/
lemma beginStage_closeJob {s : ExecutorState} {id : JobId} {reads : ProfitExitReads} {stage : Stage}
    (h : beginStage s id (closeJob request row) reads = some stage) :
    (∃ a, stage = .entering a a.primaryLeg ∧
        ClosesWhole a.plan (s.ledger ⟨request.userId, row.asset⟩).size.value reads.spec.szDecimals ∧
        ∃ risk mark, CloseReady request (s.ledger ⟨request.userId, row.asset⟩).size.value
          reads.toAttemptReads risk mark) ∨
      (∃ c, stage = .closing c) ∧ ¬ ∃ risk mark,
        CloseReady request (s.ledger ⟨request.userId, row.asset⟩).size.value
          reads.toAttemptReads risk mark := by
  cases hplan : planAttempt (closeJob request row)
      (s.ledger (closeJob request row).market).size.value reads.toAttemptReads with
  | stop stop =>
      right
      refine ⟨?_, fun hready => ?_⟩
      · cases stop <;> simp only [beginStage, hplan] at h <;> exact ⟨_, (Option.some.inj h).symm⟩
      · obtain ⟨submission, hsubmit⟩ := (@planAttempt_closeJob_iff request row _ _).2 hready
        cases hplan.symm.trans hsubmit
  | profitExit => cases planAttempt_profitExit hplan
  | submit submission =>
      left
      simp only [beginStage, hplan] at h
      refine ⟨⟨closeJob request row, submission.plan, submission.mark, submission.slippageBps⟩,
        (Option.some.inj h).symm, planAttempt_of_flat rfl hplan, ?_⟩
      exact planAttempt_closeJob_iff.1 ⟨submission, hplan⟩

lemma enqueueAll_eq {jobs : List (JobId × CopyJob)} {s s' : ExecutorState}
    (h : enqueueAll s jobs = some s') :
    ∃ table, s' = { s with jobs := table } ∧ JobsKept s.jobs table ∧
      (∀ p ∈ jobs, ∃ row, table.lookup p.1 = some row ∧ row.job = p.2) ∧
      ∀ id row, table.lookup id = some row →
        s.jobs.lookup id = some row ∨ (id, row.job) ∈ jobs := by
  induction jobs generalizing s with
  | nil =>
      obtain rfl := Option.some.inj h
      exact ⟨s.jobs, rfl, JobsKept.refl _, by simp, fun id row hrow => Or.inl hrow⟩
  | cons p ps ih =>
      obtain ⟨s₁, hs₁, hrest⟩ := Option.bind_eq_some_iff.1 h
      unfold enqueueJob at hs₁
      split_ifs at hs₁ with hbad
      obtain rfl := Option.some.inj hs₁
      simp only [Bool.or_eq_true, not_or, Option.isSome_iff_ne_none, not_not] at hbad
      obtain ⟨table, rfl, hkept, hnew, hback⟩ := ih hrest
      refine ⟨table, rfl, (JobsKept.insert_new hbad.1 _).trans hkept, ?_, ?_⟩
      · intro q hq
        obtain rfl | hq := List.mem_cons.1 hq
        · exact hkept q.1 (queuedRow q.2) (AList.lookup_insert _)
        · exact hnew q hq
      · intro id row hrow
        obtain hold | hmem := hback id row hrow
        · obtain ⟨rfl, rfl⟩ | hbefore := Table.lookup_insert_cases hold
          · exact Or.inr List.mem_cons_self
          · exact Or.inl hbefore
        · exact Or.inr (List.mem_cons_of_mem p hmem)

lemma CloseRequest.mem_jobs (hrow : row ∈ request.rows) (hpending : row.asset ∉ request.pending) :
    (row.jobId, closeJob request row) ∈ request.jobs :=
  List.mem_map.2 ⟨row, List.mem_filter.2 ⟨hrow, by simpa using hpending⟩, rfl⟩

lemma jobsKept_of_copyStep {s s' : CopySystem} {op : CopyOp}
    (h : copyStep venue settings s op = some s') : JobsKept s.executor.jobs s'.executor.jobs := by
  cases op with
  | executor now op =>
      simp only [copyStep] at h
      split_ifs at h
      obtain ⟨e, he, rfl⟩ := Option.map_eq_some_iff.1 h
      obtain ⟨-, actor, s₂, heffect, rfl⟩ := executorStep_effect he
      exact heffect.jobsKept
  | control op =>
      obtain rfl := Option.some.inj h
      exact JobsKept.refl _
  | closePositions request =>
      obtain ⟨e, he, rfl⟩ := Option.map_eq_some_iff.1 h
      obtain ⟨table, rfl, hkept, -⟩ := enqueueAll_eq he
      exact hkept

/-- **A requested close goes out where it is ready.**  Whatever has happened since the request, an
attempt at one of its jobs goes on to an order exactly where the close is ready, the order closes
the whole lots the ledger holds then, and where it is not ready the attempt ends. -/
theorem requested_close_goes_out {s₀ s s' s'' : CopySystem} {after : List CopyOp} {t : TaskId}
    {u : UserId} {n now : ℕ} {reads : ProfitExitReads}
    (hrequest : copyStep venue settings s₀ (.closePositions request) = some s)
    (hrow : row ∈ request.rows) (hpending : row.asset ∉ request.pending)
    (hafter : Transition.run (copyStep venue settings) s after = some s')
    (htask : s'.executor.tasks.lookup t = some (.attempt row.jobId u n .locked))
    (hbegin : copyStep venue settings s' (.executor now (.begin t reads)) = some s'') :
    (∃ a, s''.executor.tasks.lookup t =
          some (.attempt row.jobId u n (.entering a a.primaryLeg)) ∧
        ClosesWhole a.plan (s'.executor.ledger ⟨request.userId, row.asset⟩).size.value
          (venue.szDecimals row.asset) ∧
        ∃ risk mark, CloseReady request
          (s'.executor.ledger ⟨request.userId, row.asset⟩).size.value reads.toAttemptReads risk
          mark) ∨
      (∃ c, s''.executor.tasks.lookup t = some (.attempt row.jobId u n (.closing c))) ∧
        ¬ ∃ risk mark, CloseReady request
          (s'.executor.ledger ⟨request.userId, row.asset⟩).size.value reads.toAttemptReads risk
          mark := by
  -- the job is still the one that was staged
  obtain ⟨jobRow, hjobRow, hjob⟩ : ∃ jobRow, s'.executor.jobs.lookup row.jobId = some jobRow ∧
      jobRow.job = closeJob request row := by
    obtain ⟨e, he, rfl⟩ := Option.map_eq_some_iff.1 hrequest
    obtain ⟨table, rfl, -, hnew, -⟩ := enqueueAll_eq he
    obtain ⟨first, hfirst, hsame⟩ := hnew _ (CloseRequest.mem_jobs hrow hpending)
    have hkept : JobsKept table s'.executor.jobs :=
      Transition.run_invariant
        (fun _ _ _ hk hstep => JobsKept.trans hk (jobsKept_of_copyStep hstep)) (JobsKept.refl table)
        hafter
    obtain ⟨jobRow, hjobRow, heq⟩ := hkept _ first hfirst
    exact ⟨jobRow, hjobRow, heq.trans hsame⟩
  simp only [copyStep] at hbegin
  split_ifs at hbegin
  obtain ⟨e, he, rfl⟩ := Option.map_eq_some_iff.1 hbegin
  obtain ⟨-, s₁, happly, rfl⟩ := executorStep_op he
  simp only [applyExecutorOp, beginAttempt, htask, hjobRow, hjob] at happly
  split_ifs at happly with hdecimals
  obtain ⟨stage, hstage, rfl⟩ := Option.map_eq_some_iff.1 happly
  have hnext : (s'.executor.putTask t (.attempt row.jobId u n stage)).tasks.lookup t =
      some (.attempt row.jobId u n stage) := AList.lookup_insert _
  have hspec : reads.spec.szDecimals = venue.szDecimals row.asset := not_not.1 hdecimals
  obtain ⟨a, rfl, hcloses, hready⟩ | ⟨⟨c, rfl⟩, hnot⟩ := beginStage_closeJob hstage
  · exact Or.inl ⟨a, hnext, hspec ▸ hcloses, hready⟩
  · exact Or.inr ⟨⟨c, hnext⟩, hnot⟩

end Runs

/-! ## A close of a user the request has paused

Forty units stand at 10 each. -/

/-- Nothing stops the first user. -/
def openControls : CopyControls :=
  ⟨false, false, true, fun _ => ⟨⟨true, .active⟩, eventReads.risk, none⟩⟩

/-- Live trading is enabled. -/
def liveSettings : CopySettings := ⟨true, false⟩

/-- The user holds forty lots. -/
def openSystem : CopySystem := .initial hundredths (fun _ => 4000) openControls

/-- The user is paused. -/
def pausedReads : ProfitExitReads := { eventReads with user := some ⟨true, .paused⟩ }

/-- The close of that position. -/
def closeForty : CloseRequest := ⟨0, .mainnet, 0, .hyperliquid, [⟨5, 0, 10⟩], []⟩

lemma closeForty_ready : CloseReady closeForty 40 pausedReads.toAttemptReads
    ⟨⟨1, 1000, 5000, 2500, 3, 5, 10⟩, false, [], [], 50⟩ 10 where
  user := rfl
  destination := rfl
  provider := rfl
  network := rfl
  adapter := rfl
  account := rfl
  profile := rfl
  equity := rfl
  followerMark := rfl
  positive := by norm_num
  credential := rfl
  live := rfl
  whole := by decide +kernel
  floor := by decide +kernel

/-- The request pauses the user, and the close goes out all the same. -/
theorem requested_close_goes_out_paused :
    ∃ s s' s'', copyStep hundredths liveSettings openSystem (.closePositions closeForty) = some s ∧
      Transition.run (copyStep hundredths liveSettings) s
        [.executor 1 (.claim 5 7 0), .executor 2 (.acquire 0)] = some s' ∧
      copyStep hundredths liveSettings s' (.executor 3 (.begin 0 pausedReads)) = some s'' ∧
      ∃ u n a, s''.executor.tasks.lookup 0 = some (.attempt 5 u n (.entering a a.primaryLeg)) ∧
        ClosesWhole a.plan 40 2 := by
  have hrun : (copyStep hundredths liveSettings openSystem (.closePositions closeForty)).any
      (fun s => (Transition.run (copyStep hundredths liveSettings) s
        [.executor 1 (.claim 5 7 0), .executor 2 (.acquire 0)]).any fun s' =>
          (copyStep hundredths liveSettings s' (.executor 3 (.begin 0 pausedReads))).isSome &&
          decide ((s'.executor.ledger ⟨0, 0⟩).size.value = 40 ∧
            s'.executor.attemptOf 0 = some (5, .locked))) = true := by
    decide +kernel
  obtain ⟨s, hs, hrest⟩ := (Option.any_eq_true _ _).1 hrun
  obtain ⟨s', hs', hrest⟩ := (Option.any_eq_true _ _).1 hrest
  obtain ⟨hbegin, hrest⟩ := Bool.and_eq_true_iff.1 hrest
  obtain ⟨hforty, hattempt⟩ := of_decide_eq_true hrest
  obtain ⟨s'', hs''⟩ := Option.isSome_iff_exists.1 hbegin
  obtain ⟨u, n, hlocked⟩ := ExitSystem.attemptOf_eq_some.1 hattempt
  refine ⟨s, s', s'', hs, hs', hs'', u, n, ?_⟩
  have hrow : (⟨5, 0, 10⟩ : CloseRow) ∈ closeForty.rows := List.mem_singleton_self _
  obtain ⟨a, hnext, hcloses, -⟩ | ⟨-, hnot⟩ :=
    requested_close_goes_out hs hrow List.not_mem_nil hs' hlocked hs''
  · exact ⟨a, hnext, hforty ▸ hcloses⟩
  · exact absurd ⟨_, _, hforty ▸ closeForty_ready⟩ hnot

end HyperCopy

import HyperCopy.Engine.Risk
import HyperCopy.ProfitExit.Memory

/-!
# Planning one attempt

`_process_job_locked` of `services/execution.py` up to the first order: everything an attempt
reads, and the one thing it then decides, which is to stop, to hand over to the profit-exit path,
or to submit a plan.  Nothing here touches an order or an execution row, so `planAttempt` is a
function of the job, the ledger size of its market and what was read.

`planAttempt_submit` is what the rest of the executor uses of it: a submitted plan has the shape
of an executable plan for the ledger size it was computed from, and the plan of a job marked as
ambiguity-safe reduces the current side and has no second leg.  The last section settles the
anti-reopen fence at this boundary.
-/

namespace HyperCopy

/-! ## Ledger sizes -/

/-- The precision of the ledger's size column. -/
def ledgerQuantum : ℚ := lot 12

/-- A size as the ledger stores it: a whole number of quanta. -/
structure LedgerDecimal where
  value : ℚ
  onGrid : Quantize.IsMultiple ledgerQuantum value
deriving DecidableEq

/-- `_persisted_ledger_decimal`. -/
def persistedLedgerDecimal (value : ℚ) : LedgerDecimal :=
  ⟨Quantize.halfUpTo ledgerQuantum value, Quantize.isMultiple_halfUpTo _ _⟩

/-- A value on the ledger's grid is stored as it is. -/
@[simp] lemma persistedLedgerDecimal_value (d : LedgerDecimal) : persistedLedgerDecimal d.value = d := by
  obtain ⟨value, onGrid⟩ := d
  have h : Quantize.halfUpTo ledgerQuantum value = value :=
    Quantize.halfUpTo_of_isMultiple (lot_pos 12) onGrid
  simp [persistedLedgerDecimal, h]

/-- One follower market: the row key of the position ledger. -/
structure Market where
  userId : UserId
  asset : Asset
deriving DecidableEq, Repr

/-- The keys of `CopyJob.context` an attempt reads; `none` where the key is absent or not a
number. -/
structure JobContext where
  followerNetwork : Option Network
  masterPosition : ℚ
  masterEquity : ℚ
  masterMarkPrice : ℚ
  masterLeverage : Option ℚ
  desiredFollowerLeverage : Option ℚ
  masterIntentOrder : Option ℚ
  masterSnapshotStartedOrder : Option ℚ
  aiExecutionFactor : Option ℚ
  sourceMasterPosition : Option ℚ
  leverageSyncOnly : Bool
  ambiguitySafeReduction : Bool
deriving DecidableEq, Repr

/-- A `copy_jobs` row, as far as an attempt reads it. -/
structure CopyJob where
  market : Market
  origin : JobOrigin
  context : JobContext
  executionEpochId : Option EpochId
  executionProvider : Option ExecutionProvider
  executionNetwork : Option Network
deriving DecidableEq, Repr

/-- The columns of the user that an attempt reads. -/
structure UserStatus where
  active : Bool
  copyState : CopyState
deriving DecidableEq, Repr

/-- The user's risk profile, with the fields only the executor reads. -/
structure CopyRiskProfile extends RiskProfile where
  closeOnly : Bool
  allowAssets : List Asset
  blockAssets : List Asset
  maxSlippageBps : ℕ
deriving DecidableEq, Repr

/-- The follower's newest equity snapshot. -/
structure EquitySnapshot where
  accountValue : ℚ
  freeMargin : ℚ
  unmanagedMargin : ℚ
  takenAt : ℕ
deriving DecidableEq, Repr

/-- A row of the user's managed ledger as the exposure sums read it. -/
structure ManagedPosition where
  size : ℚ
  markPrice : ℚ
deriving DecidableEq, Repr

/-- Everything an attempt reads besides its job and the ledger size of its market.  `credential`
is present when the row is, and true when it can be used; `leverageUpdated` is whether the
leverage update the attempt sends goes through. -/
structure AttemptReads where
  now : ℕ
  user : Option UserStatus
  destinationMatches : Bool
  network : Network
  adapterNetwork : Network
  masterNetwork : Network
  accountFound : Bool
  risk : Option CopyRiskProfile
  drawdownHalt : Bool
  dailyLossHalt : Bool
  nearLiquidation : Bool
  credential : Option Bool
  entitled : Bool
  limits : PlanLimits
  equity : Option EquitySnapshot
  followerMark : Option ℚ
  spec : AssetSpec
  evidence : ProfitExitEvidence
  managedLedgers : List ManagedPosition
  globalPause : Bool
  emergencyStop : Bool
  liveTradingAllowed : Bool
  leverageUpdated : Bool

/-- The reasons an attempt ends with before an order. -/
inductive AttemptReason
  | userMissing
  | destinationStale
  | providerDisabled
  | networkEpochStale
  | adapterMismatch
  | accountOrRiskMissing
  | masterEquityUnavailable
  | followerEquityMissing
  | followerMarkUnavailable
  | masterMarkUnavailable
  | bindingLost
  | sameCycleProfitExit
  | shadowMode
  | leverageOnlyAmbiguous
  | leverageBlocked
  | credentialUnavailable
  | masterLeverageUnavailable
  | liveGateClosed
  | leverageSyncFailed
  | leverageSynced
  | blocked (reason : Option RiskReason)
  | ambiguityRefused
  | credentialMissing
  | refusingIncrease
deriving DecidableEq, Repr

/-- How an attempt ends without an order: `_finish` or `_retry_or_dead`. -/
inductive AttemptStop
  | finish (state : JobState) (reason : AttemptReason)
  | retryOrDead (reason : AttemptReason)
deriving DecidableEq, Repr

/-- `Execution.attempt_kind`: `c` closes the current side of a reversal, `o` is any other leg. -/
inductive AttemptKind
  | o
  | c
deriving DecidableEq, Repr

/-- The first leg of a reversal closes; every other leg opens. -/
def primaryKind (p : SizingResult) : AttemptKind := if p.intent = .reverse then .c else .o

/-- A plan on its way to the exchange. -/
structure Submission where
  plan : SizingResult
  mark : ℚ
  slippageBps : ℕ
  szDecimals : ℕ
deriving DecidableEq, Repr

/-- What an attempt comes to: it stops, leaves the job to the profit exit, or submits. -/
inductive AttemptPlan
  | stop (stop : AttemptStop)
  | profitExit
  | submit (submission : Submission)
deriving DecidableEq, Repr

/-! ## Parsing the context -/

/-- `int(Decimal(…))`. -/
def truncate (q : ℚ) : ℤ := if 0 ≤ q then ⌊q⌋ else ⌈q⌉

/-- A causal order is a positive integer; anything else is no boundary at all. -/
def positiveInteger (q : ℚ) : Option ℤ :=
  if truncate q ≤ 0 ∨ q ≠ truncate q then none else some (truncate q)

/-- The boundary an attempt reads the source cycle at.  An event is inside its own boundary, a
snapshot is taken before it. -/
def snapshotBoundary (job : CopyJob) : Option ℤ :=
  if job.origin = .event then
    (job.context.masterIntentOrder.bind positiveInteger).map (· + 1)
  else job.context.masterSnapshotStartedOrder.bind positiveInteger

/-- The whole part of the leverage, one at least. -/
def parsedLeverage (raw : Option ℚ) : Option ℤ := raw.map fun q => max 1 (truncate q)

/-- The leverage to set, capped again by the present profile and exchange ceiling. -/
def desiredLeverage (ctx : JobContext) (maxLeverage : ℚ) : Option ℤ :=
  ((parsedLeverage ctx.desiredFollowerLeverage).orElse fun _ =>
      parsedLeverage ctx.masterLeverage).map
    fun leverage => max 1 (min leverage (truncate maxLeverage))

/-- The mark of the master; a close uses the follower's, as does a network both share. -/
def effectiveMasterMark (origin : JobOrigin) (masterMark followerMark : ℚ) (sameNetwork : Bool) :
    ℚ :=
  if origin = .closeAll then followerMark
  else if masterMark ≤ 0 ∧ sameNetwork then followerMark
  else masterMark

/-- A shadow follower sends nothing but closes. -/
def shadowSuppressesExchange (copyState : CopyState) (origin : JobOrigin) : Bool :=
  copyState = .shadow && origin ≠ .closeAll

/-- The ambiguity escape hatch may only reduce the current side, never reverse. -/
def ambiguityReductionPlanSafe (p : SizingResult) : Bool :=
  p.toSizingLeg.actionable && p.reduceOnly && p.secondary.isNone && 0 < p.orderSize

/-- `LEDGER_STALE_SECONDS`. -/
def ledgerStaleSeconds : ℕ := 120

/-! ## The checks, in order -/

/-- Before any market data is read: the job still belongs to where it would be executed. -/
def admitJob (job : CopyJob) (r : AttemptReads) : Option AttemptStop :=
  if r.user.isNone then some (.finish .dead .userMissing)
  else if !r.destinationMatches then some (.finish .skipped .destinationStale)
  else if job.executionProvider ≠ some .hyperliquid then some (.finish .skipped .providerDisabled)
  else if job.context.followerNetwork.getD r.network ≠ r.network then
    some (.finish .skipped .networkEpochStale)
  else if r.adapterNetwork ≠ r.network then some (.finish .skipped .adapterMismatch)
  else none

/-- The rows and prices sizing needs, or the first of them that is missing. -/
def readInputs (job : CopyJob) (r : AttemptReads) :
    Except AttemptStop (CopyRiskProfile × EquitySnapshot × ℚ) :=
  if !r.accountFound then .error (.finish .skipped .accountOrRiskMissing)
  else
    match r.risk with
    | none => .error (.finish .skipped .accountOrRiskMissing)
    | some risk =>
      if job.context.masterEquity ≤ 0 then .error (.retryOrDead .masterEquityUnavailable)
      else
        match r.equity with
        | none => .error (.retryOrDead .followerEquityMissing)
        | some equity =>
          match r.followerMark with
          | none => .error (.retryOrDead .followerMarkUnavailable)
          | some followerMark =>
            if followerMark ≤ 0 then .error (.retryOrDead .followerMarkUnavailable)
            else .ok (risk, equity, followerMark)

/-- What an attempt has worked out once it has a plan. -/
structure SizedAttempt where
  risk : CopyRiskProfile
  equity : EquitySnapshot
  followerMark : ℚ
  effectiveRisk : EffectiveRisk
  leverage : Option ℤ
  sizing : SizingResult

/-- The master as the job's context describes it. -/
def attemptMaster (job : CopyJob) (masterMark : ℚ) : MasterExposure :=
  ⟨job.market.asset, job.context.masterPosition, masterMark, job.context.masterEquity⟩

/-- The target and the plan of the attempt. -/
def sizeAttempt (job : CopyJob) (current : ℚ) (r : AttemptReads) :
    Except AttemptStop SizedAttempt :=
  match readInputs job r with
  | .error stop => .error stop
  | .ok (risk, equity, followerMark) =>
    let masterMark := effectiveMasterMark job.origin job.context.masterMarkPrice followerMark
      (r.masterNetwork = r.network)
    let effective := resolveEffectiveRisk risk.toRiskProfile r.limits
      (some (r.spec.maxLeverage : ℚ))
    if masterMark ≤ 0 then .error (.retryOrDead .masterMarkUnavailable)
    else
      .ok
        { risk := risk
          equity := equity
          followerMark := followerMark
          effectiveRisk := effective
          leverage := desiredLeverage job.context effective.maxLeverage
          sizing := plan (attemptMaster job masterMark)
            ⟨equity.accountValue, equity.unmanagedMargin, current, effective.multiplier⟩
            r.spec risk.minNotional followerMark }

/-- The scope of the profit-exit memory a job is bound to. -/
def profitExitScope (job : CopyJob) : Option ProfitExitScope :=
  match job.executionEpochId, job.executionProvider, job.executionNetwork with
  | some epochId, some provider, some network =>
    some ⟨job.market.userId, epochId, provider, network, job.market.asset⟩
  | _, _, _ => none

/-- The cycle an attempt sees. -/
def attemptCycle (job : CopyJob) (r : AttemptReads) : Option SourceCycle :=
  readCurrentSourceCycle r.evidence.events job.market.asset r.masterNetwork (snapshotBoundary job)
    job.context.masterPosition

/-- The final anti-reopen fence: a strategy job may not retarget a source cycle that a profit
exit has already touched. -/
def retargetFence (job : CopyJob) (current target : ℚ) (r : AttemptReads) : Option AttemptStop :=
  if job.origin.isStrategy && target ≠ 0 then
    match profitExitScope job with
    | none => some (.finish .skipped .bindingLost)
    | some scope =>
      if protectedReconcileTarget r.evidence scope r.masterNetwork (snapshotBoundary job)
          job.context.masterPosition current target ≠ target then
        some (.finish .skipped .sameCycleProfitExit)
      else none
  else none

/-- `_safe_ambiguity_reduction` of the planner. -/
def safeAmbiguityReduction (real desiredTarget : ℚ) : Bool :=
  if real = 0 ∨ |real| ≤ |desiredTarget| then false
  else desiredTarget = 0 || 0 < real * desiredTarget

/-- The lists of the profile let the asset through. -/
def assetAllowed (risk : CopyRiskProfile) (asset : Asset) : Bool :=
  (risk.allowAssets.isEmpty || risk.allowAssets.contains asset) &&
    !risk.blockAssets.contains asset

/-- The exposure of the managed positions. -/
def totalExposure (ledgers : List ManagedPosition) : ℚ :=
  (ledgers.map fun l => |l.size| * max l.markPrice 0).sum

/-- The context the attempt is evaluated in. -/
def attemptRiskContext (job : CopyJob) (current : ℚ) (s : SizedAttempt) (status : UserStatus)
    (r : AttemptReads) : RiskContext :=
  let exposure := totalExposure r.managedLedgers
  { userActive := status.active
    entitlementActive := r.entitled
    credentialActive := r.credential = some true
    userPaused := status.copyState = .paused
    globalPause := r.globalPause
    emergencyStop := r.emergencyStop
    closeOnly := s.risk.closeOnly
    assetAllowed := assetAllowed s.risk job.market.asset
    drawdownHalt := r.drawdownHalt
    dailyLossHalt := r.dailyLossHalt
    nearLiquidation := r.nearLiquidation
    dataStale := job.origin ≠ .closeAll && s.equity.takenAt + ledgerStaleSeconds < r.now
    currentTotalExposure := exposure
    currentAssetExposure := |current| * s.followerMark
    freeMargin := max s.equity.freeMargin 0
    accountEquity := max s.equity.accountValue 0
    currentLeverage := if 0 < s.equity.accountValue then exposure / s.equity.accountValue else 999
    openPositions := ((r.managedLedgers.filter fun l => l.size ≠ 0).length : ℤ)
    isNewMarket := current = 0
    maxNotionalPerTrade := s.effectiveRisk.maxNotionalPerTrade
    maxTotalExposure := s.effectiveRisk.maxTotalExposure
    maxAssetExposure := s.effectiveRisk.maxAssetExposure
    maxLeverage := s.effectiveRisk.maxLeverage
    maxPositions := s.effectiveRisk.maxPositions
    minimumExecutableNotional := exchangeMinNotional }

/-- A job that only aligns the leverage never orders. -/
def leverageSyncStop (job : CopyJob) (s : SizedAttempt) (status : UserStatus) (r : AttemptReads) :
    AttemptStop :=
  if job.context.ambiguitySafeReduction then .finish .skipped .leverageOnlyAmbiguous
  else if status.copyState ≠ .active || !assetAllowed s.risk job.market.asset || r.globalPause ||
      r.emergencyStop then .finish .skipped .leverageBlocked
  else if r.credential ≠ some true then .finish .skipped .credentialUnavailable
  else if s.leverage.isNone then .retryOrDead .masterLeverageUnavailable
  else if !r.liveTradingAllowed then .finish .skipped .liveGateClosed
  else if !r.leverageUpdated then .retryOrDead .leverageSyncFailed
  else .finish .done .leverageSynced

/-- The gates between a decided plan and the exchange. -/
def submissionStop (job : CopyJob) (s : SizedAttempt) (decision : RiskDecision)
    (r : AttemptReads) : Option AttemptStop :=
  let ctx := job.context
  if !decision.action.passes then some (.finish .skipped (.blocked decision.reason))
  else if ctx.ambiguitySafeReduction && !ambiguityReductionPlanSafe decision.plan then
    some (.finish .skipped .ambiguityRefused)
  else if !r.liveTradingAllowed then some (.finish .skipped .liveGateClosed)
  else if r.credential.isNone then some (.finish .skipped .credentialMissing)
  else if !s.sizing.reduceOnly && ctx.masterPosition ≠ 0 && s.leverage.isNone then
    some (.retryOrDead .refusingIncrease)
  else if s.leverage.isSome && assetAllowed s.risk job.market.asset &&
      !ctx.ambiguitySafeReduction && !r.leverageUpdated then
    some (.retryOrDead .leverageSyncFailed)
  else none

/-- `_process_job_locked` up to the first order. -/
def planAttempt (job : CopyJob) (current : ℚ) (r : AttemptReads) : AttemptPlan :=
  match admitJob job r, r.user with
  | some stop, _ => .stop stop
  | none, none => .stop (.finish .dead .userMissing)
  | none, some status =>
    if job.origin = .aiProfitExit then .profitExit
    else
      match sizeAttempt job current r with
      | .error stop => .stop stop
      | .ok s =>
        match retargetFence job current s.sizing.targetSize r with
        | some stop => .stop stop
        | none =>
          let decision := evaluate s.sizing (attemptRiskContext job current s status r)
          if shadowSuppressesExchange status.copyState job.origin then
            .stop (.finish .done .shadowMode)
          else if job.context.leverageSyncOnly then .stop (leverageSyncStop job s status r)
          else
            match submissionStop job s decision r with
            | some stop => .stop stop
            | none => .submit ⟨decision.plan, s.followerMark, s.risk.maxSlippageBps,
                r.spec.szDecimals⟩

/-! ## What a submitted plan is -/

section Submit

variable {job : CopyJob} {current : ℚ} {r : AttemptReads} {submission : Submission}

/-- The steps behind a submission: the job was admitted and sized, the anti-reopen fence and the
gates let it through. -/
lemma planAttempt_submit_iff :
    planAttempt job current r = .submit submission ↔
      ∃ status s, r.user = some status ∧ admitJob job r = none ∧ job.origin ≠ .aiProfitExit ∧
        sizeAttempt job current r = .ok s ∧
        retargetFence job current s.sizing.targetSize r = none ∧
        shadowSuppressesExchange status.copyState job.origin = false ∧
        job.context.leverageSyncOnly = false ∧
        submissionStop job s (evaluate s.sizing (attemptRiskContext job current s status r)) r
          = none ∧
        submission = ⟨(evaluate s.sizing (attemptRiskContext job current s status r)).plan,
          s.followerMark, s.risk.maxSlippageBps, r.spec.szDecimals⟩ := by
  unfold planAttempt
  cases hadmit : admitJob job r with
  | some stop => simp
  | none =>
      cases huser : r.user with
      | none => simp
      | some status =>
          by_cases horigin : job.origin = .aiProfitExit
          · simp [horigin]
          · cases hsize : sizeAttempt job current r with
            | error stop => simp [horigin]
            | ok s =>
                cases hfence : retargetFence job current s.sizing.targetSize r with
                | some stop => simp [horigin, hfence]
                | none =>
                    cases hshadow : shadowSuppressesExchange status.copyState job.origin with
                    | true => simp [horigin, hfence, hshadow]
                    | false =>
                        cases hsync : job.context.leverageSyncOnly with
                        | true => simp [horigin, hfence, hshadow]
                        | false =>
                            cases hstop : submissionStop job s
                                (evaluate s.sizing (attemptRiskContext job current s status r)) r with
                            | some stop => simp [horigin, hfence, hshadow, hstop]
                            | none =>
                                simp [horigin, hfence, hshadow, hstop, eq_comm (b := submission)]

lemma readInputs_mark_pos {risk : CopyRiskProfile} {equity : EquitySnapshot} {mark : ℚ}
    (h : readInputs job r = .ok (risk, equity, mark)) : 0 < mark := by
  unfold readInputs at h
  split at h
  · cases h
  split at h
  · cases h
  split at h
  · cases h
  split at h
  · cases h
  split at h
  · cases h
  split at h
  · cases h
  · rename_i hmark
    simp only [Except.ok.injEq, Prod.mk.injEq] at h
    rw [← h.2.2]
    exact not_le.1 hmark

/-- What sizing leaves behind is the plan of the effective inputs. -/
lemma sizeAttempt_ok {s : SizedAttempt} (h : sizeAttempt job current r = .ok s) :
    0 < s.followerMark ∧ ∃ masterMark : ℚ, 0 < masterMark ∧
      s.sizing = plan (attemptMaster job masterMark)
        ⟨s.equity.accountValue, s.equity.unmanagedMargin, current, s.effectiveRisk.multiplier⟩
        r.spec s.risk.minNotional s.followerMark := by
  unfold sizeAttempt at h
  split at h
  · cases h
  · rename_i hinputs
    dsimp only at h
    split_ifs at h with hmark
    obtain rfl := Except.ok.inj h
    exact ⟨readInputs_mark_pos hinputs, _, not_le.1 hmark, rfl⟩

/-- What an attempt hands to the exchange. -/
structure SubmissionShape (job : CopyJob) (current : ℚ) (submission : Submission) : Prop where
  shape : PlanShape submission.plan current submission.szDecimals
  mark_pos : 0 < submission.mark
  safe : job.context.ambiguitySafeReduction = true →
    submission.plan.reduceOnly = true ∧ submission.plan.secondary = none

/-- **Submitted plans are executable.**  They were computed from the ledger size of the market,
and an ambiguity-safe job only ever submits a single reducing order. -/
theorem planAttempt_submit (h : planAttempt job current r = .submit submission) :
    job.origin ≠ .aiProfitExit ∧ submission.szDecimals = r.spec.szDecimals ∧
      SubmissionShape job current submission := by
  obtain ⟨status, s, -, -, horigin, hsize, -, -, -, hstop, rfl⟩ := planAttempt_submit_iff.1 h
  obtain ⟨hmark, masterMark, -, hsizing⟩ := sizeAttempt_ok hsize
  simp only [submissionStop] at hstop
  split_ifs at hstop with hpasses hsafe
  have hpasses' : (evaluate s.sizing (attemptRiskContext job current s status r)).action.passes := by
    simpa using hpasses
  have hactionable : s.sizing.toSizingLeg.actionable := by
    by_contra hno
    rw [evaluate_not_actionable (Bool.not_eq_true _ ▸ hno)] at hpasses'
    cases hpasses'
  have hshape : PlanShape s.sizing current r.spec.szDecimals := by
    rw [hsizing] at hactionable ⊢
    exact plan_shape hactionable
  refine ⟨horigin, rfl, (evaluate_shape hshape hpasses').1, hmark, ?_⟩
  intro hctx
  have hplan : ambiguityReductionPlanSafe
      (evaluate s.sizing (attemptRiskContext job current s status r)).plan = true := by
    simpa [hctx] using hsafe
  simp only [ambiguityReductionPlanSafe, Bool.and_eq_true, Option.isNone_iff_eq_none] at hplan
  exact ⟨hplan.1.1.2, hplan.1.2⟩

/-- The gates that a submission has passed. -/
lemma submissionStop_eq_none {s : SizedAttempt} {d : RiskDecision}
    (h : submissionStop job s d r = none) :
    d.action.passes = true ∧ r.liveTradingAllowed = true := by
  simp only [submissionStop] at h
  split_ifs at h with hpasses _ hlive
  exact ⟨by simpa using hpasses, by simpa using hlive⟩

lemma readInputs_ok_iff {risk : CopyRiskProfile} {equity : EquitySnapshot} {mark : ℚ} :
    readInputs job r = .ok (risk, equity, mark) ↔ r.accountFound = true ∧ r.risk = some risk ∧
      0 < job.context.masterEquity ∧ r.equity = some equity ∧ r.followerMark = some mark ∧
        0 < mark := by
  constructor
  · intro h
    unfold readInputs at h
    split at h
    · cases h
    rename_i haccount
    split at h
    · cases h
    rename_i risk' hrisk
    split at h
    · cases h
    rename_i hmaster
    split at h
    · cases h
    rename_i equity' hequity
    split at h
    · cases h
    rename_i mark' hmark
    split at h
    · cases h
    rename_i hpos
    simp only [Except.ok.injEq, Prod.mk.injEq] at h
    obtain ⟨rfl, rfl, rfl⟩ := h
    exact ⟨by simpa using haccount, hrisk, not_le.1 hmaster, hequity, hmark, not_le.1 hpos⟩
  · rintro ⟨haccount, hrisk, hmaster, hequity, hmark, hpos⟩
    simp [readInputs, haccount, hrisk, hequity, hmark, not_le.2 hmaster, not_le.2 hpos]

lemma sizeAttempt_inputs {s : SizedAttempt} (h : sizeAttempt job current r = .ok s) :
    readInputs job r = .ok (s.risk, s.equity, s.followerMark) := by
  unfold sizeAttempt at h
  split at h
  · cases h
  · rename_i hinputs
    dsimp only at h
    split_ifs at h
    obtain rfl := Except.ok.inj h
    exact hinputs

/-- Sizing goes by the user's profile. -/
lemma sizeAttempt_risk {s : SizedAttempt} (h : sizeAttempt job current r = .ok s) :
    r.risk = some s.risk :=
  (readInputs_ok_iff.1 (sizeAttempt_inputs h)).2.1

/-- What is submitted where adding exposure is halted only reduces. -/
lemma planAttempt_of_halted (h : planAttempt job current r = .submit submission)
    (hhalt : ∀ status s, r.user = some status → r.risk = some s.risk →
      exposureHalt (attemptRiskContext job current s status r) ≠ none) :
    submission.plan.reduceOnly = true ∧ submission.plan.secondary = none := by
  obtain ⟨status, s, huser, -, -, hsize, -, -, -, hstop, rfl⟩ := planAttempt_submit_iff.1 h
  obtain ⟨hreducing, hplan, hsecond⟩ := evaluate_of_halted
    (hhalt status s huser (sizeAttempt_risk hsize)) (submissionStop_eq_none hstop).1
  obtain ⟨-, masterMark, -, hsizing⟩ := sizeAttempt_ok hsize
  obtain ⟨hreduceOnly, hlegs⟩ := plan_legs (attemptMaster job masterMark)
    ⟨s.equity.accountValue, s.equity.unmanagedMargin, current, s.effectiveRisk.multiplier⟩
    r.spec s.risk.minNotional s.followerMark
  rw [← hsizing] at hreduceOnly hlegs
  refine ⟨?_, hsecond hlegs⟩
  show (evaluate s.sizing _).plan.toSizingLeg.reduceOnly = true
  rw [hplan]
  exact hreduceOnly hreducing

/-- What is submitted for a paused user only reduces. -/
lemma planAttempt_of_paused {status : UserStatus} (huser : r.user = some status)
    (hpaused : status.copyState = .paused) (h : planAttempt job current r = .submit submission) :
    submission.plan.reduceOnly = true ∧ submission.plan.secondary = none := by
  refine planAttempt_of_halted h fun status' s huser' _ => ?_
  obtain rfl : status = status' := Option.some.inj (huser.symm.trans huser')
  exact @exposureHalt_of_mem _ .userPaused (by simp [exposureHalts, attemptRiskContext, hpaused])

end Submit

end HyperCopy

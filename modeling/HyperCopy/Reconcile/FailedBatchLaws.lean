import HyperCopy.Reconcile.FailedBatch

/-!
# What a failed reconciliation commits

The handler of `reconcile_observed_follower` commits what the pass had pending, so the failed run
is the only change exactly where the pass raises before it has changed a row
(`failed_reconcile_commits_only_run_iff`): in front of the risk row (`RaisesInFront`), between an
existing risk row and its update (`RaisesReadingPolicy`), or behind an update that changed nothing
and before the first asset's mark is read (`RaisesBeforeTurn`).

From the first mark on the row of that asset carries a stamp later than every stamp in the
database, and nothing later in the pass takes it away (`Freshly`).
-/

namespace HyperCopy

open UnitOfWork

/-! ## Nothing but the run -/

/-- The rows of the follower are the same. -/
structure SameRows (before after : FollowerDb) : Prop where
  ledger : after.ledger = before.ledger
  riskState : after.riskState = before.riskState
  aiMode : after.aiMode = before.aiMode
  jobs : after.jobs = before.jobs
  equitySnapshots : after.equitySnapshots = before.equitySnapshots

/-- A failed pass leaves nothing but its run row. -/
structure CommitsOnlyRun (before after : FollowerDb) (e : ReconcileFailure) : Prop where
  rows : SameRows before after
  runs : after.runs = before.runs ++ [.failed e]

/-! ## What the writes keep -/

/-- The three writes of the loop keep `p`. -/
structure KeptByTurns (p : FollowerDb → Prop) : Prop where
  observe : ∀ db a, p db → p (db.observe a)
  retarget : ∀ db f a, p db → p (db.retarget f a)
  addJob : ∀ db job, p db → p (db.addJob job)

section Keeps

variable {p : FollowerDb → Prop} {f : ReconcileFollower} {createJobs : Bool}

lemma keeps_turnRead (a : ObservedAsset) (r : TurnRead) (reached : Bool) :
    Keeps p (turnRead a r reached) :=
  keeps_raiseIf _ _

lemma keeps_queueTurn (hp : KeptByTurns p) (a : ObservedAsset) (asset : ReconcileAsset)
    (t : BatchTotals) : Keeps p (queueTurn f a asset createJobs t) := by
  refine keeps_bind (keeps_turnRead _ _ _) fun _ => keeps_bind (keeps_turnRead _ _ _) fun _ =>
    keeps_bind (keeps_turnRead _ _ _) fun _ => ?_
  cases reconcileJobFor f asset t.exposure t.openPositions with
  | none => exact keeps_pure _
  | some job =>
      apply keeps_ite
      · exact keeps_bind (keeps_modify fun db => hp.addJob db job) fun _ => keeps_pure _
      · exact keeps_pure _

lemma keeps_markedTurn (hp : KeptByTurns p) (a : ObservedAsset) (t : BatchTotals) :
    Keeps p (markedTurn f a createJobs t) := by
  refine keeps_bind keeps_get fun db => keeps_bind (keeps_modify fun s => hp.observe s a) fun _ =>
    keeps_bind (keeps_turnRead _ _ _) fun _ => keeps_bind (keeps_turnRead _ _ _) fun _ =>
    keeps_bind (keeps_modify fun s => hp.retarget s f a) fun _ => ?_
  exact keeps_queueTurn hp a _ t

lemma keeps_assetTurn (hp : KeptByTurns p) (a : ObservedAsset) (t : BatchTotals) :
    Keeps p (assetTurn f a createJobs t) :=
  keeps_bind (keeps_turnRead _ _ _) fun _ => keeps_markedTurn hp a t

/-- Over the whole loop, by induction on the assets. -/
theorem keeps_assetLoop (hp : KeptByTurns p) (assets : List ObservedAsset) (t : BatchTotals) :
    Keeps p (assetLoop f createJobs t assets) := by
  induction assets generalizing t with
  | nil => exact keeps_pure ()
  | cons a rest ih => exact keeps_bind (keeps_assetTurn hp a t) ih

end Keeps

section Fields

variable {c : ReconcileCall}

lemma keeps_reconcileAssets {p : FollowerDb → Prop} (hp : KeptByTurns p) :
    Keeps p c.reconcileAssets := by
  refine keeps_bind (keeps_raiseIf _ _) fun _ => keeps_bind keeps_get fun db =>
    keeps_bind (keeps_raiseIf _ _) fun _ => ?_
  exact keeps_assetLoop hp _ _

/-- The loop touches neither the risk row nor the flag nor the runs. -/
lemma keptByTurns_riskState (q : Option RiskStateRow → Prop) :
    KeptByTurns fun db => q db.riskState :=
  ⟨fun _ _ h => h, fun _ _ _ h => h, fun _ _ h => h⟩

lemma keptByTurns_aiMode (q : Option AiModeFlag → Prop) : KeptByTurns fun db => q db.aiMode :=
  ⟨fun _ _ h => h, fun _ _ _ h => h, fun _ _ h => h⟩

lemma keptByTurns_runs (runs : List RunStatus) : KeptByTurns fun db => db.runs = runs :=
  ⟨fun _ _ h => h, fun _ _ _ h => h, fun _ _ h => h⟩

lemma keeps_reconcileWithRiskState {p : FollowerDb → Prop} (hp : KeptByTurns p)
    (halign : ∀ db, p db → p (c.alignAiMode db)) (hupdate : ∀ db, p db → p (c.updateRiskState db)) :
    Keeps p c.reconcileWithRiskState := by
  refine keeps_bind (keeps_raiseIf _ _) fun _ => keeps_bind (keeps_raiseIf _ _) fun _ =>
    keeps_bind (keeps_raiseIf _ _) fun _ => keeps_bind (keeps_modify halign) fun _ =>
    keeps_bind (keeps_modify hupdate) fun _ => ?_
  exact keeps_reconcileAssets hp

/-- A risk row that has been created stays. -/
lemma keeps_riskState_isSome : Keeps (fun db => db.riskState.isSome) c.reconcileWithRiskState := by
  apply keeps_reconcileWithRiskState (keptByTurns_riskState fun r => r.isSome)
  · exact fun _ h => h
  · intro db h
    simpa [ReconcileCall.updateRiskState] using h

lemma keeps_runs (runs : List RunStatus) :
    Keeps (fun db => db.runs = runs) c.reconcileWithRiskState :=
  keeps_reconcileWithRiskState (keptByTurns_runs runs) (fun _ h => h) fun _ h => h

end Fields

/-! ## Stamps -/

/-- Some ledger row was verified later than `start`. -/
def Freshly (start : ℕ) (db : FollowerDb) : Prop :=
  ∃ asset row t, db.ledger.lookup asset = some row ∧ row.exchangeVerifiedAt = some t ∧ start < t

lemma not_freshly_clock (db : FollowerDb) : ¬Freshly db.clock db := by
  rintro ⟨asset, row, t, hrow, ht, hlt⟩
  have hle := db.stamped asset row t hrow ht
  omega

lemma freshly_observe {start : ℕ} {db : FollowerDb} (h : start ≤ db.clock) (a : ObservedAsset) :
    Freshly start (db.observe a) := by
  refine ⟨a.asset, a.observedRow (db.clock + 1 + a.elapsed) (db.ledger.lookup a.asset),
    db.clock + 1 + a.elapsed, ?_, rfl, by omega⟩
  exact AList.lookup_insert _

/-- A stamp stays, or a later one replaces it. -/
lemma keptByTurns_freshly (start : ℕ) : KeptByTurns (Freshly start) where
  observe := by
    rintro db a ⟨asset, row, t, hrow, ht, hlt⟩
    have hle := db.stamped asset row t hrow ht
    exact freshly_observe (by omega) a
  retarget := by
    rintro db f a ⟨asset, row, t, hrow, ht, hlt⟩
    by_cases hasset : asset = a.asset
    · refine ⟨asset, a.targetedRow f row, t, ?_, ht, hlt⟩
      exact Table.lookup_modify_eq_some.2 (.inr ⟨hasset, row, hasset ▸ hrow, rfl⟩)
    · exact ⟨asset, row, t, Table.lookup_modify_eq_some.2 (.inl ⟨hasset, hrow⟩), ht, hlt⟩
  addJob := fun _ _ h => h

/-- A turn whose mark could be read leaves a new stamp, wherever it raises. -/
lemma freshly_markedTurn {f : ReconcileFollower} {a : ObservedAsset} {createJobs : Bool}
    {t : BatchTotals} (db : FollowerDb) :
    Freshly db.clock (final ((markedTurn f a createJobs t).run db)) := by
  have hrest : Keeps (Freshly db.clock) (do
      turnRead a .masterMark true
      turnRead a .protectedTarget (a.readsProfitExits f)
      modify (·.retarget f a)
      queueTurn f a (a.withLedger db) createJobs t) := by
    refine keeps_bind (keeps_turnRead _ _ _) fun _ => keeps_bind (keeps_turnRead _ _ _) fun _ =>
      keeps_bind (keeps_modify fun s => (keptByTurns_freshly db.clock).retarget s f a) fun _ => ?_
    exact keeps_queueTurn (keptByTurns_freshly db.clock) a _ t
  exact hrest (db.observe a) (freshly_observe le_rfl a)

/-- The loop raises at the first mark, in the state it started in, or leaves a new stamp. -/
lemma assetLoop_eq_error {f : ReconcileFollower} {createJobs : Bool} {t : BatchTotals}
    {assets : List ObservedAsset} {db db' : FollowerDb} {e : ReconcileFailure}
    (h : (assetLoop f createJobs t assets).run db = .error e db') :
    (db' = db ∧ ∃ a rest, assets = a :: rest ∧ a.raisesAt .followerMark = true) ∨
      ((∀ a rest, assets = a :: rest → a.raisesAt .followerMark = false) ∧
        Freshly db.clock db') := by
  cases assets with
  | nil => cases h
  | cons a rest =>
      cases hmark : a.raisesAt .followerMark with
      | true =>
          left
          have hraise : (assetLoop f createJobs t (a :: rest)).run db =
              .error (.turn a.asset .followerMark) db := by
            simp only [assetLoop, assetTurn, turnRead, hmark, EStateM.run_bind]
            rfl
          rw [hraise] at h
          cases h
          exact ⟨rfl, a, rest, rfl, hmark⟩
      | false =>
          right
          refine ⟨?_, ?_⟩
          · rintro a' rest' ⟨⟩
            exact hmark
          have hturn : (assetTurn f a createJobs t).run db =
              (markedTurn f a createJobs t).run db := by
            simp only [assetTurn, turnRead, hmark, EStateM.run_bind]
            rfl
          have hfresh : Freshly db.clock (final ((markedTurn f a createJobs t).run db)) :=
            freshly_markedTurn db
          simp only [assetLoop, EStateM.run_bind, hturn] at h
          cases hrun : (markedTurn f a createJobs t).run db with
          | ok t' s =>
              rw [hrun] at h hfresh
              exact (keeps_assetLoop (keptByTurns_freshly db.clock) rest t').of_error hfresh h
          | error e' s =>
              rw [hrun] at h hfresh
              cases h
              exact hfresh

/-! ## The jobs of the loop -/

section Jobs

variable {f : ReconcileFollower}

/-- The totals after a turn that plans `job`, or nothing. -/
def totalsAfter (t : BatchTotals) (job : Option BatchJob) : BatchTotals :=
  match job with
  | none => t
  | some job => ⟨job.reservedTotalExposure, job.reservedOpenPositions⟩

/-- A turn that raises in the queries has queued nothing; one that does not queues the job of
`reconcileJobFor`. -/
lemma queueTurn_cases (a : ObservedAsset) (asset : ReconcileAsset) (t : BatchTotals)
    (db : FollowerDb) :
    (∃ e, (queueTurn f a asset true t).run db = .error e db) ∨
      (queueTurn f a asset true t).run db =
        .ok (totalsAfter t (reconcileJobFor f asset t.exposure t.openPositions))
          { db with
            jobs := db.jobs ++ (reconcileJobFor f asset t.exposure t.openPositions).toList } := by
  unfold queueTurn turnRead
  rw [raiseIf_bind_run]
  by_cases hpending : (reachesPendingJob f asset && a.raisesAt .pendingJob) = true
  · rw [if_pos hpending]
    exact .inl ⟨_, rfl⟩
  rw [if_neg hpending, raiseIf_bind_run]
  by_cases hrejection : (reachesTerminalRejection f asset t && a.raisesAt .terminalRejection) = true
  · rw [if_pos hrejection]
    exact .inl ⟨_, rfl⟩
  rw [if_neg hrejection, raiseIf_bind_run]
  by_cases hbackoff : (reachesLiquidityBackoff f asset t && a.raisesAt .liquidityBackoff) = true
  · rw [if_pos hbackoff]
    exact .inl ⟨_, rfl⟩
  rw [if_neg hbackoff]
  right
  cases reconcileJobFor f asset t.exposure t.openPositions with
  | none =>
      rw [Option.toList_none, List.append_nil]
      rfl
  | some job => rfl

/-- A turn behind the follower's mark, with its steps written out. -/
lemma markedTurn_run (a : ObservedAsset) (createJobs : Bool) (t : BatchTotals) (db : FollowerDb) :
    (markedTurn f a createJobs t).run db =
      if a.raisesAt .masterMark then .error (.turn a.asset .masterMark) (db.observe a)
      else if a.readsProfitExits f && a.raisesAt .protectedTarget then
        .error (.turn a.asset .protectedTarget) (db.observe a)
      else (queueTurn f a (a.withLedger db) createJobs t).run ((db.observe a).retarget f a) := by
  have hsteps : (markedTurn f a createJobs t).run db =
      (raiseIf (true && a.raisesAt .masterMark) (.turn a.asset .masterMark) >>= fun _ =>
        raiseIf (a.readsProfitExits f && a.raisesAt .protectedTarget)
          (.turn a.asset .protectedTarget) >>= fun _ =>
        (modify (·.retarget f a) : ReconcileM PUnit) >>= fun _ =>
        queueTurn f a (a.withLedger db) createJobs t).run (db.observe a) := rfl
  rw [hsteps, raiseIf_bind_run, raiseIf_bind_run, Bool.true_and]
  rfl

/-- A turn queues the job of `reconcileJobFor` and touches no other row, or raises and queues
nothing. -/
lemma assetTurn_cases (a : ObservedAsset) (t : BatchTotals) (db : FollowerDb) :
    (∃ e db', (assetTurn f a true t).run db = .error e db' ∧ db'.jobs = db.jobs) ∨
      ∃ db', (assetTurn f a true t).run db =
          .ok (totalsAfter t (reconcileJobFor f (a.withLedger db) t.exposure t.openPositions)) db' ∧
        db'.jobs = db.jobs ++
          (reconcileJobFor f (a.withLedger db) t.exposure t.openPositions).toList ∧
        ∀ asset, asset ≠ a.asset → db'.ledger.lookup asset = db.ledger.lookup asset := by
  unfold assetTurn turnRead
  rw [raiseIf_bind_run]
  by_cases hmark : (true && a.raisesAt .followerMark) = true
  · rw [if_pos hmark]
    exact .inl ⟨_, db, rfl, rfl⟩
  rw [if_neg hmark, markedTurn_run]
  by_cases hmaster : a.raisesAt .masterMark = true
  · rw [if_pos hmaster]
    exact .inl ⟨_, db.observe a, rfl, rfl⟩
  rw [if_neg hmaster]
  by_cases hexits : (a.readsProfitExits f && a.raisesAt .protectedTarget) = true
  · rw [if_pos hexits]
    exact .inl ⟨_, db.observe a, rfl, rfl⟩
  rw [if_neg hexits]
  have hother : ∀ asset, asset ≠ a.asset →
      ((db.observe a).retarget f a).ledger.lookup asset = db.ledger.lookup asset := by
    intro asset hne
    exact (Table.lookup_modify_of_ne _ _ hne).trans (AList.lookup_insert_ne hne)
  rcases queueTurn_cases (f := f) a (a.withLedger db) t ((db.observe a).retarget f a) with
    ⟨e, hrun⟩ | hrun
  · exact .inl ⟨e, _, hrun, rfl⟩
  · exact .inr ⟨_, hrun, rfl, hother⟩

/-- A turn reads the row of its own asset only. -/
lemma withLedger_congr {a : ObservedAsset} {db db' : FollowerDb}
    (h : db'.ledger.lookup a.asset = db.ledger.lookup a.asset) :
    a.withLedger db' = a.withLedger db := by
  unfold ObservedAsset.withLedger
  rw [h]

/-- **The jobs of the loop.**  Over distinct assets the loop queues a beginning of the batch, and
the whole of it where no turn raises. -/
theorem assetLoop_jobs {assets : List ObservedAsset} (hnodup : (assets.map (·.asset)).Nodup)
    (t : BatchTotals) (db : FollowerDb) :
    ∃ queued, (final ((assetLoop f true t assets).run db)).jobs = db.jobs ++ queued ∧
      queued <+: reconcileBatch f t.exposure t.openPositions (assets.map (·.withLedger db)) ∧
      (∀ db', (assetLoop f true t assets).run db = .ok () db' →
        queued = reconcileBatch f t.exposure t.openPositions (assets.map (·.withLedger db))) := by
  induction assets generalizing t db with
  | nil => exact ⟨[], by simp [assetLoop, final], List.nil_prefix, fun _ _ => rfl⟩
  | cons a rest ih =>
      obtain ⟨hnotMem, hrest⟩ := List.nodup_cons.1 hnodup
      rcases assetTurn_cases (f := f) a t db with ⟨e, db₁, hrun, hjobs⟩ | ⟨db₁, hrun, hjobs, hother⟩
      · have hloop : (assetLoop f true t (a :: rest)).run db = .error e db₁ := by
          simp only [assetLoop, EStateM.run_bind, hrun]
        refine ⟨[], ?_, List.nil_prefix, ?_⟩
        · rw [hloop, List.append_nil]
          exact hjobs
        · intro db' hok
          rw [hloop] at hok
          cases hok
      · obtain ⟨queued, hfinal, hprefix, hwhole⟩ := ih hrest
          (totalsAfter t (reconcileJobFor f (a.withLedger db) t.exposure t.openPositions)) db₁
        have hassets : rest.map (·.withLedger db₁) = rest.map (·.withLedger db) := by
          apply List.map_congr_left
          intro b hb
          apply withLedger_congr
          apply hother
          intro hsame
          exact hnotMem (List.mem_map.2 ⟨b, hb, hsame⟩)
        have hloop : (assetLoop f true t (a :: rest)).run db = (assetLoop f true
            (totalsAfter t (reconcileJobFor f (a.withLedger db) t.exposure t.openPositions))
            rest).run db₁ := by
          simp only [assetLoop, EStateM.run_bind, hrun]
        have hbatch : reconcileBatch f t.exposure t.openPositions
            ((a :: rest).map (·.withLedger db)) =
            (reconcileJobFor f (a.withLedger db) t.exposure t.openPositions).toList ++
              reconcileBatch f
                (totalsAfter t (reconcileJobFor f (a.withLedger db) t.exposure
                  t.openPositions)).exposure
                (totalsAfter t (reconcileJobFor f (a.withLedger db) t.exposure
                  t.openPositions)).openPositions (rest.map (·.withLedger db)) := by
          rw [List.map_cons, reconcileBatch, if_neg (by simp [ObservedAsset.withLedger])]
          cases reconcileJobFor f (a.withLedger db) t.exposure t.openPositions with
          | none => rfl
          | some job => rfl
        rw [hassets] at hprefix hwhole
        refine ⟨(reconcileJobFor f (a.withLedger db) t.exposure t.openPositions).toList ++ queued,
          ?_, ?_, ?_⟩
        · rw [hloop, hfinal, hjobs, List.append_assoc]
        · rw [hbatch]
          exact (List.prefix_append_right_inj _).2 hprefix
        · intro db' hok
          rw [hloop] at hok
          rw [hbatch, hwhole db' hok]

end Jobs

/-! ## Before the first change -/

section Conditions

variable (c : ReconcileCall)

/-- The pass raises in front of the risk row. -/
def RaisesInFront (db : FollowerDb) : Prop :=
  c.raisesAt .ledgerRows = true ∨ c.marginIndeterminate db = true ∨ c.raisesAt .riskState = true

/-- The pass raises in front of the update of the risk row. -/
def RaisesReadingPolicy : Prop :=
  c.raisesAt .riskProfile = true ∨ c.raisesAt .entitlement = true ∨ c.raisesAt .aiPolicy = true

/-- The pass raises in front of the loop, or the loop at its first mark. -/
def RaisesBeforeTurn (db : FollowerDb) : Prop :=
  c.raisesAt .unresolvedExecutions = true ∨ c.managedMarkMalformed db = true ∨
    ∃ a rest, c.assets = a :: rest ∧ a.raisesAt .followerMark = true

/-- The flag already holds the accepted policy, as it is or within its bounds. -/
def AiModeCurrent (flag : AiModeFlag) : Prop :=
  flag.enabled = true → c.aiEffective = true →
    (boundedFactor flag.lastValidFactor = c.follower.aiFactor ∧
        max 0 (min (flag.lastValidBufferPct.getD 0) (3 / 10)) = 1 - c.follower.aiFactor) ∨
      (flag.lastValidFactor = some c.follower.aiFactor ∧
        flag.lastValidBufferPct = some (1 - c.follower.aiFactor))

/-- The risk row already says what the observation says. -/
structure RiskStateCurrent (row : RiskStateRow) : Prop where
  distance : row.liquidationDistancePct = c.minLiquidationDistance.map persistedLedgerDecimal
  near : row.nearLiquidation = c.minLiquidationDistance.any (· < 15)
  peak : c.follower.risk.isSome = true →
    row.peakEquity = some (persistedLedgerDecimal (c.peakEquity row))
  day : c.follower.risk.isSome = true → row.dayKey = some c.today
  halted : c.follower.risk.isSome = true → ∀ h, c.halt row = some h →
    row.state = h.halt ∧ row.reason = some h

/-- The pass raises before it has changed a row. -/
def RaisesBeforeChange (db : FollowerDb) : Prop :=
  RaisesInFront c db ∨
    ∃ row, db.riskState = some row ∧
      (RaisesReadingPolicy c ∨
        ((∀ flag, db.aiMode = some flag → AiModeCurrent c flag) ∧ RiskStateCurrent c row ∧
          RaisesBeforeTurn c db))

end Conditions

section Updates

variable {c : ReconcileCall}

lemma alignedFlag_eq_self {flag : AiModeFlag} :
    c.alignedFlag flag = flag ↔ AiModeCurrent c flag := by
  obtain ⟨enabled, factor, buffer⟩ := flag
  unfold ReconcileCall.alignedFlag AiModeCurrent
  dsimp only
  cases enabled with
  | false => simp
  | true =>
      cases heffective : c.aiEffective with
      | false => simp
      | true =>
          by_cases hsame : boundedFactor factor = c.follower.aiFactor ∧
              max 0 (min (buffer.getD 0) (3 / 10)) = 1 - c.follower.aiFactor
          · simp [hsame.1, hsame.2]
          · have hdiffers : (true && true && (decide (boundedFactor factor ≠ c.follower.aiFactor) ||
                decide (max 0 (min (buffer.getD 0) (3 / 10)) ≠ 1 - c.follower.aiFactor))) = true := by
              have hor := not_and_or.1 hsame
              simpa using hor
            rw [if_pos hdiffers]
            constructor
            · intro h _ _
              exact .inr ⟨(congrArg AiModeFlag.lastValidFactor h).symm,
                (congrArg AiModeFlag.lastValidBufferPct h).symm⟩
            · intro h
              obtain ⟨rfl, rfl⟩ := (h rfl rfl).resolve_left hsame
              rfl

/-- The start of a day that has begun stays. -/
lemma dayStartEquity_of_today {row : RiskStateRow} (h : row.dayKey = some c.today) :
    (c.dayStartEquity row).map persistedLedgerDecimal = row.dayStartEquity := by
  unfold ReconcileCall.dayStartEquity
  rw [if_pos h, Option.map_map]
  cases row.dayStartEquity with
  | none => rfl
  | some start => exact congrArg some (persistedLedgerDecimal_value start)

lemma halt_eq_self {row : RiskStateRow} {halt : Option HaltReason} :
    ((halt.map (·.halt)).getD row.state = row.state ∧
        (halt.orElse fun _ => row.reason) = row.reason) ↔
      ∀ h, halt = some h → row.state = h.halt ∧ row.reason = some h := by
  cases halt with
  | none => simp
  | some h => simp [eq_comm]

lemma updatedRiskState_eq_self {row : RiskStateRow} :
    c.updatedRiskState row = row ↔ RiskStateCurrent c row := by
  unfold ReconcileCall.updatedRiskState
  dsimp only
  cases hrisk : c.follower.risk.isSome with
  | false =>
      rw [if_neg (by simp)]
      constructor
      · intro h
        have hdistance := congrArg RiskStateRow.liquidationDistancePct h
        have hnear := congrArg RiskStateRow.nearLiquidation h
        exact ⟨hdistance.symm, hnear.symm, by simp [hrisk], by simp [hrisk], by simp [hrisk]⟩
      · rintro ⟨hdistance, hnear, -, -, -⟩
        rw [← hdistance, ← hnear]
  | true =>
      rw [if_pos rfl]
      constructor
      · intro h
        have hstate := congrArg RiskStateRow.state h
        have hreason := congrArg RiskStateRow.reason h
        exact ⟨(congrArg RiskStateRow.liquidationDistancePct h).symm,
          (congrArg RiskStateRow.nearLiquidation h).symm,
          fun _ => (congrArg RiskStateRow.peakEquity h).symm,
          fun _ => (congrArg RiskStateRow.dayKey h).symm,
          fun _ => halt_eq_self.1 ⟨hstate, hreason⟩⟩
      · rintro ⟨hdistance, hnear, hpeak, hday, hhalted⟩
        obtain ⟨hstate, hreason⟩ := halt_eq_self.2 (hhalted hrisk)
        rw [hstate, hreason, ← hpeak hrisk, dayStartEquity_of_today (hday hrisk), ← hday hrisk,
          ← hdistance, ← hnear]

/-- Where the risk row exists it is left alone. -/
lemma ensureRiskState_eq_self {db : FollowerDb} {row : RiskStateRow} (h : db.riskState = some row) :
    c.ensureRiskState db = db := by
  obtain ⟨ledger, riskState, aiMode, jobs, equitySnapshots, runs, clock, stamped⟩ := db
  obtain rfl : riskState = some row := h
  rfl

end Updates

/-! ## Where the pass stops -/

section Stops

variable {c : ReconcileCall} {db db' : FollowerDb} {e : ReconcileFailure}

lemma reconcileAssets_eq_error (h : c.reconcileAssets.run db = .error e db') :
    (RaisesBeforeTurn c db ∧ db' = db) ∨ (¬RaisesBeforeTurn c db ∧ Freshly db.clock db') := by
  unfold ReconcileCall.reconcileAssets ReconcileCall.passRead at h
  rcases raiseIf_bind_eq_error.1 h with ⟨hread, -, rfl⟩ | ⟨hread, h⟩
  · exact .inl ⟨.inl hread, rfl⟩
  rcases raiseIf_bind_eq_error.1 (get_bind_eq_error.1 h) with ⟨hmarks, -, rfl⟩ | ⟨hmarks, h⟩
  · exact .inl ⟨.inr (.inl hmarks), rfl⟩
  rcases assetLoop_eq_error h with ⟨rfl, hfirst⟩ | ⟨hfirst, hfresh⟩
  · exact .inl ⟨.inr (.inr hfirst), rfl⟩
  · refine .inr ⟨?_, hfresh⟩
    rintro (hno | hno | ⟨a, rest, hassets, hno⟩)
    · simp [hread] at hno
    · simp [hmarks] at hno
    · simp [hfirst a rest hassets] at hno

lemma reconcileWithRiskState_eq_error (h : c.reconcileWithRiskState.run db = .error e db') :
    (RaisesReadingPolicy c ∧ db' = db) ∨
      (¬RaisesReadingPolicy c ∧
        c.reconcileAssets.run (c.updateRiskState (c.alignAiMode db)) = .error e db') := by
  unfold ReconcileCall.reconcileWithRiskState ReconcileCall.passRead at h
  rcases raiseIf_bind_eq_error.1 h with ⟨hprofile, -, rfl⟩ | ⟨hprofile, h⟩
  · exact .inl ⟨.inl hprofile, rfl⟩
  rcases raiseIf_bind_eq_error.1 h with ⟨hent, -, rfl⟩ | ⟨hent, h⟩
  · exact .inl ⟨.inr (.inl hent), rfl⟩
  rcases raiseIf_bind_eq_error.1 h with ⟨hpolicy, -, rfl⟩ | ⟨hpolicy, h⟩
  · exact .inl ⟨.inr (.inr hpolicy), rfl⟩
  · exact .inr ⟨by simp [RaisesReadingPolicy, hprofile, hent, hpolicy], h⟩

lemma reconcileBody_eq_error (h : c.reconcileBody.run db = .error e db') :
    (RaisesInFront c db ∧ db' = db) ∨
      (¬RaisesInFront c db ∧
        c.reconcileWithRiskState.run (c.ensureRiskState db) = .error e db') := by
  unfold ReconcileCall.reconcileBody ReconcileCall.passRead at h
  rcases raiseIf_bind_eq_error.1 h with ⟨hledger, -, rfl⟩ | ⟨hledger, h⟩
  · exact .inl ⟨.inl hledger, rfl⟩
  rcases raiseIf_bind_eq_error.1 (get_bind_eq_error.1 h) with ⟨hmargin, -, rfl⟩ | ⟨hmargin, h⟩
  · exact .inl ⟨.inr (.inl hmargin), rfl⟩
  rcases raiseIf_bind_eq_error.1 h with ⟨hrisk, -, rfl⟩ | ⟨hrisk, h⟩
  · exact .inl ⟨.inr (.inr hrisk), rfl⟩
  refine .inr ⟨by simp [RaisesInFront, hledger, hmargin, hrisk], ?_⟩
  replace h := modify_bind_eq_error.1 h
  rw [EStateM.run_bind] at h
  cases hrest : c.reconcileWithRiskState.run (c.ensureRiskState db) with
  | ok u s =>
      rw [hrest] at h
      cases h
  | error e' s =>
      rw [hrest] at h
      exact h

end Stops

/-! ## What is committed -/

section Committed

variable {c : ReconcileCall} {e : ReconcileFailure}

/-- No rows change exactly where the pass raises before it has changed one. -/
theorem sameRows_iff {db db' : FollowerDb} (h : c.reconcileBody.run db = .error e db') :
    SameRows db db' ↔ RaisesBeforeChange c db := by
  rcases reconcileBody_eq_error h with ⟨hfront, rfl⟩ | ⟨hfront, h⟩
  · exact iff_of_true ⟨rfl, rfl, rfl, rfl, rfl⟩ (.inl hfront)
  have hisSome : db'.riskState.isSome := keeps_riskState_isSome.of_error rfl h
  cases hrow : db.riskState with
  | none =>
      -- the risk row was created, and stays
      apply iff_of_false
      · intro hsame
        rw [hsame.riskState, hrow] at hisSome
        cases hisSome
      · rintro (hno | ⟨row, hno, -⟩)
        · exact hfront hno
        · rw [hrow] at hno
          cases hno
  | some row =>
      rw [ensureRiskState_eq_self hrow] at h
      rcases reconcileWithRiskState_eq_error h with ⟨hpolicy, rfl⟩ | ⟨hpolicy, h⟩
      · exact iff_of_true ⟨rfl, rfl, rfl, rfl, rfl⟩ (.inr ⟨row, hrow, .inl hpolicy⟩)
      have hrisk : db'.riskState = some (c.updatedRiskState row) := by
        refine (keeps_reconcileAssets (keptByTurns_riskState (· = _))).of_error ?_ h
        simp [ReconcileCall.updateRiskState, ReconcileCall.alignAiMode, hrow]
      have hmode : db'.aiMode = db.aiMode.map c.alignedFlag :=
        (keeps_reconcileAssets (keptByTurns_aiMode (· = _))).of_error rfl h
      -- the rest of the condition is about what the two updates found and the loop did
      have hcondition : RaisesBeforeChange c db ↔
          (∀ flag, db.aiMode = some flag → AiModeCurrent c flag) ∧ RiskStateCurrent c row ∧
            RaisesBeforeTurn c db := by
        unfold RaisesBeforeChange
        simp [hfront, hpolicy, hrow]
      rw [hcondition]
      constructor
      · intro hsame
        have hcurrent : RiskStateCurrent c row := by
          apply updatedRiskState_eq_self.1
          apply Option.some.inj
          rw [← hrisk, hsame.riskState, hrow]
        refine ⟨?_, hcurrent, ?_⟩
        · intro flag hflag
          apply alignedFlag_eq_self.1
          apply Option.some.inj
          rw [← hflag, ← hsame.aiMode, hmode, hflag]
          rfl
        · rcases reconcileAssets_eq_error h with ⟨hturn, -⟩ | ⟨-, hfresh⟩
          · exact hturn
          · obtain ⟨asset, fresh, t, hlookup, ht, hlt⟩ := hfresh
            rw [hsame.ledger] at hlookup
            exact absurd ⟨asset, fresh, t, hlookup, ht, hlt⟩ (not_freshly_clock db)
      · rintro ⟨hflags, hcurrent, hturn⟩
        rcases reconcileAssets_eq_error h with ⟨-, rfl⟩ | ⟨hno, -⟩
        · refine ⟨rfl, ?_, ?_, rfl, rfl⟩
          · rw [hrisk, updatedRiskState_eq_self.2 hcurrent, hrow]
          · rw [hmode]
            cases hflag : db.aiMode with
            | none => rfl
            | some flag => exact congrArg some (alignedFlag_eq_self.2 (hflags flag hflag))
        · exact absurd hturn hno

/-- **What a failed reconciliation commits.**  A pass that raises behind the flush of its run row
commits the failed run and nothing else exactly where it raises before it has changed a row. -/
theorem failed_reconcile_commits_only_run_iff {s : UnitOfWork FollowerDb}
    (hraised : (c.reconcileObservedFollower s).2 = some e) :
    CommitsOnlyRun s.pending (c.reconcileObservedFollower s).1.committed e ↔
      RaisesBeforeChange c s.pending := by
  obtain ⟨db', hrun, hcommitted⟩ := commitEither_eq_some.1 hraised
  have hsame : SameRows s.pending.openRun db' ↔ RaisesBeforeChange c s.pending.openRun :=
    sameRows_iff hrun
  have hruns : db'.runs = s.pending.runs ++ [.running] := by
    rcases reconcileBody_eq_error hrun with ⟨-, rfl⟩ | ⟨-, hrest⟩
    · rfl
    · exact (keeps_runs _).of_error rfl hrest
  have hclosed : (c.reconcileObservedFollower s).1.committed = db'.closeRun (.failed e) := hcommitted
  rw [hclosed]
  constructor
  · rintro ⟨hrows, -⟩
    exact hsame.1 ⟨hrows.ledger, hrows.riskState, hrows.aiMode, hrows.jobs, hrows.equitySnapshots⟩
  · intro hbefore
    have hrows := hsame.2 hbefore
    refine ⟨⟨hrows.ledger, hrows.riskState, hrows.aiMode, hrows.jobs, hrows.equitySnapshots⟩, ?_⟩
    simp [FollowerDb.closeRun, hruns]

end Committed

/-! ## A failed batch -/

/-- A follower of one market. -/
def failingFollower : ReconcileFollower where
  scope asset := ⟨1, 1, .hyperliquid, .mainnet, asset⟩
  masterNetwork := .mainnet
  snapshotStartedOrder := none
  copyState := .active
  strictManualTrades := true
  risk := none
  limits := ⟨none, none, none⟩
  aiFactor := 1
  masterEquity := 1000
  equity := 100
  unmanagedMargin := 0
  freeMargin := 100
  drawdownHalt := false
  dailyLossHalt := false
  nearLiquidation := false

/-- A position the master no longer has. -/
def abandonedAsset (asset : Asset) (raisesAt : TurnRead → Bool) : ObservedAsset where
  asset := asset
  listedByMaster := false
  masterPosition := 0
  real := 10
  followerMark := 100
  masterMark := 100
  ledger := none
  evidence := ⟨[], []⟩
  masterConfig := none
  followerConfig := none
  liveAmbiguity := false
  terminalAmbiguity := false
  spec := none
  specAgain := none
  planRaises := false
  pending := false
  terminalRejection := none
  liquidityWait := 0
  raises := false
  elapsed := 0
  raisesAt := raisesAt

/-- The master's mark of the second asset is malformed. -/
def failingCall : ReconcileCall where
  follower := failingFollower
  unmanagedMargin := some 0
  liquidationPrices := []
  thresholds := ⟨20, 10⟩
  aiEffective := false
  today := 1
  createJobs := true
  assets := [abandonedAsset 1 fun _ => false, abandonedAsset 2 fun r => r = .masterMark]
  raisesAt _ := false

/-- Nothing is stored yet. -/
def emptyDb : FollowerDb where
  ledger := ∅
  riskState := none
  aiMode := none
  jobs := []
  equitySnapshots := []
  runs := []
  clock := 0
  stamped := by simp

/-- Of the two positions the batch closes the loop queues the first. -/
theorem assetLoop_jobs_of_failingCall :
    ∃ queued,
      (final ((assetLoop failingFollower true ⟨2000, 2⟩ failingCall.assets).run emptyDb)).jobs =
        emptyDb.jobs ++ queued ∧
      queued <+: reconcileBatch failingFollower 2000 2
        (failingCall.assets.map (·.withLedger emptyDb)) ∧
      (∀ db', (assetLoop failingFollower true ⟨2000, 2⟩ failingCall.assets).run emptyDb =
          .ok () db' →
        queued = reconcileBatch failingFollower 2000 2
          (failingCall.assets.map (·.withLedger emptyDb))) :=
  assetLoop_jobs (by decide) ⟨2000, 2⟩ emptyDb

/-- The ledger cannot be read. -/
def unreadCall : ReconcileCall := { failingCall with raisesAt := fun r => r = .ledgerRows }

/-- Nothing is left of a pass that raises at its first read but its run. -/
theorem failed_reconcile_at_first_read :
    CommitsOnlyRun emptyDb (unreadCall.reconcileObservedFollower ⟨emptyDb, emptyDb⟩).1.committed
      (.pass .ledgerRows) :=
  (failed_reconcile_commits_only_run_iff (s := ⟨emptyDb, emptyDb⟩) (by decide +kernel)).2
    (.inl (.inl rfl))

/-- The failed pass commits the order of its first asset with the failed run. -/
theorem failed_reconcile_commits_order :
    ¬∀ (c : ReconcileCall) (s : UnitOfWork FollowerDb) (e : ReconcileFailure),
      (c.reconcileObservedFollower s).2 = some e →
        CommitsOnlyRun s.pending (c.reconcileObservedFollower s).1.committed e := by
  intro h
  have hraised : (failingCall.reconcileObservedFollower ⟨emptyDb, emptyDb⟩).2 =
      some (.turn 2 .masterMark) := by decide +kernel
  have hjobs := (h failingCall ⟨emptyDb, emptyDb⟩ _ hraised).rows.jobs
  have hqueued : (failingCall.reconcileObservedFollower ⟨emptyDb, emptyDb⟩).1.committed.jobs.length =
      1 := by decide +kernel
  rw [hjobs] at hqueued
  cases hqueued

end HyperCopy

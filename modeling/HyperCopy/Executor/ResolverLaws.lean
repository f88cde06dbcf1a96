import HyperCopy.Executor.Resolver

/-!
# What the resolver's pass may change

Whatever the exchange answers and whichever reads fail, a visit leaves its execution and the ledger
as they were or changes them in one of three ways (`VisitOutcome`): it closes the execution on a
terminal order status, without touching the ledger; it records a fill, on a `filled` status or on
fills that cover the order, together with the position of the account; or it quarantines an
execution of ten minutes or more whose job is over, again together with the position.

A read that fails is no evidence for any of these, but it does not stop the third one: an order
status that cannot be read for ten minutes ends in quarantine, as an unknown order does.
-/

namespace HyperCopy

/-! ## Evidence -/

/-- The order status was read and says that the order ended in `state`. -/
def StatusSays (v : Visit) (state : ExecutionState) : Prop :=
  ∃ report, v.status = .order report ∧
    (report.status = .filled ∧ state = .filled ∨ report.status = .rejected ∧ state = .rejected ∨
      (∃ status, report.status = .terminalCancel status) ∧ state = .canceled)

/-- The fill history was read and covers the requested size. -/
def FillsCover (v : Visit) (row : AmbiguousExecution) : Prop :=
  ∃ fills oid, v.fills = some fills ∧
    evidenceOid (resolveCloid v.status) row.exchangeOid = some oid ∧ 0 < row.requestedSize ∧
    row.requestedSize ≤ (matchingFillSummary fills (some oid)).size

/-- The ledger has the position of the snapshot, credited to the execution; the other markets
are as they were. -/
structure LedgerSynced (s s' : ResolverState) (market : Market) (cloid : Cloid)
    (positions : List AssetPosition) : Prop where
  others : ∀ m, m ≠ market → s'.ledger.lookup m = s.ledger.lookup m
  synced : ∃ ledger, s'.ledger.lookup market = some ledger ∧
    ledger.size = persistedLedgerDecimal (positionSize positions market.asset) ∧
    ledger.lastExecutionId = some cloid

/-- What a visit may do to its execution. -/
inductive VisitOutcome (s s' : ResolverState) (v : Visit) (row row' : AmbiguousExecution) : Prop
  | kept (hstate : row'.state = row.state) (hledger : s'.ledger = s.ledger)
  | closed (hopen : row.state.unresolved = true)
      (hstate : row'.state = .rejected ∨ row'.state = .canceled)
      (hstatus : StatusSays v row'.state) (hledger : s'.ledger = s.ledger)
  | filled (hopen : row.state.unresolved = true) (hstate : row'.state = .filled)
      (hevidence : StatusSays v .filled ∨ FillsCover v row) (positions : List AssetPosition)
      (hsnapshot : v.snapshot = some positions)
      (hledger : LedgerSynced s s' row.market v.cloid positions)
  | quarantined (hopen : row.state.unresolved = true) (hstate : row'.state = .quarantined)
      (haged : row.createdAt + unknownExecutionSlaSeconds ≤ v.agedAt) (job : JobState)
      (hjob : s'.jobs.lookup row.jobId = some job) (hover : job.active = false)
      (positions : List AssetPosition) (hsnapshot : v.snapshotAgain = some positions)
      (hledger : LedgerSynced s s' row.market v.cloid positions)

/-- A visit changes nothing but its own execution, and that only as `VisitOutcome` allows. -/
structure VisitSound (s : ResolverState) (v : Visit) (s' : ResolverState) : Prop where
  others : ∀ k, k ≠ v.cloid → s'.executions.lookup k = s.executions.lookup k
  absent : s.executions.lookup v.cloid = none →
    s'.executions.lookup v.cloid = none ∧ s'.ledger = s.ledger
  present : ∀ row, s.executions.lookup v.cloid = some row →
    ∃ row', s'.executions.lookup v.cloid = some row' ∧ VisitOutcome s s' v row row'

/-! ## Pieces -/

/-- A job that is over stays over, whoever writes it. -/
lemma written_of_over (writes : List JobState) {job : JobState} (h : job.active = false) :
    writes.foldl JobState.written job = job := by
  induction writes with
  | nil => rfl
  | cons state writes ih =>
      have hstep : job.written state = job := by simp [JobState.written, h]
      rw [List.foldl_cons, hstep, ih]

lemma syncAssetLedger_synced (s : ResolverState) (cloid : Cloid) (market : Market)
    (positions : List AssetPosition) (verifiedAt : ℕ) (markPrice : Option ℚ) :
    LedgerSynced s (syncAssetLedger s cloid market positions verifiedAt markPrice) market cloid
      positions := by
  constructor
  · intro m hm
    simp only [syncAssetLedger, Table.lookup_insert_eq, if_neg hm]
  · cases hledger : s.ledger.lookup market with
    | none =>
        refine ⟨_, by simp only [syncAssetLedger, Table.lookup_insert_eq, hledger, if_true]; rfl,
          rfl, rfl⟩
    | some ledger =>
        refine ⟨_, by simp only [syncAssetLedger, Table.lookup_insert_eq, hledger, if_true]; rfl,
          rfl, rfl⟩

@[simp] lemma syncAssetLedger_executions (s : ResolverState) (cloid : Cloid) (market : Market)
    (positions : List AssetPosition) (verifiedAt : ℕ) (markPrice : Option ℚ) :
    (syncAssetLedger s cloid market positions verifiedAt markPrice).executions = s.executions :=
  rfl

@[simp] lemma syncAssetLedger_jobs (s : ResolverState) (cloid : Cloid) (market : Market)
    (positions : List AssetPosition) (verifiedAt : ℕ) (markPrice : Option ℚ) :
    (syncAssetLedger s cloid market positions verifiedAt markPrice).jobs = s.jobs := rfl

@[simp] lemma resolveIncident_executions (s : ResolverState) (id : Option IncidentId) (now : ℕ) :
    (resolveIncident s id now).executions = s.executions := by
  cases id <;> rfl

@[simp] lemma resolveIncident_ledger (s : ResolverState) (id : Option IncidentId) (now : ℕ) :
    (resolveIncident s id now).ledger = s.ledger := by
  cases id <;> rfl

/-- An outcome of an order status is what the status says, or unknown. -/
lemma resolveCloid_says (v : Visit) :
    (resolveCloid v.status).state = .unknown ∨ StatusSays v (resolveCloid v.status).state := by
  cases hstatus : v.status with
  | failed => exact Or.inl rfl
  | unknownOid => exact Or.inl rfl
  | other status => exact Or.inl rfl
  | order report =>
      cases hreport : report.status with
      | filled =>
          have hstate : (resolveCloid (.order report)).state = .filled := by
            simp [resolveCloid, hreport]
          rw [hstate]
          exact Or.inr ⟨report, hstatus, Or.inl ⟨hreport, rfl⟩⟩
      | rejected =>
          have hstate : (resolveCloid (.order report)).state = .rejected := by
            simp [resolveCloid, hreport]
          rw [hstate]
          exact Or.inr ⟨report, hstatus, Or.inr (Or.inl ⟨hreport, rfl⟩)⟩
      | terminalCancel status =>
          have hstate : (resolveCloid (.order report)).state = .canceled := by
            simp [resolveCloid, hreport]
          rw [hstate]
          exact Or.inr ⟨report, hstatus, Or.inr (Or.inr ⟨⟨status, hreport⟩, rfl⟩)⟩
      | other status => exact Or.inl (by simp [resolveCloid, hreport])

/-- With the fills of the order an unknown outcome may become a fill; no other state changes. -/
lemma withFillEvidence_state (requestedSize : ℚ) (exchangeOid : Option Oid) (fills : List FillRow)
    (o : ReadOutcome) :
    (withFillEvidence requestedSize exchangeOid fills o).state = o.state ∨
      (withFillEvidence requestedSize exchangeOid fills o).state = .filled ∧
        ∃ oid, evidenceOid o exchangeOid = some oid ∧ 0 < requestedSize ∧
          requestedSize ≤ (matchingFillSummary fills (some oid)).size := by
  unfold withFillEvidence
  cases hoid : evidenceOid o exchangeOid with
  | none => exact Or.inl rfl
  | some oid =>
      simp only [Option.isNone_some, Bool.false_eq_true, if_false]
      split_ifs with hfilled hcovered
      · exact Or.inl rfl
      · exact Or.inr ⟨rfl, oid, rfl, hcovered.2.2, hcovered.2.1⟩
      · exact Or.inl rfl

lemma matchingFillSummary_nil (oid : Oid) : (matchingFillSummary [] (some oid)).size = 0 := by
  simp [matchingFillSummary]

/-- **What a terminal reading rests on.** -/
lemma settleable_backed (v : Visit) (row : AmbiguousExecution) :
    let o := settleable v (readOrder v row).2
    o.state = .unknown ∨
      (o.state = .rejected ∨ o.state = .canceled) ∧ StatusSays v o.state ∨
      o.state = .filled ∧ (StatusSays v .filled ∨ FillsCover v row) ∧
        ∃ positions, v.snapshot = some positions := by
  intro o
  have hread : (readOrder v row).2.state = .unknown ∨ StatusSays v (readOrder v row).2.state ∨
      (readOrder v row).2.state = .filled ∧ FillsCover v row := by
    rcases withFillEvidence_state row.requestedSize row.exchangeOid (readOrder v row).1
      (resolveCloid v.status) with hsame | ⟨hfilled, oid, hoid, hpos, hcover⟩
    · rcases resolveCloid_says v with hunknown | hsays
      · exact Or.inl (hsame.trans hunknown)
      · exact Or.inr (Or.inl (hsame ▸ hsays))
    · refine Or.inr (Or.inr ⟨hfilled, ?_⟩)
      have hfills : (readOrder v row).1 = v.fills.getD [] := by
        simp [readOrder, hoid]
      rw [hfills] at hcover
      cases hread : v.fills with
      | none =>
          rw [hread, Option.getD_none, matchingFillSummary_nil] at hcover
          linarith
      | some fills =>
          rw [hread, Option.getD_some] at hcover
          exact ⟨fills, oid, hread, hoid, hpos, hcover⟩
  have hfill : (readOrder v row).2.state = .filled → (StatusSays v .filled ∨ FillsCover v row) →
      o.state = .unknown ∨ o.state = .filled ∧ (StatusSays v .filled ∨ FillsCover v row) ∧
        ∃ positions, v.snapshot = some positions := by
    intro hfilled hevidence
    cases hsnapshot : v.snapshot with
    | none => exact Or.inl (by simp [o, settleable, hfilled, hsnapshot])
    | some positions =>
        have hstate : o.state = .filled := by simp [o, settleable, hfilled, hsnapshot]
        exact Or.inr ⟨hstate, hevidence, positions, rfl⟩
  have hkept : (readOrder v row).2.state ≠ .filled → o.state = (readOrder v row).2.state := by
    intro hnot
    simp [o, settleable, hnot]
  rcases hread with hunknown | hsays | ⟨hfilled, hcover⟩
  · exact Or.inl ((hkept (by simp [hunknown])).trans hunknown)
  · obtain ⟨report, hstatus, ⟨hreport, hstate⟩ | hclosed⟩ := hsays
    · rw [hstate] at hfill
      have hevidence : StatusSays v .filled := ⟨report, hstatus, Or.inl ⟨hreport, rfl⟩⟩
      rcases hfill rfl (Or.inl hevidence) with hunknown | hfilled
      · exact Or.inl hunknown
      · exact Or.inr (Or.inr hfilled)
    · have hstate : (readOrder v row).2.state = .rejected ∨
          (readOrder v row).2.state = .canceled := by
        rcases hclosed with ⟨-, h⟩ | ⟨-, h⟩
        · exact Or.inl h
        · exact Or.inr h
      have hsame : o.state = (readOrder v row).2.state :=
        hkept (by rcases hstate with h | h <;> simp [h])
      rw [hsame]
      exact Or.inr (Or.inl ⟨hstate, report, hstatus, Or.inr hclosed⟩)
  · rcases hfill hfilled (Or.inr hcover) with hunknown | hback
    · exact Or.inl hunknown
    · exact Or.inr (Or.inr hback)

/-! ## The writes -/

lemma record_state {row row' : AmbiguousExecution} {o : ReadOutcome} {now : ℕ}
    (h : row.record o now = some row') : row'.state = o.state := by
  simp only [AmbiguousExecution.record, Option.map_eq_some_iff] at h
  obtain ⟨base, hbase, rfl⟩ := h
  simp only [persistOutcome, Option.map_eq_some_iff] at hbase
  obtain ⟨state, hstate, rfl⟩ := hbase
  exact (ExecutionState.assign_eq_some.1 hstate).1

lemma record_isSome {row : AmbiguousExecution} {o : ReadOutcome} (hopen : row.state.unresolved = true)
    (hterminal : o.state.terminal = true) (now : ℕ) : ∃ row', row.record o now = some row' := by
  have hassign := ExecutionState.assign_of_unresolved hopen hterminal
  simp [AmbiguousExecution.record, persistOutcome, ReadOutcome.toOutcome, hassign]

section

variable {s : ResolverState} {v : Visit} {row : AmbiguousExecution}

/-- Recording a reading is sound where the reading is. -/
lemma recordResolved_sound (hrow : s.executions.lookup v.cloid = some row)
    (hopen : row.state.unresolved = true) (hread : (settleable v (readOrder v row).2).state ≠ .unknown) :
    VisitSound s v (recordResolved s v row (settleable v (readOrder v row).2)) := by
  have hbacked := settleable_backed v row
  set o := settleable v (readOrder v row).2 with ho
  have hterminal : o.state.terminal = true := by
    rcases hbacked with hunknown | ⟨hclosed | hclosed, -⟩ | ⟨hfilled, -⟩
    · exact absurd hunknown hread
    · rw [hclosed]; rfl
    · rw [hclosed]; rfl
    · rw [hfilled]; rfl
  obtain ⟨row', hrecord⟩ := record_isSome hopen hterminal v.resolvedAt
  have hstate := record_state hrecord
  have hexecutions : ∀ k, (recordResolved s v row o).executions.lookup k =
      if k = v.cloid then some row' else s.executions.lookup k := by
    intro k
    simp only [recordResolved, hrecord, resolveIncident_executions, Table.lookup_insert_eq]
    cases hfill : o.state <;> cases hsnapshot : v.snapshot <;> rfl
  refine ⟨fun k hk => by rw [hexecutions, if_neg hk], fun habsent => ?_, fun row₀ hrow₀ => ?_⟩
  · rw [hrow] at habsent
    cases habsent
  obtain rfl : row = row₀ := Option.some.inj (hrow.symm.trans hrow₀)
  refine ⟨row', by rw [hexecutions, if_pos rfl], ?_⟩
  rcases hbacked with hunknown | ⟨hclosed, hstatus⟩ | ⟨hfilled, hevidence, positions, hsnapshot⟩
  · exact absurd hunknown hread
  · have hledger : (recordResolved s v row o).ledger = s.ledger := by
      simp only [recordResolved, hrecord, resolveIncident_ledger]
      rcases hclosed with h | h <;> rw [h]
    rw [← hstate] at hclosed hstatus
    exact .closed hopen hclosed hstatus hledger
  · have hledger : (recordResolved s v row o).ledger =
        (syncAssetLedger s v.cloid row.market positions v.verifiedAt o.avgPrice).ledger := by
      simp only [recordResolved, hrecord, resolveIncident_ledger, hfilled, hsnapshot]
    have hsynced := syncAssetLedger_synced s v.cloid row.market positions v.verifiedAt o.avgPrice
    exact .filled hopen (hstate.trans hfilled) hevidence positions hsnapshot
      ⟨fun m hm => by rw [hledger]; exact hsynced.others m hm,
        by rw [hledger]; exact hsynced.synced⟩

/-- The incident is written on the execution, and changes neither its state nor the ledger. -/
lemma ensureAgedIncident_kept (hrow : s.executions.lookup v.cloid = some row) :
    (ensureAgedIncident s v row).1.ledger = s.ledger ∧
      (ensureAgedIncident s v row).1.jobs = s.jobs ∧
      (∀ k, k ≠ v.cloid →
        (ensureAgedIncident s v row).1.executions.lookup k = s.executions.lookup k) ∧
      ∃ row', (ensureAgedIncident s v row).1.executions.lookup v.cloid = some row' ∧
        row'.state = row.state := by
  unfold ensureAgedIncident
  cases hincident : row.incident with
  | some id => exact ⟨rfl, rfl, fun _ _ => rfl, row, hrow, rfl⟩
  | none =>
      refine ⟨rfl, rfl, fun k hk => ?_, { row with incident := some v.incidentId }, ?_, rfl⟩
      · simp only [Table.lookup_insert_eq, if_neg hk]
      · simp only [Table.lookup_insert_eq, if_true]

lemma alerted_sound (hrow : s.executions.lookup v.cloid = some row) :
    VisitSound s v (ensureAgedIncident s v row).1 := by
  obtain ⟨hledger, -, hothers, row', hrow', hstate⟩ := ensureAgedIncident_kept hrow
  refine ⟨hothers, fun habsent => ?_, fun row₀ hrow₀ => ?_⟩
  · rw [hrow] at habsent
    cases habsent
  · obtain rfl : row = row₀ := Option.some.inj (hrow.symm.trans hrow₀)
    exact ⟨row', hrow', .kept hstate hledger⟩

lemma unchanged_sound (s : ResolverState) (v : Visit) : VisitSound s v s :=
  ⟨fun _ _ => rfl, fun habsent => ⟨habsent, rfl⟩, fun row hrow => ⟨row, hrow, .kept rfl rfl⟩⟩

/-- Quarantine is sound for an aged execution whose job is over. -/
lemma recordQuarantine_sound (hrow : s.executions.lookup v.cloid = some row)
    (hopen : row.state.unresolved = true)
    (haged : row.createdAt + unknownExecutionSlaSeconds ≤ v.agedAt) {job : JobState}
    (hjob : s.jobs.lookup row.jobId = some job) (hover : job.active = false)
    {positions : List AssetPosition} (hsnapshot : v.snapshotAgain = some positions)
    (markPrice : Option ℚ) :
    VisitSound s v (recordQuarantine (ensureAgedIncident s v row).1 v row
      (ensureAgedIncident s v row).2 positions markPrice) := by
  obtain ⟨hledger, hjobs, hothers, -⟩ := ensureAgedIncident_kept hrow
  set aged := ensureAgedIncident s v row with haged'
  have hassign : row.state.assign .quarantined = some .quarantined :=
    ExecutionState.assign_of_unresolved hopen rfl
  have hsynced := syncAssetLedger_synced aged.1 v.cloid row.market positions v.verifiedAgainAt
    markPrice
  have hwrite : recordQuarantine aged.1 v row aged.2 positions markPrice =
      { syncAssetLedger aged.1 v.cloid row.market positions v.verifiedAgainAt markPrice with
        executions := aged.1.executions.insert v.cloid
          { row with
            state := .quarantined
            resolvedAt := some v.quarantinedAt
            incident := some aged.2 }
        incidents := aged.1.incidents.modify aged.2 fun incident =>
          { incident with quarantined := true } } := by
    simp only [recordQuarantine, persistOutcome, hassign, Option.map_some]
    rfl
  rw [hwrite]
  refine ⟨fun k hk => ?_, fun habsent => ?_, fun row₀ hrow₀ => ?_⟩
  · simp only [Table.lookup_insert_eq, if_neg hk]
    exact hothers k hk
  · rw [hrow] at habsent
    cases habsent
  · obtain rfl : row = row₀ := Option.some.inj (hrow.symm.trans hrow₀)
    refine ⟨_, by simp only [Table.lookup_insert_eq, if_true]; rfl, ?_⟩
    refine .quarantined hopen rfl haged job ?_ hover positions hsnapshot ?_
    · simp only [syncAssetLedger_jobs, hjobs]
      exact hjob
    · exact ⟨fun m hm => (hsynced.others m hm).trans (by rw [hledger]), hsynced.synced⟩

end

/-! ## The visit and the pass -/

lemma VisitOutcome.of_jobs {s s' : ResolverState} {jobs : Table JobId JobState} {v : Visit}
    {row row' : AmbiguousExecution} (h : VisitOutcome { s with jobs := jobs } s' v row row') :
    VisitOutcome s s' v row row' := by
  cases h with
  | kept hstate hledger => exact .kept hstate hledger
  | closed hopen hstate hstatus hledger => exact .closed hopen hstate hstatus hledger
  | filled hopen hstate hevidence positions hsnapshot hledger =>
      exact .filled hopen hstate hevidence positions hsnapshot ⟨hledger.others, hledger.synced⟩
  | quarantined hopen hstate haged job hjob hover positions hsnapshot hledger =>
      exact .quarantined hopen hstate haged job hjob hover positions hsnapshot
        ⟨hledger.others, hledger.synced⟩

lemma VisitSound.of_jobs {s s' : ResolverState} {jobs : Table JobId JobState} {v : Visit}
    (h : VisitSound { s with jobs := jobs } v s') : VisitSound s v s' := by
  refine ⟨h.others, h.absent, fun row hrow => ?_⟩
  obtain ⟨row', hrow', houtcome⟩ := h.present row hrow
  exact ⟨row', hrow', houtcome.of_jobs⟩

lemma visitUnknown_sound {s : ResolverState} {v : Visit} {row : AmbiguousExecution} {job : JobState}
    (hrow : s.executions.lookup v.cloid = some row) (hopen : row.state.unresolved = true)
    (hjob : s.jobs.lookup row.jobId = some (v.jobWrites.foldl JobState.written job))
    (jobNow : JobState) (fills : List FillRow) (o : ReadOutcome) :
    VisitSound s v (visitUnknown s v row job jobNow fills o).1 := by
  unfold visitUnknown
  by_cases hyoung : v.agedAt - row.createdAt < unknownExecutionSlaSeconds
  · rw [if_pos hyoung]
    exact unchanged_sound s v
  rw [if_neg hyoung]
  by_cases hactive : job.active = true
  · simp only [hactive, if_true]
    exact alerted_sound hrow
  have hover : job.active = false := by simpa using hactive
  rw [written_of_over v.jobWrites hover] at hjob
  simp only [hover, Bool.false_eq_true, if_false]
  cases hsnapshot : v.snapshotAgain with
  | none => exact alerted_sound hrow
  | some positions =>
      by_cases hnow : jobNow.active = true
      · simp only [hnow, if_true]
        exact unchanged_sound s v
      · have haged : row.createdAt + unknownExecutionSlaSeconds ≤ v.agedAt := by
          simp only [unknownExecutionSlaSeconds] at hyoung ⊢
          omega
        simp only [hnow]
        exact recordQuarantine_sound hrow hopen haged hjob hover hsnapshot _

/-- **A visit is sound**, in whatever state it finds the tables. -/
lemma visitExecution_sound (network : Network) (s : ResolverState) (v : Visit) :
    VisitSound s v (visitExecution network s v).1 := by
  unfold visitExecution
  cases hrow : s.executions.lookup v.cloid with
  | none => exact unchanged_sound s v
  | some row =>
      by_cases hterminal : row.state.terminal = true
      · simp only [hterminal, if_true]
        exact unchanged_sound s v
      have hopen : row.state.unresolved = true := by
        simpa [ExecutionState.unresolved] using hterminal
      simp only [if_neg hterminal]
      cases hjob : s.jobs.lookup row.jobId with
      | none => exact unchanged_sound s v
      | some job =>
          by_cases hskip : (!v.accountExists || decide (v.network ≠ network) ||
              decide (row.createdAt < v.networkStartedAt)) = true
          · simp only [hskip, if_true]
            exact unchanged_sound s v
          let written : ResolverState :=
            { s with jobs := s.jobs.insert row.jobId (v.jobWrites.foldl JobState.written job) }
          by_cases hknown : (settleable v (readOrder v row).2).state ≠ .unknown
          · simp only [if_neg hskip, if_pos hknown]
            have hsound := recordResolved_sound (s := written) hrow hopen hknown
            exact hsound.of_jobs
          · simp only [if_neg hskip, if_neg hknown]
            have hwritten : written.jobs.lookup row.jobId =
                some (v.jobWrites.foldl JobState.written job) := by
              simp only [written, Table.lookup_insert_eq, if_true]
            have hsound := visitUnknown_sound (s := written) hrow hopen hwritten
            exact (hsound _ _ _).of_jobs

lemma resolvePass_append (network : Network) (s : ResolverState) (visits : List Visit) (v : Visit) :
    (resolvePass network s (visits ++ [v])).1 =
      (visitExecution network (resolvePass network s visits).1 v).1 := by
  rw [resolvePass, List.foldl_append]
  rfl

/-- The reads of a visit that failed cannot be what changed its execution. -/
structure FailuresHarmless (s : ResolverState) (v : Visit) (s' : ResolverState) : Prop where
  status : v.status = .failed → ∀ row row', s.executions.lookup v.cloid = some row →
    s'.executions.lookup v.cloid = some row' → row'.state ≠ row.state →
      row'.state = .filled ∧ FillsCover v row ∨ row'.state = .quarantined
  fills : v.fills = none → ∀ row row', s.executions.lookup v.cloid = some row →
    s'.executions.lookup v.cloid = some row' → row'.state ≠ row.state →
      StatusSays v row'.state ∨ row'.state = .quarantined
  snapshot : v.snapshot = none → ∀ row row', s.executions.lookup v.cloid = some row →
    s'.executions.lookup v.cloid = some row' → row'.state ≠ row.state → row'.state ≠ .filled
  position : v.snapshot = none → v.snapshotAgain = none → s'.ledger = s.ledger

lemma VisitSound.failures {s s' : ResolverState} {v : Visit} (h : VisitSound s v s') :
    FailuresHarmless s v s' := by
  have houtcome : ∀ row row', s.executions.lookup v.cloid = some row →
      s'.executions.lookup v.cloid = some row' → VisitOutcome s s' v row row' := by
    intro row row' hrow hrow'
    obtain ⟨row₀, hrow₀, hout⟩ := h.present row hrow
    obtain rfl : row₀ = row' := Option.some.inj (hrow₀.symm.trans hrow')
    exact hout
  constructor
  · intro hfailed row row' hrow hrow' hchanged
    have hsilent : ∀ state, ¬ StatusSays v state := by
      rintro state ⟨report, hreport, -⟩
      rw [hfailed] at hreport
      cases hreport
    cases houtcome row row' hrow hrow' with
    | kept hstate _ => exact absurd hstate hchanged
    | closed _ _ hstatus _ => exact absurd hstatus (hsilent _)
    | filled _ hstate hevidence _ _ _ =>
        exact Or.inl ⟨hstate, hevidence.resolve_left (hsilent _)⟩
    | quarantined _ hstate _ _ _ _ _ _ _ => exact Or.inr hstate
  · intro hfailed row row' hrow hrow' hchanged
    have hnone : ¬ FillsCover v row := by
      rintro ⟨fills, oid, hfills, -⟩
      rw [hfailed] at hfills
      cases hfills
    cases houtcome row row' hrow hrow' with
    | kept hstate _ => exact absurd hstate hchanged
    | closed _ _ hstatus _ => exact Or.inl hstatus
    | filled _ hstate hevidence _ _ _ =>
        rw [hstate]
        exact Or.inl (hevidence.resolve_right hnone)
    | quarantined _ hstate _ _ _ _ _ _ _ => exact Or.inr hstate
  · intro hfailed row row' hrow hrow' hchanged
    cases houtcome row row' hrow hrow' with
    | kept hstate _ => exact absurd hstate hchanged
    | closed _ hstate _ _ => rcases hstate with hstate | hstate <;> simp [hstate]
    | filled _ _ _ positions hsnapshot _ =>
        rw [hfailed] at hsnapshot
        cases hsnapshot
    | quarantined _ hstate _ _ _ _ _ _ _ => simp [hstate]
  · intro hfailed hfailedAgain
    cases hrow : s.executions.lookup v.cloid with
    | none => exact (h.absent hrow).2
    | some row =>
        obtain ⟨row', hrow', -⟩ := h.present row hrow
        cases houtcome row row' hrow hrow' with
        | kept _ hledger => exact hledger
        | closed _ _ _ hledger => exact hledger
        | filled _ _ _ positions hsnapshot _ =>
            rw [hfailed] at hsnapshot
            cases hsnapshot
        | quarantined _ _ _ _ _ _ positions hsnapshot _ =>
            rw [hfailedAgain] at hsnapshot
            cases hsnapshot

/-- **The resolver is sound.**  At every candidate of every pass, whatever is answered and whichever
reads fail: only the candidate's execution changes, and its state only on a terminal order status
(`closed`), on such a status or covering fills together with the position of the snapshot
(`filled`), or after ten minutes, with its job over at that moment and again with the position
(`quarantined`); where the state stays the ledger stays.  A failed read backs none of these. -/
theorem resolvePass_sound (network : Network) (s : ResolverState) (before : List Visit)
    (v : Visit) :
    VisitSound (resolvePass network s before).1 v (resolvePass network s (before ++ [v])).1 ∧
      FailuresHarmless (resolvePass network s before).1 v
        (resolvePass network s (before ++ [v])).1 := by
  rw [resolvePass_append]
  have hsound := visitExecution_sound network (resolvePass network s before).1 v
  exact ⟨hsound, hsound.failures⟩

/-- A change that a visit makes is one of the verdicts the executor's model records, with the same
ledger write. -/
theorem VisitOutcome.verdict {s s' : ResolverState} {v : Visit} {row row' : AmbiguousExecution}
    (h : VisitOutcome s s' v row row') (hchanged : row'.state ≠ row.state) :
    ∃ verdict : Verdict, row'.state = (verdict.outcome row.toExecution).state ∧
      match verdict.position with
      | none => s'.ledger = s.ledger
      | some position => ∃ ledger, s'.ledger.lookup row.market = some ledger ∧
          ledger.size = persistedLedgerDecimal position ∧
          ledger.lastExecutionId = some v.cloid := by
  cases h with
  | kept hstate _ => exact absurd hstate hchanged
  | closed _ _ _ hledger => exact ⟨.terminal row'.state, rfl, hledger⟩
  | filled _ hstate _ positions _ hledger =>
      exact ⟨.filled row'.filledSize (positionSize positions row.market.asset), hstate,
        hledger.synced⟩
  | quarantined _ hstate _ _ _ _ positions _ hledger =>
      exact ⟨.quarantine (positionSize positions row.market.asset), hstate, hledger.synced⟩

/-! ## An order status that is never read -/

/-- An order submitted at time 0 whose fate is unknown; its job is over. -/
def lostOrder : ResolverState where
  executions := (∅ : Table Cloid AmbiguousExecution).insert ⟨1, .o⟩
    { openRow with
      createdAt := 0
      state := .unknown
      jobId := 1
      exchangeOid := none
      avgPrice := none
      reason := none
      incident := none }
  jobs := (∅ : Table JobId JobState).insert 1 .dead
  ledger := (∅ : Table Market ManagedLedger).insert ⟨1, 0⟩
    ⟨⟨persistedLedgerDecimal 0, none, none⟩, 1, true, 100⟩
  incidents := ∅

/-- Ten minutes later the order status cannot be read, the position can. -/
def unreadVisit : Visit where
  cloid := ⟨1, .o⟩
  accountExists := true
  network := .testnet
  networkStartedAt := 0
  status := .failed
  fills := none
  fillsAgain := none
  snapshot := none
  snapshotAgain := some [⟨0, some (2 / 5)⟩]
  verifiedAt := 600
  resolvedAt := 600
  agedAt := 600
  incidentId := 9
  verifiedAgainAt := 601
  quarantinedAt := 602
  jobWrites := []
  jobRefreshed := true

/-- The status read fails, and in the same visit the execution is quarantined and the ledger takes
the position of the account. -/
theorem resolvePass_unread_quarantined :
    let s' := (resolvePass .testnet lostOrder [unreadVisit]).1
    unreadVisit.status = .failed ∧
      (lostOrder.executions.lookup ⟨1, .o⟩).map (·.state) = some .unknown ∧
      (s'.executions.lookup ⟨1, .o⟩).map (·.state) = some .quarantined ∧
      (lostOrder.ledger.lookup ⟨1, 0⟩).map (fun l => (l.size, l.lastExecutionId)) =
        some (persistedLedgerDecimal 0, none) ∧
      (s'.ledger.lookup ⟨1, 0⟩).map (fun l => (l.size, l.lastExecutionId)) =
        some (persistedLedgerDecimal (2 / 5), some ⟨1, .o⟩) ∧
      persistedLedgerDecimal 0 ≠ persistedLedgerDecimal (2 / 5) := by
  decide +kernel

end HyperCopy

import HyperCopy.Risex.Settlement

/-!
# What a settlement owes the tables

A settlement that finds the ledger newer than its baseline, that raises, or that reports it did not
settle leaves nothing behind (`SettlementAtomic`).  The worker's routine keeps this for every call:
its only commit is the last thing it does (`persist_atomic`).  The resolver's routine commits
execution, ledger and reservation first and finishes the job in a second transaction.  Its checks
never look at the state of the job, so the commit may be followed by a job that is already over, and
then it answers that it did not settle; the rollback in front of that answer has nothing left to
undo.  `finish_atomic_iff` says that this second transaction decides the matter.
-/

namespace HyperCopy

open Fallible

/-! ## What one commit writes -/

@[simp] lemma applyWrites_cons (write : RowWrite) (writes : List RowWrite) (db : SettlementDb) :
    applyWrites (write :: writes) db = applyWrites writes (write.apply db) :=
  List.foldl_cons ..

@[simp] lemma applyWrites_nil (db : SettlementDb) : applyWrites [] db = db := by
  simp [applyWrites]

/-- A settlement that commits passed every check, and its last write is the execution's. -/
lemma settleUnderAccountingLock_eq_ok {db : SettlementDb} {outcome : SettledOutcome}
    {seen : SettlementExecution} {pending : List RowWrite}
    {callback : Option (Except SettlementError TruthWrites)} {now : ℕ} {commitFails : Bool}
    {writes : List RowWrite} :
    settleUnderAccountingLock db outcome seen pending callback now commitFails = .ok writes ↔
      outcome.definitive ∧ caseATerminal outcome.executionState ∧
        (∃ row, db.executions.lookup seen.executionId = some row) ∧ seen.state.unresolved ∧
        ∃ truth, settlementTruth outcome seen callback = .ok truth ∧ commitFails = false ∧
          writes = pending ++ truth.1 ++
            [.execution seen.executionId (settledRow outcome truth.2 now)] := by
  simp only [settleUnderAccountingLock, bind_eq_ok, require_eq_ok, expect_eq_ok,
    Bool.and_eq_true, Bool.not_eq_true', pure, Except.pure, Except.ok.injEq]
  constructor
  · rintro ⟨_, ⟨hdef, hterm⟩, row, hrow, _, hopen, truth, htruth, _, hcommit, rfl⟩
    exact ⟨hdef, hterm, ⟨row, hrow⟩, hopen, truth, htruth, hcommit, rfl⟩
  · rintro ⟨hdef, hterm, ⟨row, hrow⟩, hopen, truth, htruth, hcommit, rfl⟩
    exact ⟨(), ⟨hdef, hterm⟩, row, hrow, (), hopen, truth, htruth, (), hcommit, rfl⟩

/-! ## The obligation -/

namespace SettlementRun

/-- The routine committed nothing: the tables are what the other sessions made of them. -/
def untouched (run : SettlementRun) : Prop :=
  run.writes = [] ∧ run.db = run.undisturbed

end SettlementRun

/-- A settlement is all or nothing, and never overwrites a ledger row that is not its baseline. -/
structure SettlementAtomic (ledgerChanged : Prop) (run : SettlementRun) : Prop where
  newer : ledgerChanged → run.untouched
  failed : ∀ error, run.outcome = .raised error → run.untouched
  reported : run.outcome = .notSettled → run.untouched

lemma endedAt_atomic (ledgerChanged : Prop) (outcome : SettlementOutcome) (db : SettlementDb) :
    SettlementAtomic ledgerChanged (endedAt outcome db) := by
  have h : (endedAt outcome db).untouched := ⟨rfl, rfl⟩
  exact ⟨fun _ => h, fun _ _ => h, fun _ => h⟩

/-- A run that settled on a ledger row equal to its baseline owes nothing. -/
lemma settled_atomic {ledgerChanged : Prop} {run : SettlementRun}
    (hledger : ¬ledgerChanged) (hsettled : run.outcome = .settled) :
    SettlementAtomic ledgerChanged run where
  newer h := absurd h hledger
  failed error h := by simp [hsettled] at h
  reported h := by simp [hsettled] at h

/-! ## The worker's routine -/

namespace PersistCall

variable (c : PersistCall) (db : SettlementDb)

/-- The ledger row the snapshot would replace is not the one remembered before the provider was
read. -/
def ledgerChanged : Prop :=
  (c.interference.underLock (c.interference.beforeLock db)).ledgers.lookup c.market ≠
    db.ledgers.lookup c.market

lemma persistUnderLock_atomic (outcome : SettledOutcome) (snapshot : ProviderTruthSnapshot) :
    SettlementAtomic (c.ledgerChanged db)
      (c.persistUnderLock (db.ledgers.lookup c.market) outcome snapshot
        (c.interference.beforeLock db)) := by
  unfold persistUnderLock
  by_cases hterminal : c.seen.state.terminal
  · rw [if_pos hterminal]
    exact endedAt_atomic ..
  rw [if_neg hterminal]
  by_cases hledger : (c.interference.beforeLock db).ledgers.lookup c.market ≠
      db.ledgers.lookup c.market
  · rw [if_pos hledger]
    exact endedAt_atomic ..
  rw [if_neg hledger]
  by_cases hpeer : (c.interference.beforeLock db).otherUnresolved c.market c.seen.executionId
  · rw [if_pos hpeer]
    exact endedAt_atomic ..
  rw [if_neg hpeer]
  cases hsettle : c.settle (c.interference.underLock (c.interference.beforeLock db)) outcome
      snapshot with
  | error e =>
      simp only [hsettle]
      exact endedAt_atomic ..
  | ok writes =>
      -- the only commit: the ledger row is the baseline's, as nobody else writes it under the lock
      have hkept := c.interference.keepsLedger (c.interference.beforeLock db)
      have hsame : ¬c.ledgerChanged db := fun hchanged =>
        hledger fun heq => hchanged (hkept.trans heq)
      simp only [hsettle]
      exact settled_atomic hsame rfl

/-- The worker's routine is all or nothing for every call. -/
lemma persist_atomic : SettlementAtomic (c.ledgerChanged db) (c.persistRisexProviderTruth db) := by
  unfold persistRisexProviderTruth
  cases houtcome : terminalOutcome c.seen with
  | none => exact endedAt_atomic ..
  | some outcome =>
      by_cases hepoch : c.epochValid db
      · cases hsnapshot : c.snapshot with
        | none =>
            simp only [hepoch, Bool.not_true, Bool.false_eq_true, if_false]
            exact endedAt_atomic ..
        | some snapshot =>
            simp only [hepoch, Bool.not_true, Bool.false_eq_true, if_false]
            exact c.persistUnderLock_atomic db outcome snapshot
      · simp only [hepoch, Bool.not_false, if_true]
        exact endedAt_atomic ..

end PersistCall

/-! ## The resolver's routine -/

namespace CandidateCall

variable (c : CandidateCall) (db : SettlementDb)

/-- The tables at the moment of the settlement's commit, without it. -/
def lockedTables : SettlementDb :=
  c.interference.underLock (c.interference.beforeLock db)

/-- The ledger row under the lock is not the one the candidate was read with. -/
def ledgerChanged : Prop :=
  (c.lockedTables db).ledgers.lookup c.market ≠ c.candidate.baseline

/-- What the settlement of an admitted execution writes. -/
def settlementWrites (locked : SettlementDb) (seen : SettlementExecution) (outcome : SettledOutcome)
    (resolution : Risex4CResolution) : List RowWrite :=
  [.ledger (seen.userId, seen.asset)
      (settledLedger c.newLedgerId seen.executionId c.snapshot
        (locked.ledgers.lookup (seen.userId, seen.asset))),
    .execution seen.executionId fun row => { row with avgPrice := c.evidence.avgPrice },
    .execution seen.executionId
      (settledRow outcome
        { seen with providerTruth := some c.snapshot, resolution := some resolution } c.now)]

/-- Neither the reads and writes of the settlement nor its commit fail. -/
def writable (locked : SettlementDb) : Prop :=
  (∃ row, locked.executions.lookup c.candidate.executionId = some row) ∧
    c.truthFails = false ∧ c.commitFails = false

/-- The job, read again, can still be finished, and the write that finishes it does not fail. -/
def jobFinishes (db : SettlementDb) : Prop :=
  ∃ job, db.jobs.lookup c.candidate.jobId = some job ∧ job.state.active ∧ c.finishFails = false

/-- Wherever the settlement gets to its commit, the job can be finished behind it. -/
def FinishesBehindCommit : Prop :=
  ∀ seen outcome resolution,
    c.admission (c.interference.beforeLock db) = some (seen, outcome, resolution) →
    c.writable (c.lockedTables db) →
    c.jobFinishes (c.interference.afterCommit
      (applyWrites (c.settlementWrites (c.lockedTables db) seen outcome resolution)
        (c.lockedTables db)))

/-- What the checks under the lock establish. -/
structure Admitted (seen : SettlementExecution) (outcome : SettledOutcome) : Prop where
  ledger : db.ledgers.lookup c.market = c.candidate.baseline
  execution : seen.executionId = c.candidate.executionId
  unresolved : seen.state.unresolved
  definitive : outcome.definitive
  terminal : caseATerminal outcome.executionState
  accepted : outcome.executionState ≠ .rejected

lemma currentExecution_eq_some {seen : SettlementExecution}
    (h : c.currentExecution db = some seen) :
    seen.executionId = c.candidate.executionId ∧ seen.state.unresolved := by
  unfold currentExecution at h
  split at h
  case h_1 execution job epoch _ _ _ =>
    by_cases hmatch : c.identityMatches execution job epoch
    · rw [if_pos hmatch] at h
      cases h
      simp only [identityMatches, Bool.and_eq_true, decide_eq_true_eq] at hmatch
      tauto
    · rw [if_neg hmatch] at h
      cases h
  case h_2 => cases h

lemma settledEvidence_eq_some {outcome : SettledOutcome} {resolution : Risex4CResolution}
    (h : c.settledEvidence = some (outcome, resolution)) :
    outcome.definitive ∧
      (outcome.executionState = .filled ∨ outcome.executionState = .canceled) := by
  unfold settledEvidence at h
  split at h
  case h_1 state filled orderId block _ _ _ _ =>
    by_cases hevidence : (state = .filled ∨ state = .canceled) ∧ 0 ≤ filled
    · rw [if_pos hevidence] at h
      cases h
      exact ⟨rfl, hevidence.1⟩
    · rw [if_neg hevidence] at h
      cases h
  case h_2 => cases h

lemma admitted_of_admission {seen : SettlementExecution} {outcome : SettledOutcome}
    {resolution : Risex4CResolution}
    (h : c.admission db = some (seen, outcome, resolution)) : c.Admitted db seen outcome := by
  unfold admission at h
  cases hcurrent : c.currentExecution db with
  | none => simp [hcurrent] at h
  | some execution =>
      simp only [hcurrent] at h
      by_cases hledger : db.ledgers.lookup c.market ≠ c.candidate.baseline
      · simp [hledger] at h
      rw [if_neg hledger] at h
      by_cases hpeer : db.peer c.market c.candidate.executionId
      · simp [hpeer] at h
      rw [if_neg hpeer] at h
      obtain ⟨found, hfound, heq⟩ := Option.map_eq_some_iff.1 h
      obtain ⟨rfl, rfl⟩ := Prod.mk.inj heq
      obtain ⟨hid, hopen⟩ := c.currentExecution_eq_some db hcurrent
      obtain ⟨hdefinitive, hstate⟩ := c.settledEvidence_eq_some hfound
      refine ⟨not_not.1 hledger, hid, hopen, hdefinitive, ?_, ?_⟩
      · rcases hstate with hstate | hstate <;> simp [hstate, caseATerminal]
      · rcases hstate with hstate | hstate <;> simp [hstate]

lemma persistSnapshot_eq_ok {locked : SettlementDb} {seen : SettlementExecution}
    {resolution : Risex4CResolution} {truth : TruthWrites} :
    c.persistSnapshot locked seen resolution = .ok truth ↔
      c.truthFails = false ∧
        truth = ([.ledger (seen.userId, seen.asset)
              (settledLedger c.newLedgerId seen.executionId c.snapshot
                (locked.ledgers.lookup (seen.userId, seen.asset))),
            .execution seen.executionId fun row => { row with avgPrice := c.evidence.avgPrice }],
          { seen with providerTruth := some c.snapshot, resolution := some resolution }) := by
  simp only [persistSnapshot, applySnapshot, bind_eq_ok, require_eq_ok, Bool.not_eq_true',
    pure, Except.pure, Except.ok.injEq]
  constructor
  · rintro ⟨_, ⟨_, htruth, rfl⟩, rfl⟩
    exact ⟨htruth, rfl⟩
  · rintro ⟨htruth, rfl⟩
    exact ⟨_, ⟨(), htruth, rfl⟩, rfl⟩

/-- The settlement of an admitted execution commits exactly where nothing fails, and then all its
writes. -/
lemma settle_eq_ok {locked : SettlementDb} {seen : SettlementExecution} {outcome : SettledOutcome}
    {resolution : Risex4CResolution} {writes : List RowWrite} (h : c.Admitted db seen outcome) :
    c.settle locked seen outcome resolution = .ok writes ↔
      c.writable locked ∧ writes = c.settlementWrites locked seen outcome resolution := by
  rw [settle, settleUnderAccountingLock_eq_ok, settlementTruth, if_neg h.accepted]
  simp only [Option.getD_some, persistSnapshot_eq_ok, h.definitive, h.terminal, h.unresolved,
    true_and]
  rw [h.execution]
  constructor
  · rintro ⟨hrow, truth, ⟨htruth, rfl⟩, hcommit, rfl⟩
    exact ⟨⟨hrow, htruth, hcommit⟩, by simp [settlementWrites, h.execution]⟩
  · rintro ⟨⟨hrow, htruth, hcommit⟩, rfl⟩
    exact ⟨hrow, _, ⟨htruth, rfl⟩, hcommit, by simp [settlementWrites, h.execution]⟩

lemma settlementWrites_ne_nil {locked : SettlementDb} {seen : SettlementExecution}
    {outcome : SettledOutcome} {resolution : Risex4CResolution} :
    c.settlementWrites locked seen outcome resolution ≠ [] := by
  simp [settlementWrites]

/-- Behind a commit that wrote something, only a job that is finished makes the run atomic. -/
lemma finish_atomic_iff {ledgerChanged : Prop} {outcome : SettledOutcome} {writes : List RowWrite}
    {undisturbed : SettlementDb} (hledger : ¬ledgerChanged) (hwrites : writes ≠ []) :
    SettlementAtomic ledgerChanged (c.finish outcome writes db undisturbed) ↔ c.jobFinishes db := by
  unfold finish jobFinishes
  cases hjob : db.jobs.lookup c.candidate.jobId with
  | none =>
      simp only [reduceCtorEq, false_and, exists_false, iff_false]
      exact fun h => hwrites (h.reported rfl).1
  | some job =>
      simp only [Option.some.injEq, exists_eq_left']
      by_cases hactive : job.state.active
      · rw [if_neg (by simp [hactive])]
        by_cases hfinish : c.finishFails
        · rw [if_pos hfinish]
          simp only [hfinish, reduceCtorEq, and_false, iff_false]
          exact fun h => hwrites (h.failed _ rfl).1
        · rw [if_neg hfinish]
          simp only [hactive, hfinish, and_self, iff_true]
          exact settled_atomic hledger rfl
      · rw [if_pos (by simp [hactive])]
        simp only [hactive, Bool.false_eq_true, false_and, iff_false]
        exact fun h => hwrites (h.reported rfl).1

lemma settleAdmitted_atomic_iff {ledgerChanged : Prop} {locked : SettlementDb}
    {seen : SettlementExecution} {outcome : SettledOutcome} {resolution : Risex4CResolution}
    (hadmitted : c.Admitted db seen outcome) (hledger : ¬ledgerChanged) :
    SettlementAtomic ledgerChanged (c.settleAdmitted locked seen outcome resolution) ↔
      (c.writable locked →
        c.jobFinishes (c.interference.afterCommit
          (applyWrites (c.settlementWrites locked seen outcome resolution) locked))) := by
  unfold settleAdmitted
  cases hsettle : c.settle locked seen outcome resolution with
  | error e =>
      have hblocked : ¬c.writable locked := fun hwritable => by
        have hok : c.settle locked seen outcome resolution = .ok _ :=
          (c.settle_eq_ok db hadmitted).2 ⟨hwritable, rfl⟩
        rw [hsettle] at hok
        cases hok
      simp only [hblocked, false_implies, iff_true]
      exact endedAt_atomic ..
  | ok writes =>
      obtain ⟨hwritable, rfl⟩ := (c.settle_eq_ok db hadmitted).1 hsettle
      simp only [hwritable, true_implies]
      exact c.finish_atomic_iff _ hledger c.settlementWrites_ne_nil

/-- The resolver's routine is all or nothing exactly where its job can be finished. -/
lemma settleCandidate_atomic_iff :
    SettlementAtomic (c.ledgerChanged db) (c.settleCandidate db) ↔ c.FinishesBehindCommit db := by
  unfold settleCandidate FinishesBehindCommit
  cases hadmission : c.admission (c.interference.beforeLock db) with
  | none =>
      simp only [hadmission, reduceCtorEq, false_implies, implies_true, iff_true]
      exact endedAt_atomic ..
  | some found =>
      obtain ⟨seen, outcome, resolution⟩ := found
      have hadmitted := c.admitted_of_admission _ hadmission
      have hledger : ¬c.ledgerChanged db :=
        not_not.2 ((c.interference.keepsLedger _).trans hadmitted.ledger)
      simp only [hadmission, Option.some.injEq, Prod.mk.injEq, and_imp]
      rw [c.settleAdmitted_atomic_iff _ hadmitted hledger]
      constructor
      · rintro h _ _ _ rfl rfl rfl
        exact h
      · intro h
        exact h seen outcome resolution rfl rfl rfl

end CandidateCall

/-- **Settlement is all or nothing**: always for the worker's routine, and for the resolver's
exactly where a settlement that reaches its commit leaves a job that can still be finished. -/
theorem settlement_atomic_iff_job_finishes (p : PersistCall) (c : CandidateCall)
    (db db' : SettlementDb) :
    SettlementAtomic (p.ledgerChanged db) (p.persistRisexProviderTruth db) ∧
      (SettlementAtomic (c.ledgerChanged db') (c.settleCandidate db') ↔
        c.FinishesBehindCommit db') :=
  ⟨p.persist_atomic db, c.settleCandidate_atomic_iff db'⟩

/-! ## A settlement that is reported as none -/

/-- An execution whose outcome is unknown. -/
def openExecution : SettlementExecution where
  executionId := 1
  userId := 1
  asset := 3
  executionEpochId := 1
  cloid := 1
  clientOrderId := 7
  nonceAnchor := 5
  nonceBitmapIndex := 0
  state := .unknown
  isBuy := true
  requestedSize := 2
  reduceOnly := false
  limitPx := 10
  exchangeOid := none
  filledSize := 0
  submissionStatus := .postInFlight
  terminalOutcome := none
  executionProvider := some .risex
  executionNetwork := .testnet
  terminalReason := none
  avgPrice := none
  rejectReason := none
  resolvedAt := none
  providerTruth := none
  resolution := none
  settlementSerialized := false

/-- Given up after five attempts, with its order still open at the provider. -/
def deadJob : SettlementJob where
  asset := 3
  symbol := ['S', 'O', 'L']
  context := none
  userId := 1
  executionEpochId := some 1
  executionProvider := some .risex
  executionNetwork := some .testnet
  cloid := 1
  clientOrderId := 7
  state := .dead
  attemptCount := 5
  lastError := none
  owner := none
  lockedUntil := none
  nextAttemptAt := none

/-- Its job is dead. -/
def deadJobTables : SettlementDb where
  executions := (∅ : Table ExecutionId SettlementExecution).insert 1 openExecution
  jobs := (∅ : Table JobId SettlementJob).insert 1 deadJob
  epochs := (∅ : Table EpochId ExecutionEpoch).insert 1
    ⟨1, .risex, .testnet, some 9, none, 0, none, 0⟩
  ledgers := ∅

/-- Its call, with the evidence of a fill. -/
def deadJobCall : CandidateCall where
  candidate := ⟨1, 1, 1, 1, 3, 9, 7, 5, 0, none⟩
  evidence := ⟨some .filled, some 2, some 44, some 100, none, some 10, none, none, none, none⟩
  snapshot := ⟨3, 2, 10, 60⟩
  interference := ⟨id, id, id, fun _ => rfl⟩
  newLedgerId := 1
  now := 61
  truthFails := false
  commitFails := false
  finishFails := false

/-- Nobody else touches the tables, and the resolver answers that it did not settle an execution it
has filled. -/
theorem not_settled_after_commit :
    (deadJobCall.settleCandidate deadJobTables).outcome = .notSettled ∧
      (((deadJobCall.settleCandidate deadJobTables).db.executions.lookup 1).map (·.state)) =
        some .filled ∧
      (((deadJobCall.settleCandidate deadJobTables).undisturbed.executions.lookup 1).map
        (·.state)) = some .unknown ∧
      ¬SettlementAtomic (deadJobCall.ledgerChanged deadJobTables)
        (deadJobCall.settleCandidate deadJobTables) := by
  have hreported : (deadJobCall.settleCandidate deadJobTables).outcome = .notSettled := by
    decide +kernel
  refine ⟨hreported, by decide +kernel, by decide +kernel, fun h => ?_⟩
  have huntouched := (h.reported hreported).1
  revert huntouched
  decide +kernel

end HyperCopy

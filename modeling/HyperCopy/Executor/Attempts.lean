import HyperCopy.Executor.Locking

/-!
# What an attempt knows about its leg

An attempt keeps its plan in memory from the moment it has read the ledger, while the tables move
on.  `LegReady` is what still holds of the leg it is working on, `StageOk` adds what holds of the
execution row of the leg at each stage, and `Disciplined` is the invariant of the whole state.  The
frame rule carries all of it over the steps of other tasks, so each lemma below is about one step
of the attempt itself.
-/

namespace HyperCopy

/-- The plan of an attempt, seen from the ledger size of its market.  A profit exit is planned for
the synchronized ledger, or replays the row it finds. -/
inductive AttemptShape (venue : Venue) (s : ExecutorState) (id : JobId) (a : Attempt) : Prop
  | strategy (shape : PlanShape a.plan (s.ledger a.market).size.value
      (venue.szDecimals a.market.asset))
  | exit (reduceOnly : a.plan.reduceOnly = true) (single : a.plan.secondary = none)
      (kind : primaryKind a.plan = .o)
      (current : (s.executions.lookup ⟨id, .o⟩).isSome = true ∨
        persistedLedgerDecimal a.plan.currentSize = (s.ledger a.market).size)

/-- The close leg of the job has filled for at least what it requested, and its fill is in the
ledger. -/
def CloseSettled (s : ExecutorState) (id : JobId) : Prop :=
  ∃ row filled, s.executions.lookup ⟨id, .c⟩ = some row ∧ row.state = .filled ∧
    row.filledSize = some filled ∧ row.requestedSize ≤ filled ∧ row.ledgerAppliedAt.isSome = true

/-- The ledger size is less than one lot. -/
def Flat (venue : Venue) (s : ExecutorState) (market : Market) : Prop :=
  |(s.ledger market).size.value| < lot (venue.szDecimals market.asset)

/-- The leg may be journaled. -/
inductive LegReady (venue : Venue) (s : ExecutorState) (id : JobId) (a : Attempt) :
    AttemptLeg → Prop
  | primary (shape : AttemptShape venue s id a) : LegReady venue s id a a.primaryLeg
  | opening (second : SizingLeg) (hsecond : a.plan.secondary = some second)
      (hadds : second.reduceOnly = false) (hcurrent : second.currentSize = 0)
      (hclosed : CloseSettled s id) (hflat : Flat venue s a.market) :
      LegReady venue s id a ⟨.o, second, true⟩

/-- What holds of a leg and of its row at each stage. -/
def StageOk (venue : Venue) (s : ExecutorState) (id : JobId) : Stage → Prop
  | .waiting _ | .locked | .closing _ => True
  | .entering a leg => LegReady venue s id a leg
  | .journaled a leg => LegReady venue s id a leg ∧ ⟨id, leg.kind⟩ ∉ s.calls ∧
      ∃ row, s.executions.lookup ⟨id, leg.kind⟩ = some row ∧ row.state = .submitting ∧
        row.isBuy = leg.order.isBuy ∧ row.reduceOnly = leg.order.reduceOnly
  | .inFlight a leg => LegReady venue s id a leg ∧
      ∃ row, s.executions.lookup ⟨id, leg.kind⟩ = some row ∧ row.state = .submitting
  | .filled a leg filledSize => LegReady venue s id a leg ∧
      ∃ row, s.executions.lookup ⟨id, leg.kind⟩ = some row ∧ row.state = .filled ∧
        row.filledSize = filledSize

/-- The close leg of a reversal requests the whole ledger size it was journaled with. -/
def CloseRowsWhole (venue : Venue) (s : ExecutorState) : Prop :=
  ∀ id row, s.executions.lookup ⟨id, .c⟩ = some row → ∃ size, row.ledgerSizeBeforeSubmit = some size ∧
    row.requestedSize = roundSize size.value (venue.szDecimals row.market.asset)

/-- The invariant of a run: every attempt is where its rows say, and no order is called for
twice. -/
structure Disciplined (venue : Venue) (s : ExecutorState) : Prop where
  coherent : Coherent s
  stages : ∀ t id u n stage, s.tasks.lookup t = some (.attempt id u n stage) →
    StageOk venue s id stage
  closeRows : CloseRowsWhole venue s
  calls : s.calls.Nodup
  called : ∀ k ∈ s.calls, (s.executions.lookup k).isSome = true
  applied : s.applied.Nodup
  marked : ∀ k ∈ s.applied, ∃ row, s.executions.lookup k = some row ∧
    row.ledgerAppliedAt.isSome = true

/-! ## Legs stay ready -/

section Legs

variable {venue : Venue} {s s' : ExecutorState} {id : JobId} {a : Attempt} {leg : AttemptLeg}

lemma CloseSettled.mono (h : CloseSettled s id)
    (hclose : s'.executions.lookup ⟨id, .c⟩ = s.executions.lookup ⟨id, .c⟩) :
    CloseSettled s' id := by
  obtain ⟨row, filled, hrow, hrest⟩ := h
  exact ⟨row, filled, hclose.trans hrow, hrest⟩

/-- A leg stays ready while the ledger size of its market stands, its rows stay, and, for an
opening leg, the close row is not touched. -/
lemma LegReady.mono (h : LegReady venue s id a leg) (hledger : s'.ledger a.market = s.ledger a.market)
    (hrow : (s.executions.lookup ⟨id, .o⟩).isSome = true →
      (s'.executions.lookup ⟨id, .o⟩).isSome = true)
    (hclose : leg.opening = true →
      s'.executions.lookup ⟨id, .c⟩ = s.executions.lookup ⟨id, .c⟩) :
    LegReady venue s' id a leg := by
  cases h with
  | primary shape =>
      refine .primary ?_
      cases shape with
      | strategy shape => exact .strategy (by rw [hledger]; exact shape)
      | exit reduceOnly single kind current =>
          refine .exit reduceOnly single kind ?_
          rw [hledger]
          exact current.imp_left hrow
  | opening second hsecond hadds hcurrent hclosed hflat =>
      refine .opening second hsecond hadds hcurrent (hclosed.mono (hclose rfl)) ?_
      unfold Flat
      rw [hledger]
      exact hflat

lemma LegReady.sameFor {u : UserId} (hsame : SameFor u s s') (hjob : JobOfUser s.jobs id u)
    (hu : a.market.userId = u) (h : LegReady venue s id a leg) : LegReady venue s' id a leg :=
  h.mono (hsame.ledger _ hu) (fun hrow => by rw [hsame.executions id .o hjob]; exact hrow)
    fun _ => hsame.executions id .c hjob

lemma StageOk.sameFor {u : UserId} {stage : Stage} (hsame : SameFor u s s')
    (hjob : JobOfUser s.jobs id u) (hu : ∀ a, stage.attempt? = some a → a.market.userId = u)
    (h : StageOk venue s id stage) : StageOk venue s' id stage := by
  cases stage with
  | waiting | locked | closing => trivial
  | entering a leg => exact LegReady.sameFor hsame hjob (hu a rfl) h
  | inFlight a leg =>
      obtain ⟨hready, row, hrow, hrest⟩ := h
      refine ⟨hready.sameFor hsame hjob (hu a rfl), row, ?_, hrest⟩
      rw [hsame.executions id leg.kind hjob]
      exact hrow
  | journaled a leg =>
      obtain ⟨hready, hcalls, row, hrow, hrest⟩ := h
      refine ⟨hready.sameFor hsame hjob (hu a rfl), ?_, row, ?_, hrest⟩
      · rw [hsame.calls id leg.kind hjob]
        exact hcalls
      · rw [hsame.executions id leg.kind hjob]
        exact hrow
  | filled a leg filledSize =>
      obtain ⟨hready, row, hrow, hrest⟩ := h
      refine ⟨hready.sameFor hsame hjob (hu a rfl), row, ?_, hrest⟩
      rw [hsame.executions id leg.kind hjob]
      exact hrow

/-- The leg is of kind `c` only where it closes a reversal. -/
lemma LegReady.kind_c (h : LegReady venue s id a leg) (hkind : leg.kind = .c) :
    leg = a.primaryLeg ∧ a.plan.intent = .reverse ∧
      PlanShape a.plan (s.ledger a.market).size.value (venue.szDecimals a.market.asset) := by
  cases h with
  | primary shape =>
      have hintent : a.plan.intent = .reverse := by
        by_contra hne
        simp [Attempt.primaryLeg, primaryKind, hne] at hkind
      cases shape with
      | strategy shape => exact ⟨rfl, hintent, shape⟩
      | exit reduceOnly single kind current =>
          rw [primaryKind, if_pos hintent] at kind
          cases kind
  | opening => cases hkind

lemma LegReady.kind_of_opening (h : LegReady venue s id a leg) (hopening : leg.opening = true) :
    leg.kind = .o := by
  cases h with
  | primary => cases hopening
  | opening => rfl

/-- Writing the row of the leg keeps the leg ready. -/
lemma LegReady.write (h : LegReady venue s id a leg) {row : Execution}
    (hledger : s'.ledger a.market = s.ledger a.market)
    (hrows : s'.executions = s.executions.insert ⟨id, leg.kind⟩ row) :
    LegReady venue s' id a leg := by
  refine h.mono hledger ?_ ?_
  · intro hsome
    rw [hrows, Table.lookup_insert_eq]
    split_ifs
    · rfl
    · exact hsome
  · intro hopening
    rw [hrows, Table.lookup_insert_eq, if_neg]
    rw [h.kind_of_opening hopening]
    simp

end Legs

/-! ## One step of an attempt -/

section Steps

variable {venue : Venue} {s s' : ExecutorState} {now : ℕ} {id : JobId} {a : Attempt}
  {leg : AttemptLeg}

/-- The plan an attempt begins with has the shape the ledger asks for. -/
lemma BeginsWith.shape {job : CopyJob} {reads : ProfitExitReads}
    (h : BeginsWith s id job reads a)
    (hdecimals : reads.spec.szDecimals = venue.szDecimals job.market.asset) :
    AttemptShape venue s id a := by
  cases h with
  | submit submission hplan ha =>
      subst ha
      obtain ⟨-, hn, hshape⟩ := planAttempt_submit hplan
      refine .strategy ?_
      have h := hshape.shape
      rw [hn, hdecimals] at h
      exact h
  | exit status order hattempt hagree hplan ha =>
      subst ha
      obtain ⟨-, d, -, hfresh⟩ := planProfitExit_goesOn.1 order hplan
      obtain ⟨-, ⟨view, hview, hsize⟩, o, -, hclose⟩ := planFreshProfitExit_ok hfresh
      refine .exit hclose.reduceOnly hclose.single (by simp [primaryKind, hclose.intent])
        (Or.inr ?_)
      simp only [profitExitReadsAgree, Bool.and_eq_true] at hagree
      have hledger : view.size = (s.ledger job.market).size := by
        simpa [hview] using hagree.2
      exact hsize.symm.trans hledger
  | recover status intent existing current hattempt hagree hplan ha =>
      subst ha
      have hexisting := planProfitExit_goesOn.2 intent existing current hplan
      refine .exit rfl rfl rfl (Or.inl ?_)
      simp only [profitExitReadsAgree, Bool.and_eq_true, decide_eq_true_eq] at hagree
      have hrow : existingExecution s id = some existing := by rw [← hagree.1.2, hexisting]
      simpa [existingExecution] using congrArg Option.isSome hrow

/-- The size of the position that an executable plan closes is at least one lot. -/
lemma PlanShape.lot_le_abs {p : SizingResult} {current : ℚ} {n : ℕ} (h : PlanShape p current n)
    (hreverse : p.intent = .reverse) : lot n ≤ |current| := by
  obtain ⟨-, hsize⟩ := h.reverse_size hreverse
  have hpos := h.pos
  rw [hsize] at hpos
  exact lot_le_abs_of_roundSize_pos hpos

/-- **The flat test.**  An attempt goes on to the opening leg only if its close leg has filled for
at least what its row requested, the fill is in the ledger, and less than one lot is left. -/
lemma opening_ready {k : Cloid} {row row' : Execution} {ledger' : LedgerRow} {added : Bool}
    {filledSize : Option ℚ} {second : SizingLeg} (hk : k = ⟨id, leg.kind⟩)
    (hready : LegReady venue s id a leg) (hwhole : CloseRowsWhole venue s)
    (hrow : s.executions.lookup k = some row) (hmarket : row.market = a.market)
    (hfilled : row.filledSize = filledSize)
    (happly : applyFillToLedger k row (s.ledger a.market) now = some (row', ledger', added))
    (hsecond : a.plan.secondary = some second) (hopening : leg.opening = false)
    (hflat : leg.kind = .c → closeLegFlattened
      (roundSize a.plan.orderSize (venue.szDecimals a.market.asset)) filledSize ledger'.size.value
      (venue.szDecimals a.market.asset))
    (hrow' : s'.executions.lookup k = some row') (hledger : s'.ledger a.market = ledger') :
    LegReady venue s' id a ⟨.o, second, true⟩ := by
  obtain ⟨hstate, hfill⟩ := applyFillToLedger_eq_some happly
  -- the primary leg of a reversal is the close leg
  have hshape : PlanShape a.plan (s.ledger a.market).size.value
      (venue.szDecimals a.market.asset) := by
    cases hready with
    | primary shape =>
        cases shape with
        | strategy shape => exact shape
        | exit reduceOnly single kind current =>
            rw [single] at hsecond
            cases hsecond
    | opening => cases hopening
  obtain ⟨hreverse, hadds, -, -, -, hcurrent⟩ := hshape.secondary_reverse second hsecond
  have hkind : leg.kind = .c := by
    cases hready with
    | primary shape => simp [Attempt.primaryLeg, primaryKind, hreverse]
    | opening => cases hopening
  obtain ⟨hreduce, hsize⟩ := hshape.reverse_size hreverse
  have htest := hflat hkind
  rw [hshape.rounded] at htest
  cases hfs : filledSize with
  | none => simp [closeLegFlattened, hfs] at htest
  | some filled =>
      simp only [closeLegFlattened, hfs, Bool.and_eq_true, decide_eq_true_eq] at htest
      obtain ⟨⟨-, hfull⟩, hsmall⟩ := htest
      have hlarge := hshape.lot_le_abs hreverse
      rw [hkind] at hk
      subst hk
      -- a ledger that was not written is not flat
      have hunchanged : ledger'.size ≠ (s.ledger a.market).size := by
        intro heq
        rw [heq] at hsmall
        exact absurd hsmall hlarge.not_gt
      have hclosed : CloseSettled s' id := by
        cases hfill with
        | already => exact absurd rfl hunchanged
        | legacy => exact absurd rfl hunchanged
        | attributed => exact absurd rfl hunchanged
        | verified => exact absurd rfl hunchanged
        | added size last hflag hbefore hlast hpos hattr hverified hledger₀ =>
            obtain ⟨size', hsize', hrequested⟩ := hwhole id row hrow
            obtain rfl := Option.some.inj (hbefore.symm.trans hsize')
            refine ⟨_, filled, hrow', hstate, hfilled.trans hfs, ?_, rfl⟩
            change row.requestedSize ≤ filled
            rw [hrequested, hmarket, ← hledger₀, ← hsize]
            exact hfull
      refine .opening second hsecond hadds hcurrent hclosed ?_
      unfold Flat
      rw [hledger]
      exact hsmall

end Steps

/-! ## How rows evolve -/

/-- An execution row keeps what it was journaled with, a mark on it stays, and a terminal outcome
stays. -/
structure RowEvolves (row row' : Execution) : Prop where
  market : row'.market = row.market
  createdAt : row'.createdAt = row.createdAt
  isBuy : row'.isBuy = row.isBuy
  requestedSize : row'.requestedSize = row.requestedSize
  sizeBefore : row'.ledgerSizeBeforeSubmit = row.ledgerSizeBeforeSubmit
  lastBefore : row'.ledgerLastExecutionIdBeforeSubmit = row.ledgerLastExecutionIdBeforeSubmit
  marked : row.ledgerAppliedAt.isSome = true → row'.ledgerAppliedAt.isSome = true
  terminal : row.state.terminal = true →
    row'.state = row.state ∧ row'.filledSize = row.filledSize ∧ row'.resolvedAt = row.resolvedAt

section Rows

variable {venue : Venue} {s s' : ExecutorState} {now : ℕ} {op : ExecutorOp}
  {actor : Option TaskId}

lemma RowEvolves.refl (row : Execution) : RowEvolves row row :=
  ⟨rfl, rfl, rfl, rfl, rfl, rfl, id, fun _ => ⟨rfl, rfl, rfl⟩⟩

lemma persistOutcome_evolves {row row' : Execution} {o : OrderOutcome}
    (h : persistOutcome row o now = some row') (hopen : row.state.terminal = false) :
    RowEvolves row row' := by
  rw [(persistOutcome_eq_some h).1]
  refine ⟨rfl, rfl, rfl, rfl, rfl, rfl, id, fun hterminal => ?_⟩
  rw [hopen] at hterminal
  cases hterminal

lemma FillApplied.evolves {k : Cloid} {row row' : Execution} {ledger ledger' : LedgerRow}
    {added : Bool} (h : FillApplied k row ledger now row' ledger' added) : RowEvolves row row' := by
  obtain ⟨rfl, -⟩ | ⟨rfl, -⟩ := h.row_eq
  · exact RowEvolves.refl row'
  · exact ⟨rfl, rfl, rfl, rfl, rfl, rfl, fun _ => rfl, fun _ => ⟨rfl, rfl, rfl⟩⟩

/-- One row is written, all others stay. -/
lemma row_insert {k k' : Cloid} {old new row : Execution} {rows : Table Cloid Execution}
    (hold : rows.lookup k = some old) (hevolves : RowEvolves old new)
    (hrow : rows.lookup k' = some row) :
    ∃ row', (rows.insert k new).lookup k' = some row' ∧ RowEvolves row row' := by
  rw [Table.lookup_insert_eq]
  split_ifs with hk
  · subst hk
    obtain rfl := Option.some.inj (hold.symm.trans hrow)
    exact ⟨new, rfl, hevolves⟩
  · exact ⟨row, hrow, RowEvolves.refl row⟩

lemma row_insert_none {k k' : Cloid} {old : Execution} (new : Execution)
    {rows : Table Cloid Execution} (hold : rows.lookup k = some old)
    (hnone : rows.lookup k' = none) : (rows.insert k new).lookup k' = none := by
  rw [Table.lookup_insert_eq, if_neg]
  · exact hnone
  · rintro rfl
    rw [hold] at hnone
    cases hnone

/-- The row that a recorded outcome is written to is unresolved. -/
lemma Disciplined.open_of_record (hd : Disciplined venue s) {t : TaskId} {id : JobId} {u : UserId}
    {n : ℕ} {stage : Stage} {a : Attempt} {leg : AttemptLeg} {row : Execution}
    (htask : s.tasks.lookup t = some (.attempt id u n stage))
    (hstage : stage = .entering a leg ∧ row.state.terminal = false ∨ stage = .inFlight a leg)
    (hrow : s.executions.lookup ⟨id, leg.kind⟩ = some row) : row.state.terminal = false := by
  obtain ⟨-, hopen⟩ | rfl := hstage
  · exact hopen
  · obtain ⟨-, row', hrow', hsubmitting⟩ := hd.stages t id u n _ htask
    obtain rfl := Option.some.inj (hrow.symm.trans hrow')
    rw [hsubmitting]
    rfl

lemma Disciplined.row_forward (hd : Disciplined venue s)
    (h : ExecutorEffect venue s now op actor s') {k : Cloid} {row : Execution}
    (hrow : s.executions.lookup k = some row) :
    ∃ row', s'.executions.lookup k = some row' ∧ RowEvolves row row' := by
  cases h with
  | schedule | acquire | begin | leave | replay | place | fill | snapshot | reconcile | query =>
      exact ⟨row, hrow, RowEvolves.refl row⟩
  | journal t id u n a leg htask hnone =>
      refine ⟨row, ?_, RowEvolves.refl row⟩
      change (s.executions.insert _ _).lookup k = some row
      rw [Table.lookup_insert_eq, if_neg]
      · exact hrow
      · rintro rfl
        rw [hnone] at hrow
        cases hrow
  | record t id u n stage a leg old new o hop htask hstage hold hreported hnew =>
      exact row_insert hold (persistOutcome_evolves hnew (hd.open_of_record htask hstage hold)) hrow
  | apply t id u n a leg filledSize old new ledger' added htask hold happly =>
      exact row_insert hold (applyFillToLedger_eq_some happly).2.evolves hrow
  | resolve t k₀ market verdict seen old new verifiedAt htask hold hopen hverified hnew =>
      exact row_insert hold (persistOutcome_evolves hnew hopen) hrow

/-- Every row either was there or is being journaled. -/
lemma Disciplined.row_backward (hd : Disciplined venue s)
    (h : ExecutorEffect venue s now op actor s') {k : Cloid} {row' : Execution}
    (hrow' : s'.executions.lookup k = some row') :
    (∃ row, s.executions.lookup k = some row ∧ RowEvolves row row') ∨
      s.executions.lookup k = none ∧ ∃ t id u n a leg, actor = some t ∧ k = ⟨id, leg.kind⟩ ∧
        s.tasks.lookup t = some (.attempt id u n (.entering a leg)) ∧
        row' = newExecution a leg (venue.szDecimals a.market.asset) (s.ledger a.market) now := by
  cases hrow : s.executions.lookup k with
  | some row =>
      obtain ⟨row₁, hrow₁, hevolves⟩ := hd.row_forward h hrow
      obtain rfl := Option.some.inj (hrow'.symm.trans hrow₁)
      exact Or.inl ⟨row, rfl, hevolves⟩
  | none =>
      refine Or.inr ⟨rfl, ?_⟩
      have hsame : s'.executions.lookup k ≠ s.executions.lookup k := by
        rw [hrow', hrow]
        simp
      cases h with
      | schedule | acquire | begin | leave | replay | place | fill | snapshot | reconcile | query =>
          exact absurd rfl hsame
      | journal t id u n a leg htask hnone =>
          obtain ⟨rfl, rfl⟩ | hold := Table.lookup_insert_cases hrow'
          · exact ⟨t, id, u, n, a, leg, rfl, rfl, htask, rfl⟩
          · rw [hrow] at hold
            cases hold
      | record t id u n stage a leg old new o hop htask hstage hold hreported hnew =>
          exact absurd ((row_insert_none new hold hrow).symm.trans hrow') (by simp)
      | apply t id u n a leg filledSize old new ledger' added htask hold happly =>
          exact absurd ((row_insert_none new hold hrow).symm.trans hrow') (by simp)
      | resolve t k₀ market verdict seen old new verifiedAt htask hold hopen hverified hnew =>
          exact absurd ((row_insert_none new hold hrow).symm.trans hrow') (by simp)

end Rows

/-! ## The invariant -/

section Invariant

variable {venue : Venue} {s s' : ExecutorState} {now : ℕ} {op : ExecutorOp}
  {actor : Option TaskId}

lemma eq_of_lookup_insert {tasks : Table TaskId ExecutorTask} {t : TaskId}
    {new : ExecutorTask} {id : JobId} {u : UserId} {n : ℕ} {stage : Stage}
    (h : (tasks.insert t new).lookup t = some (.attempt id u n stage)) :
    .attempt id u n stage = new := by
  rw [AList.lookup_insert] at h
  exact (Option.some.inj h).symm

/-- A step of an attempt establishes what holds at its next stage. -/
lemma Disciplined.stage_of_actor (hd : Disciplined venue s) {t : TaskId}
    (h : ExecutorEffect venue s now op (some t) s') {id : JobId} {u : UserId} {n : ℕ} {stage : Stage}
    (ht : s'.tasks.lookup t = some (.attempt id u n stage)) : StageOk venue s' id stage := by
  cases h with
  | acquire _ id₀ u₀ n₀ n₁ w jobs' hjobs htask hfree =>
      cases eq_of_lookup_insert ht
      trivial
  | begin _ id₀ u₀ n₀ row reads stage₀ hop htask hjob hdecimals hstage =>
      cases eq_of_lookup_insert ht
      obtain ⟨c, rfl⟩ | ⟨a, rfl, hbegin⟩ := beginStage_cases hstage
      · trivial
      · exact LegReady.mono (.primary (hbegin.shape hdecimals)) rfl (fun h => h) fun _ => rfl
  | leave _ id₀ u₀ n₀ stage₀ c htask hleg =>
      cases eq_of_lookup_insert ht
      trivial
  | replay _ id₀ u₀ n₀ a leg row htask hrow hfilled =>
      cases eq_of_lookup_insert ht
      have hready : LegReady venue s id a leg := hd.stages t id u n _ htask
      exact ⟨hready.mono rfl (fun h => h) fun _ => rfl, row, hrow, hfilled, rfl⟩
  | journal _ id₀ u₀ n₀ a leg htask hrow =>
      cases eq_of_lookup_insert ht
      have hready : LegReady venue s id a leg := hd.stages t id u n _ htask
      refine ⟨hready.write rfl rfl, ?_, _, AList.lookup_insert _, rfl, rfl, rfl⟩
      intro hcalled
      have hsome := hd.called _ hcalled
      rw [hrow] at hsome
      cases hsome
  | place _ id₀ u₀ n₀ a leg row reaches htask hrow =>
      cases eq_of_lookup_insert ht
      obtain ⟨hready, -, row', hrow', hsubmitting, -⟩ := hd.stages t id u n _ htask
      exact ⟨hready.mono rfl (fun h => h) fun _ => rfl, row', hrow', hsubmitting⟩
  | record _ id₀ u₀ n₀ stage₀ a leg row row' o hop htask hstage hrow hreported hrow' =>
      cases eq_of_lookup_insert ht
      have hready : LegReady venue s id a leg := by
        obtain ⟨rfl, -⟩ | rfl := hstage
        · exact hd.stages t id u n _ htask
        · exact (hd.stages t id u n _ htask).1
      obtain ⟨hfilled, hnext⟩ | ⟨-, c, hnext⟩ := afterOutcome_cases a leg o
      · rw [hnext]
        refine ⟨hready.write rfl rfl, row', AList.lookup_insert _, ?_, ?_⟩
        · rw [(persistOutcome_eq_some hrow').1]
          exact hfilled
        · rw [(persistOutcome_eq_some hrow').1]
      · rw [hnext]
        trivial
  | apply _ id₀ u₀ n₀ a leg filledSize row row' ledger' added htask hrow happly =>
      cases eq_of_lookup_insert ht
      obtain ⟨hready, row₁, hrow₁, -, hsize⟩ := hd.stages t id u n _ htask
      obtain rfl := Option.some.inj (hrow.symm.trans hrow₁)
      obtain ⟨c, hnext⟩ | ⟨second, hnext, hopening, hsecond, hflat⟩ := afterApply_cases a leg
        filledSize ledger'.size.value (venue.szDecimals a.market.asset)
      · rw [hnext]
        trivial
      · rw [hnext]
        have hmarket := hd.coherent.row_market htask rfl hrow
        exact opening_ready rfl hready hd.closeRows hrow hmarket hsize happly hsecond hopening hflat
          (AList.lookup_insert _) (Function.update_self _ _ _)
  | snapshot => cases eq_of_lookup_insert ht
  | query => cases eq_of_lookup_insert ht
  | reconcile => exact absurd ht (by simp [ExecutorState.dropTask])
  | resolve => exact absurd ht (by simp [ExecutorState.dropTask])

/-- What holds of a leg survives the steps of the others. -/
lemma Disciplined.stages_step (hd : Disciplined venue s) (h : ExecutorEffect venue s now op actor s')
    {t : TaskId} {id : JobId} {u : UserId} {n : ℕ} {stage : Stage}
    (ht : s'.tasks.lookup t = some (.attempt id u n stage)) : StageOk venue s' id stage := by
  by_cases hactor : actor = some t
  · subst hactor
    exact hd.stage_of_actor h ht
  · cases stage with
    | waiting w => trivial
    | locked | closing | entering | journaled | inFlight | filled =>
        obtain ⟨hold, hsame⟩ := h.others_kept hd.coherent hactor ht rfl
        exact (hd.stages t id u n _ hold).sameFor hsame (hd.coherent.jobOfUser hold)
          fun a ha => hd.coherent.market_userId hold ha

lemma Disciplined.closeRows_step (hd : Disciplined venue s)
    (h : ExecutorEffect venue s now op actor s') : CloseRowsWhole venue s' := by
  intro id row' hrow'
  obtain ⟨row, hrow, hevolves⟩ | ⟨-, t, id₀, u, n, a, leg, -, hk, htask, rfl⟩ :=
    hd.row_backward h hrow'
  · obtain ⟨size, hsize, hrequested⟩ := hd.closeRows id row hrow
    refine ⟨size, by rw [hevolves.sizeBefore, hsize], ?_⟩
    rw [hevolves.requestedSize, hevolves.market, hrequested]
  · obtain ⟨rfl, hkind⟩ := Cloid.mk.inj hk
    have hready : LegReady venue s id a leg := hd.stages t id u n _ htask
    obtain ⟨rfl, hintent, hshape⟩ := hready.kind_c hkind.symm
    refine ⟨_, rfl, ?_⟩
    change roundSize a.plan.orderSize _ =
      roundSize (persistedLedgerDecimal a.plan.currentSize).value _
    rw [hshape.rounded, (hshape.reverse_size hintent).2, hshape.current_eq,
      persistedLedgerDecimal_value]
    rfl

lemma Disciplined.row_isSome (hd : Disciplined venue s) (h : ExecutorEffect venue s now op actor s')
    {k : Cloid} (hk : (s.executions.lookup k).isSome = true) :
    (s'.executions.lookup k).isSome = true := by
  obtain ⟨row, hrow⟩ := Option.isSome_iff_exists.1 hk
  obtain ⟨row', hrow', -⟩ := hd.row_forward h hrow
  rw [hrow']
  rfl

/-- The only submissions are the calls of `place_ioc`, each by an attempt that has journaled the
row of its leg. -/
lemma ExecutorEffect.calls_cases (h : ExecutorEffect venue s now op actor s') :
    s'.calls = s.calls ∨ ∃ t id u n a leg, actor = some t ∧
      s.tasks.lookup t = some (.attempt id u n (.journaled a leg)) ∧
      s'.calls = s.calls ++ [⟨id, leg.kind⟩] := by
  cases h with
  | place t id u n a leg row reaches htask hrow =>
      exact Or.inr ⟨t, id, u, n, a, leg, rfl, htask, rfl⟩
  | schedule | acquire | begin | leave | replay | journal | record | apply | fill => exact Or.inl rfl
  | snapshot | reconcile | query | resolve => exact Or.inl rfl

/-- A fill is added to the ledger only together with the mark on its row. -/
lemma ExecutorEffect.applied_cases (h : ExecutorEffect venue s now op actor s') :
    s'.applied = s.applied ∨ ∃ k row row', s.executions.lookup k = some row ∧
      row.ledgerAppliedAt = none ∧ s'.executions.lookup k = some row' ∧
      row'.ledgerAppliedAt.isSome = true ∧ s'.applied = s.applied ++ [k] := by
  cases h with
  | apply t id u n a leg filledSize row row' ledger' added htask hrow happly =>
      cases hadded : added with
      | false => exact Or.inl rfl
      | true =>
          subst hadded
          refine Or.inr ⟨_, row, row', hrow, ?_, AList.lookup_insert _, ?_, rfl⟩
          all_goals
            obtain ⟨-, hfill⟩ := applyFillToLedger_eq_some happly
            cases hfill
          · assumption
          · rfl
  | schedule | acquire | begin | leave | replay | journal | place | record | fill => exact Or.inl rfl
  | snapshot | reconcile | query | resolve => exact Or.inl rfl

theorem Disciplined.step (hd : Disciplined venue s) (h : ExecutorEffect venue s now op actor s') :
    Disciplined venue s' where
  coherent := hd.coherent.step h
  stages _ _ _ _ _ ht := hd.stages_step h ht
  closeRows := hd.closeRows_step h
  calls := by
    obtain heq | ⟨t, id, u, n, a, leg, -, htask, heq⟩ := h.calls_cases
    · rw [heq]
      exact hd.calls
    · rw [heq, List.nodup_append]
      refine ⟨hd.calls, List.nodup_singleton _, ?_⟩
      rintro k hk k' hk' rfl
      obtain rfl := List.mem_singleton.1 hk'
      exact (hd.stages t id u n _ htask).2.1 hk
  called k hk := by
    obtain heq | ⟨t, id, u, n, a, leg, -, htask, heq⟩ := h.calls_cases
    · exact hd.row_isSome h (hd.called k (heq ▸ hk))
    · rw [heq, List.mem_append, List.mem_singleton] at hk
      obtain hk | rfl := hk
      · exact hd.row_isSome h (hd.called k hk)
      · obtain ⟨-, -, row, hrow, -⟩ := hd.stages t id u n _ htask
        exact hd.row_isSome h (by rw [hrow]; rfl)
  applied := by
    obtain heq | ⟨k, row, row', hrow, hflag, -, -, heq⟩ := h.applied_cases
    · rw [heq]
      exact hd.applied
    · rw [heq, List.nodup_append]
      refine ⟨hd.applied, List.nodup_singleton _, ?_⟩
      rintro k₁ hk₁ k₂ hk₂ rfl
      obtain rfl := List.mem_singleton.1 hk₂
      obtain ⟨row₁, hrow₁, hmarked⟩ := hd.marked _ hk₁
      obtain rfl := Option.some.inj (hrow.symm.trans hrow₁)
      rw [hflag] at hmarked
      cases hmarked
  marked k hk := by
    have hforward : ∀ k ∈ s.applied, ∃ row', s'.executions.lookup k = some row' ∧
        row'.ledgerAppliedAt.isSome = true := by
      intro k hk
      obtain ⟨row, hrow, hmarked⟩ := hd.marked k hk
      obtain ⟨row', hrow', hevolves⟩ := hd.row_forward h hrow
      exact ⟨row', hrow', hevolves.marked hmarked⟩
    obtain heq | ⟨k₀, row, row', -, -, hrow', hmarked, heq⟩ := h.applied_cases
    · exact hforward k (heq ▸ hk)
    · rw [heq, List.mem_append, List.mem_singleton] at hk
      obtain hk | rfl := hk
      · exact hforward k hk
      · exact ⟨row', hrow', hmarked⟩

/-- The time of a state plays no part in it. -/
lemma Disciplined.tick (hd : Disciplined venue s) (clock : ℕ) :
    Disciplined venue { s with clock := clock } where
  coherent := hd.coherent.tasksKept (hd.coherent.rowsExtend (JobsKept.refl _) rfl)
    (TasksKept.refl _ _)
  stages t id u n stage ht := by
    have hrows : RowsKept s { s with clock := clock } := ⟨rfl, rfl, rfl⟩
    exact (hd.stages t id u n stage ht).sameFor (hrows.sameFor u) (hd.coherent.jobOfUser ht)
      fun a ha => hd.coherent.market_userId ht ha
  closeRows := hd.closeRows
  calls := hd.calls
  called := hd.called
  applied := hd.applied
  marked := hd.marked

lemma disciplined_initial (venue : Venue) (lots : Market → ℤ) :
    Disciplined venue (.initial venue lots) where
  coherent :=
    { exclusive := fun t t' task task' u h => by simp [ExecutorState.initial] at h
      tasks := fun t task h => by simp [ExecutorState.initial] at h
      rows := fun k row h => by simp [ExecutorState.initial] at h }
  stages t id u n stage h := by simp [ExecutorState.initial] at h
  closeRows id row h := by simp [ExecutorState.initial] at h
  calls := List.nodup_nil
  called k hk := by simp [ExecutorState.initial] at hk
  applied := List.nodup_nil
  marked k hk := by simp [ExecutorState.initial] at hk

lemma Disciplined.executorStep {action : ExecutorAction} (hd : Disciplined venue s)
    (h : executorStep venue s action = some s') : Disciplined venue s' := by
  obtain ⟨-, actor, t, heffect, rfl⟩ := executorStep_effect h
  exact (hd.step heffect).tick _

/-- Every run that starts with empty tables is disciplined. -/
theorem disciplined_of_run {lots : Market → ℤ} {actions : List ExecutorAction}
    (h : Transition.run (executorStep venue) (.initial venue lots) actions = some s) :
    Disciplined venue s :=
  Transition.run_invariant (fun _ _ _ hd hstep => hd.executorStep hstep)
    (disciplined_initial venue lots) h

end Invariant

end HyperCopy

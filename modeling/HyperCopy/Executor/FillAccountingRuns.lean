import HyperCopy.Executor.FillAccountingSteps

/-!
# Runs in which every fill is accounted for

`Accounted` is kept by every step in which an attempt finds a quiet market and true answers: a
step happens in one market and under the lock of its user (`Accounted.marketStep`), and what the
other tasks know of their markets is not touched by it, except that an order may be matched
meanwhile.  So an application that returns leaves the ledger size at the position.

Nothing in the executor looks for a quiet market.  An order whose fate is unknown does not keep the
next event job from sending its own, and where an order filled in part, the status is read as if it
had filled to the end: the two runs at the end show what the ledger says then.
-/

namespace HyperCopy

/-! ## The conditions on a step -/

namespace ExecutorState

/-- An attempt comes to a leg, new or to be looked up, in a quiet market only. -/
def entersQuiet (s : ExecutorState) : ExecutorOp → Bool
  | .enterLeg t _ =>
    match s.tasks.lookup t with
    | some (.attempt id _ _ (.entering a leg)) => Quiet s a.market ⟨id, leg.kind⟩
    | _ => true
  | _ => true

/-- Where the outcome is FILLED, its size is what the exchange has matched of the order. -/
def reportsMatched (s : ExecutorState) (k : Cloid) (o : OrderOutcome) : Bool :=
  o.state ≠ .filled ||
    (s.orders.lookup k).any fun order => order.fill = some (o.filledSize.getD 0)

/-- What is read of an order, if it is FILLED, is what the exchange has matched. -/
def readsMatched (s : ExecutorState) : ExecutorOp → Bool
  | .enterLeg t reply =>
    match s.tasks.lookup t with
    | some (.attempt id _ _ (.entering _ leg)) =>
      (s.executions.lookup ⟨id, leg.kind⟩).all fun row =>
        row.state.terminal || s.reportsMatched ⟨id, leg.kind⟩ reply
    | _ => true
  | .respond t (some response) =>
    match s.tasks.lookup t with
    | some (.attempt id _ _ (.inFlight _ leg)) => s.reportsMatched ⟨id, leg.kind⟩ response
    | _ => true
  | .resolveRead _ k verdict =>
    (s.executions.lookup k).all fun row => s.reportsMatched k (verdict.outcome row)
  | _ => true

/-- The step keeps the accounts. -/
def keepsAccounts (s : ExecutorState) (op : ExecutorOp) : Bool :=
  s.entersQuiet op && s.readsMatched op

end ExecutorState

/-- A snapshot says what the positions are when it is read. -/
def SnapshotTrue (s : ExecutorState) : ExecutorOp → Prop
  | .reconcileRead _ u observed => ∀ asset, observed asset = s.position ⟨u, asset⟩
  | .resolveRead _ k verdict => ∀ row, s.executions.lookup k = some row →
      ∀ position, verdict.position = some position → position = s.position row.market
  | _ => True

section Guards

variable {s : ExecutorState} {t : TaskId} {id : JobId} {u : UserId} {n : ℕ} {a : Attempt}
  {leg : AttemptLeg} {k : Cloid} {o : OrderOutcome}

lemma entersQuiet_enterLeg {reply : OrderOutcome} (h : s.entersQuiet (.enterLeg t reply) = true)
    (ht : s.tasks.lookup t = some (.attempt id u n (.entering a leg))) :
    Quiet s a.market ⟨id, leg.kind⟩ := by
  simpa [ExecutorState.entersQuiet, ht] using h

lemma reportsMatched_filled (h : s.reportsMatched k o = true) (hfilled : o.state = .filled) :
    ∃ order, s.orders.lookup k = some order ∧ order.fill = some (o.filledSize.getD 0) := by
  simpa [ExecutorState.reportsMatched, hfilled, Option.any_eq_true] using h

/-- What an attempt records is what it has asked for or was told. -/
lemma readsMatched_record {op : ExecutorOp} {stage : Stage} {row : Execution}
    (h : s.readsMatched op = true) (ht : s.tasks.lookup t = some (.attempt id u n stage))
    (hstage : stage = .entering a leg ∧ row.state.terminal = false ∨ stage = .inFlight a leg)
    (hrow : s.executions.lookup ⟨id, leg.kind⟩ = some row)
    (hasked : stage = .entering a leg → op = .enterLeg t o)
    (htold : stage = .inFlight a leg → op = .respond t (some o) ∨ o.state = .unknown)
    (hfilled : o.state = .filled) :
    ∃ order, s.orders.lookup (⟨id, leg.kind⟩ : Cloid) = some order ∧
      order.fill = some (o.filledSize.getD 0) := by
  refine reportsMatched_filled ?_ hfilled
  obtain ⟨rfl, hopen⟩ | rfl := hstage
  · rw [hasked rfl] at h
    simpa [ExecutorState.readsMatched, ht, hrow, hopen] using h
  · obtain rfl | hunknown := htold rfl
    · simpa [ExecutorState.readsMatched, ht] using h
    · rw [hunknown] at hfilled
      cases hfilled

end Guards

/-! ## What a step does to a market -/

/-- Nothing, unless an order of the market is matched, or the holder of the lock of its user has
worked on it, and kept the accounts. -/
inductive MarketStep (venue : Venue) (s s' : ExecutorState) (actor : Option TaskId)
    (market : Market) : Prop
  | kept (h : MarketKept s s' market)
  | matched (k : Cloid) (order : ExchangeOrder) (lots : ℕ) (signed : ℚ) (row : Execution)
      (hrow : s.executions.lookup k = some row) (hmarket : row.market = market)
      (h : OrderMatched venue s s' market k order lots signed)
  | worked (t : TaskId) (task : ExecutorTask) (hactor : actor = some t)
      (htask : s.tasks.lookup t = some task) (hholds : task.holds = some market.userId)
      (h : MarketAccounted venue s' market)

section MarketKept

variable {s s' : ExecutorState} {market touched : Market} {k : Cloid}

/-- The write of a row leaves the other markets alone. -/
lemma marketKept_of_row (hne : market ≠ touched) {row' : Execution}
    (hrows : s'.executions = s.executions.insert k row') (hnew : row'.market = touched)
    (hold : ∀ row, s.executions.lookup k = some row → row.market = touched)
    (horders : s'.orders = s.orders) (hbooks : BooksKept s s' market) : MarketKept s s' market where
  toBooksKept := hbooks
  rows k₁ row₁ hmarket := by
    rw [hrows, Table.lookup_insert_eq]
    split_ifs with hk
    · subst hk
      constructor
      · intro h
        obtain rfl := Option.some.inj h
        exact absurd (hmarket.symm.trans hnew) hne
      · intro h
        exact absurd (hmarket.symm.trans (hold row₁ h)) hne
    · exact Iff.rfl
  orders k₁ order hmarket := by rw [horders]

/-- So does an order at the exchange. -/
lemma marketKept_of_order (hne : market ≠ touched) {order' : ExchangeOrder}
    (horders : s'.orders = s.orders.insert k order') (hnew : order'.market = touched)
    (hold : ∀ order, s.orders.lookup k = some order → order.market = touched)
    (hrows : s'.executions = s.executions) (hbooks : BooksKept s s' market) :
    MarketKept s s' market where
  toBooksKept := hbooks
  rows k₁ row hmarket := by rw [hrows]
  orders k₁ order₁ hmarket := by
    rw [horders, Table.lookup_insert_eq]
    split_ifs with hk
    · subst hk
      constructor
      · intro h
        obtain rfl := Option.some.inj h
        exact absurd (hmarket.symm.trans hnew) hne
      · intro h
        exact absurd (hmarket.symm.trans (hold order₁ h)) hne
    · exact Iff.rfl

end MarketKept

section Step

variable {venue : Venue} {s s' : ExecutorState} {now : ℕ} {op : ExecutorOp}
  {actor : Option TaskId}

theorem Accounted.marketStep (h : Accounted venue s) (hguard : s.keepsAccounts op = true)
    (heffect : ExecutorEffect venue s now op actor s') (hnow : s.clock < now) (market : Market) :
    MarketStep venue s { s' with clock := now } actor market := by
  have hhistory := h.historyKept heffect hnow
  have hcoherent := h.disciplined.coherent
  have hm := h.markets market
  obtain ⟨hquiet, hreads⟩ := Bool.and_eq_true_iff.1 hguard
  cases heffect with
  | schedule | acquire | begin | leave | replay | snapshot | query =>
      exact .kept ⟨⟨rfl, rfl, rfl⟩, fun _ _ _ => Iff.rfl, fun _ _ _ => Iff.rfl⟩
  | journal t id u n a leg htask hnone hop =>
      by_cases hmarket : market = a.market
      · subst hmarket
        obtain ⟨reply, rfl⟩ := hop
        have hq := entersQuiet_enterLeg hquiet htask
        refine .worked t _ rfl htask (by rw [hcoherent.market_userId htask rfl]; rfl) ?_
        exact hm.write hq hhistory ⟨rfl, rfl, rfl⟩ rfl rfl
          (h.journaled htask hnone hq hnow rfl hhistory ⟨rfl, rfl, rfl⟩ rfl rfl)
      · refine .kept (marketKept_of_row hmarket rfl rfl ?_ rfl ⟨rfl, rfl, rfl⟩)
        intro row hrow
        rw [hnone] at hrow
        cases hrow
  | place t id u n a leg row reaches htask hrow =>
      have hrowMarket := hcoherent.row_market htask rfl hrow
      obtain ⟨-, hcalls, row₁, hrow₁, hsubmitting, -⟩ := h.disciplined.stages t id u n _ htask
      obtain rfl := Option.some.inj (hrow.symm.trans hrow₁)
      have hnot := h.orders.not_sent_of_not_called hcalls
      cases reaches with
      | false => exact .kept ⟨⟨rfl, rfl, rfl⟩, fun _ _ _ => Iff.rfl, fun _ _ _ => Iff.rfl⟩
      | true =>
          by_cases hmarket : market = row.market
          · subst hmarket
            refine .worked t _ rfl htask ?_ ?_
            · rw [hrowMarket, hcoherent.market_userId htask rfl]
              rfl
            · exact hm.placed hrow (by rw [hsubmitting]; rfl) hnot rfl hhistory ⟨rfl, rfl, rfl⟩ rfl
                rfl
          · refine .kept (marketKept_of_order hmarket rfl rfl ?_ rfl ⟨rfl, rfl, rfl⟩)
            intro order horder
            rw [hnot] at horder
            cases horder
  | record t id u n stage a leg row row' o hop htask hstage hrow hreported hrow' hasked htold =>
      have hopen := h.disciplined.open_of_record htask hstage hrow
      have hattempt : stage.attempt? = some a := by
        rcases hstage with ⟨rfl, -⟩ | rfl <;> rfl
      have hholds : (ExecutorTask.attempt id u n stage).holds = some u := by
        rcases hstage with ⟨rfl, -⟩ | rfl <;> rfl
      by_cases hmarket : market = row.market
      · subst hmarket
        refine .worked t _ rfl htask ?_ ?_
        · rw [hholds, hcoherent.row_market htask hattempt hrow,
            hcoherent.market_userId htask hattempt]
        · exact hm.recorded hrow hopen hrow'
            (readsMatched_record hreads htask hstage hrow hasked htold) hnow rfl hhistory
            ⟨rfl, rfl, rfl⟩ rfl rfl
      · refine .kept (marketKept_of_row hmarket rfl (persistOutcome_market hrow') ?_ rfl
          ⟨rfl, rfl, rfl⟩)
        intro row₁ hrow₁
        rw [Option.some.inj (hrow.symm.trans hrow₁)]
  | apply t id u n a leg filledSize row row' ledger' added htask hrow happly =>
      have hrowMarket := hcoherent.row_market htask rfl hrow
      obtain ⟨hfilled, hfill⟩ := applyFillToLedger_eq_some happly
      by_cases hmarket : market = row.market
      · subst hmarket
        have hq : Quiet s a.market ⟨id, leg.kind⟩ := h.tasks t _ htask
        rw [← hrowMarket] at hq hfill
        refine .worked t _ rfl htask ?_ ?_
        · rw [hrowMarket, hcoherent.market_userId htask rfl]
          rfl
        · exact hm.applied h.orders hrow hq hfilled hfill (.of_writeFill hrowMarket hhistory)
      · refine .kept (marketKept_of_row hmarket rfl hfill.market_eq ?_ rfl ⟨?_, ?_, rfl⟩)
        · intro row₁ hrow₁
          rw [Option.some.inj (hrow.symm.trans hrow₁)]
        · rw [hrowMarket] at hmarket
          exact Function.update_of_ne hmarket _ _
        · rw [hrowMarket] at hmarket
          cases added with
          | true => exact Function.update_of_ne hmarket _ _
          | false => rfl
  | fill k order lots horder hnone =>
      obtain ⟨-, ⟨row, hrow, hrowMarket, -⟩, -⟩ := h.orders k order horder
      by_cases hmarket : market = order.market
      · subst hmarket
        refine .matched k order lots _ row hrow hrowMarket.symm
          ⟨hhistory, horder, rfl, hnone, rfl, rfl, Function.update_self _ _ _, ?_, rfl, rfl⟩
        change (if lots = 0 then s.unreflected else _) order.market = _
        split_ifs
        · rfl
        · exact Function.update_self _ _ _
      · refine .kept (marketKept_of_order hmarket rfl rfl ?_ rfl
          ⟨rfl, ?_, Function.update_of_ne hmarket _ _⟩)
        · intro order₁ horder₁
          rw [Option.some.inj (horder.symm.trans horder₁)]
        · change (if lots = 0 then s.unreflected else _) market = _
          split_ifs
          · rfl
          · exact Function.update_of_ne hmarket _ _
  | reconcile t u observed seen verifiedAt assets jobs' htask hverified hjobs =>
      by_cases hmarket : market.userId = u ∧ market.asset ∈ assets
      · obtain ⟨rfl, hasset⟩ := hmarket
        have hseen : SnapshotSeen venue s market (observed market.asset) (seen market.asset) :=
          h.tasks t _ htask market.asset
        have hwritten : SnapshotWritten s
            { ({ s with
                  jobs := jobs'
                  ledger := reconciledLedger s market.userId observed verifiedAt assets
                  unreflected := reconciledUnreflected s market.userId seen assets } :
                ExecutorState).dropTask t with clock := now }
            market (observed market.asset) (seen market.asset) verifiedAt :=
          ⟨hhistory, rfl, by simp [ExecutorState.dropTask, reconciledLedger, hasset],
            by simp [ExecutorState.dropTask, reconciledLedger, hasset], hverified, rfl,
            if_pos ⟨rfl, hasset⟩⟩
        exact .worked t _ rfl htask rfl (hm.reconciled hwritten hseen rfl
          (by simp [ExecutorState.dropTask, reconciledLedger, hasset]))
      · exact .kept ⟨⟨if_neg hmarket, if_neg hmarket, rfl⟩, fun _ _ _ => Iff.rfl,
          fun _ _ _ => Iff.rfl⟩
  | resolve t k touched verdict seen row row' verifiedAt htask hrow hopen hverified hrow' =>
      obtain ⟨row₁, hrow₁, htouched⟩ := hcoherent.tasks _ _ htask
      obtain rfl := Option.some.inj (hrow.symm.trans hrow₁)
      subst htouched
      obtain ⟨hsnapshot, hmatched⟩ := h.tasks t _ htask
      by_cases hmarket : market = row.market
      · subst hmarket
        refine .worked t _ rfl htask rfl ?_
        cases hposition : verdict.position with
        | none =>
            rw [hposition] at hhistory
            exact hm.recorded hrow hopen hrow' (fun hfilled => (hmatched row hfilled).1) hnow rfl
              hhistory ⟨rfl, rfl, rfl⟩ rfl rfl
        | some position =>
            rw [hposition] at hhistory
            have hledger : (syncLedger s row.market k (some position) verifiedAt seen).ledger
                row.market = syncedLedger (s.ledger row.market) k position verifiedAt :=
              Function.update_self _ _ _
            have hwritten : SnapshotWritten s
                { ((syncLedger s row.market k (some position) verifiedAt seen).putExecution k
                  row').dropTask t with clock := now } row.market position seen verifiedAt :=
              ⟨hhistory, rfl, congrArg LedgerRow.size hledger,
                congrArg LedgerRow.exchangeVerifiedAt hledger, hverified, rfl,
                Function.update_self _ _ _⟩
            have hover : (verdict.outcome row).state.terminal = true := by
              cases verdict with
              | filled | quarantine => rfl
              | terminal => cases hposition
            exact hm.resolved hwritten (hsnapshot position hposition) hrow hopen hrow' hover rfl
              (hmatched row) rfl (congrArg LedgerRow.lastExecutionId hledger)
      · refine .kept (marketKept_of_row hmarket rfl (persistOutcome_market hrow') ?_ rfl
          ⟨?_, ?_, rfl⟩)
        · intro row₁ hrow₁
          rw [Option.some.inj (hrow.symm.trans hrow₁)]
        · exact syncLedger_ledger_of_ne k verdict.position verifiedAt seen hmarket
        · change (if verdict.position.isSome then _ else s.unreflected) market = _
          split_ifs
          · exact Function.update_of_ne hmarket _ _
          · rfl

end Step

/-! ## What the tasks know -/

section Tasks

variable {venue : Venue} {s s' : ExecutorState} {now : ℕ} {op : ExecutorOp}
  {actor : Option TaskId} {market : Market} {k k₀ : Cloid} {order : ExchangeOrder} {lots : ℕ}
  {signed : ℚ} {row : Execution}

lemma Quiet.matched (hq : Quiet s market k)
    (h : OrderMatched venue s s' market k₀ order lots signed) : Quiet s' market k := by
  by_cases hk : k₀ = k
  · subst hk
    exact hq.ordered h.orders (fun k' hne => h.lacks_of_ne hne) h.rows
  · have hsettled := (hq.settled k₀ order hk h.sent h.inMarket).1
    rw [h.unmatched] at hsettled
    cases hsettled

lemma SnapshotSeen.not_seen {position : ℚ} {seen : List Cloid}
    (hseen : SnapshotSeen venue s market position seen)
    (h : OrderMatched venue s s' market k₀ order lots signed) : k₀ ∉ seen := by
  intro hmem
  obtain ⟨order', horder', hfill⟩ := hseen.matched k₀ hmem
  obtain rfl := Option.some.inj (h.sent.symm.trans horder')
  rw [h.unmatched] at hfill
  cases hfill

/-- What is matched after a snapshot was read is not in it. -/
lemma SnapshotSeen.matched_later {position : ℚ} {seen : List Cloid}
    (hseen : SnapshotSeen venue s market position seen)
    (h : OrderMatched venue s s' market k₀ order lots signed) (hr : RowAccounted s k₀ row)
    (hrow : s.executions.lookup k₀ = some row) : SnapshotSeen venue s' market position seen where
  whole := hseen.whole
  balance := by
    rw [h.position, ← hseen.balance, h.unreflected]
    split_ifs with hlots
    · rw [h.zero hlots, add_zero]
    · have hkeep : List.filter (fun u => decide (u.1 ∉ seen)) [(k₀, signed)] = [(k₀, signed)] := by
        simp [hseen.not_seen h]
      rw [List.filter_append, hkeep, missing_append, missing_singleton, add_assoc]
  matched k hk := by
    obtain ⟨order', horder', hfill⟩ := hseen.matched k hk
    exact ⟨order', h.history.orders k order' horder' hfill, hfill⟩
  filled k row' hrow' hmarket hfilled hlacks := by
    rw [h.rows] at hrow'
    have hk : k ≠ k₀ := by
      rintro rfl
      obtain rfl := Option.some.inj (hrow.symm.trans hrow')
      exact h.not_filled hr hfilled
    rw [h.lacks_of_ne hk] at hlacks
    exact hseen.filled k row' hrow' hmarket hfilled hlacks

/-- The market is as before, or an order of it was matched. -/
def KeptOrMatched (venue : Venue) (s s' : ExecutorState) (market : Market) : Prop :=
  MarketKept s s' market ∨ ∃ k order lots signed row, s.executions.lookup k = some row ∧
    RowAccounted s k row ∧ OrderMatched venue s s' market k order lots signed

lemma SnapshotSeen.others {position : ℚ} {seen : List Cloid}
    (hseen : SnapshotSeen venue s market position seen) (hhistory : HistoryKept s s')
    (h : KeptOrMatched venue s s' market) : SnapshotSeen venue s' market position seen := by
  obtain hkept | ⟨k, order, lots, signed, row, hrow, hr, hmatched⟩ := h
  · exact hseen.kept hhistory hkept
  · exact hseen.matched_later hmatched hr hrow

/-- What a task knows stays true while it holds the lock of its user. -/
lemma TaskAccounted.others {task : ExecutorTask} (h : TaskAccounted venue s task)
    (hc : TaskCoherent s task) (hhistory : HistoryKept s s')
    (hmarkets : ∀ market, task.holds = some market.userId → KeptOrMatched venue s s' market) :
    TaskAccounted venue s' task := by
  cases task with
  | attempt id u n stage =>
      cases stage with
      | waiting | locked | entering | journaled | inFlight | closing => trivial
      | filled a leg filledSize =>
          obtain ⟨row, -, hu, hjob⟩ := hc
          have huser : a.market.userId = u := by rw [Attempt.market, hjob a rfl, hu]
          have hq : Quiet s a.market ⟨id, leg.kind⟩ := h
          obtain hkept | ⟨k, order, lots, signed, row, -, -, hmatched⟩ :=
            hmarkets a.market (by rw [huser]; rfl)
          · exact hkept.quiet hq
          · exact hq.matched hmatched
  | reconcile u observed seen =>
      exact fun asset => (h asset).others hhistory (hmarkets ⟨u, asset⟩ rfl)
  | resolve k market verdict seen =>
      obtain ⟨hsnapshot, hmatched⟩ := h
      have hm := hmarkets market rfl
      refine ⟨fun position hposition => (hsnapshot position hposition).others hhistory hm, ?_⟩
      intro row hfilled
      obtain ⟨⟨order, horder, hfill⟩, hlacks⟩ := hmatched row hfilled
      refine ⟨hhistory.matched ⟨order, horder, hfill⟩, ?_⟩
      obtain hkept | ⟨k₀, order₀, lots, signed, row₀, -, -, hm⟩ := hm
      · rw [hkept.lacks]
        exact hlacks
      · have hk : k ≠ k₀ := by
          rintro rfl
          obtain rfl := Option.some.inj (horder.symm.trans hm.sent)
          rw [hm.unmatched] at hfill
          cases hfill
        rw [hm.lacks_of_ne hk]
        exact hlacks

/-- The positions of a user, read under the lock of the user. -/
lemma Accounted.snapshotSeen (h : Accounted venue s) (market : Market) {position : ℚ}
    (hposition : position = s.position market) :
    SnapshotSeen venue s market position ((s.unreflected market).map (·.1)) where
  whole := hposition ▸ (h.markets market).balanced.position
  balance := by
    have hnone : (s.unreflected market).filter
        (fun u => decide (u.1 ∉ (s.unreflected market).map (·.1))) = [] := by
      refine List.filter_eq_nil_iff.2 fun u hu => ?_
      simp only [decide_not, Bool.not_eq_true', decide_eq_false_iff_not, not_not]
      exact List.mem_map_of_mem hu
    rw [hnone, missing_nil, add_zero]
    exact hposition
  matched k hk := by
    obtain ⟨⟨k', q⟩, hmem, rfl⟩ := List.mem_map.1 hk
    obtain ⟨-, order, horder, -, hfill⟩ := (h.markets market).balanced.lacking k' q hmem
    exact ⟨order, horder, hfill⟩
  filled k row hrow hmarket hfilled hlacks := by
    obtain ⟨q, hmem⟩ := lacks_eq_true.1 hlacks
    exact List.mem_map.2 ⟨(k, q), hmem, rfl⟩

/-- What the task of a step knows after it. -/
lemma Accounted.task_of_actor (h : Accounted venue s) (hsnapshot : SnapshotTrue s op)
    (hguard : s.keepsAccounts op = true) {t : TaskId}
    (heffect : ExecutorEffect venue s now op (some t) s') {task : ExecutorTask}
    (ht : s'.tasks.lookup t = some task) : TaskAccounted venue { s' with clock := now } task := by
  obtain ⟨hquiet, hreads⟩ := Bool.and_eq_true_iff.1 hguard
  cases heffect with
  | acquire | leave | journal | place =>
      obtain rfl := Option.some.inj ((AList.lookup_insert _).symm.trans ht)
      trivial
  | begin _ id u n row reads stage hop htask hjob hdecimals hstage =>
      obtain rfl := Option.some.inj ((AList.lookup_insert _).symm.trans ht)
      obtain ⟨c, rfl⟩ | ⟨a, rfl, -⟩ := beginStage_cases hstage
      · trivial
      · trivial
  | replay _ id u n a leg row htask hrow hfilled hop =>
      obtain rfl := Option.some.inj ((AList.lookup_insert _).symm.trans ht)
      obtain ⟨reply, rfl⟩ := hop
      have hq := entersQuiet_enterLeg hquiet htask
      exact ⟨hq.resolved, hq.settled⟩
  | record _ id u n stage a leg row row' o hop htask hstage hrow hreported hrow' hasked htold =>
      obtain rfl := Option.some.inj ((AList.lookup_insert _).symm.trans ht)
      have hq : Quiet s a.market ⟨id, leg.kind⟩ := by
        obtain ⟨rfl, -⟩ | rfl := hstage
        · obtain rfl := hasked rfl
          exact entersQuiet_enterLeg hquiet htask
        · have hmarket := h.disciplined.coherent.row_market htask rfl hrow
          have hopen := h.disciplined.open_of_record htask (Or.inr rfl) hrow
          obtain ⟨-, before, last, he⟩ := (h.markets _).rows _ row hrow rfl
          exact hmarket ▸ (he.opened hopen).quiet
      obtain ⟨-, hnext⟩ | ⟨-, c, hnext⟩ := afterOutcome_cases a leg o
      · rw [hnext]
        exact hq.write ⟨rfl, rfl, rfl⟩ rfl rfl
      · rw [hnext]
        trivial
  | apply _ id u n a leg filledSize row row' ledger' added htask hrow happly =>
      obtain rfl := Option.some.inj ((AList.lookup_insert _).symm.trans ht)
      obtain ⟨c, hnext⟩ | ⟨second, hnext, -⟩ := afterApply_cases a leg filledSize
        ledger'.size.value (venue.szDecimals a.market.asset)
      · rw [hnext]
        trivial
      · rw [hnext]
        trivial
  | snapshot _ u observed hop hfree htask =>
      obtain rfl := Option.some.inj ((AList.lookup_insert _).symm.trans ht)
      subst hop
      intro asset
      have hseen := h.snapshotSeen ⟨u, asset⟩ (hsnapshot asset)
      exact ⟨hseen.whole, hseen.balance, hseen.matched, hseen.filled⟩
  | query _ k row verdict hop hrow hfree htask hopen =>
      obtain rfl := Option.some.inj ((AList.lookup_insert _).symm.trans ht)
      subst hop
      refine ⟨fun position hposition => ?_, fun row₁ hfilled => ?_⟩
      · have hseen := h.snapshotSeen row.market (hsnapshot row hrow position hposition)
        exact ⟨hseen.whole, hseen.balance, hseen.matched, hseen.filled⟩
      · have hreport : s.reportsMatched k (verdict.outcome row) = true := by
          simpa [ExecutorState.readsMatched, hrow] using hreads
        have hsame : verdict.outcome row₁ = verdict.outcome row := by
          cases verdict with
          | filled | terminal => rfl
          | quarantine => cases hfilled
        rw [hsame] at hfilled ⊢
        refine ⟨reportsMatched_filled hreport hfilled, fun hlacks => ?_⟩
        obtain ⟨q, hmem⟩ := lacks_eq_true.1 hlacks
        exact List.mem_map.2 ⟨(k, q), hmem, rfl⟩
  | reconcile => exact absurd ht (by simp [ExecutorState.dropTask])
  | resolve => exact absurd ht (by simp [ExecutorState.dropTask])

end Tasks

/-! ## Runs -/

section Runs

variable {venue : Venue} {s s' : ExecutorState} {lots : Market → ℤ}

theorem Accounted.step (h : Accounted venue s) {action : ExecutorAction}
    (hsnapshot : SnapshotTrue s action.op) (hguard : s.keepsAccounts action.op = true)
    (hstep : executorStep venue s action = some s') : Accounted venue s' := by
  have hdisciplined := h.disciplined.executorStep hstep
  obtain ⟨hnow, actor, s₁, heffect, rfl⟩ := executorStep_effect hstep
  have hhistory := h.historyKept heffect hnow
  have horders := h.ordersJournaled heffect hnow
  have hmarket := h.marketStep hguard heffect hnow
  refine ⟨hdisciplined, horders, fun market => ?_, fun t task ht => ?_⟩
  · cases hmarket market with
    | kept hkept => exact (h.markets market).kept hhistory hkept h.orders horders
    | matched k order lots signed row hrow hin hmatched =>
        exact (h.markets market).matched hrow hin hmatched
    | worked t task hactor htask hholds hnext => exact hnext
  · by_cases hactor : actor = some t
    · subst hactor
      exact h.task_of_actor hsnapshot hguard heffect ht
    · cases hholds : task.holds with
      | none =>
          cases task with
          | attempt id u n stage =>
              cases stage with
              | waiting w => trivial
              | locked | entering | journaled | inFlight | filled | closing => cases hholds
          | reconcile | resolve => cases hholds
      | some u =>
          have hc := h.disciplined.coherent
          obtain ⟨hold, -⟩ := heffect.others_kept hc hactor ht hholds
          refine (h.tasks t task hold).others (hc.tasks t task hold) hhistory fun market hm => ?_
          cases hmarket market with
          | kept hkept => exact Or.inl hkept
          | matched k order lots signed row hrow hin hmatched =>
              exact Or.inr ⟨k, order, lots, signed, row, hrow,
                (h.markets market).rows k row hrow hin, hmatched⟩
          | worked t₀ task₀ hactor₀ htask₀ hholds₀ =>
              have heq := hc.exclusive t t₀ task task₀ market.userId hold htask₀ hm hholds₀
              rw [hactor₀, heq] at hactor
              exact absurd rfl hactor

lemma accounted_initial (venue : Venue) (lots : Market → ℤ) :
    Accounted venue (.initial venue lots) where
  disciplined := disciplined_initial venue lots
  orders k order horder := by simp [ExecutorState.initial] at horder
  markets market := by
    have hwhole : WholeLots venue market (lots market * lot (venue.szDecimals market.asset)) :=
      ⟨lots market, rfl⟩
    have hsize : (ExecutorState.initial venue lots).ledger market =
        ⟨persistedLedgerDecimal (lots market * lot (venue.szDecimals market.asset)), none, none⟩ :=
      rfl
    refine ⟨⟨?_, List.nodup_nil, ?_, hwhole, ?_⟩, ?_, ⟨?_, ?_⟩⟩
    · intro k q hq
      cases hq
    · rw [hsize, hwhole.persisted]
      exact hwhole
    · rw [hsize, hwhole.persisted]
      exact add_zero _
    · intro k row hrow
      simp [ExecutorState.initial] at hrow
    · intro k hk
      cases hk
    · intro v hv
      cases hv
  tasks t task ht := by simp [ExecutorState.initial] at ht

theorem accounted_of_run {actions : List ExecutorAction}
    (hrun : Transition.run (executorStep venue) (.initial venue lots) actions = some s)
    (hsnapshots : Transition.RunMeets (executorStep venue) (fun s a => SnapshotTrue s a.op)
      (.initial venue lots) actions)
    (hkeeps : Transition.RunMeets (executorStep venue) (fun s a => s.keepsAccounts a.op = true)
      (.initial venue lots) actions) : Accounted venue s :=
  Transition.run_invariant_of_meets (fun _ _ _ h hmeets hstep => h.step hmeets.1 hmeets.2 hstep)
    (accounted_initial venue lots) (hsnapshots.and hkeeps) hrun

end Runs

/-! ## What `_apply_fill_to_ledger` answers -/

/-- The market and the answer, when the task is about to apply a fill; `none` when
`LedgerApplicationDeferred` is raised. -/
def fillApplication (s : ExecutorState) (t : TaskId) (now : ℕ) :
    Option (Market × Execution × LedgerRow × Bool) :=
  match s.tasks.lookup t with
  | some (.attempt id _ _ (.filled a leg _)) => do
    let row ← s.executions.lookup ⟨id, leg.kind⟩
    let answer ← applyFillToLedger ⟨id, leg.kind⟩ row (s.ledger a.market) now
    return (a.market, answer)
  | _ => none

/-- An application that changes a ledger size adds the fill of a FILLED execution that was never
added before, and one that raises leaves the ledger as it is. -/
structure FillsOnce (venue : Venue) (s : ExecutorState) : Prop where
  once : s.applied.Nodup
  noted : ∀ now t s', executorStep venue s ⟨now, .applyFill t⟩ = some s' →
    (∀ market, (s'.ledger market).size = (s.ledger market).size) ∨
      ∃ k row, s.executions.lookup k = some row ∧ row.state = .filled ∧ k ∉ s.applied ∧
        s'.applied = s.applied ++ [k]
  deferred : ∀ now t s', executorStep venue s ⟨now, .applyFill t⟩ = some s' →
    fillApplication s t now = none → s'.ledger = s.ledger

/-- An application that returns leaves the ledger size at the position. -/
def ReturnsExact (venue : Venue) (s : ExecutorState) : Prop :=
  ∀ now t s' market answer, executorStep venue s ⟨now, .applyFill t⟩ = some s' →
    fillApplication s t now = some (market, answer) →
    (s'.ledger market).size.value = s'.position market

section Results

variable {venue : Venue} {s s' : ExecutorState} {lots : Market → ℤ} {t : TaskId} {now : ℕ}

lemma fillApplication_eq_some {market : Market} {row' : Execution} {ledger' : LedgerRow}
    {added : Bool} : fillApplication s t now = some (market, row', ledger', added) ↔
      ∃ id u n a leg filledSize row,
        s.tasks.lookup t = some (.attempt id u n (.filled a leg filledSize)) ∧
        s.executions.lookup ⟨id, leg.kind⟩ = some row ∧ a.market = market ∧
        applyFillToLedger ⟨id, leg.kind⟩ row (s.ledger market) now =
          some (row', ledger', added) := by
  unfold fillApplication
  split
  · rename_i id u n a leg filledSize ht
    constructor
    · intro h
      obtain ⟨row, hrow, h⟩ := Option.bind_eq_some_iff.1 h
      obtain ⟨answer, hanswer, h⟩ := Option.bind_eq_some_iff.1 h
      obtain ⟨rfl, rfl⟩ := Prod.mk.inj (Option.some.inj h)
      exact ⟨id, u, n, a, leg, filledSize, row, ht, hrow, rfl, hanswer⟩
    · rintro ⟨id', u', n', a', leg', filledSize', row, ht', hrow, rfl, hanswer⟩
      cases ht.symm.trans ht'
      simp [hrow, hanswer]
  · rename_i hno
    constructor
    · intro h
      cases h
    · rintro ⟨id, u, n, a, leg, filledSize, row, ht, -⟩
      exact absurd ht (hno id u n a leg filledSize)

/-- The step that applies a fill. -/
lemma executorStep_applyFill (h : executorStep venue s ⟨now, .applyFill t⟩ = some s') :
    (fillApplication s t now = none ∧ s'.ledger = s.ledger) ∨
      ∃ id u n a leg filledSize row row' ledger' added stage,
        s.tasks.lookup t = some (.attempt id u n (.filled a leg filledSize)) ∧
        s.executions.lookup ⟨id, leg.kind⟩ = some row ∧
        applyFillToLedger ⟨id, leg.kind⟩ row (s.ledger a.market) now =
          some (row', ledger', added) ∧
        s' = { (s.writeFill a.market ⟨id, leg.kind⟩ row' ledger' added).putTask t
          (.attempt id u n stage) with clock := now } := by
  unfold executorStep at h
  split_ifs at h
  obtain ⟨s₁, hs₁, rfl⟩ := Option.map_eq_some_iff.1 h
  simp only [applyExecutorOp, applyFill] at hs₁
  split at hs₁
  · rename_i id u n a leg filledSize ht
    split at hs₁
    · rename_i hrow
      obtain rfl := Option.some.inj hs₁
      exact Or.inl ⟨by simp [fillApplication, ht, hrow], rfl⟩
    · rename_i row hrow
      split at hs₁
      · rename_i happly
        obtain rfl := Option.some.inj hs₁
        exact Or.inl ⟨by simp [fillApplication, ht, hrow, happly], rfl⟩
      · rename_i row' ledger' added happly
        obtain rfl := Option.some.inj hs₁
        exact Or.inr ⟨id, u, n, a, leg, filledSize, row, row', ledger', added, _, ht, hrow, happly,
          rfl⟩
  · cases hs₁

lemma Disciplined.fillsOnce (hd : Disciplined venue s) : FillsOnce venue s where
  once := hd.applied
  noted now t s' hstep := by
    obtain ⟨-, hledger⟩ | ⟨id, u, n, a, leg, filledSize, row, row', ledger', added, stage, -, hrow,
      happly, rfl⟩ := executorStep_applyFill hstep
    · exact Or.inl fun market => by rw [hledger]
    obtain ⟨hfilled, hfill⟩ := applyFillToLedger_eq_some happly
    -- where the size stays, it stays in all markets
    have hsame : ledger'.size = (s.ledger a.market).size → ∀ market,
        (Function.update s.ledger a.market ledger' market).size = (s.ledger market).size := by
      intro hsize market
      by_cases hmarket : market = a.market
      · subst hmarket
        rw [Function.update_self, hsize]
      · rw [Function.update_of_ne hmarket]
    cases hfill with
    | already => exact Or.inl (hsame rfl)
    | legacy => exact Or.inl (hsame rfl)
    | attributed => exact Or.inl (hsame rfl)
    | verified => exact Or.inl (hsame rfl)
    | added size last hflag =>
        refine Or.inr ⟨⟨id, leg.kind⟩, row, hrow, hfilled, fun hmem => ?_, rfl⟩
        obtain ⟨row₁, hrow₁, hmarked⟩ := hd.marked _ hmem
        obtain rfl := Option.some.inj (hrow.symm.trans hrow₁)
        rw [hflag] at hmarked
        cases hmarked
  deferred now t s' hstep hnone := by
    obtain ⟨-, hledger⟩ | ⟨id, u, n, a, leg, filledSize, row, row', ledger', added, stage, ht, hrow,
      happly, -⟩ := executorStep_applyFill hstep
    · exact hledger
    · rw [fillApplication_eq_some.2 ⟨id, u, n, a, leg, filledSize, row, ht, hrow, rfl, happly⟩]
        at hnone
      cases hnone

lemma Accounted.returnsExact (h : Accounted venue s) : ReturnsExact venue s := by
  rintro now t s' market ⟨row', ledger', added⟩ hstep hanswer
  obtain ⟨hnone, -⟩ | ⟨id, u, n, a, leg, filledSize, row, row₁, ledger₁, added₁, stage, ht, hrow,
    happly, rfl⟩ := executorStep_applyFill hstep
  · rw [hnone] at hanswer
    cases hanswer
  obtain ⟨hnow, actor, s₁, heffect, heq⟩ := executorStep_effect hstep
  have hhistory := h.historyKept heffect hnow
  rw [← heq] at hhistory
  have hmarket := h.disciplined.coherent.row_market ht rfl hrow
  have hq : Quiet s a.market ⟨id, leg.kind⟩ := h.tasks t _ ht
  obtain ⟨id', u', n', a', leg', filledSize', row₂, ht', -, rfl, -⟩ :=
    fillApplication_eq_some.1 hanswer
  cases ht.symm.trans ht'
  obtain ⟨hfilled, hfill⟩ := applyFillToLedger_eq_some happly
  have hm := h.markets row.market
  obtain ⟨-, before, last, he⟩ := hm.rows _ row hrow rfl
  rw [← hmarket] at hq hfill
  have hattributed := hm.fillAttributed h.orders hrow hfilled he hfill
  have hexact := (FillWritten.of_writeFill hmarket hhistory).size_exact hm hq hattributed
  rwa [hmarket] at hexact

/-- **Every fill is accounted for once.**  In every run, no fill is added to a ledger size twice,
and an application that raises leaves the ledger alone.  If moreover the snapshots say what the
positions are, an attempt comes to a leg in a quiet market only, and FILLED is read only with the
size that the exchange has matched, then an application that returns leaves the ledger size at the
position. -/
theorem fill_accounting {actions : List ExecutorAction}
    (hrun : Transition.run (executorStep venue) (.initial venue lots) actions = some s) :
    FillsOnce venue s ∧
      (Transition.RunMeets (executorStep venue) (fun s a => SnapshotTrue s a.op)
          (.initial venue lots) actions →
        Transition.RunMeets (executorStep venue) (fun s a => s.keepsAccounts a.op = true)
          (.initial venue lots) actions → ReturnsExact venue s) :=
  ⟨(disciplined_of_run hrun).fillsOnce, fun hsnapshots hkeeps =>
    (accounted_of_run hrun hsnapshots hkeeps).returnsExact⟩

end Results

/-! ## Ledger sizes that are not the position -/

/-- The step reads no position. -/
def ExecutorOp.readsNoPosition : ExecutorOp → Bool
  | .reconcileRead _ _ _ | .resolveRead _ _ _ => false
  | _ => true

lemma snapshotTrue_of_none {op : ExecutorOp} (h : op.readsNoPosition = true) (s : ExecutorState) :
    SnapshotTrue s op := by
  unfold SnapshotTrue
  split
  · cases h
  · cases h
  · trivial

lemma runMeets_snapshotTrue {venue : Venue} {actions : List ExecutorAction}
    (h : ∀ a ∈ actions, a.op.readsNoPosition = true) (s : ExecutorState) :
    Transition.RunMeets (executorStep venue) (fun s a => SnapshotTrue s a.op) s actions :=
  .of_forall (fun a ha s => snapshotTrue_of_none (h a ha) s) s

/-- The run of a follower without positions. -/
def flatRun (actions : List ExecutorAction) : Option ExecutorState :=
  Transition.run (executorStep hundredths) (.initial hundredths fun _ => 0) actions

/-- The order of the first job fills late, and then the order of the second. -/
def lateFillRun : List ExecutorAction :=
  collidingRun ++ [⟨13, .fill ⟨1, .o⟩ 2000⟩, ⟨14, .enterLeg 1 ⟨.unknown, none⟩⟩,
    ⟨15, .placeIoc 1 true⟩, ⟨16, .fill ⟨2, .o⟩ 3000⟩, ⟨17, .respond 1 (some ⟨.filled, some 30⟩)⟩]

/-- Half of an order fills, the answer is lost, and the next attempt reads FILLED for the whole. -/
def halfFillRun : List ExecutorAction :=
  [⟨1, .enqueue 1 (eventJob 2)⟩, ⟨2, .claim 1 7 1⟩, ⟨3, .acquire 1⟩, ⟨4, .begin 1 eventReads⟩,
   ⟨5, .enterLeg 1 ⟨.unknown, none⟩⟩, ⟨6, .placeIoc 1 true⟩, ⟨7, .fill ⟨1, .o⟩ 1000⟩,
   ⟨8, .respond 1 none⟩, ⟨9, .close 1 2⟩, ⟨20, .claim 1 7 1⟩, ⟨21, .acquire 1⟩,
   ⟨22, .begin 1 eventReads⟩, ⟨23, .enterLeg 1 ⟨.filled, some 20⟩⟩]

/-- The next application, of the task 1, leaves the ledger at this size and the position at that. -/
def appliesTo (size position : ℚ) (s : ExecutorState) : Bool :=
  (fillApplication s 1 400).any (fun answer => answer.1 = ⟨0, 0⟩) &&
    (executorStep hundredths s ⟨400, .applyFill 1⟩).any fun s' =>
      (s'.ledger ⟨0, 0⟩).size.value = size && s'.position ⟨0, 0⟩ = position

lemma appliesTo_eq_true {size position : ℚ} {s : ExecutorState}
    (h : appliesTo size position s = true) :
    ∃ answer s', fillApplication s 1 400 = some (⟨0, 0⟩, answer) ∧
      executorStep hundredths s ⟨400, .applyFill 1⟩ = some s' ∧
      (s'.ledger ⟨0, 0⟩).size.value = size ∧ s'.position ⟨0, 0⟩ = position := by
  obtain ⟨hanswer, hstep⟩ := Bool.and_eq_true_iff.1 h
  obtain ⟨⟨market, answer⟩, hanswer, hmarket⟩ := (Option.any_eq_true _ _).1 hanswer
  obtain ⟨s', hs', hbooks⟩ := (Option.any_eq_true _ _).1 hstep
  obtain rfl : market = ⟨0, 0⟩ := of_decide_eq_true hmarket
  simp only [Bool.and_eq_true, decide_eq_true_eq] at hbooks
  exact ⟨answer, s', hanswer, hs', hbooks⟩

/-- A run with true snapshots, after which an application leaves the ledger off the position. -/
def LeavesInexact (actions : List ExecutorAction) : Prop :=
  Transition.RunMeets (executorStep hundredths) (fun s a => SnapshotTrue s a.op)
      (.initial hundredths fun _ => 0) actions ∧
    ∃ s, flatRun actions = some s ∧ ¬ ReturnsExact hundredths s

lemma leavesInexact {actions : List ExecutorAction} (size position : ℚ) (hne : size ≠ position)
    (hreads : ∀ a ∈ actions, a.op.readsNoPosition = true)
    (h : (flatRun actions).any (appliesTo size position) = true) : LeavesInexact actions := by
  obtain ⟨s, hs, happlies⟩ := (Option.any_eq_true _ _).1 h
  obtain ⟨answer, s', hanswer, hs', hsize, hposition⟩ := appliesTo_eq_true happlies
  refine ⟨runMeets_snapshotTrue hreads _, s, hs, fun hexact => hne ?_⟩
  rw [← hsize, ← hposition]
  exact hexact 400 1 s' ⟨0, 0⟩ answer hs' hanswer

/-- The second of two orders is applied as if there were no first: the ledger says 30 where the
position is 50.  And half an order is applied whole: the ledger says 20 where the position is 10. -/
theorem fill_accounting_inexact : LeavesInexact lateFillRun ∧ LeavesInexact halfFillRun :=
  ⟨leavesInexact 30 50 (by norm_num) (by decide) (by decide +kernel),
    leavesInexact 20 10 (by norm_num) (by decide) (by decide +kernel)⟩

/-! ## A fill that a snapshot reflects first -/

/-- The worker dies between the answer and the application. -/
def filledRun : List ExecutorAction :=
  [⟨1, .enqueue 1 (eventJob 2)⟩, ⟨2, .claim 1 7 0⟩, ⟨3, .acquire 0⟩, ⟨4, .begin 0 eventReads⟩,
   ⟨5, .enterLeg 0 ⟨.unknown, none⟩⟩, ⟨6, .placeIoc 0 true⟩, ⟨7, .fill ⟨1, .o⟩ 2000⟩,
   ⟨8, .respond 0 (some ⟨.filled, some 20⟩)⟩, ⟨9, .crash 0⟩]

/-- The state it leaves. -/
def filledState : ExecutorState := (flatRun filledRun).getD (.initial hundredths fun _ => 0)

/-- The reconciler reads the positions, and writes the one of the market. -/
def snapshotRun : List ExecutorAction :=
  [⟨20, .reconcileRead 2 0 fun asset => filledState.position ⟨0, asset⟩⟩,
   ⟨21, .reconcileCommit 2 21 [0] []⟩]

/-- The next attempt, for a follower who has become richer, replays the row. -/
def replayRun : List ExecutorAction :=
  [⟨200, .releaseStale 1⟩, ⟨300, .claim 1 8 1⟩, ⟨301, .acquire 1⟩,
   ⟨302, .begin 1 { eventReads with equity := some ⟨2000, 2000, 0, 15⟩ }⟩,
   ⟨303, .enterLeg 1 ⟨.unknown, none⟩⟩]

lemma snapshotRun_true : Transition.RunMeets (executorStep hundredths)
    (fun s a => SnapshotTrue s a.op) (.initial hundredths fun _ => 0)
    (filledRun ++ (snapshotRun ++ replayRun)) := by
  refine .append (runMeets_snapshotTrue (by decide) _) fun s hs => ?_
  have hstate : filledState = s := by
    have hrun : flatRun filledRun = some s := hs
    rw [filledState, hrun]
    rfl
  refine ⟨fun asset => by rw [hstate], fun s₁ _ => ⟨trivial, fun s₂ _ => ?_⟩⟩
  exact runMeets_snapshotTrue (by decide) s₂

/-- The fill is not added a second time. -/
theorem fill_accounting_reflected : ∃ s s',
    flatRun (filledRun ++ (snapshotRun ++ replayRun)) = some s ∧
    executorStep hundredths s ⟨400, .applyFill 1⟩ = some s' ∧
    (s'.ledger ⟨0, 0⟩).size.value = s'.position ⟨0, 0⟩ ∧ s.applied.Nodup := by
  have hrun : (flatRun (filledRun ++ (snapshotRun ++ replayRun))).any (appliesTo 20 20) = true := by
    decide +kernel
  obtain ⟨s, hs, happlies⟩ := (Option.any_eq_true _ _).1 hrun
  obtain ⟨answer, s', hanswer, hs', -⟩ := appliesTo_eq_true happlies
  have hkeeps : Transition.RunMeets (executorStep hundredths)
      (fun s a => s.keepsAccounts a.op = true) (.initial hundredths fun _ => 0)
      (filledRun ++ (snapshotRun ++ replayRun)) := by
    decide +kernel
  obtain ⟨honce, hexact⟩ := fill_accounting hs
  exact ⟨s, s', hs, hs', hexact snapshotRun_true hkeeps 400 1 s' ⟨0, 0⟩ answer hs' hanswer,
    honce.once⟩

end HyperCopy

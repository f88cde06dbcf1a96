import HyperCopy.Executor.FillAccountingFrame

/-!
# The accounts under each write

One lemma for each thing that happens in a market: an order is journaled, sent, matched, and its
outcome recorded; a fill is applied; a snapshot is written, by the reconciler or by the resolver.
-/

namespace HyperCopy

section Orders

variable {venue : Venue} {s s' : ExecutorState} {now : ℕ} {op : ExecutorOp}
  {actor : Option TaskId} {market : Market} {k : Cloid}

lemma OrdersJournaled.not_sent (h : OrdersJournaled venue s)
    (hnone : s.executions.lookup k = none) :
    s.orders.lookup k = none := by
  cases horder : s.orders.lookup k with
  | none => rfl
  | some order =>
      obtain ⟨-, ⟨row, hrow, -⟩, -⟩ := h k order horder
      rw [hnone] at hrow
      cases hrow

lemma OrdersJournaled.not_sent_of_not_called (h : OrdersJournaled venue s) (hcalls : k ∉ s.calls) :
    s.orders.lookup k = none := by
  cases horder : s.orders.lookup k with
  | none => rfl
  | some order => exact absurd (h k order horder).1 hcalls

/-- Of an order that is not matched the ledger size lacks nothing. -/
lemma Balanced.not_lacks (hb : Balanced venue s market)
    (hfill : ∀ order, s.orders.lookup k = some order → order.fill = none) :
    s.lacks market k = false := by
  refine lacks_eq_false.2 fun q hmem => ?_
  obtain ⟨-, order, horder, -, hsome⟩ := hb.lacking k q hmem
  rw [hfill order horder] at hsome
  cases hsome

lemma signedFill_of_unmatched
    (hfill : ∀ order, s.orders.lookup k = some order → order.fill = none) :
    s.signedFill k = 0 := by
  unfold ExecutorState.signedFill
  split
  · rename_i order horder
    rw [hfill order horder]
    cases order.isBuy <;> simp [signedSize]
  · rfl

lemma Accounted.historyKept (h : Accounted venue s)
    (heffect : ExecutorEffect venue s now op actor s') (hnow : s.clock < now) :
    HistoryKept s { s' with clock := now } where
  clock := hnow.le
  rows k row hrow := h.disciplined.row_forward heffect hrow
  orders k order horder hfill := by
    cases heffect with
    | place t id u n a leg row reaches htask hrow =>
        obtain ⟨-, hcalls, -⟩ := h.disciplined.stages t id u n _ htask
        have hne : k ≠ ⟨id, leg.kind⟩ := by
          rintro rfl
          rw [h.orders.not_sent_of_not_called hcalls] at horder
          cases horder
        cases reaches with
        | false => exact horder
        | true => exact (AList.lookup_insert_ne hne).trans horder
    | fill k₀ order₀ lots horder₀ hnone =>
        have hne : k ≠ k₀ := by
          rintro rfl
          obtain rfl := Option.some.inj (horder.symm.trans horder₀)
          rw [hnone] at hfill
          cases hfill
        exact (AList.lookup_insert_ne hne).trans horder
    | schedule | acquire | begin | leave | replay | journal | record | apply => exact horder
    | snapshot | reconcile | query | resolve => exact horder

lemma Accounted.ordersJournaled (h : Accounted venue s)
    (heffect : ExecutorEffect venue s now op actor s') (hnow : s.clock < now) :
    OrdersJournaled venue { s' with clock := now } := by
  have hhistory := h.historyKept heffect hnow
  have hold : ∀ k order, s.orders.lookup k = some order → k ∈ s'.calls ∧
      (∃ row, s'.executions.lookup k = some row ∧ order.market = row.market ∧
        order.isBuy = row.isBuy) ∧ ∀ f, order.fill = some f → WholeLots venue order.market f := by
    intro k order horder
    obtain ⟨hcalls, ⟨row, hrow, hmarket, hbuy⟩, hwhole⟩ := h.orders k order horder
    obtain ⟨row', hrow', hevolves⟩ := hhistory.rows k row hrow
    refine ⟨?_, ⟨row', hrow', hmarket.trans hevolves.market.symm, hbuy.trans hevolves.isBuy.symm⟩,
      hwhole⟩
    obtain heq | ⟨_, _, _, _, _, _, _, _, heq⟩ := heffect.calls_cases
    · rw [heq]
      exact hcalls
    · rw [heq]
      exact List.mem_append_left _ hcalls
  intro k order horder
  cases heffect with
  | place t id u n a leg row reaches htask hrow =>
      cases reaches with
      | false => exact hold k order horder
      | true =>
          obtain ⟨rfl, rfl⟩ | hkept := Table.lookup_insert_cases horder
          · refine ⟨List.mem_append_right _ (List.mem_singleton_self _), ⟨row, hrow, rfl, rfl⟩, ?_⟩
            intro f hf
            cases hf
          · exact hold k order hkept
  | fill k₀ order₀ lots horder₀ hnone =>
      obtain ⟨rfl, rfl⟩ | hkept := Table.lookup_insert_cases horder
      · obtain ⟨hcalls, hrow, -⟩ := hold k order₀ horder₀
        refine ⟨hcalls, hrow, ?_⟩
        intro f hf
        obtain rfl := Option.some.inj hf
        exact wholeLots_nat venue order₀.market lots
      · exact hold k order hkept
  | schedule | acquire | begin | leave | replay | journal | record | apply =>
      exact hold k order horder
  | snapshot | reconcile | query | resolve => exact hold k order horder

end Orders

/-! ## A row is written -/

section Write

variable {venue : Venue} {s s' : ExecutorState} {now : ℕ} {market : Market} {k : Cloid}
  {row row' : Execution}

lemma Quiet.write (h : Quiet s market k) (hbooks : BooksKept s s' market)
    (hrows : s'.executions = s.executions.insert k row') (horders : s'.orders = s.orders) :
    Quiet s' market k where
  resolved k' row₁ hk hrow₁ hmarket := by
    rw [hrows, Table.lookup_insert_eq, if_neg hk] at hrow₁
    exact h.resolved k' row₁ hk hrow₁ hmarket
  settled k' order hk horder hmarket := by
    rw [horders] at horder
    rw [hbooks.lacks]
    exact h.settled k' order hk horder hmarket

/-- The row of the one order of a quiet market is written. -/
lemma MarketAccounted.write (h : MarketAccounted venue s market) (hq : Quiet s market k)
    (hhistory : HistoryKept s s') (hbooks : BooksKept s s' market)
    (hrows : s'.executions = s.executions.insert k row') (horders : s'.orders = s.orders)
    (hrow' : RowAccounted s' k row') : MarketAccounted venue s' market where
  balanced := h.balanced.frame hhistory hbooks
  ledger := h.ledger.frame hhistory hbooks
  rows k₁ row₁ hrow₁ hmarket := by
    subst hmarket
    rw [hrows, Table.lookup_insert_eq] at hrow₁
    split_ifs at hrow₁ with hk
    · subst hk
      obtain rfl := Option.some.inj hrow₁
      exact hrow'
    · have hterminal := hq.resolved k₁ row₁ hk hrow₁ rfl
      refine (h.rows k₁ row₁ hrow₁ rfl).over hterminal hhistory h.ledger hbooks.ledger
        (hbooks.lacks k₁) ?_
      rw [ExecutorState.signedFill, ExecutorState.signedFill, horders]

/-- The evidence journaled with a row is the ledger size. -/
lemma LegReady.persisted_current {id : JobId} {a : Attempt} {leg : AttemptLeg}
    (h : LegReady venue s id a leg) (hnone : s.executions.lookup ⟨id, leg.kind⟩ = none)
    (hwhole : WholeLots venue a.market (s.ledger a.market).size.value) :
    persistedLedgerDecimal leg.order.currentSize = (s.ledger a.market).size := by
  cases h with
  | primary shape =>
      cases shape with
      | strategy shape =>
          change persistedLedgerDecimal a.plan.currentSize = _
          rw [shape.current_eq, persistedLedgerDecimal_value]
      | exit reduceOnly single kind current =>
          obtain hrow | hcurrent := current
          · have hkind : a.primaryLeg.kind = .o := kind
            rw [hkind] at hnone
            rw [hnone] at hrow
            cases hrow
          · exact hcurrent
  | opening second hsecond hadds hcurrent hclosed hflat =>
      change persistedLedgerDecimal second.currentSize = _
      rw [hcurrent, ← hwhole.eq_zero hflat, persistedLedgerDecimal_value]

/-- A row that has just been journaled. -/
lemma Accounted.journaled (h : Accounted venue s) {t : TaskId} {id : JobId} {u : UserId} {n : ℕ}
    {a : Attempt} {leg : AttemptLeg}
    (htask : s.tasks.lookup t = some (.attempt id u n (.entering a leg)))
    (hnone : s.executions.lookup ⟨id, leg.kind⟩ = none) (hq : Quiet s a.market ⟨id, leg.kind⟩)
    (hnow : s.clock < now) (hclock : s'.clock = now) (hhistory : HistoryKept s s')
    (hbooks : BooksKept s s' a.market) (horders : s'.orders = s.orders)
    (hrows : s'.executions = s.executions.insert ⟨id, leg.kind⟩ (newExecution a leg
      (venue.szDecimals a.market.asset) (s.ledger a.market) now)) :
    RowAccounted s' ⟨id, leg.kind⟩ (newExecution a leg (venue.szDecimals a.market.asset)
      (s.ledger a.market) now) := by
  have hm := h.markets a.market
  have hb := hm.balanced
  have hready : LegReady venue s id a leg := h.disciplined.stages t id u n _ htask
  have hunmatched : ∀ order, s.orders.lookup (⟨id, leg.kind⟩ : Cloid) = some order →
      order.fill = none := by
    intro order horder
    rw [h.orders.not_sent hnone] at horder
    cases horder
  refine ⟨hclock.ge, (s.ledger a.market).size, (s.ledger a.market).lastExecutionId, ?_, rfl, ?_, ?_,
    ?_, ?_, ?_⟩
  · exact congrArg some (hready.persisted_current hnone hb.whole)
  · exact fun k' hk' => hhistory.isSome (hm.ledger.known k' hk')
  · rw [hhistory.bornAt hm.ledger.known]
    exact hm.bornAt_le.trans_lt hnow
  · change (s'.ledger a.market).lastExecutionId = _ ∨ _
    rw [hbooks.ledger]
    exact Or.inl rfl
  · intro _
    refine ⟨rfl, rfl, hq.write hbooks hrows horders, ?_, ?_⟩
    · intro k' row' hk hrow' hmarket
      rw [hrows, Table.lookup_insert_eq, if_neg hk] at hrow'
      exact ((h.markets _).rows k' row' hrow' hmarket).created.trans_lt hnow
    · change s'.position a.market = _ + s'.signedFill _
      rw [hbooks.position, ExecutorState.signedFill, horders, ← ExecutorState.signedFill,
        signedFill_of_unmatched hunmatched, add_zero]
      exact (hb.size_exact hq (hb.not_lacks hunmatched)).symm
  · intro hterminal
    cases hterminal

/-- An outcome that is known now is younger than every snapshot. -/
lemma LedgerAccounted.not_verified (h : LedgerAccounted s market) (hnow : s.clock < now)
    (hresolved : row.resolvedAt = some now) :
    verifiedAfterResolution row (s.ledger market) = false := by
  unfold verifiedAfterResolution
  rw [hresolved]
  cases hverified : (s.ledger market).exchangeVerifiedAt with
  | none => rfl
  | some v =>
      have hle := h.verifiedAt v hverified
      simp only [decide_eq_false_iff_not]
      omega

/-- The outcome of an order is recorded. -/
lemma MarketAccounted.recorded (h : MarketAccounted venue s row.market)
    (hrow : s.executions.lookup k = some row) (hopen : row.state.terminal = false)
    {o : OrderOutcome} (hrow' : persistOutcome row o now = some row')
    (hmatched : o.state = .filled →
      ∃ order, s.orders.lookup k = some order ∧ order.fill = some (o.filledSize.getD 0))
    (hnow : s.clock < now) (hclock : s'.clock = now) (hhistory : HistoryKept s s')
    (hbooks : BooksKept s s' row.market) (horders : s'.orders = s.orders)
    (hrows : s'.executions = s.executions.insert k row') :
    MarketAccounted venue s' row.market := by
  obtain ⟨hcreated, before, last, he⟩ := h.rows k row hrow rfl
  have ho := he.opened hopen
  refine h.write ho.quiet hhistory hbooks hrows horders ?_
  obtain rfl := (persistOutcome_eq_some hrow').1
  have hsigned : s'.signedFill k = s.signedFill k := by
    rw [ExecutorState.signedFill, ExecutorState.signedFill, horders]
  have hevolves := persistOutcome_evolves hrow' hopen
  refine ⟨hcreated.trans hhistory.clock, before, last, he.evolve hevolves hhistory h.ledger
    (Or.inl (by rw [hbooks.ledger])) ?_ ?_⟩
  · intro hstill
    have hstill' : o.state.terminal = false := hstill
    refine ⟨?_, ho.unmarked, ho.quiet.write hbooks hrows horders, ?_, ?_⟩
    · change (if o.state.terminal then some now else row.resolvedAt) = none
      rw [hstill', ho.unresolved]
      rfl
    · intro k' row₁ hk hrow₁ hmarket
      rw [hrows, Table.lookup_insert_eq, if_neg hk] at hrow₁
      exact ho.newest k' row₁ hk hrow₁ hmarket
    · rw [hsigned]
      exact (hbooks.position).trans ho.position
  · intro hover
    have hover' : o.state.terminal = true := hover
    have hresolved : (if o.state.terminal then some now else row.resolvedAt) = some now := by
      rw [hover', if_pos rfl]
    have hnot : verifiedAfterResolution
        { row with
          state := o.state
          filledSize := o.filledSize
          resolvedAt := if o.state.terminal then some now else row.resolvedAt }
        (s.ledger row.market) = false := h.ledger.not_verified hnow hresolved
    refine ⟨⟨now, hresolved, hclock.ge⟩, ?_, ?_, ?_, ?_⟩
    · intro hfilled
      obtain ⟨order, horder, hfill⟩ := hmatched hfilled
      exact ⟨order, by rw [horders]; exact horder, hfill⟩
    · intro hmarked
      have hunmarked : row.ledgerAppliedAt.isSome = true := hmarked
      rw [ho.unmarked] at hunmarked
      cases hunmarked
    · intro _ hverified
      rw [hbooks.ledger, hnot] at hverified
      cases hverified
    · intro _ _ _
      change (s'.ledger row.market).size.value = before.value + s'.reflectedFill row.market k
      rw [hbooks.ledger, ExecutorState.reflectedFill, hbooks.lacks, hsigned]
      exact h.balanced.size_quiet ho.quiet ho.position

end Write

/-! ## An order is sent, and matched -/

section Order

variable {venue : Venue} {s s' : ExecutorState} {market : Market} {k : Cloid} {row : Execution}
  {order : ExchangeOrder}

lemma Quiet.ordered (h : Quiet s market k) (horders : s'.orders = s.orders.insert k order)
    (hlacks : ∀ k', k' ≠ k → s'.lacks market k' = s.lacks market k')
    (hrows : s'.executions = s.executions) : Quiet s' market k where
  resolved k' row hk hrow hmarket := by
    rw [hrows] at hrow
    exact h.resolved k' row hk hrow hmarket
  settled k' order' hk horder' hmarket := by
    rw [horders, Table.lookup_insert_eq, if_neg hk] at horder'
    rw [hlacks k' hk]
    exact h.settled k' order' hk horder' hmarket

lemma signedFill_of_ne {k' : Cloid} (horders : s'.orders = s.orders.insert k order) (hk : k' ≠ k) :
    s'.signedFill k' = s.signedFill k' := by
  rw [ExecutorState.signedFill, ExecutorState.signedFill, horders, AList.lookup_insert_ne hk]

/-- The order of an open row is sent. -/
lemma MarketAccounted.placed (h : MarketAccounted venue s row.market)
    (hrow : s.executions.lookup k = some row) (hopen : row.state.terminal = false)
    (hnot : s.orders.lookup k = none) (hfill : order.fill = none) (hhistory : HistoryKept s s')
    (hbooks : BooksKept s s' row.market) (hrows : s'.executions = s.executions)
    (horders : s'.orders = s.orders.insert k order) : MarketAccounted venue s' row.market where
  balanced := h.balanced.frame hhistory hbooks
  ledger := h.ledger.frame hhistory hbooks
  rows k₁ row₁ hrow₁ hmarket := by
    obtain ⟨hcreated, before, last, he⟩ := h.rows k row hrow rfl
    have ho := he.opened hopen
    rw [hrows] at hrow₁
    by_cases hk : k₁ = k
    · subst hk
      obtain rfl := Option.some.inj (hrow.symm.trans hrow₁)
      refine ⟨hcreated.trans hhistory.clock, before, last, he.evolve (.refl row) hhistory h.ledger
        (Or.inl (by rw [hbooks.ledger])) (fun _ => ?_) ?_⟩
      · refine ⟨ho.unresolved, ho.unmarked,
          ho.quiet.ordered horders (fun k' _ => hbooks.lacks k') hrows, ?_, ?_⟩
        · rw [hrows]
          exact ho.newest
        · have hbefore : s.signedFill k₁ = 0 :=
            signedFill_of_unmatched fun order' horder' => by rw [hnot] at horder'; cases horder'
          have hafter : s'.signedFill k₁ = 0 := by
            refine signedFill_of_unmatched fun order' horder' => ?_
            rw [horders, AList.lookup_insert] at horder'
            obtain rfl := Option.some.inj horder'
            exact hfill
          rw [hafter, ← hbefore, hbooks.position]
          exact ho.position
      · rw [hopen]
        nofun
    · have hterminal := ho.quiet.resolved k₁ row₁ hk hrow₁ hmarket
      rw [← hmarket] at hbooks
      exact (h.rows k₁ row₁ hrow₁ hmarket).over hterminal hhistory (hmarket ▸ h.ledger)
        hbooks.ledger (hbooks.lacks k₁) (signedFill_of_ne horders hk)

/-- The order is matched: the position moves, and the ledger size lacks the fill. -/
structure OrderMatched (venue : Venue) (s s' : ExecutorState) (market : Market) (k : Cloid)
    (order : ExchangeOrder) (lots : ℕ) (signed : ℚ) : Prop where
  history : HistoryKept s s'
  sent : s.orders.lookup k = some order
  inMarket : order.market = market
  unmatched : order.fill = none
  change : signed = signedSize order.isBuy (lots * lot (venue.szDecimals order.market.asset))
  ledger : s'.ledger market = s.ledger market
  position : s'.position market = s.position market + signed
  unreflected : s'.unreflected market =
    if lots = 0 then s.unreflected market else s.unreflected market ++ [(k, signed)]
  rows : s'.executions = s.executions
  orders : s'.orders = s.orders.insert k
    { order with fill := some (lots * lot (venue.szDecimals order.market.asset)) }

section Matched

variable {lots : ℕ} {signed : ℚ}

lemma OrderMatched.signedFill (h : OrderMatched venue s s' market k order lots signed) :
    s'.signedFill k = signed := by
  rw [ExecutorState.signedFill, h.orders, AList.lookup_insert, h.change]
  rfl

lemma OrderMatched.signedFill_before (h : OrderMatched venue s s' market k order lots signed) :
    s.signedFill k = 0 := by
  refine signedFill_of_unmatched fun order' horder' => ?_
  obtain rfl := Option.some.inj (h.sent.symm.trans horder')
  exact h.unmatched

lemma OrderMatched.zero (h : OrderMatched venue s s' market k order lots signed)
    (hlots : lots = 0) : signed = 0 := by
  rw [h.change, hlots]
  cases order.isBuy <;> simp [signedSize]

lemma OrderMatched.lacks_of_ne (h : OrderMatched venue s s' market k order lots signed)
    {k' : Cloid} (hk : k' ≠ k) : s'.lacks market k' = s.lacks market k' := by
  rw [ExecutorState.lacks, ExecutorState.lacks, h.unreflected]
  split_ifs
  · rfl
  · simp [Ne.symm hk]

lemma OrderMatched.not_lacked (h : OrderMatched venue s s' market k order lots signed)
    (hb : Balanced venue s market) : s.lacks market k = false := by
  refine hb.not_lacks fun order' horder' => ?_
  obtain rfl := Option.some.inj (h.sent.symm.trans horder')
  exact h.unmatched

/-- Nothing of the order is in the ledger size yet. -/
lemma OrderMatched.reflectedFill (h : OrderMatched venue s s' market k order lots signed) :
    s'.reflectedFill market k = 0 := by
  rw [ExecutorState.reflectedFill, ExecutorState.lacks, h.unreflected, h.signedFill]
  split_ifs with hlots hlacked
  · rfl
  · exact h.zero hlots
  · rfl
  · rename_i hnot
    exact absurd (by simp) hnot

/-- An order that is on its way has not been reported as FILLED. -/
lemma OrderMatched.not_filled (h : OrderMatched venue s s' market k order lots signed)
    (hr : RowAccounted s k row) : row.state ≠ .filled := by
  intro hfilled
  obtain ⟨-, before, last, he⟩ := hr
  obtain ⟨order', horder', hfill⟩ := (he.closed (by rw [hfilled]; rfl)).filled hfilled
  obtain rfl := Option.some.inj (h.sent.symm.trans horder')
  rw [h.unmatched] at hfill
  cases hfill

lemma Balanced.matched (hb : Balanced venue s market)
    (h : OrderMatched venue s s' market k order lots signed) : Balanced venue s' market where
  lacking k' q hq := by
    rw [h.unreflected] at hq
    have hcases : (k', q) ∈ s.unreflected market ∨ k' = k ∧ q = signed := by
      split_ifs at hq with hlots
      · exact Or.inl hq
      · simpa using hq
    obtain hold | ⟨rfl, rfl⟩ := hcases
    · obtain ⟨rfl, order', horder', hmarket', hfill'⟩ := hb.lacking k' q hold
      exact ⟨(h.history.signedFill horder' hfill').symm, order',
        h.history.orders k' order' horder' hfill', hmarket', hfill'⟩
    · have hnow : s'.orders.lookup k' = some
          { order with fill := some (lots * lot (venue.szDecimals order.market.asset)) } := by
        rw [h.orders]
        exact AList.lookup_insert s.orders
      exact ⟨h.signedFill.symm, _, hnow, h.inMarket, rfl⟩
  once := by
    rw [h.unreflected]
    split_ifs
    · exact hb.once
    · rw [List.map_append, List.nodup_append]
      refine ⟨hb.once, List.nodup_singleton _, ?_⟩
      rintro k₁ hk₁ k₂ hk₂ rfl
      obtain rfl := List.mem_singleton.1 hk₂
      obtain ⟨⟨k', q⟩, hq, rfl⟩ := List.mem_map.1 hk₁
      exact lacks_eq_false.1 (h.not_lacked hb) q hq
  whole := by
    rw [h.ledger]
    exact hb.whole
  position := by
    have hwhole : WholeLots venue market signed := by
      rw [h.change, ← h.inMarket]
      exact (wholeLots_nat venue order.market lots).signedSize order.isBuy
    rw [h.position]
    exact hb.position.add hwhole
  balance := by
    rw [h.ledger, h.position, h.unreflected, ← hb.balance]
    split_ifs with hlots
    · rw [h.zero hlots, add_zero]
    · rw [missing_append, missing_singleton, add_assoc]

/-- The row of the order that is matched. -/
lemma RowAccounted.matched (hr : RowAccounted s k row) (hl : LedgerAccounted s row.market)
    (hb : Balanced venue s row.market)
    (h : OrderMatched venue s s' row.market k order lots signed) : RowAccounted s' k row := by
  have hstate := h.not_filled hr
  obtain ⟨hcreated, before, last, he⟩ := hr
  refine ⟨hcreated.trans h.history.clock, before, last, he.evolve (.refl row) h.history hl
    (Or.inl (by rw [h.ledger])) (fun hopen => ?_) fun hterminal => ?_⟩
  · have ho := he.opened hopen
    refine ⟨ho.unresolved, ho.unmarked,
      ho.quiet.ordered h.orders (fun k' hk => h.lacks_of_ne hk) h.rows, ?_, ?_⟩
    · rw [h.rows]
      exact ho.newest
    · rw [h.position, ho.position, h.signedFill_before, h.signedFill, add_zero]
  · have hclosed := he.closed hterminal
    refine ⟨h.history.resolved hclosed.resolved, fun hfilled => absurd hfilled hstate,
      fun hmarked => absurd (hclosed.marked hmarked).1 hstate,
      fun hfilled => absurd hfilled hstate, fun hunmarked hlast hverified => ?_⟩
    rw [h.ledger] at hlast hverified ⊢
    have hbefore : s.reflectedFill row.market k = 0 := by
      rw [ExecutorState.reflectedFill, h.not_lacked hb]
      exact h.signedFill_before
    rw [h.reflectedFill, ← hbefore]
    exact hclosed.size hunmarked hlast hverified

lemma MarketAccounted.matched (hm : MarketAccounted venue s market)
    (hrow : s.executions.lookup k = some row) (hmarket : row.market = market)
    (h : OrderMatched venue s s' market k order lots signed) :
    MarketAccounted venue s' market where
  balanced := hm.balanced.matched h
  rows k₁ row₁ hrow₁ hmarket₁ := by
    subst hmarket₁
    rw [h.rows] at hrow₁
    have hr := hm.rows k₁ row₁ hrow₁ rfl
    by_cases hk : k₁ = k
    · subst hk
      exact hr.matched hm.ledger hm.balanced h
    · -- the market of an open row has no other order on its way
      have hterminal : row₁.state.terminal = true := by
        obtain ⟨-, before, last, he⟩ := hr
        by_contra hopen
        have ho := he.opened (by simpa using hopen)
        have hsettled := (ho.quiet.settled k order (Ne.symm hk) h.sent h.inMarket).1
        rw [h.unmatched] at hsettled
        cases hsettled
      exact hr.over hterminal h.history hm.ledger h.ledger (h.lacks_of_ne hk)
        (signedFill_of_ne h.orders hk)
  ledger := by
    refine ⟨fun k' hlast => ?_, fun v hv => ?_⟩
    · rw [h.ledger] at hlast
      obtain ⟨row', hrow', hmarket', hterminal, hlacks⟩ := hm.ledger.attributed k' hlast
      refine ⟨row', by rw [h.rows]; exact hrow', hmarket', hterminal, fun hfilled => ?_⟩
      have hk : k' ≠ k := by
        rintro rfl
        exact h.not_filled (hm.rows k' row' hrow' hmarket') hfilled
      rw [h.lacks_of_ne hk]
      exact hlacks hfilled
    · rw [h.ledger] at hv
      exact (hm.ledger.verifiedAt v hv).trans h.history.clock

end Matched

end Order

/-! ## A fill is applied -/

section Apply

variable {venue : Venue} {s s' : ExecutorState} {now : ℕ} {k : Cloid} {row row' : Execution}
  {ledger' : LedgerRow} {added : Bool} {before : LedgerDecimal} {last : Option Cloid}

lemma FillApplied.marks {ledger : LedgerRow}
    (h : FillApplied k row ledger now row' ledger' added) : row'.ledgerAppliedAt.isSome = true := by
  obtain ⟨rfl, hmarked⟩ | ⟨rfl, -⟩ := h.row_eq
  · exact hmarked
  · rfl

/-- What the application of a fill comes to: the ledger row stays, since the fill is in it, or it is
attributed to the execution, and the fill is added if and only if it is not in it. -/
inductive FillAttributed (s : ExecutorState) (k : Cloid) (row : Execution) (last : Option Cloid)
    (ledger' : LedgerRow) (added : Bool) : Prop
  | unchanged (hledger : ledger' = s.ledger row.market) (hadded : added = false)
      (hlacks : s.lacks row.market k = false)
  | moved (hbefore : (s.ledger row.market).lastExecutionId = last)
      (hlast : ledger'.lastExecutionId = some k)
      (hverified : ledger'.exchangeVerifiedAt = (s.ledger row.market).exchangeVerifiedAt)
      (hadded : added = s.lacks row.market k)
      (hsize : ledger'.size.value = (s.ledger row.market).size.value +
        if added then s.signedFill k else 0)

/-- The fill of a row, as its order says it. -/
lemma ClosedRow.signedFill (h : ClosedRow s k row before last) (ho : OrdersJournaled venue s)
    (hrow : s.executions.lookup k = some row) (hfilled : row.state = .filled) :
    WholeLots venue row.market (row.filledSize.getD 0) ∧
      s.signedFill k = signedSize row.isBuy (row.filledSize.getD 0) := by
  obtain ⟨order, horder, hfill⟩ := h.filled hfilled
  obtain ⟨-, ⟨row₁, hrow₁, hmarket, hbuy⟩, hwhole⟩ := ho k order horder
  obtain rfl := Option.some.inj (hrow.symm.trans hrow₁)
  refine ⟨hmarket ▸ hwhole _ hfill, ?_⟩
  rw [ExecutorState.signedFill, horder, ← hbuy]
  simp [hfill]

/-- **The decision of `_apply_fill_to_ledger` is right.** -/
lemma MarketAccounted.fillAttributed (hm : MarketAccounted venue s row.market)
    (ho : OrdersJournaled venue s) (hrow : s.executions.lookup k = some row)
    (hfilled : row.state = .filled) (he : EvidenceTrue s k row before last)
    (hfill : FillApplied k row (s.ledger row.market) now row' ledger' added) :
    FillAttributed s k row last ledger' added := by
  have hclosed := he.closed (by rw [hfilled]; rfl)
  cases hfill with
  | already hflag => exact .unchanged rfl rfl (hclosed.marked hflag).2
  | legacy hflag hsize hlast =>
      rw [he.sizeBefore] at hsize
      cases hsize
  | attributed hflag hlast =>
      obtain ⟨row₁, hrow₁, -, -, hlacks⟩ := hm.ledger.attributed k hlast
      obtain rfl := Option.some.inj (hrow.symm.trans hrow₁)
      refine .unchanged ?_ rfl (hlacks hfilled)
      rw [← hlast]
  | verified last' hflag hbefore hlast hverified =>
      have hlacks := hclosed.verified hfilled hverified
      obtain rfl := Option.some.inj (he.lastBefore.symm.trans hbefore)
      exact .moved hlast rfl rfl hlacks.symm (by simp)
  | added size last' hflag hsize hbefore hpos hlast hverified hledger =>
      obtain rfl := Option.some.inj (he.lastBefore.symm.trans hbefore)
      obtain rfl := Option.some.inj (he.sizeBefore.symm.trans hsize)
      obtain ⟨hwhole, hsigned⟩ := hclosed.signedFill ho hrow hfilled
      rw [hwhole.persisted] at hpos
      -- were the fill in the ledger size, the size would not be the one before it
      have hlacks : s.lacks row.market k = true := by
        by_contra hnot
        have hsize := hclosed.size hflag hlast hverified
        rw [hledger, ExecutorState.reflectedFill, if_neg hnot, hsigned, left_eq_add] at hsize
        rw [signedSize_eq_zero hsize] at hpos
        exact absurd hpos (lt_irrefl _)
      refine .moved hlast rfl rfl hlacks.symm ?_
      have hbase : WholeLots venue row.market before.value := hledger ▸ hm.balanced.whole
      change (persistedLedgerDecimal _).value = (s.ledger row.market).size.value + s.signedFill k
      rw [hwhole.persisted, WholeLots.persisted (hbase.add (hwhole.signedSize row.isBuy)), hledger,
        hsigned]

/-- The row and the ledger row are written, and the history notes what was added. -/
structure FillWritten (s s' : ExecutorState) (k : Cloid) (row row' : Execution)
    (ledger' : LedgerRow) (added : Bool) : Prop where
  history : HistoryKept s s'
  rows : s'.executions = s.executions.insert k row'
  orders : s'.orders = s.orders
  ledger : s'.ledger row.market = ledger'
  position : s'.position row.market = s.position row.market
  unreflected : s'.unreflected row.market =
    if added then (s.unreflected row.market).filter fun u => u.1 ≠ k
    else s.unreflected row.market

lemma FillWritten.of_writeFill {market : Market} {t : TaskId} {task : ExecutorTask}
    (hmarket : row.market = market)
    (hhistory : HistoryKept s
      { (s.writeFill market k row' ledger' added).putTask t task with clock := now }) :
    FillWritten s { (s.writeFill market k row' ledger' added).putTask t task with clock := now }
      k row row' ledger' added where
  history := hhistory
  rows := rfl
  orders := rfl
  ledger := by
    rw [hmarket]
    exact Function.update_self _ _ _
  position := rfl
  unreflected := by
    rw [hmarket]
    cases added with
    | true => exact Function.update_self _ _ _
    | false => rfl

section Written

variable (hm : MarketAccounted venue s row.market) (hq : Quiet s row.market k)
  (hattributed : FillAttributed s k row last ledger' added)
  (h : FillWritten s s' k row row' ledger' added)

include hm hq hattributed h

/-- The ledger size of a quiet market lacks nothing once the fill is applied. -/
lemma FillWritten.nothing_missing : s'.unreflected row.market = [] := by
  have hadded : added = s.lacks row.market k := by
    cases hattributed with
    | unchanged _ hadded hlacks => rw [hadded, hlacks]
    | moved _ _ _ hadded => exact hadded
  rw [h.unreflected, hadded]
  obtain ⟨hnil, hlacks⟩ | ⟨hone, hlacks⟩ := hm.balanced.lacking_quiet hq
  · rw [hlacks, hnil]
    rfl
  · rw [hlacks, hone]
    simp

lemma FillWritten.not_lacks (k' : Cloid) : s'.lacks row.market k' = false := by
  rw [ExecutorState.lacks, h.nothing_missing hm hq hattributed]
  rfl

/-- **After the application the ledger size is the position.** -/
lemma FillWritten.size_exact :
    (s'.ledger row.market).size.value = s'.position row.market := by
  rw [h.ledger, h.position, ← hm.balanced.balance]
  cases hattributed with
  | unchanged heq _ hlacks =>
      obtain ⟨hnil, -⟩ | ⟨-, hnot⟩ := hm.balanced.lacking_quiet hq
      · rw [heq, hnil, missing_nil, add_zero]
      · rw [hlacks] at hnot
        cases hnot
  | moved _ _ _ hadded hsize =>
      rw [hsize, hadded]
      obtain ⟨hnil, hlacks⟩ | ⟨hone, hlacks⟩ := hm.balanced.lacking_quiet hq
      · rw [hlacks, hnil, missing_nil]
        rfl
      · rw [hlacks, hone, missing_singleton]
        rfl

lemma FillWritten.balanced : Balanced venue s' row.market where
  lacking k' q hmem := by
    rw [h.nothing_missing hm hq hattributed] at hmem
    cases hmem
  once := by
    rw [h.nothing_missing hm hq hattributed]
    exact List.nodup_nil
  whole := by
    rw [h.size_exact hm hq hattributed, h.position]
    exact hm.balanced.position
  position := by
    rw [h.position]
    exact hm.balanced.position
  balance := by
    rw [h.nothing_missing hm hq hattributed, missing_nil, add_zero,
      h.size_exact hm hq hattributed]

omit hm hq in
/-- The ledger row is as before, or attributed to a younger execution. -/
lemma FillWritten.moves (he : EvidenceTrue s k row before last)
    (hevolves : RowEvolves row row') :
    s'.ledger row.market = s.ledger row.market ∨
      (s'.ledger row.market).lastExecutionId = some k ∧
        (s'.ledger row.market).exchangeVerifiedAt = (s.ledger row.market).exchangeVerifiedAt ∧
        s.bornAt (s.ledger row.market).lastExecutionId <
          s'.bornAt (s'.ledger row.market).lastExecutionId := by
  have hrow' : s'.executions.lookup k = some row' := by
    rw [h.rows]
    exact AList.lookup_insert _
  cases hattributed with
  | unchanged heq => exact Or.inl (h.ledger.trans heq)
  | moved hbefore hlast hverified =>
      refine Or.inr ⟨by rw [h.ledger, hlast], by rw [h.ledger, hverified], ?_⟩
      rw [h.ledger, hlast, hbefore, bornAt_some hrow', hevolves.createdAt]
      exact he.older

end Written

/-- The application of a fill in a quiet market. -/
lemma MarketAccounted.applied (hm : MarketAccounted venue s row.market)
    (ho : OrdersJournaled venue s) (hrow : s.executions.lookup k = some row)
    (hq : Quiet s row.market k) (hfilled : row.state = .filled)
    (hfill : FillApplied k row (s.ledger row.market) now row' ledger' added)
    (h : FillWritten s s' k row row' ledger' added) : MarketAccounted venue s' row.market := by
  obtain ⟨hcreated, before, last, he⟩ := hm.rows k row hrow rfl
  have hattributed := hm.fillAttributed ho hrow hfilled he hfill
  have hclosed := he.closed (by rw [hfilled]; rfl)
  have hevolves := hfill.evolves
  have hlacks := h.not_lacks hm hq hattributed
  have hmoves := h.moves hattributed he hevolves
  have hkept := hevolves.terminal (by rw [hfilled]; rfl)
  have hstate : row'.state = .filled := hkept.1.trans hfilled
  refine ⟨h.balanced hm hq hattributed, fun k₁ row₁ hrow₁ hmarket₁ => ?_, ?_⟩
  · rw [h.rows, Table.lookup_insert_eq] at hrow₁
    split_ifs at hrow₁ with hk
    · subst hk
      obtain rfl := Option.some.inj hrow₁
      refine ⟨?_, before, last, he.evolve hevolves h.history hm.ledger ?_ ?_ fun _ => ?_⟩
      · rw [hevolves.createdAt]
        exact hcreated.trans h.history.clock
      · exact hmoves.imp (fun heq => by rw [heq]) fun hmoved => hmoved.2.2
      · rw [hstate]
        nofun
      · rw [← hevolves.market] at hlacks
        refine ⟨?_, fun _ => ?_, fun _ => ⟨hstate, hlacks k₁⟩, fun _ _ => hlacks k₁, ?_⟩
        · obtain ⟨r, hr, hle⟩ := h.history.resolved hclosed.resolved
          exact ⟨r, hkept.2.2.trans hr, hle⟩
        · obtain ⟨order, horder, hsize⟩ := hclosed.filled hfilled
          exact ⟨order, by rw [h.orders]; exact horder, by rw [hsize, hkept.2.1]⟩
        · intro hunmarked
          have hmarked := hfill.marks
          rw [hunmarked] at hmarked
          cases hmarked
    · have hterminal := hq.resolved k₁ row₁ hk hrow₁ hmarket₁
      have hr := hm.rows k₁ row₁ hrow₁ hmarket₁
      have hnot := hm.balanced.not_lacks_other hq hk
      rw [← hmarket₁] at hmoves hlacks hnot
      obtain hsame | ⟨-, -, hyounger⟩ := hmoves
      · refine hr.over hterminal h.history (hmarket₁ ▸ hm.ledger) hsame ?_ ?_
        · rw [hlacks, hnot]
        · rw [ExecutorState.signedFill, ExecutorState.signedFill, h.orders]
      · exact hr.superseded hterminal h.history (hmarket₁ ▸ hm.ledger) hyounger
          (fun _ => hlacks k₁) fun _ _ => hlacks k₁
  · refine ⟨fun k₁ hlast => ?_, fun v hv => ?_⟩
    · have hold : ∀ row₁, s.executions.lookup k₁ = some row₁ → row₁.market = row.market →
          row₁.state.terminal = true → ∃ row₂, s'.executions.lookup k₁ = some row₂ ∧
            row₂.market = row.market ∧ row₂.state.terminal = true ∧
              (row₂.state = .filled → s'.lacks row.market k₁ = false) := by
        intro row₁ hrow₁ hmarket₁ hterminal
        obtain ⟨row₂, hrow₂, hevolves₂⟩ := h.history.rows k₁ row₁ hrow₁
        refine ⟨row₂, hrow₂, hevolves₂.market.trans hmarket₁, ?_, fun _ => hlacks k₁⟩
        rw [(hevolves₂.terminal hterminal).1]
        exact hterminal
      obtain hsame | ⟨hmoved, -⟩ := hmoves
      · rw [hsame] at hlast
        obtain ⟨row₁, hrow₁, hmarket₁, hterminal, -⟩ := hm.ledger.attributed k₁ hlast
        exact hold row₁ hrow₁ hmarket₁ hterminal
      · rw [hmoved] at hlast
        obtain rfl := Option.some.inj hlast
        exact hold row hrow rfl (by rw [hfilled]; rfl)
    · have hverified : (s'.ledger row.market).exchangeVerifiedAt =
          (s.ledger row.market).exchangeVerifiedAt :=
        hmoves.elim (fun hsame => by rw [hsame]) fun hmoved => hmoved.2.1
      rw [hverified] at hv
      exact (hm.ledger.verifiedAt v hv).trans h.history.clock

end Apply

/-! ## A snapshot is written -/

section Snapshot

variable {venue : Venue} {s s' : ExecutorState} {now : ℕ} {market : Market} {k : Cloid}
  {row row' : Execution} {position : ℚ} {seen : List Cloid}

/-- The ledger size is overwritten by a position that was read before, and lacks what was matched
since. -/
structure SnapshotWritten (s s' : ExecutorState) (market : Market) (position : ℚ)
    (seen : List Cloid) (verifiedAt : ℕ) : Prop where
  history : HistoryKept s s'
  orders : s'.orders = s.orders
  size : (s'.ledger market).size = persistedLedgerDecimal position
  verified : (s'.ledger market).exchangeVerifiedAt = some verifiedAt
  since : s.clock < verifiedAt ∧ verifiedAt ≤ s'.clock
  position : s'.position market = s.position market
  unreflected : s'.unreflected market = (s.unreflected market).filter fun u => u.1 ∉ seen

lemma SnapshotWritten.lacks {verifiedAt : ℕ}
    (h : SnapshotWritten s s' market position seen verifiedAt) :
    s'.lacks market k = true ↔ s.lacks market k = true ∧ k ∉ seen := by
  rw [lacks_eq_true, lacks_eq_true, h.unreflected]
  simp [List.mem_filter]

lemma SnapshotWritten.not_lacks {verifiedAt : ℕ}
    (h : SnapshotWritten s s' market position seen verifiedAt) (hnot : s.lacks market k = false) :
    s'.lacks market k = false := by
  rw [← Bool.not_eq_true, h.lacks, hnot]
  simp

lemma SnapshotWritten.signedFill {verifiedAt : ℕ}
    (h : SnapshotWritten s s' market position seen verifiedAt) (k : Cloid) :
    s'.signedFill k = s.signedFill k := by
  rw [ExecutorState.signedFill, ExecutorState.signedFill, h.orders]

/-- The fill of an order that was FILLED when the snapshot was read is in the ledger size. -/
lemma SnapshotWritten.not_lacks_filled {verifiedAt : ℕ}
    (h : SnapshotWritten s s' market position seen verifiedAt)
    (hseen : SnapshotSeen venue s market position seen) (hrow : s.executions.lookup k = some row)
    (hmarket : row.market = market) (hfilled : row.state = .filled) :
    s'.lacks market k = false := by
  rw [← Bool.not_eq_true, h.lacks]
  rintro ⟨hlacks, hnot⟩
  exact hnot (hseen.filled k row hrow hmarket hfilled hlacks)

lemma SnapshotWritten.balanced {verifiedAt : ℕ}
    (h : SnapshotWritten s s' market position seen verifiedAt)
    (hseen : SnapshotSeen venue s market position seen) (hb : Balanced venue s market) :
    Balanced venue s' market where
  lacking k q hmem := by
    rw [h.unreflected] at hmem
    obtain ⟨hq, order, horder, hmarket, hfill⟩ := hb.lacking k q (List.mem_filter.1 hmem).1
    exact ⟨hq.trans (h.signedFill k).symm, order, by rw [h.orders]; exact horder, hmarket, hfill⟩
  once := by
    rw [h.unreflected]
    exact hb.once.sublist (List.filter_sublist.map _)
  whole := by
    rw [h.size, hseen.whole.persisted]
    exact hseen.whole
  position := by
    rw [h.position]
    exact hb.position
  balance := by
    rw [h.size, hseen.whole.persisted, h.unreflected, h.position]
    exact hseen.balance

/-- A terminal row under a snapshot: whatever was known before it was read is in the ledger. -/
lemma ClosedRow.snapshot {verifiedAt : ℕ} {before : LedgerDecimal} {last : Option Cloid}
    (hclosed : ClosedRow s k row before last)
    (h : SnapshotWritten s s' row.market position seen verifiedAt)
    (hseen : SnapshotSeen venue s row.market position seen)
    (hrow : s.executions.lookup k = some row) : ClosedRow s' k row before last where
  resolved := h.history.resolved hclosed.resolved
  filled hfilled := h.history.matched (hclosed.filled hfilled)
  marked hmarked := (hclosed.marked hmarked).imp_right h.not_lacks
  verified hfilled _ := h.not_lacks_filled hseen hrow rfl hfilled
  size _ _ hverified := by
    obtain ⟨r, hr, hle⟩ := hclosed.resolved
    rw [verifiedAfterResolution, hr, h.verified] at hverified
    have hlt := hle.trans_lt h.since.1
    simp only [decide_eq_false_iff_not] at hverified
    omega

lemma OpenRow.snapshot {verifiedAt : ℕ} {before : LedgerDecimal} (hopen : OpenRow s k row before)
    (h : SnapshotWritten s s' row.market position seen verifiedAt)
    (hrows : s'.executions = s.executions) : OpenRow s' k row before where
  unresolved := hopen.unresolved
  unmarked := hopen.unmarked
  quiet :=
    { resolved := by
        rw [hrows]
        exact hopen.quiet.resolved
      settled := by
        rw [h.orders]
        intro k' order hk horder hmarket
        exact (hopen.quiet.settled k' order hk horder hmarket).imp_right h.not_lacks }
  newest := by
    rw [hrows]
    exact hopen.newest
  position := by
    rw [h.position, h.signedFill]
    exact hopen.position

/-- The reconciler writes what it has read. -/
lemma MarketAccounted.reconciled {verifiedAt : ℕ} (hm : MarketAccounted venue s market)
    (h : SnapshotWritten s s' market position seen verifiedAt)
    (hseen : SnapshotSeen venue s market position seen) (hrows : s'.executions = s.executions)
    (hlast : (s'.ledger market).lastExecutionId = (s.ledger market).lastExecutionId) :
    MarketAccounted venue s' market where
  balanced := h.balanced hseen hm.balanced
  rows k row hrow hmarket := by
    subst hmarket
    rw [hrows] at hrow
    obtain ⟨hcreated, before, last, he⟩ := hm.rows k row hrow rfl
    exact ⟨hcreated.trans h.history.clock, before, last, he.evolve (.refl row) h.history hm.ledger
      (Or.inl hlast) (fun hopen => (he.opened hopen).snapshot h hrows)
      fun hterminal => (he.closed hterminal).snapshot h hseen hrow⟩
  ledger := by
    refine ⟨fun k hk => ?_, fun v hv => ?_⟩
    · rw [hlast] at hk
      rw [hrows]
      obtain ⟨row, hrow, hmarket, hterminal, hlacks⟩ := hm.ledger.attributed k hk
      exact ⟨row, hrow, hmarket, hterminal, fun hfilled => h.not_lacks (hlacks hfilled)⟩
    · rw [h.verified] at hv
      obtain rfl := Option.some.inj hv
      exact h.since.2

/-- An open row is younger than what its ledger row is attributed to. -/
lemma EvidenceTrue.younger {before : LedgerDecimal} {last : Option Cloid}
    (h : EvidenceTrue s k row before last) (hl : LedgerAccounted s row.market)
    (hopen : row.state.terminal = false) (hrow : s.executions.lookup k = some row) :
    s.bornAt (s.ledger row.market).lastExecutionId < row.createdAt := by
  cases hlast : (s.ledger row.market).lastExecutionId with
  | none => exact (Nat.zero_le _).trans_lt h.older
  | some k₁ =>
      obtain ⟨row₁, hrow₁, hmarket₁, hterminal, -⟩ := hl.attributed k₁ hlast
      have hk : k₁ ≠ k := by
        rintro rfl
        obtain rfl := Option.some.inj (hrow.symm.trans hrow₁)
        rw [hopen] at hterminal
        cases hterminal
      rw [bornAt_some hrow₁]
      exact (h.opened hopen).newest k₁ row₁ hk hrow₁ hmarket₁

/-- The resolver writes what it has read, together with the outcome of the order. -/
lemma MarketAccounted.resolved {verifiedAt : ℕ} (hm : MarketAccounted venue s row.market)
    (h : SnapshotWritten s s' row.market position seen verifiedAt)
    (hseen : SnapshotSeen venue s row.market position seen)
    (hrow : s.executions.lookup k = some row) (hopen : row.state.terminal = false)
    {o : OrderOutcome} (hrow' : persistOutcome row o now = some row')
    (hover : o.state.terminal = true) (hclock : s'.clock = now)
    (hmatched : o.state = .filled →
      (∃ order, s.orders.lookup k = some order ∧ order.fill = some (o.filledSize.getD 0)) ∧
        (s.lacks row.market k = true → k ∈ seen))
    (hrows : s'.executions = s.executions.insert k row')
    (hlast : (s'.ledger row.market).lastExecutionId = some k) :
    MarketAccounted venue s' row.market := by
  obtain ⟨hcreated, before, last, he⟩ := hm.rows k row hrow rfl
  have ho := he.opened hopen
  have hevolves := persistOutcome_evolves hrow' hopen
  obtain rfl := (persistOutcome_eq_some hrow').1
  have hnew := (congrArg (AList.lookup k) hrows).trans (AList.lookup_insert _)
  have hyounger : s.bornAt (s.ledger row.market).lastExecutionId <
      s'.bornAt (s'.ledger row.market).lastExecutionId := by
    rw [hlast, bornAt_some hnew]
    exact he.younger hm.ledger hopen hrow
  have hlacks : o.state = .filled → s'.lacks row.market k = false := by
    intro hfilled
    rw [← Bool.not_eq_true, h.lacks]
    rintro ⟨hlacked, hnot⟩
    exact hnot ((hmatched hfilled).2 hlacked)
  refine ⟨h.balanced hseen hm.balanced, fun k₁ row₁ hrow₁ hmarket₁ => ?_, ?_⟩
  · by_cases hk : k₁ = k
    · subst hk
      obtain rfl := Option.some.inj (hnew.symm.trans hrow₁)
      refine ⟨hcreated.trans h.history.clock, before, last, he.evolve hevolves h.history hm.ledger
        (Or.inr hyounger) ?_ fun _ => ⟨?_, ?_, ?_, fun hfilled _ => hlacks hfilled, ?_⟩⟩
      · rw [hover]
        nofun
      · exact ⟨now, if_pos hover, hclock.ge⟩
      · rw [h.orders]
        exact fun hfilled => (hmatched hfilled).1
      · intro hmarked
        have hunmarked : row.ledgerAppliedAt.isSome = true := hmarked
        rw [ho.unmarked] at hunmarked
        cases hunmarked
      · exact fun _ hsame => absurd hsame (he.not_attributed h.history hyounger)
    · rw [hrows, Table.lookup_insert_eq, if_neg hk] at hrow₁
      have hterminal := ho.quiet.resolved k₁ row₁ hk hrow₁ hmarket₁
      refine (hm.rows k₁ row₁ hrow₁ hmarket₁).superseded hterminal h.history (hmarket₁ ▸ hm.ledger)
        ?_ ?_ fun hfilled _ => ?_
      · rw [hmarket₁]
        exact hyounger
      · rw [hmarket₁]
        exact h.not_lacks
      · rw [hmarket₁]
        exact h.not_lacks_filled hseen hrow₁ hmarket₁ hfilled
  · refine ⟨fun k₁ hk₁ => ?_, fun v hv => ?_⟩
    · rw [hlast] at hk₁
      obtain rfl := Option.some.inj hk₁
      exact ⟨_, hnew, rfl, hover, hlacks⟩
    · rw [h.verified] at hv
      obtain rfl := Option.some.inj hv
      exact h.since.2

end Snapshot

end HyperCopy

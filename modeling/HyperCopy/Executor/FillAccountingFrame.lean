import HyperCopy.Executor.FillAccounting

/-!
# What a step leaves alone in the accounts

A step works on one market, or on the markets of one snapshot.  In the others nothing happens
(`MarketKept`), and in the market itself all rows but one are terminal, since it is quiet: for them
only the ledger row matters.  Either it is as before (`RowAccounted.over`), or it has been attributed
to a younger execution (`RowAccounted.superseded`), after which the evidence of the older rows never
counts again.
-/

namespace HyperCopy

/-- Rows evolve, and matched orders stay as they are. -/
structure HistoryKept (s s' : ExecutorState) : Prop where
  clock : s.clock ≤ s'.clock
  orders : ∀ k order, s.orders.lookup k = some order → order.fill.isSome = true →
    s'.orders.lookup k = some order
  rows : ∀ k row, s.executions.lookup k = some row →
    ∃ row', s'.executions.lookup k = some row' ∧ RowEvolves row row'

/-- The ledger row, what it lacks and the position are as before. -/
structure BooksKept (s s' : ExecutorState) (market : Market) : Prop where
  ledger : s'.ledger market = s.ledger market
  unreflected : s'.unreflected market = s.unreflected market
  position : s'.position market = s.position market

/-- Nothing has happened in the market. -/
structure MarketKept (s s' : ExecutorState) (market : Market) : Prop extends
    BooksKept s s' market where
  rows : ∀ k row, row.market = market →
    (s'.executions.lookup k = some row ↔ s.executions.lookup k = some row)
  orders : ∀ k order, order.market = market →
    (s'.orders.lookup k = some order ↔ s.orders.lookup k = some order)

section Kept

variable {venue : Venue} {s s' : ExecutorState} {market : Market} {k : Cloid} {row : Execution}

lemma HistoryKept.bornAt (h : HistoryKept s s') {last : Option Cloid}
    (hknown : ∀ k, last = some k → (s.executions.lookup k).isSome = true) :
    s'.bornAt last = s.bornAt last := by
  cases last with
  | none => rfl
  | some k =>
      obtain ⟨row, hrow⟩ := Option.isSome_iff_exists.1 (hknown k rfl)
      obtain ⟨row', hrow', hevolves⟩ := h.rows k row hrow
      simp [ExecutorState.bornAt, hrow, hrow', hevolves.createdAt]

lemma bornAt_some (hrow : s.executions.lookup k = some row) :
    s.bornAt (some k) = row.createdAt := by
  simp [ExecutorState.bornAt, hrow]

lemma HistoryKept.isSome (h : HistoryKept s s') (hk : (s.executions.lookup k).isSome = true) :
    (s'.executions.lookup k).isSome = true := by
  obtain ⟨row, hrow⟩ := Option.isSome_iff_exists.1 hk
  obtain ⟨row', hrow', -⟩ := h.rows k row hrow
  rw [hrow']
  rfl

lemma HistoryKept.signedFill (h : HistoryKept s s') {order : ExchangeOrder}
    (horder : s.orders.lookup k = some order) (hfill : order.fill.isSome = true) :
    s'.signedFill k = s.signedFill k := by
  simp [ExecutorState.signedFill, horder, h.orders k order horder hfill]

/-- What has been matched of an order is final. -/
lemma HistoryKept.matched (h : HistoryKept s s') {size : ℚ}
    (hmatched : ∃ order, s.orders.lookup k = some order ∧ order.fill = some size) :
    ∃ order, s'.orders.lookup k = some order ∧ order.fill = some size := by
  obtain ⟨order, horder, hfill⟩ := hmatched
  exact ⟨order, h.orders k order horder (by rw [hfill]; rfl), hfill⟩

lemma HistoryKept.resolved (h : HistoryKept s s')
    (hresolved : ∃ r, row.resolvedAt = some r ∧ r ≤ s.clock) :
    ∃ r, row.resolvedAt = some r ∧ r ≤ s'.clock := by
  obtain ⟨r, hr, hle⟩ := hresolved
  exact ⟨r, hr, hle.trans h.clock⟩

lemma BooksKept.lacks (h : BooksKept s s' market) (k : Cloid) :
    s'.lacks market k = s.lacks market k := by
  rw [ExecutorState.lacks, ExecutorState.lacks, h.unreflected]

lemma LedgerAccounted.known (h : LedgerAccounted s market) (k : Cloid)
    (hlast : (s.ledger market).lastExecutionId = some k) :
    (s.executions.lookup k).isSome = true := by
  obtain ⟨row, hrow, -⟩ := h.attributed k hlast
  rw [hrow]
  rfl

/-- The ledger is attributed to something that was journaled before now. -/
lemma MarketAccounted.bornAt_le (h : MarketAccounted venue s market) :
    s.bornAt (s.ledger market).lastExecutionId ≤ s.clock := by
  cases hlast : (s.ledger market).lastExecutionId with
  | none => exact Nat.zero_le _
  | some k =>
      obtain ⟨row, hrow, hmarket, -⟩ := h.ledger.attributed k hlast
      rw [bornAt_some hrow]
      exact (h.rows k row hrow hmarket).created

/-! ## Rows and ledger rows -/

/-- A terminal row of a market whose ledger row is as before. -/
lemma ClosedRow.frame {before : LedgerDecimal} {last : Option Cloid}
    (h : ClosedRow s k row before last) (hhistory : HistoryKept s s')
    (hledger : s'.ledger row.market = s.ledger row.market)
    (hlacks : s'.lacks row.market k = s.lacks row.market k)
    (hsigned : s'.signedFill k = s.signedFill k) : ClosedRow s' k row before last where
  resolved := hhistory.resolved h.resolved
  filled hstate := hhistory.matched (h.filled hstate)
  marked hmarked := by
    rw [hlacks]
    exact h.marked hmarked
  verified hstate hverified := by
    rw [hledger] at hverified
    rw [hlacks]
    exact h.verified hstate hverified
  size hmarked hlast hverified := by
    rw [hledger] at hlast hverified ⊢
    rw [ExecutorState.reflectedFill, hlacks, hsigned]
    exact h.size hmarked hlast hverified

lemma EvidenceTrue.bornAt_le {before : LedgerDecimal} {last : Option Cloid}
    (h : EvidenceTrue s k row before last) :
    s.bornAt last ≤ s.bornAt (s.ledger row.market).lastExecutionId := by
  obtain heq | hlt := h.attribution
  · rw [heq]
  · exact hlt.le

/-- The evidence of a row stays true, while the ledger is attributed as before or to a younger
execution. -/
lemma EvidenceTrue.evolve {before : LedgerDecimal} {last : Option Cloid}
    (h : EvidenceTrue s k row before last) {row' : Execution} (hevolves : RowEvolves row row')
    (hhistory : HistoryKept s s') (hl : LedgerAccounted s row.market)
    (hlast : (s'.ledger row.market).lastExecutionId = (s.ledger row.market).lastExecutionId ∨
      s.bornAt (s.ledger row.market).lastExecutionId <
        s'.bornAt (s'.ledger row.market).lastExecutionId)
    (hopened : row'.state.terminal = false → OpenRow s' k row' before)
    (hclosed : row'.state.terminal = true → ClosedRow s' k row' before last) :
    EvidenceTrue s' k row' before last where
  sizeBefore := hevolves.sizeBefore.trans h.sizeBefore
  lastBefore := hevolves.lastBefore.trans h.lastBefore
  known k' hk' := hhistory.isSome (h.known k' hk')
  older := by
    rw [hhistory.bornAt h.known, hevolves.createdAt]
    exact h.older
  attribution := by
    rw [hevolves.market, hhistory.bornAt h.known]
    obtain hsame | hyounger := hlast
    · rw [hsame, hhistory.bornAt hl.known]
      exact h.attribution
    · exact Or.inr (h.bornAt_le.trans_lt hyounger)
  opened := hopened
  closed := hclosed

/-- Nothing was journaled while the ledger was attributed to a younger execution. -/
lemma EvidenceTrue.not_attributed {before : LedgerDecimal} {last : Option Cloid}
    (h : EvidenceTrue s k row before last) (hhistory : HistoryKept s s')
    (hyounger : s.bornAt (s.ledger row.market).lastExecutionId <
      s'.bornAt (s'.ledger row.market).lastExecutionId) :
    (s'.ledger row.market).lastExecutionId ≠ last := by
  rintro rfl
  rw [hhistory.bornAt h.known] at hyounger
  exact absurd hyounger h.bornAt_le.not_gt

/-- A terminal row, where the ledger row is as before. -/
lemma RowAccounted.over (h : RowAccounted s k row) (hterminal : row.state.terminal = true)
    (hhistory : HistoryKept s s') (hl : LedgerAccounted s row.market)
    (hledger : s'.ledger row.market = s.ledger row.market)
    (hlacks : s'.lacks row.market k = s.lacks row.market k)
    (hsigned : s'.signedFill k = s.signedFill k) : RowAccounted s' k row := by
  obtain ⟨before, last, he⟩ := h.evidence
  refine ⟨h.created.trans hhistory.clock, before, last, he.evolve (.refl row) hhistory hl
    (Or.inl (by rw [hledger])) ?_ fun _ => ?_⟩
  · rw [hterminal]
    nofun
  · exact (he.closed hterminal).frame hhistory hledger hlacks hsigned

/-- A terminal row, where the ledger row has been attributed to a younger execution. -/
lemma RowAccounted.superseded (h : RowAccounted s k row) (hterminal : row.state.terminal = true)
    (hhistory : HistoryKept s s') (hl : LedgerAccounted s row.market)
    (hyounger : s.bornAt (s.ledger row.market).lastExecutionId <
      s'.bornAt (s'.ledger row.market).lastExecutionId)
    (hlacks : s.lacks row.market k = false → s'.lacks row.market k = false)
    (hverified : row.state = .filled →
      verifiedAfterResolution row (s'.ledger row.market) = true → s'.lacks row.market k = false) :
    RowAccounted s' k row := by
  obtain ⟨before, last, he⟩ := h.evidence
  refine ⟨h.created.trans hhistory.clock, before, last, he.evolve (.refl row) hhistory hl
    (Or.inr hyounger) ?_ fun _ => ?_⟩
  · rw [hterminal]
    nofun
  have hclosed := he.closed hterminal
  refine ⟨hhistory.resolved hclosed.resolved,
    fun hstate => hhistory.matched (hclosed.filled hstate), ?_, hverified, ?_⟩
  · exact fun hmarked => (hclosed.marked hmarked).imp_right hlacks
  · exact fun _ hsame => absurd hsame (he.not_attributed hhistory hyounger)

lemma LedgerAccounted.frame (h : LedgerAccounted s market) (hhistory : HistoryKept s s')
    (hbooks : BooksKept s s' market) : LedgerAccounted s' market where
  attributed k hlast := by
    rw [hbooks.ledger] at hlast
    obtain ⟨row, hrow, hmarket, hterminal, hlacks⟩ := h.attributed k hlast
    obtain ⟨row', hrow', hevolves⟩ := hhistory.rows k row hrow
    have hstate := (hevolves.terminal hterminal).1
    refine ⟨row', hrow', hevolves.market.trans hmarket, hstate ▸ hterminal, fun hfilled => ?_⟩
    rw [hbooks.lacks]
    exact hlacks (hstate ▸ hfilled)
  verifiedAt v hv := by
    rw [hbooks.ledger] at hv
    exact (h.verifiedAt v hv).trans hhistory.clock

lemma Balanced.frame (h : Balanced venue s market) (hhistory : HistoryKept s s')
    (hbooks : BooksKept s s' market) : Balanced venue s' market where
  lacking k q hmem := by
    rw [hbooks.unreflected] at hmem
    obtain ⟨rfl, order, horder, hmarket, hfill⟩ := h.lacking k q hmem
    exact ⟨(hhistory.signedFill horder hfill).symm, order, hhistory.orders k order horder hfill,
      hmarket, hfill⟩
  once := by
    rw [hbooks.unreflected]
    exact h.once
  whole := by
    rw [hbooks.ledger]
    exact h.whole
  position := by
    rw [hbooks.position]
    exact h.position
  balance := by
    rw [hbooks.ledger, hbooks.unreflected, hbooks.position]
    exact h.balance

/-! ## Markets in which nothing has happened -/

lemma MarketKept.quiet (h : MarketKept s s' market) (hq : Quiet s market k) :
    Quiet s' market k where
  resolved k' row hk hrow hmarket := hq.resolved k' row hk ((h.rows k' row hmarket).1 hrow) hmarket
  settled k' order hk horder hmarket := by
    rw [h.lacks]
    exact hq.settled k' order hk ((h.orders k' order hmarket).1 horder) hmarket

/-- The order of a row of the market is as before. -/
lemma MarketKept.signedFill (h : MarketKept s s' row.market) (ho : OrdersJournaled venue s)
    (ho' : OrdersJournaled venue s') (hrow : s.executions.lookup k = some row) :
    s'.signedFill k = s.signedFill k := by
  have hrow' := (h.rows k row rfl).2 hrow
  have hsame : s'.orders.lookup k = s.orders.lookup k := by
    cases horder : s.orders.lookup k with
    | some order =>
        obtain ⟨-, ⟨row₁, hrow₁, hmarket, -⟩, -⟩ := ho k order horder
        obtain rfl := Option.some.inj (hrow.symm.trans hrow₁)
        exact (h.orders k order hmarket).2 horder
    | none =>
        cases horder' : s'.orders.lookup k with
        | none => rfl
        | some order =>
            obtain ⟨-, ⟨row₁, hrow₁, hmarket, -⟩, -⟩ := ho' k order horder'
            obtain rfl := Option.some.inj (hrow'.symm.trans hrow₁)
            rw [(h.orders k order hmarket).1 horder'] at horder
            cases horder
  rw [ExecutorState.signedFill, ExecutorState.signedFill, hsame]

lemma RowAccounted.kept (h : RowAccounted s k row) (hhistory : HistoryKept s s')
    (hkept : MarketKept s s' row.market) (hl : LedgerAccounted s row.market)
    (hrow : s.executions.lookup k = some row) (ho : OrdersJournaled venue s)
    (ho' : OrdersJournaled venue s') : RowAccounted s' k row := by
  have hsigned := hkept.signedFill ho ho' hrow
  cases hterminal : row.state.terminal with
  | true => exact h.over hterminal hhistory hl hkept.ledger (hkept.lacks k) hsigned
  | false =>
      obtain ⟨before, last, he⟩ := h.evidence
      have hopen := he.opened hterminal
      refine ⟨h.created.trans hhistory.clock, before, last, he.evolve (.refl row) hhistory hl
        (Or.inl (by rw [hkept.ledger])) (fun _ => ?_) ?_⟩
      · refine ⟨hopen.unresolved, hopen.unmarked, hkept.quiet hopen.quiet, ?_, ?_⟩
        · intro k' row' hk hrow' hmarket
          exact hopen.newest k' row' hk ((hkept.rows k' row' hmarket).1 hrow') hmarket
        · rw [hkept.position, hsigned]
          exact hopen.position
      · rw [hterminal]
        nofun

/-- **Frame rule of the accounts.** -/
lemma MarketAccounted.kept (h : MarketAccounted venue s market) (hhistory : HistoryKept s s')
    (hkept : MarketKept s s' market) (ho : OrdersJournaled venue s)
    (ho' : OrdersJournaled venue s') : MarketAccounted venue s' market where
  balanced := h.balanced.frame hhistory hkept.toBooksKept
  rows k row hrow hmarket := by
    subst hmarket
    have hold := (hkept.rows k row rfl).1 hrow
    exact (h.rows k row hold rfl).kept hhistory hkept h.ledger hold ho ho'
  ledger := h.ledger.frame hhistory hkept.toBooksKept

lemma SnapshotSeen.kept {position : ℚ} {seen : List Cloid}
    (h : SnapshotSeen venue s market position seen) (hhistory : HistoryKept s s')
    (hkept : MarketKept s s' market) : SnapshotSeen venue s' market position seen where
  whole := h.whole
  balance := by
    rw [hkept.unreflected, hkept.position]
    exact h.balance
  matched k hk := by
    obtain ⟨order, horder, hfill⟩ := h.matched k hk
    exact ⟨order, hhistory.orders k order horder hfill, hfill⟩
  filled k row hrow hmarket hstate hlacks := by
    rw [hkept.lacks] at hlacks
    exact h.filled k row ((hkept.rows k row hmarket).1 hrow) hmarket hstate hlacks

end Kept

end HyperCopy

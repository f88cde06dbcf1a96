import HyperCopy.Executor.AmbiguityFence
import HyperCopy.Library.Nearest

/-!
# The ledger and the position

Three writers change the size of a ledger row: an attempt adds the fill of its order, the
reconciler overwrites it by a snapshot, and so does the resolver.  `_apply_fill_to_ledger` decides
from what was journaled before the order went out whether a snapshot has been faster.  `Balanced`
is what the three keep between them: a ledger size and the fills it lacks add up to the position.
`RowAccounted` is what the evidence of a row is worth: until the row is terminal the position moves
with its order alone, and from then on the ledger size says whether the fill is in it, as long as
the ledger is attributed as it was.

This needs a market in which nothing else is going on (`Quiet`) whenever an attempt comes to a leg,
to send its order or to look for what became of it.
-/

namespace HyperCopy

/-- A whole number of lots of the market. -/
def WholeLots (venue : Venue) (market : Market) (size : ℚ) : Prop :=
  Quantize.IsMultiple (lot (venue.szDecimals market.asset)) size

namespace ExecutorState

/-- The fill of the order is not in the ledger size of the market. -/
def lacks (s : ExecutorState) (market : Market) (k : Cloid) : Bool :=
  (s.unreflected market).any fun u => u.1 = k

/-- The change of the position that the order has made. -/
def signedFill (s : ExecutorState) (k : Cloid) : ℚ :=
  match s.orders.lookup k with
  | some order => signedSize order.isBuy (order.fill.getD 0)
  | none => 0

/-- What of it is in the ledger size of the market. -/
def reflectedFill (s : ExecutorState) (market : Market) (k : Cloid) : ℚ :=
  if s.lacks market k then 0 else s.signedFill k

/-- When the execution was journaled, and 0 for none. -/
def bornAt (s : ExecutorState) (last : Option Cloid) : ℕ :=
  ((last.bind fun k => s.executions.lookup k).map (·.createdAt)).getD 0

end ExecutorState

/-- The sum of the fills that a ledger size lacks. -/
def missing (unreflected : List (Cloid × ℚ)) : ℚ := (unreflected.map (·.2)).sum

/-- Whatever else was ordered in the market is over: its row is terminal, its order is matched, and
the ledger size contains the fill. -/
structure Quiet (s : ExecutorState) (market : Market) (k : Cloid) : Prop where
  resolved : ∀ k' row, k' ≠ k → s.executions.lookup k' = some row → row.market = market →
    row.state.terminal = true
  settled : ∀ k' order, k' ≠ k → s.orders.lookup k' = some order → order.market = market →
    order.fill.isSome = true ∧ s.lacks market k' = false

lemma quiet_iff {s : ExecutorState} {market : Market} {k : Cloid} :
    (Table.any s.executions (fun k' row =>
        k' ≠ k && row.market = market && !row.state.terminal) = false ∧
      Table.any s.orders (fun k' order =>
        k' ≠ k && order.market = market && (!order.fill.isSome || s.lacks market k')) = false) ↔
      Quiet s market k := by
  simp only [Table.any_eq_false]
  constructor
  · rintro ⟨hrows, horders⟩
    exact ⟨by grind, by grind⟩
  · rintro ⟨hrows, horders⟩
    exact ⟨by grind, by grind⟩

instance (s : ExecutorState) (market : Market) (k : Cloid) : Decidable (Quiet s market k) :=
  decidable_of_iff _ quiet_iff

/-! ## The invariant -/

/-- Every order at the exchange is the order of a journaled row, and has been called for. -/
def OrdersJournaled (venue : Venue) (s : ExecutorState) : Prop :=
  ∀ k order, s.orders.lookup k = some order → k ∈ s.calls ∧
    (∃ row, s.executions.lookup k = some row ∧ order.market = row.market ∧
      order.isBuy = row.isBuy) ∧
    ∀ f, order.fill = some f → WholeLots venue order.market f

/-- The ledger size of the market and the fills it lacks add up to the position. -/
structure Balanced (venue : Venue) (s : ExecutorState) (market : Market) : Prop where
  lacking : ∀ k q, (k, q) ∈ s.unreflected market → q = s.signedFill k ∧
    ∃ order, s.orders.lookup k = some order ∧ order.market = market ∧ order.fill.isSome = true
  once : ((s.unreflected market).map Prod.fst).Nodup
  whole : WholeLots venue market (s.ledger market).size.value
  position : WholeLots venue market (s.position market)
  balance : (s.ledger market).size.value + missing (s.unreflected market) = s.position market

/-- A row whose order is not known to be over is the last of its market, and the only one that
moves the position. -/
structure OpenRow (s : ExecutorState) (k : Cloid) (row : Execution) (before : LedgerDecimal) :
    Prop where
  unresolved : row.resolvedAt = none
  unmarked : row.ledgerAppliedAt = none
  quiet : Quiet s row.market k
  newest : ∀ k' row', k' ≠ k → s.executions.lookup k' = some row' → row'.market = row.market →
    row'.createdAt < row.createdAt
  position : s.position row.market = before.value + s.signedFill k

/-- Of a terminal row: what FILLED says of the order, where the fill is in the ledger size, and what
the ledger size is as long as nothing else was attributed and no snapshot was written since. -/
structure ClosedRow (s : ExecutorState) (k : Cloid) (row : Execution) (before : LedgerDecimal)
    (last : Option Cloid) : Prop where
  resolved : ∃ r, row.resolvedAt = some r ∧ r ≤ s.clock
  filled : row.state = .filled →
    ∃ order, s.orders.lookup k = some order ∧ order.fill = some (row.filledSize.getD 0)
  marked : row.ledgerAppliedAt.isSome = true →
    row.state = .filled ∧ s.lacks row.market k = false
  verified : row.state = .filled →
    verifiedAfterResolution row (s.ledger row.market) = true → s.lacks row.market k = false
  size : row.ledgerAppliedAt = none → (s.ledger row.market).lastExecutionId = last →
    verifiedAfterResolution row (s.ledger row.market) = false →
      (s.ledger row.market).size.value = before.value + s.reflectedFill row.market k

/-- What was journaled with a row, seen from the ledger.  The ledger is only ever attributed to
younger executions. -/
structure EvidenceTrue (s : ExecutorState) (k : Cloid) (row : Execution) (before : LedgerDecimal)
    (last : Option Cloid) : Prop where
  sizeBefore : row.ledgerSizeBeforeSubmit = some before
  lastBefore : row.ledgerLastExecutionIdBeforeSubmit = some last
  known : ∀ k', last = some k' → (s.executions.lookup k').isSome = true
  older : s.bornAt last < row.createdAt
  attribution : (s.ledger row.market).lastExecutionId = last ∨
    s.bornAt last < s.bornAt (s.ledger row.market).lastExecutionId
  opened : row.state.terminal = false → OpenRow s k row before
  closed : row.state.terminal = true → ClosedRow s k row before last

/-- What is known of an execution row. -/
structure RowAccounted (s : ExecutorState) (k : Cloid) (row : Execution) : Prop where
  created : row.createdAt ≤ s.clock
  evidence : ∃ before last, EvidenceTrue s k row before last

/-- A ledger row is attributed to a terminal execution of its market, whose fill it contains. -/
structure LedgerAccounted (s : ExecutorState) (market : Market) : Prop where
  attributed : ∀ k, (s.ledger market).lastExecutionId = some k →
    ∃ row, s.executions.lookup k = some row ∧ row.market = market ∧ row.state.terminal = true ∧
      (row.state = .filled → s.lacks market k = false)
  verifiedAt : ∀ v, (s.ledger market).exchangeVerifiedAt = some v → v ≤ s.clock

/-- What a snapshot of the market has been worth since it was read: it lacks what was matched
later, and it contains all orders known to be FILLED. -/
structure SnapshotSeen (venue : Venue) (s : ExecutorState) (market : Market) (position : ℚ)
    (seen : List Cloid) : Prop where
  whole : WholeLots venue market position
  balance : position + missing ((s.unreflected market).filter fun u => u.1 ∉ seen) =
    s.position market
  matched : ∀ k ∈ seen, ∃ order, s.orders.lookup k = some order ∧ order.fill.isSome = true
  filled : ∀ k row, s.executions.lookup k = some row → row.market = market → row.state = .filled →
    s.lacks market k = true → k ∈ seen

/-- What a task knows of the market it works on. -/
def TaskAccounted (venue : Venue) (s : ExecutorState) : ExecutorTask → Prop
  | .attempt id _ _ (.filled a leg _) => Quiet s a.market ⟨id, leg.kind⟩
  | .attempt _ _ _ _ => True
  | .reconcile u observed seen =>
    ∀ asset, SnapshotSeen venue s ⟨u, asset⟩ (observed asset) (seen asset)
  | .resolve k market verdict seen =>
    (∀ position, verdict.position = some position → SnapshotSeen venue s market position seen) ∧
      ∀ row, (verdict.outcome row).state = .filled →
        (∃ order, s.orders.lookup k = some order ∧
          order.fill = some ((verdict.outcome row).filledSize.getD 0)) ∧
          (s.lacks market k = true → k ∈ seen)

/-- What is known of a market. -/
structure MarketAccounted (venue : Venue) (s : ExecutorState) (market : Market) : Prop where
  balanced : Balanced venue s market
  rows : ∀ k row, s.executions.lookup k = some row → row.market = market → RowAccounted s k row
  ledger : LedgerAccounted s market

/-- The invariant of a run in which attempts find quiet markets and true answers. -/
structure Accounted (venue : Venue) (s : ExecutorState) : Prop where
  disciplined : Disciplined venue s
  orders : OrdersJournaled venue s
  markets : ∀ market, MarketAccounted venue s market
  tasks : ∀ t task, s.tasks.lookup t = some task → TaskAccounted venue s task

/-! ## Lots -/

section Lots

variable {venue : Venue} {market : Market} {x y : ℚ}

lemma isMultiple_lot {n m : ℕ} (h : n ≤ m) : Quantize.IsMultiple (lot m) (lot n) := by
  refine ⟨10 ^ (m - n), ?_⟩
  have hpow : (10 : ℚ) ^ m = 10 ^ (m - n) * 10 ^ n := by rw [← pow_add, Nat.sub_add_cancel h]
  unfold lot
  rw [hpow]
  push_cast
  field_simp

/-- A whole number of lots is stored as it is. -/
lemma WholeLots.persisted (h : WholeLots venue market x) :
    (persistedLedgerDecimal x).value = x := by
  have hfine : lot 12 = ledgerQuantum := rfl
  have hle : venue.szDecimals market.asset ≤ 12 :=
    (venue.szDecimals_le market.asset).trans (by decide)
  exact Quantize.halfUpTo_of_isMultiple (lot_pos 12) (hfine ▸ (isMultiple_lot hle).trans h)

lemma WholeLots.signedSize (h : WholeLots venue market x) (isBuy : Bool) :
    WholeLots venue market (signedSize isBuy x) := by
  cases isBuy with
  | true => exact h
  | false => exact h.neg

lemma wholeLots_nat (venue : Venue) (market : Market) (lots : ℕ) :
    WholeLots venue market (lots * lot (venue.szDecimals market.asset)) :=
  ⟨lots, by push_cast; rfl⟩

/-- Less than a lot is nothing. -/
lemma WholeLots.eq_zero (h : WholeLots venue market x)
    (hsmall : |x| < lot (venue.szDecimals market.asset)) : x = 0 := by
  obtain ⟨n, rfl⟩ := h
  have hlot := lot_pos (venue.szDecimals market.asset)
  rw [abs_mul, abs_of_pos hlot, mul_lt_iff_lt_one_left hlot] at hsmall
  have hn : |n| < 1 := by exact_mod_cast hsmall
  rw [Int.abs_lt_one_iff.1 hn]
  simp

lemma signedSize_eq_zero {isBuy : Bool} (h : HyperCopy.signedSize isBuy x = 0) : x = 0 := by
  cases isBuy with
  | true => exact h
  | false => exact neg_eq_zero.1 h

end Lots

/-! ## What a ledger size lacks -/

section Lacking

variable {venue : Venue} {s : ExecutorState} {market : Market} {k : Cloid}

@[simp] lemma missing_nil : missing [] = 0 := rfl

@[simp] lemma missing_append (l l' : List (Cloid × ℚ)) :
    missing (l ++ l') = missing l + missing l' := by
  simp [missing]

@[simp] lemma missing_singleton (u : Cloid × ℚ) : missing [u] = u.2 := by
  simp [missing]

lemma lacks_eq_true : s.lacks market k = true ↔ ∃ q, (k, q) ∈ s.unreflected market := by
  simp [ExecutorState.lacks]

lemma lacks_eq_false : s.lacks market k = false ↔ ∀ q, (k, q) ∉ s.unreflected market := by
  rw [← Bool.not_eq_true, lacks_eq_true, not_exists]

/-- In a quiet market the ledger size lacks at most the fill of the one order. -/
lemma Balanced.lacking_quiet (hb : Balanced venue s market) (hq : Quiet s market k) :
    s.unreflected market = [] ∧ s.lacks market k = false ∨
      s.unreflected market = [(k, s.signedFill k)] ∧ s.lacks market k = true := by
  have hkeys : ∀ u ∈ s.unreflected market, u = (k, s.signedFill k) := by
    rintro ⟨k', q⟩ hmem
    obtain ⟨rfl, order, horder, hmarket, -⟩ := hb.lacking k' q hmem
    by_cases hk : k' = k
    · rw [hk]
    · have hsettled := (hq.settled k' order hk horder hmarket).2
      exact absurd hmem (lacks_eq_false.1 hsettled _)
  have honce := hb.once
  cases hlist : s.unreflected market with
  | nil => exact Or.inl ⟨rfl, by simp [ExecutorState.lacks, hlist]⟩
  | cons u rest =>
      rw [hlist] at hkeys honce
      obtain rfl := hkeys u List.mem_cons_self
      refine Or.inr ⟨?_, by simp [ExecutorState.lacks, hlist]⟩
      cases rest with
      | nil => rfl
      | cons u' rest =>
          obtain rfl := hkeys u' (List.mem_cons_of_mem _ List.mem_cons_self)
          simp at honce

lemma Balanced.not_lacks_other (hb : Balanced venue s market) (hq : Quiet s market k) {k' : Cloid}
    (hk : k' ≠ k) : s.lacks market k' = false := by
  obtain ⟨hnil, -⟩ | ⟨hone, -⟩ := hb.lacking_quiet hq
  · simp [ExecutorState.lacks, hnil]
  · simp [ExecutorState.lacks, hone, Ne.symm hk]

/-- The ledger size of a quiet market, seen from the size at which its one order began. -/
lemma Balanced.size_quiet (hb : Balanced venue s market) (hq : Quiet s market k) {before : ℚ}
    (hposition : s.position market = before + s.signedFill k) :
    (s.ledger market).size.value = before + s.reflectedFill market k := by
  have hbalance := hb.balance
  rw [hposition] at hbalance
  obtain ⟨hnil, hlacks⟩ | ⟨hone, hlacks⟩ := hb.lacking_quiet hq
  · rw [hnil, missing_nil, add_zero] at hbalance
    simp [ExecutorState.reflectedFill, hlacks, hbalance]
  · rw [hone, missing_singleton] at hbalance
    simp [ExecutorState.reflectedFill, hlacks, add_right_cancel hbalance]

/-- Where the ledger size lacks nothing it is the position. -/
lemma Balanced.size_exact (hb : Balanced venue s market) (hq : Quiet s market k)
    (hlacks : s.lacks market k = false) : (s.ledger market).size.value = s.position market := by
  obtain ⟨hnil, -⟩ | ⟨-, hnot⟩ := hb.lacking_quiet hq
  · simpa [hnil] using hb.balance
  · rw [hlacks] at hnot
    cases hnot

end Lacking

end HyperCopy

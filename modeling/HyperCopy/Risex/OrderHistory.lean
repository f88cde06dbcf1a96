import HyperCopy.Engine.States
import Mathlib.Algebra.Order.Group.Nat
import Mathlib.Algebra.Order.Ring.Rat
import Mathlib.Tactic.Common

/-!
# Order history as evidence

`services/risex_execution_resolution.py` resolves an Execution of unknown outcome from the paged
order history of the provider, and only beside a proof that the nonce of the Execution was consumed
(`security/risex_consumed_nonce_evidence.py`).  Both are reads of untrusted answers.  Any answer
can be missing, of another type or inconsistent with the page asked for, and every read can raise.

`readRisexOrderHistory_eq_some` says exactly when an outcome is returned: the pages up to the last
were all read within the limit (`ReadThrough`), one row of all of them is wanted, and that row is a
terminal order of the account (`TerminalOrder`).  `ConsumedNonce` adds the proof of the nonce.

What the source takes from Python's text functions is a parameter, `PythonText`.
-/

namespace HyperCopy.OrderHistory

/-- A JSON value.  `other` is a fraction, a list or an object, with the text `str` gives it. -/
inductive JsonValue
  | null
  | boolean (b : Bool)
  | integer (n : ℤ)
  | text (s : String)
  | other (rendered : String)
deriving DecidableEq, Repr

/-- `str(value)`. -/
def JsonValue.str : JsonValue → String
  | .null => "None"
  | .boolean b => if b then "True" else "False"
  | .integer n => toString n
  | .text s => s
  | .other rendered => rendered

/-- Text functions of Python: `str.lower`, the decimal value of a character, the finite number a
text denotes for `Decimal`, the number it denotes for `int(text, 16)`, and `bytes.fromhex`. -/
structure PythonText where
  lower : String → String
  digit : Char → Option ℕ
  decimal : String → Option ℚ
  hexInt : String → Option ℤ
  fromHex : String → Option (List UInt8)

variable (P : PythonText)

/-! ## Readers -/

/-- `_decimal_or_none`. -/
def decimalOrNone (value : JsonValue) : Option ℚ :=
  match value with
  | .null | .boolean _ => none
  | value => P.decimal value.str

/-- `_positive_price_or_none`. -/
def positivePriceOrNone (value : JsonValue) : Option ℚ :=
  (decimalOrNone P value).filter fun parsed => 0 < parsed

/-- The number a list of decimal characters denotes; `none` at the first other character. -/
def decimalInt : List Char → ℕ → Option ℕ
  | [], value => some value
  | c :: rest, value => (P.digit c).bind fun d => decimalInt rest (10 * value + d)

/-- `_parse_decimal_string_int`.  `int` refuses a text of more than 4300 digits. -/
def parseDecimalStringInt (value : JsonValue) : Option ℕ :=
  match value with
  | .text s => if s.isEmpty || 4300 < s.length then none else decimalInt P s.toList 0
  | _ => none

/-! ## One order -/

/-- A row of the history; a key it does not have reads as null. -/
structure HistoryRow where
  clientOrderId : JsonValue
  createdAt : JsonValue
  sender : JsonValue
  status : JsonValue
  filledSize : JsonValue
  id : JsonValue
  txHash : JsonValue
  blockNumber : JsonValue
  avgPrice : JsonValue
  cancelReason : JsonValue
deriving DecidableEq, Repr

/-- The outcome of an order, as `_normalize_exact_order` returns it. -/
structure HistoryOutcome where
  providerOrderId : String
  clientOrderId : ℕ
  executionState : ExecutionState
  filledSize : ℚ
  avgPrice : Option ℚ
  reason : Option String
  txHash : String
  orderBlockNumber : JsonValue
  status : String
  source : String
  rawOrder : HistoryRow
deriving DecidableEq, Repr

/-- The state a status and a filled size stand for. -/
def terminalState (status : String) (filledSize : ℚ) : Option ExecutionState :=
  if status = "ORDER_STATUS_FILLED" then
    if filledSize ≤ 0 then none else some .filled
  else if status = "ORDER_STATUS_CANCELLED" then
    some (if 0 < filledSize then .filled else .canceled)
  else none

/-- The provider's id of an order: any value but null and a Boolean, unless its text is empty. -/
def providerOrderId (value : JsonValue) : Option String :=
  match value with
  | .null | .boolean _ => none
  | value => if value.str.isEmpty then none else some value.str

/-- A text that is not empty. -/
def nonemptyText (value : JsonValue) : Option String :=
  match value with
  | .text s => if s.isEmpty then none else some s
  | _ => none

/-- A block number is a text or an integer. -/
def blockNumberOrNone (value : JsonValue) : Option JsonValue :=
  match value with
  | .text s => some (.text s)
  | .integer n => some (.integer n)
  | _ => none

/-- The reason of a cancellation, where one is given. -/
def cancelReason (state : ExecutionState) (value : JsonValue) : Option String :=
  if state = .canceled ∧ value ≠ .null ∧ value ≠ .text "" then some value.str else none

/-- `_normalize_exact_order`. -/
def normalizeExactOrder (account : String) (clientOrderId : ℕ) (order : HistoryRow) :
    Option HistoryOutcome :=
  if parseDecimalStringInt P order.clientOrderId ≠ some clientOrderId then none
  else match order.sender, order.status with
  | .text sender, .text status =>
      if P.lower sender ≠ P.lower account then none
      else do
        let filledSize ← decimalOrNone P order.filledSize
        if filledSize < 0 then none
        else do
          let executionState ← terminalState status filledSize
          let providerOrderId ← providerOrderId order.id
          let txHash ← nonemptyText order.txHash
          let orderBlockNumber ← blockNumberOrNone order.blockNumber
          return {
            providerOrderId := providerOrderId
            clientOrderId := clientOrderId
            executionState := executionState
            filledSize := filledSize
            avgPrice := positivePriceOrNone P order.avgPrice
            reason := cancelReason executionState order.cancelReason
            txHash := txHash
            orderBlockNumber := orderBlockNumber
            status := status
            source := "/v1/orders"
            rawOrder := order }
  | _, _ => none

/-! ## The pages -/

/-- The `data` of an answer: its `orders`, where they are a list, each an object or not, and the
two fields of the paging. -/
structure HistoryPage where
  orders : Option (List (Option HistoryRow))
  page : JsonValue
  hasNextPage : JsonValue
deriving DecidableEq, Repr

/-- One read of the transport: it raises, or answers with a `data` that is an object or not. -/
inductive PageRead
  | raised
  | data (page : Option HistoryPage)
deriving DecidableEq, Repr

/-- The rows of a page that are wanted, in their order.  A row that is not an object, or has no
decimal client order id or time, spoils the page. -/
def scanRows (lowerBoundNs : ℤ) (clientOrderId : ℕ) :
    List (Option HistoryRow) → Option (List HistoryRow)
  | [] => some []
  | none :: _ => none
  | some row :: rows => do
      let rawClientOrderId ← parseDecimalStringInt P row.clientOrderId
      let createdAtNs ← parseDecimalStringInt P row.createdAt
      let exactMatches ← scanRows lowerBoundNs clientOrderId rows
      return if (createdAtNs : ℤ) < lowerBoundNs then exactMatches
        else if rawClientOrderId = clientOrderId then row :: exactMatches else exactMatches

/-- One page: its wanted rows, and whether another follows. -/
def readPage (lowerBoundNs : ℤ) (clientOrderId pageNumber : ℕ) (read : PageRead) :
    Option (List HistoryRow × Bool) :=
  match read with
  | .data (some ⟨some orders, .integer page, .boolean hasNextPage⟩) =>
      if page ≠ pageNumber then none
      else (scanRows P lowerBoundNs clientOrderId orders).map fun rows => (rows, hasNextPage)
  | _ => none

/-- The loop over the pages from `pageNumber` on, with the rows wanted so far.  It fails where it
runs out of pages. -/
def readPages (fetch : ℕ → PageRead) (lowerBoundNs : ℤ) (clientOrderId maxPages : ℕ) :
    ℕ → ℕ → List HistoryRow → Option (List HistoryRow)
  | 0, _, _ => none
  | remaining + 1, pageNumber, exactMatches =>
      match readPage P lowerBoundNs clientOrderId pageNumber (fetch pageNumber) with
      | none => none
      | some (rows, hasNextPage) =>
          if !hasNextPage then some (exactMatches ++ rows)
          else if pageNumber = maxPages then none
          else readPages fetch lowerBoundNs clientOrderId maxPages remaining (pageNumber + 1)
            (exactMatches ++ rows)

/-- The transport of the public interface. -/
structure PublicApi where
  publicReadOnly : Bool
  /-- `/v1/orders` for an account, a page and a start time. -/
  getOrders : String → ℕ → ℤ → PageRead

/-- The arguments of a read.  `lowerBoundNs` is the creation time of the Execution less the
lookback, in nanoseconds. -/
structure HistoryQuery where
  account : String
  clientOrderId : ℤ
  lowerBoundNs : ℤ
  maxPages : ℤ

/-- The checks before the first read. -/
def HistoryQuery.admissible (q : HistoryQuery) (api : PublicApi) : Bool :=
  api.publicReadOnly && 0 < q.clientOrderId && q.clientOrderId < 2 ^ 64 && 0 < q.maxPages

/-- `read_risex_order_history`. -/
def readRisexOrderHistory (api : PublicApi) (q : HistoryQuery) : Option HistoryOutcome :=
  if !q.admissible api then none
  else
    match readPages P (fun page => api.getOrders q.account page q.lowerBoundNs) q.lowerBoundNs
      q.clientOrderId.toNat q.maxPages.toNat q.maxPages.toNat 1 [] with
    | some [order] => normalizeExactOrder P q.account q.clientOrderId.toNat order
    | _ => none

/-! ## What one page says -/

variable {P}

/-- The row names an order and a time. -/
def HistoryRow.WellFormed (P : PythonText) (row : HistoryRow) : Prop :=
  (parseDecimalStringInt P row.clientOrderId).isSome = true ∧
    (parseDecimalStringInt P row.createdAt).isSome = true

/-- The row is at or after the bound and carries the wanted client order id. -/
def HistoryRow.wanted (P : PythonText) (lowerBoundNs : ℤ) (clientOrderId : ℕ) (row : HistoryRow) :
    Bool :=
  parseDecimalStringInt P row.clientOrderId = some clientOrderId &&
    (parseDecimalStringInt P row.createdAt).any fun createdAtNs => lowerBoundNs ≤ createdAtNs

/-- The two comparisons of the scan keep exactly the wanted rows. -/
lemma scanned_row_eq {lowerBoundNs : ℤ} {clientOrderId rawId createdAt : ℕ} {row : HistoryRow}
    (hid : parseDecimalStringInt P row.clientOrderId = some rawId)
    (htime : parseDecimalStringInt P row.createdAt = some createdAt)
    (exactMatches : List HistoryRow) :
    (if (createdAt : ℤ) < lowerBoundNs then exactMatches
      else if rawId = clientOrderId then row :: exactMatches else exactMatches) =
      if row.wanted P lowerBoundNs clientOrderId then row :: exactMatches else exactMatches := by
  have hwanted : row.wanted P lowerBoundNs clientOrderId =
      (decide (rawId = clientOrderId) && decide (lowerBoundNs ≤ createdAt)) := by
    simp [HistoryRow.wanted, hid, htime]
  rw [hwanted]
  by_cases hlate : (createdAt : ℤ) < lowerBoundNs
  · rw [if_pos hlate, decide_eq_false (not_le.2 hlate), Bool.and_false, if_neg Bool.false_ne_true]
  · rw [if_neg hlate, decide_eq_true (not_lt.1 hlate), Bool.and_true]
    by_cases hsame : rawId = clientOrderId <;> simp [hsame]

/-- The scan of a page succeeds exactly where every row is well formed, and keeps the wanted
ones. -/
lemma scanRows_eq_some {lowerBoundNs : ℤ} {clientOrderId : ℕ} {orders : List (Option HistoryRow)}
    {rows : List HistoryRow} :
    scanRows P lowerBoundNs clientOrderId orders = some rows ↔
      ∃ page : List HistoryRow, orders = page.map some ∧ (∀ row ∈ page, row.WellFormed P) ∧
        page.filter (HistoryRow.wanted P lowerBoundNs clientOrderId) = rows := by
  induction orders generalizing rows with
  | nil =>
      constructor
      · intro h
        exact ⟨[], rfl, fun row hrow => absurd hrow List.not_mem_nil, Option.some.inj h⟩
      · rintro ⟨page, hpage, -, rfl⟩
        obtain rfl : page = [] := List.map_eq_nil_iff.1 hpage.symm
        rfl
  | cons order orders ih =>
      cases order with
      | none =>
          constructor
          · intro h
            cases h
          · rintro ⟨page, hpage, -, -⟩
            cases page with
            | nil => cases hpage
            | cons row page => cases hpage
      | some row =>
          rw [scanRows]
          simp only [Option.bind_eq_bind, Option.bind_eq_some_iff, ih, Option.pure_def,
            Option.some.injEq]
          constructor
          · rintro ⟨rawId, hid, createdAt, htime, exactMatches, ⟨page, hpage, hwell, rfl⟩, rfl⟩
            refine ⟨row :: page, by rw [hpage, List.map_cons], ?_, ?_⟩
            · rw [List.forall_mem_cons]
              exact ⟨⟨by rw [hid, Option.isSome_some], by rw [htime, Option.isSome_some]⟩, hwell⟩
            · rw [scanned_row_eq hid htime, List.filter_cons]
          · rintro ⟨page, hpage, hwell, rfl⟩
            cases page with
            | nil => cases hpage
            | cons first page =>
                rw [List.map_cons, List.cons.injEq, Option.some.injEq] at hpage
                obtain ⟨rfl, hpage⟩ := hpage
                obtain ⟨⟨hid, htime⟩, hwell⟩ := List.forall_mem_cons.1 hwell
                obtain ⟨rawId, hid⟩ := Option.isSome_iff_exists.1 hid
                obtain ⟨createdAt, htime⟩ := Option.isSome_iff_exists.1 htime
                refine ⟨rawId, hid, createdAt, htime, _, ⟨page, hpage, hwell, rfl⟩, ?_⟩
                rw [scanned_row_eq hid htime, List.filter_cons]

/-- A page that was read as the page asked for: its rows are well formed, and it says whether
another follows. -/
def WellRead (P : PythonText) (read : PageRead) (pageNumber : ℕ) (rows : List HistoryRow)
    (hasNextPage : Bool) : Prop :=
  read = .data (some ⟨some (rows.map some), .integer pageNumber, .boolean hasNextPage⟩) ∧
    ∀ row ∈ rows, row.WellFormed P

lemma readPage_eq_some {lowerBoundNs : ℤ} {clientOrderId pageNumber : ℕ} {read : PageRead}
    {rows : List HistoryRow} {hasNextPage : Bool} :
    readPage P lowerBoundNs clientOrderId pageNumber read = some (rows, hasNextPage) ↔
      ∃ page, WellRead P read pageNumber page hasNextPage ∧
        page.filter (HistoryRow.wanted P lowerBoundNs clientOrderId) = rows := by
  constructor
  · intro h
    unfold readPage at h
    split at h
    · rename_i orders page next
      by_cases hpage : page = pageNumber
      · rw [if_neg (not_not.2 hpage)] at h
        obtain ⟨exactMatches, hscan, hrows⟩ := Option.map_eq_some_iff.1 h
        obtain ⟨rfl, rfl⟩ := Prod.mk.inj hrows
        obtain ⟨wellFormed, rfl, hwell, hfilter⟩ := scanRows_eq_some.1 hscan
        exact ⟨wellFormed, ⟨by rw [hpage], hwell⟩, hfilter⟩
      · rw [if_pos hpage] at h
        cases h
    · cases h
  · rintro ⟨page, ⟨rfl, hwell⟩, hfilter⟩
    have hscan := scanRows_eq_some.2 ⟨page, rfl, hwell, hfilter⟩
    simp [readPage, hscan]

/-! ## The loop over the pages -/

/-- The pages from a page on, each read as the page asked for, up to one that announces no further
page and lies within the limit. -/
inductive ReadThrough (P : PythonText) (fetch : ℕ → PageRead) (maxPages : ℕ) :
    ℕ → List (List HistoryRow) → Prop
  | last {pageNumber : ℕ} {rows : List HistoryRow} (hlimit : pageNumber ≤ maxPages)
      (hread : WellRead P (fetch pageNumber) pageNumber rows false) :
      ReadThrough P fetch maxPages pageNumber [rows]
  | next {pageNumber : ℕ} {rows : List HistoryRow} {pages : List (List HistoryRow)}
      (hlimit : pageNumber < maxPages)
      (hread : WellRead P (fetch pageNumber) pageNumber rows true)
      (hrest : ReadThrough P fetch maxPages (pageNumber + 1) pages) :
      ReadThrough P fetch maxPages pageNumber (rows :: pages)

/-- The loop returns exactly where the history was read through, with the wanted rows of all its
pages after those it had. -/
lemma readPages_eq_some (fetch : ℕ → PageRead) (lowerBoundNs : ℤ) (clientOrderId : ℕ)
    {maxPages remaining pageNumber : ℕ} {exactMatches rows : List HistoryRow}
    (hpages : pageNumber + remaining = maxPages + 1) :
    readPages P fetch lowerBoundNs clientOrderId maxPages remaining pageNumber exactMatches =
        some rows ↔
      ∃ pages, ReadThrough P fetch maxPages pageNumber pages ∧
        rows = exactMatches ++
          pages.flatten.filter (HistoryRow.wanted P lowerBoundNs clientOrderId) := by
  induction remaining generalizing pageNumber exactMatches with
  | zero =>
      constructor
      · intro h
        cases h
      · rintro ⟨pages, hread, -⟩
        cases hread with
        | last hlimit hread => omega
        | next hlimit hread hrest => omega
  | succ remaining ih =>
      have hrest : pageNumber + 1 + remaining = maxPages + 1 := by omega
      constructor
      · intro h
        rw [readPages] at h
        cases hpage : readPage P lowerBoundNs clientOrderId pageNumber (fetch pageNumber) with
        | none =>
            rw [hpage] at h
            cases h
        | some result =>
            obtain ⟨found, hasNextPage⟩ := result
            obtain ⟨page, hread, rfl⟩ := readPage_eq_some.1 hpage
            rw [hpage] at h
            cases hasNextPage with
            | false =>
                refine ⟨[page], .last (by omega) hread, ?_⟩
                simpa using (Option.some.inj h).symm
            | true =>
                by_cases hlast : pageNumber = maxPages
                · simp [hlast] at h
                · simp only [Bool.not_true, Bool.false_eq_true, if_false, hlast] at h
                  obtain ⟨pages, hthrough, rfl⟩ := (ih hrest).1 h
                  refine ⟨page :: pages, .next (by omega) hread hthrough, ?_⟩
                  rw [List.flatten_cons, List.filter_append, List.append_assoc]
      · rintro ⟨pages, hthrough, rfl⟩
        rw [readPages]
        cases hthrough with
        | last hlimit hread =>
            rw [readPage_eq_some.2 ⟨_, hread, rfl⟩]
            simp
        | @next _ page pages hlimit hread hthrough =>
            rw [readPage_eq_some.2 ⟨_, hread, rfl⟩]
            simp only [Bool.not_true, Bool.false_eq_true, if_false, hlimit.ne]
            refine (ih hrest).2 ⟨pages, hthrough, ?_⟩
            rw [List.flatten_cons, List.filter_append, List.append_assoc]

/-- The whole loop. -/
lemma readPages_first_eq_some {fetch : ℕ → PageRead} {lowerBoundNs : ℤ}
    {clientOrderId maxPages : ℕ} {rows : List HistoryRow} :
    readPages P fetch lowerBoundNs clientOrderId maxPages maxPages 1 [] = some rows ↔
      ∃ pages, ReadThrough P fetch maxPages 1 pages ∧
        pages.flatten.filter (HistoryRow.wanted P lowerBoundNs clientOrderId) = rows := by
  rw [readPages_eq_some fetch lowerBoundNs clientOrderId (Nat.add_comm 1 maxPages)]
  simp only [List.nil_append, eq_comm]

/-! ## The order -/

/-- The row is a terminal order of the account with this outcome. -/
structure TerminalOrder (P : PythonText) (account : String) (clientOrderId : ℕ)
    (row : HistoryRow) (outcome : HistoryOutcome) : Prop where
  exactId : parseDecimalStringInt P row.clientOrderId = some clientOrderId
  sender : ∃ sender, row.sender = .text sender ∧ P.lower sender = P.lower account
  status : row.status = .text outcome.status
  filledSize : decimalOrNone P row.filledSize = some outcome.filledSize
  state : (outcome.executionState = .filled ∧ 0 < outcome.filledSize ∧
      (outcome.status = "ORDER_STATUS_FILLED" ∨ outcome.status = "ORDER_STATUS_CANCELLED")) ∨
    (outcome.executionState = .canceled ∧ outcome.filledSize = 0 ∧
      outcome.status = "ORDER_STATUS_CANCELLED")
  identity : providerOrderId row.id = some outcome.providerOrderId ∧
    nonemptyText row.txHash = some outcome.txHash ∧
    blockNumberOrNone row.blockNumber = some outcome.orderBlockNumber
  carried : outcome.clientOrderId = clientOrderId ∧ outcome.rawOrder = row ∧
    outcome.source = "/v1/orders" ∧ outcome.avgPrice = positivePriceOrNone P row.avgPrice ∧
    outcome.reason = cancelReason outcome.executionState row.cancelReason

/-- The status and the filled size of a terminal order. -/
lemma terminalState_eq_some {status : String} {filledSize : ℚ} {state : ExecutionState}
    (hfilled : 0 ≤ filledSize) :
    terminalState status filledSize = some state ↔
      (state = .filled ∧ 0 < filledSize ∧
          (status = "ORDER_STATUS_FILLED" ∨ status = "ORDER_STATUS_CANCELLED")) ∨
        (state = .canceled ∧ filledSize = 0 ∧ status = "ORDER_STATUS_CANCELLED") := by
  unfold terminalState
  rcases hfilled.eq_or_lt with rfl | hpos
  · by_cases hstatus : status = "ORDER_STATUS_FILLED"
    · subst hstatus
      simp
    · by_cases hcancelled : status = "ORDER_STATUS_CANCELLED"
      · subst hcancelled
        simp [eq_comm]
      · simp [hstatus, hcancelled]
  · have hne : filledSize ≠ 0 := hpos.ne'
    by_cases hstatus : status = "ORDER_STATUS_FILLED"
    · subst hstatus
      simp [hpos, not_le.2 hpos, hne, eq_comm]
    · by_cases hcancelled : status = "ORDER_STATUS_CANCELLED"
      · subst hcancelled
        simp [hpos, hne, eq_comm]
      · simp [hstatus, hcancelled]

lemma normalizeExactOrder_eq_some {account : String} {clientOrderId : ℕ} {row : HistoryRow}
    {outcome : HistoryOutcome} :
    normalizeExactOrder P account clientOrderId row = some outcome ↔
      TerminalOrder P account clientOrderId row outcome := by
  constructor
  · intro h
    unfold normalizeExactOrder at h
    by_cases hid : parseDecimalStringInt P row.clientOrderId = some clientOrderId
    · rw [if_neg (not_not.2 hid)] at h
      split at h
      · rename_i sender status hsender hstatus
        by_cases hsame : P.lower sender = P.lower account
        · rw [if_neg (not_not.2 hsame)] at h
          obtain ⟨filledSize, hfilled, h⟩ := Option.bind_eq_some_iff.1 h
          by_cases hneg : filledSize < 0
          · rw [if_pos hneg] at h
            cases h
          · rw [if_neg hneg] at h
            obtain ⟨state, hstate, h⟩ := Option.bind_eq_some_iff.1 h
            obtain ⟨orderId, horderId, h⟩ := Option.bind_eq_some_iff.1 h
            obtain ⟨txHash, htx, h⟩ := Option.bind_eq_some_iff.1 h
            obtain ⟨blockNumber, hblock, h⟩ := Option.bind_eq_some_iff.1 h
            obtain rfl := Option.some.inj h
            exact ⟨hid, ⟨sender, hsender, hsame⟩, hstatus, hfilled,
              (terminalState_eq_some (not_lt.1 hneg)).1 hstate, ⟨horderId, htx, hblock⟩,
              rfl, rfl, rfl, rfl, rfl⟩
        · rw [if_pos hsame] at h
          cases h
      · cases h
    · rw [if_pos hid] at h
      cases h
  · rintro ⟨hid, ⟨sender, hsender, hsame⟩, hstatus, hfilled, hstate, ⟨horderId, htx, hblock⟩,
      hclient, hraw, hsource, hprice, hreason⟩
    have hnonneg : 0 ≤ outcome.filledSize := by
      rcases hstate with ⟨-, hpos, -⟩ | ⟨-, hzero, -⟩
      · exact hpos.le
      · exact hzero.ge
    have hterminal := (terminalState_eq_some hnonneg).2 hstate
    rw [normalizeExactOrder, if_neg (not_not.2 hid), hsender, hstatus]
    simp only [hsame, ne_eq, not_true_eq_false, if_false, Option.bind_eq_bind, hfilled,
      Option.bind_some, not_lt.2 hnonneg, hterminal, horderId, htx, hblock]
    cases outcome
    simp_all

/-! ## The read -/

/-- The history proves an outcome: the read was admissible, the pages up to the last were all read
within the limit, exactly one row of all of them is wanted, and that row is a terminal order of the
account with this outcome. -/
def HistoryProves (P : PythonText) (api : PublicApi) (q : HistoryQuery)
    (outcome : HistoryOutcome) : Prop :=
  q.admissible api = true ∧
    ∃ pages row,
      ReadThrough P (fun page => api.getOrders q.account page q.lowerBoundNs)
          q.maxPages.toNat 1 pages ∧
        pages.flatten.filter (HistoryRow.wanted P q.lowerBoundNs q.clientOrderId.toNat) = [row] ∧
        TerminalOrder P q.account q.clientOrderId.toNat row outcome

/-- An outcome is returned exactly where the history proves it. -/
lemma readRisexOrderHistory_eq_some {api : PublicApi} {q : HistoryQuery}
    {outcome : HistoryOutcome} :
    readRisexOrderHistory P api q = some outcome ↔ HistoryProves P api q outcome := by
  unfold HistoryProves
  unfold readRisexOrderHistory
  cases hadmissible : q.admissible api with
  | false => simp
  | true =>
      rw [if_neg (by decide)]
      constructor
      · intro h
        split at h
        · rename_i row hrows
          obtain ⟨pages, hthrough, hfilter⟩ := readPages_first_eq_some.1 hrows
          exact ⟨rfl, pages, row, hthrough, hfilter, normalizeExactOrder_eq_some.1 h⟩
        · cases h
      · rintro ⟨-, pages, row, hthrough, hfilter, horder⟩
        rw [readPages_first_eq_some.2 ⟨pages, hthrough, hfilter⟩]
        exact normalizeExactOrder_eq_some.2 horder

end HyperCopy.OrderHistory

import HyperCopy.Executor.State

/-!
# What an answer of the exchange says about an order

The three ways in which the fill of an order is learned: from the answer to the submission
(`parse_order_response` of `adapters/hyperliquid.py`), from the order status a retry asks for by
client order id (`_resolve_cloid` of `services/execution.py`), and from that status with the fills
of the order id as evidence (`services/execution_resolution.py`).

For an order that filled whole or not at all the three agree on what is written on the execution.
For a partial fill they do not: the submission's answer has the total filled, the status lookup
credits a `filled` order with its original size and any canceled one with nothing
(`persistedFill_agree_iff`).
-/

namespace HyperCopy

/-- An order id of the exchange. -/
abbrev Oid := ℕ

/-- The terminal statuses of an order that was not filled whole. -/
inductive CancelStatus
  | canceled | marginCanceled | vaultWithdrawalCanceled | openInterestCapCanceled
  | selfTradeCanceled | reduceOnlyCanceled | siblingFilledCanceled | delistedCanceled
  | liquidatedCanceled | scheduledCancel | tickRejected | minTradeNtlRejected
  | perpMarginRejected | reduceOnlyRejected | badAloPxRejected | iocCancelRejected
  | badTriggerPxRejected | marketOrderNoLiquidityRejected
  | positionIncreaseAtOpenInterestCapRejected | positionFlipAtOpenInterestCapRejected
  | tooAggressiveAtOpenInterestCapRejected | openInterestIncreaseRejected
  | insufficientSpotBalanceRejected | oracleRejected | perpMaxPositionRejected
deriving DecidableEq, Repr

/-- The status in the report of an order. -/
inductive OrderStatus
  | filled
  | rejected
  | terminalCancel (status : CancelStatus)
  | other (status : String)
deriving DecidableEq, Repr

/-- Why an outcome is not known, or refused. -/
inductive OutcomeReason
  | unexpectedShape
  | iocResting
  | exchangeError (text : String)
  | unclassified
  | lookupFailed
  | unknownOid
  | envelope (status : String)
  | orderStatus (status : OrderStatus)
  | recoveredFromFills
  | snapshotUnavailable
deriving DecidableEq, Repr

/-- `OrderOutcome` of the adapter.  Its raw answer, which is only stored, is left out. -/
structure ReadOutcome where
  state : ExecutionState
  oid : Option Oid
  filledSize : ℚ
  avgPrice : Option ℚ
  reason : Option OutcomeReason
deriving DecidableEq, Repr

/-- What of an outcome is written to the columns that count. -/
def ReadOutcome.toOutcome (o : ReadOutcome) : OrderOutcome := ⟨o.state, some o.filledSize⟩

/-! ## The answer to a submission -/

/-- The `filled` entry of an answer. -/
structure FilledEntry where
  oid : Option Oid
  totalSz : Option ℚ
  avgPx : Option ℚ
deriving DecidableEq, Repr

/-- The first status of the answer, as far as it is looked at. -/
structure StatusEntry where
  filled : Option FilledEntry
  resting : Option Oid
  error : Option String
deriving DecidableEq, Repr

/-- `none` where the answer has no list of statuses. -/
abbrev SubmissionAnswer := Option (List StatusEntry)

/-- `parse_order_response`: the first status of the answer decides. -/
def parseOrderResponse (response : SubmissionAnswer) : ReadOutcome :=
  match response with
  | none | some [] => ⟨.unknown, none, 0, none, some .unexpectedShape⟩
  | some (first :: _) =>
    match first.filled, first.resting, first.error with
    | some f, _, _ => ⟨.filled, f.oid, f.totalSz.getD 0, f.avgPx, none⟩
    | none, some oid, _ => ⟨.unknown, some oid, 0, none, some .iocResting⟩
    | none, none, some text => ⟨.rejected, none, 0, none, some (.exchangeError text)⟩
    | none, none, none => ⟨.unknown, none, 0, none, some .unclassified⟩

/-! ## The order status -/

/-- An order of the exchange as `orderStatus` reports it. -/
structure OrderReport where
  status : OrderStatus
  oid : Option Oid
  origSz : Option ℚ
  sz : Option ℚ
deriving DecidableEq, Repr

/-- The answer to a lookup of the order. -/
inductive StatusAnswer
  | failed
  | unknownOid
  | order (report : OrderReport)
  | other (status : String)
deriving DecidableEq, Repr

/-- `resolve_cloid`: the outcome that a lookup shows. -/
def resolveCloid (answer : StatusAnswer) : ReadOutcome :=
  match answer with
  | .failed => ⟨.unknown, none, 0, none, some .lookupFailed⟩
  | .unknownOid => ⟨.unknown, none, 0, none, some .unknownOid⟩
  | .other status => ⟨.unknown, none, 0, none, some (.envelope status)⟩
  | .order report =>
    match report.status with
    | .filled => ⟨.filled, report.oid, (report.origSz.orElse fun _ => report.sz).getD 0, none, none⟩
    | .rejected => ⟨.rejected, report.oid, 0, none, some (.orderStatus .rejected)⟩
    | .terminalCancel s => ⟨.canceled, report.oid, 0, none, some (.orderStatus (.terminalCancel s))⟩
    | .other s => ⟨.unknown, report.oid, 0, none, some (.orderStatus (.other s))⟩

/-! ## Fills as evidence -/

/-- A row of the fill history. -/
structure FillRow where
  oid : Option Oid
  sz : ℚ
  px : ℚ
deriving DecidableEq, Repr

/-- The fills of an order: how much, at which average price, and how many. -/
structure FillSummary where
  size : ℚ
  avgPrice : Option ℚ
  count : ℕ
deriving DecidableEq, Repr

/-- The fills of the order, summed up. -/
def matchingFillSummary (fills : List FillRow) (oid : Option Oid) : FillSummary :=
  match oid with
  | none => ⟨0, none, 0⟩
  | some oid =>
    let matched := fills.filter fun fill => fill.oid = some oid
    let total := (matched.map (·.sz)).sum
    if total ≤ 0 then ⟨0, none, matched.length⟩
    else
      let notional := (matched.map fun fill => fill.sz * fill.px).sum
      ⟨total, if 0 < notional then some (notional / total) else none, matched.length⟩

/-- The order id the resolver looks fills up by. -/
def evidenceOid (resolved : ReadOutcome) (exchangeOid : Option Oid) : Option Oid :=
  resolved.oid.orElse fun _ => exchangeOid

/-- The resolver's reading: an order status, corrected or replaced by the fills of the order. -/
def withFillEvidence (requestedSize : ℚ) (exchangeOid : Option Oid) (fills : List FillRow)
    (resolved : ReadOutcome) : ReadOutcome :=
  let oid := evidenceOid resolved exchangeOid
  let evidence := matchingFillSummary fills oid
  if oid.isNone then resolved
  else if resolved.state = .filled ∧ 0 < evidence.size then
    { resolved with oid := oid, filledSize := evidence.size, avgPrice := evidence.avgPrice }
  else if resolved.state = .unknown ∧ requestedSize ≤ evidence.size ∧ 0 < requestedSize then
    ⟨.filled, oid, evidence.size, evidence.avgPrice, some .recoveredFromFills⟩
  else resolved

/-! ## Truthful answers

An order with id `oid` for `requested`, of which `filled` was matched. -/

/-- The answer to the submission has the total filled, or says that nothing was. -/
def ReportsTotal (filled : ℚ) (response : SubmissionAnswer) : Prop :=
  ∃ first rest, response = some (first :: rest) ∧
    (0 < filled ∧ (∃ f, first.filled = some f ∧ f.totalSz = some filled) ∨
      filled = 0 ∧ first.filled = none ∧ first.resting = none ∧ first.error.isSome)

/-- The order status has the two sizes and a terminal status: `filled` for some fill, one of the
cancel statuses where something is left. -/
def ReportsOrder (oid : Oid) (requested filled : ℚ) (answer : StatusAnswer) : Prop :=
  ∃ report, answer = .order report ∧ report.oid = some oid ∧ report.origSz = some requested ∧
    report.sz = some (requested - filled) ∧
    (report.status = .filled ∧ 0 < filled ∨
      (∃ status, report.status = .terminalCancel status) ∧ filled < requested ∨
      report.status = .rejected ∧ filled = 0)

/-- The fill history has the fills of the order. -/
def ReportsFills (oid : Oid) (filled : ℚ) (fills : List FillRow) : Prop :=
  ((fills.filter fun fill => fill.oid = some oid).map (·.sz)).sum = filled

/-- What an outcome leaves on an execution: the filled size, and whether it counts as a fill. -/
def persistedFill (row : Execution) (o : ReadOutcome) (now : ℕ) : Option (Option ℚ × Bool) :=
  (persistOutcome row o.toOutcome now).map fun row => (row.filledSize, row.state = .filled)

/-! ## What each path writes -/

section

variable {row : Execution} {oid : Oid} {requested filled : ℚ} {response : SubmissionAnswer}
  {answer : StatusAnswer} {fills : List FillRow}

/-- An execution that is still open can take every terminal state. -/
lemma ExecutionState.assign_of_unresolved {old new : ExecutionState} (hopen : old.unresolved = true)
    (hterminal : new.terminal = true) : old.assign new = some new := by
  rw [ExecutionState.assign_eq_some]
  refine ⟨rfl, Or.inr ?_⟩
  cases old <;> cases new <;>
    simp_all [ExecutionState.unresolved, ExecutionState.terminal, ExecutionState.transitions]

/-- A terminal outcome is written whole on an execution that is still open. -/
lemma persistedFill_eq (hrow : row.state.unresolved = true) {o : ReadOutcome}
    (hterminal : o.state.terminal = true) (now : ℕ) :
    persistedFill row o now = some (some o.filledSize, decide (o.state = .filled)) := by
  have hassign := ExecutionState.assign_of_unresolved hrow hterminal
  simp only [persistedFill, persistOutcome, ReadOutcome.toOutcome, hassign, Option.map_some]

/-- The submission's answer credits what was filled. -/
lemma persistedFill_parse (hrow : row.state.unresolved = true) (h : ReportsTotal filled response)
    (now : ℕ) : persistedFill row (parseOrderResponse response) now =
      some (some filled, decide (0 < filled)) := by
  obtain ⟨first, rest, rfl, ⟨hpos, f, hf, htotal⟩ | ⟨rfl, hf, hresting, herror⟩⟩ := h
  · rw [persistedFill_eq hrow (by simp [parseOrderResponse, hf, ExecutionState.terminal])]
    simp [parseOrderResponse, hf, htotal, hpos]
  · obtain ⟨text, htext⟩ := Option.isSome_iff_exists.1 herror
    rw [persistedFill_eq hrow
      (by simp [parseOrderResponse, hf, hresting, htext, ExecutionState.terminal])]
    simp [parseOrderResponse, hf, hresting, htext]

/-- The status lookup credits the original size, or nothing. -/
lemma persistedFill_lookup (hrow : row.state.unresolved = true)
    (h : ReportsOrder oid requested filled answer) (now : ℕ) :
    0 < filled ∧ (resolveCloid answer).state = .filled ∧
        persistedFill row (resolveCloid answer) now = some (some requested, true) ∨
      filled < requested ∧ (resolveCloid answer).state ≠ .filled ∧
        (resolveCloid answer).state ≠ .unknown ∧
        persistedFill row (resolveCloid answer) now = some (some 0, false) ∨
      filled = 0 ∧ (resolveCloid answer).state ≠ .filled ∧
        (resolveCloid answer).state ≠ .unknown ∧
        persistedFill row (resolveCloid answer) now = some (some 0, false) := by
  obtain ⟨report, rfl, hoid, horig, hsz, ⟨hstatus, hpos⟩ | ⟨⟨s, hstatus⟩, hlt⟩ |
    ⟨hstatus, hzero⟩⟩ := h
  · refine Or.inl ⟨hpos, by simp [resolveCloid, hstatus], ?_⟩
    rw [persistedFill_eq hrow (by simp [resolveCloid, hstatus, ExecutionState.terminal])]
    simp [resolveCloid, hstatus, horig]
  · refine Or.inr (Or.inl ⟨hlt, by simp [resolveCloid, hstatus], by simp [resolveCloid, hstatus],
      ?_⟩)
    rw [persistedFill_eq hrow (by simp [resolveCloid, hstatus, ExecutionState.terminal])]
    simp [resolveCloid, hstatus]
  · refine Or.inr (Or.inr ⟨hzero, by simp [resolveCloid, hstatus], by simp [resolveCloid, hstatus],
      ?_⟩)
    rw [persistedFill_eq hrow (by simp [resolveCloid, hstatus, ExecutionState.terminal])]
    simp [resolveCloid, hstatus]

/-- Fills change nothing about an order that is reported canceled or rejected. -/
lemma withFillEvidence_of_closed {o : ReadOutcome} {exchangeOid : Option Oid}
    (hfilled : o.state ≠ .filled) (hunknown : o.state ≠ .unknown) :
    withFillEvidence requested exchangeOid fills o = o := by
  simp [withFillEvidence, hfilled, hunknown]

/-- For an order reported filled they correct the size. -/
lemma persistedFill_evidence (hrow : row.state.unresolved = true)
    (h : ReportsOrder oid requested filled answer) (hfills : ReportsFills oid filled fills)
    (hpos : 0 < filled) (hfilled : (resolveCloid answer).state = .filled)
    (exchangeOid : Option Oid) (now : ℕ) :
    persistedFill row (withFillEvidence requested exchangeOid fills (resolveCloid answer)) now =
      some (some filled, true) := by
  have hoid : (resolveCloid answer).oid = some oid := by
    obtain ⟨report, rfl, hoid, -⟩ := h
    cases hstatus : report.status <;> simp [resolveCloid, hstatus, hoid]
  have hsize : (matchingFillSummary fills (some oid)).size = filled := by
    simp only [matchingFillSummary]
    unfold ReportsFills at hfills
    rw [hfills, if_neg hpos.not_ge]
  have heq : withFillEvidence requested exchangeOid fills (resolveCloid answer) =
      { resolveCloid answer with
        oid := some oid
        filledSize := filled
        avgPrice := (matchingFillSummary fills (some oid)).avgPrice } := by
    simp [withFillEvidence, evidenceOid, hoid, hfilled, hsize, hpos]
  rw [heq, persistedFill_eq hrow (by simp [hfilled, ExecutionState.terminal])]
  simp [hfilled]

end

/-- **One fill, one credited size, for whole fills.**  An order whose execution is open, with
truthful answers everywhere: the answer to the submission, the status lookup of a retry and the
resolver's reading with the fills write the same size and agree on whether it is a fill exactly
when nothing was filled or all of it was. -/
theorem persistedFill_agree_iff (row : Execution) (hrow : row.state.unresolved = true)
    {filled : ℚ} {oid : Oid} {response : SubmissionAnswer} {answer : StatusAnswer}
    {fills : List FillRow} (hresponse : ReportsTotal filled response)
    (hanswer : ReportsOrder oid row.requestedSize filled answer)
    (hfills : ReportsFills oid filled fills) (exchangeOid : Option Oid) (now : ℕ) :
    (persistedFill row (parseOrderResponse response) now =
          persistedFill row (resolveCloid answer) now ∧
        persistedFill row (resolveCloid answer) now =
          persistedFill row (withFillEvidence row.requestedSize exchangeOid fills
            (resolveCloid answer)) now) ↔
      filled = 0 ∨ filled = row.requestedSize := by
  have hdirect := persistedFill_parse hrow hresponse now
  obtain ⟨hpos, hstate, hlookup⟩ | ⟨hlt, hstate, hknown, hlookup⟩ | ⟨hzero, hstate, hknown, hlookup⟩ :=
    persistedFill_lookup hrow hanswer now
  · have hevidence := persistedFill_evidence hrow hanswer hfills hpos hstate exchangeOid now
    rw [hdirect, hlookup, hevidence]
    constructor
    · rintro ⟨hsame, -⟩
      simp only [Option.some.injEq, Prod.mk.injEq] at hsame
      exact Or.inr hsame.1
    · rintro (rfl | rfl)
      · exact absurd hpos (lt_irrefl 0)
      · simp [hpos]
  · rw [withFillEvidence_of_closed hstate hknown, hdirect, hlookup]
    constructor
    · rintro ⟨hsame, -⟩
      simp only [Option.some.injEq, Prod.mk.injEq] at hsame
      exact Or.inl hsame.1
    · rintro (rfl | rfl)
      · simp
      · exact absurd hlt (lt_irrefl _)
  · rw [withFillEvidence_of_closed hstate hknown, hdirect, hlookup, hzero]
    simp

/-- An order for one unit, submitted and not answered yet. -/
def openRow : Execution where
  market := ⟨1, 0⟩
  createdAt := 1
  state := .submitting
  isBuy := true
  requestedSize := 1
  limitPx := 101
  reduceOnly := false
  filledSize := none
  resolvedAt := none
  ledgerSizeBeforeSubmit := some (persistedLedgerDecimal 0)
  ledgerLastExecutionIdBeforeSubmit := some none
  ledgerAppliedAt := none

/-- Filled whole, the order is credited with its size on each path. -/
theorem persistedFill_agree_whole :
    persistedFill openRow (parseOrderResponse
        (some [⟨some ⟨some 7, some 1, some 100⟩, none, none⟩])) 5 =
      persistedFill openRow (resolveCloid (.order ⟨.filled, some 7, some 1, some 0⟩)) 5 := by
  have hresponse : ReportsTotal 1 (some [⟨some ⟨some 7, some 1, some 100⟩, none, none⟩]) :=
    ⟨_, [], rfl, Or.inl ⟨by norm_num, _, rfl, rfl⟩⟩
  have hanswer : ReportsOrder 7 openRow.requestedSize 1
      (.order ⟨.filled, some 7, some 1, some 0⟩) :=
    ⟨_, rfl, rfl, rfl, by norm_num [openRow], Or.inl ⟨rfl, by norm_num⟩⟩
  have hfills : ReportsFills 7 1 [⟨some 7, 1, 100⟩] := by norm_num [ReportsFills]
  exact ((persistedFill_agree_iff openRow rfl hresponse hanswer hfills none 5).2 (Or.inr rfl)).1

/-- Two fifths of an order for one unit are credited as such by the answer to the submission and
by the resolver, as the whole unit by the retry's lookup, and, where the status is a cancel one,
as nothing by both lookups. -/
theorem persistedFill_partial :
    let response : SubmissionAnswer := some [⟨some ⟨some 7, some (2 / 5), some 100⟩, none, none⟩]
    let filled : StatusAnswer := .order ⟨.filled, some 7, some 1, some (3 / 5)⟩
    let canceled : StatusAnswer :=
      .order ⟨.terminalCancel .iocCancelRejected, some 7, some 1, some (3 / 5)⟩
    let fills : List FillRow := [⟨some 7, 2 / 5, 100⟩]
    ReportsTotal (2 / 5) response ∧ ReportsOrder 7 1 (2 / 5) filled ∧
      ReportsOrder 7 1 (2 / 5) canceled ∧ ReportsFills 7 (2 / 5) fills ∧
      persistedFill openRow (parseOrderResponse response) 5 = some (some (2 / 5), true) ∧
      persistedFill openRow (resolveCloid filled) 5 = some (some 1, true) ∧
      persistedFill openRow (withFillEvidence 1 none fills (resolveCloid filled)) 5 =
        some (some (2 / 5), true) ∧
      persistedFill openRow (withFillEvidence 1 none fills (resolveCloid canceled)) 5 =
        some (some 0, false) := by
  refine ⟨⟨_, [], rfl, Or.inl ⟨by norm_num, _, rfl, rfl⟩⟩,
    ⟨_, rfl, rfl, rfl, by norm_num, Or.inl ⟨rfl, by norm_num⟩⟩,
    ⟨_, rfl, rfl, rfl, by norm_num, Or.inr (Or.inl ⟨⟨_, rfl⟩, by norm_num⟩)⟩,
    by norm_num [ReportsFills], by decide +kernel, by decide +kernel, by decide +kernel,
    by decide +kernel⟩

end HyperCopy

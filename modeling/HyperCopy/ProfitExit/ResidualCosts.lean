import HyperCopy.ProfitExit.Economics
import HyperCopy.Library.WeightedSum

/-!
# The costs that still belong to the residual

The replay of `services/ai_profit_exit_economics.py` keeps two running pools, of fees and of
funding.  Here they are compared with what they are meant to be: every fee and payment of the
history, weighted by the product of the reduction ratios of the fills after it, where a fill that
closes or reverses the position leaves nothing of what came before (`reductionRatio`), a fill that
reduces adds none of its own fee and one that reverses only its opening fraction
(`openingFraction`).

A history is a list of events in strictly ascending time, which is what any order of fills and
payments with distinct timestamps sorts to (`historyEvents_eq`).  It is complete when it is a chain
from flat to the current position (`Chain`).
-/

namespace HyperCopy

open WeightedSum

/-! ## The reference -/

/-- The change of the position that the fill makes. -/
def ProfitExitFill.signedSize (f : ProfitExitFill) : ℚ :=
  match f.side with
  | .b => f.size
  | .a => -f.size
  | .other => 0

/-- When it happened. -/
def HistoryEvent.time : HistoryEvent → ℤ
  | fill f => f.timeMs
  | funding i => i.timeMs

/-- The position after the event. -/
def HistoryEvent.after (p : ℚ) : HistoryEvent → ℚ
  | fill f => p + f.signedSize
  | funding _ => p

/-- The share of the position that survives a move to `updated`, on the same side of zero. -/
def reductionRatio (p updated : ℚ) : ℚ :=
  if p * updated ≤ 0 then 0 else if |updated| < |p| then |updated| / |p| else 1

/-- The part of a fill that opens exposure. -/
def openingFraction (p : ℚ) (f : ProfitExitFill) : ℚ :=
  if p * (p + f.signedSize) < 0 then |p + f.signedSize| / f.size
  else if |p| < |p + f.signedSize| then 1 else 0

/-- What is left of earlier costs after the event. -/
def keptShare (p : ℚ) : HistoryEvent → ℚ
  | .fill f => reductionRatio p (p + f.signedSize)
  | .funding _ => 1

/-- The part of a fill's fee that pays for opening. -/
def feeAdded (p : ℚ) : HistoryEvent → ℚ
  | .fill f => f.fee * openingFraction p f
  | .funding _ => 0

/-- The payment of an event. -/
def fundingAdded : HistoryEvent → ℚ
  | .fill _ => 0
  | .funding i => i.usdc

/-- The ratio and the addition of every event, from position `p`. -/
def costSteps (added : ℚ → HistoryEvent → ℚ) (p : ℚ) : List HistoryEvent → List (ℚ × ℚ)
  | [] => []
  | e :: es => (keptShare p e, added p e) :: costSteps added (e.after p) es

/-- The entry fees, each weighted with what is left of the position it opened. -/
def referenceFees (es : List HistoryEvent) : ℚ := weighted (costSteps feeAdded 0 es)

/-- The funding, weighted in the same way. -/
def referenceFunding (es : List HistoryEvent) : ℚ :=
  weighted (costSteps (fun _ => fundingAdded) 0 es)

/-- The event is about the position `p`. -/
def HistoryEvent.Continues (p : ℚ) : HistoryEvent → Prop
  | fill f => f.startPosition = p
  | funding i => i.positionSize = p ∧ (p = 0 → i.usdc = 0)

/-- The events lead from position `p` to position `q` without a gap. -/
def Chain (p : ℚ) : List HistoryEvent → ℚ → Prop
  | [], q => p = q
  | e :: es, q => e.Continues p ∧ Chain (e.after p) es q

/-- The event passes the checks of the replay. -/
def HistoryEvent.Valid : HistoryEvent → Prop
  | fill f => 0 ≤ f.timeMs ∧ 0 < f.size ∧ 0 ≤ f.fee ∧ f.side ≠ .other
  | funding i => 0 ≤ i.timeMs

/-! ## One event -/

lemma fillDelta_of_side {f : ProfitExitFill} (h : f.side ≠ .other) :
    fillDelta f = some f.signedSize := by
  cases hside : f.side with
  | a => simp [fillDelta, ProfitExitFill.signedSize, hside]
  | b => simp [fillDelta, ProfitExitFill.signedSize, hside]
  | other => exact absurd hside h

lemma abs_signedSize {f : ProfitExitFill} (hsize : 0 < f.size) (h : f.side ≠ .other) :
    |f.signedSize| = f.size := by
  cases hside : f.side with
  | a => simp [ProfitExitFill.signedSize, hside, abs_of_pos hsize]
  | b => simp [ProfitExitFill.signedSize, hside, abs_of_pos hsize]
  | other => exact absurd hside h

lemma validFill_iff (f : ProfitExitFill) : validFill f = true ↔ (HistoryEvent.fill f).Valid := by
  cases hside : f.side <;>
    simp [validFill, HistoryEvent.Valid, fillDelta, hside, and_assoc]

/-- A valid fill changes the size, and one that reverses fills more than it opens. -/
lemma move_cases {p d : ℚ} (hd : d ≠ 0) :
    (0 < p * (p + d) → |p + d| ≠ |p|) ∧ (p * (p + d) < 0 → 0 < |p + d| ∧ |p + d| < |d|) := by
  constructor
  · intro hsame heq
    rcases abs_eq_abs.1 heq with h | h
    · exact hd (by linarith)
    · rw [h] at hsame
      have := mul_self_nonneg p
      linarith
  · intro hcross
    rcases mul_neg_iff.1 hcross with ⟨hp, hu⟩ | ⟨hp, hu⟩
    · rw [abs_of_neg hu, abs_of_neg (a := d) (by linarith)]
      constructor <;> linarith
    · rw [abs_of_pos hu, abs_of_pos (a := d) (by linarith)]
      constructor <;> linarith

/-- The residual after an event that continues it. -/
def Residual.advance (s : Residual) (e : HistoryEvent) : Residual :=
  ⟨e.after s.position, s.entryFees * keptShare s.position e + feeAdded s.position e,
    s.funding * keptShare s.position e + fundingAdded e⟩

lemma Residual.advance_funding (s : Residual) (i : ProfitExitFunding) :
    s.advance (.funding i) = { s with funding := s.funding + i.usdc } := by
  simp [Residual.advance, HistoryEvent.after, keptShare, feeAdded, fundingAdded]

lemma residualAfter_eq {f : ProfitExitFill} (hvalid : (HistoryEvent.fill f).Valid) (s : Residual) :
    residualAfter s f (s.position + f.signedSize) = .ok (s.advance (.fill f)) := by
  obtain ⟨-, hsize, -, hside⟩ := hvalid
  have habs := abs_signedSize hsize hside
  have hd : f.signedSize ≠ 0 := by
    intro hzero
    rw [hzero, abs_zero] at habs
    linarith
  obtain ⟨hsame, hcross⟩ := move_cases (p := s.position) hd
  simp only [residualAfter, Residual.advance, HistoryEvent.after, keptShare, feeAdded, fundingAdded,
    reductionRatio, openingFraction]
  by_cases hflat : s.position = 0
  · simp [hflat, abs_pos.2 hd]
  by_cases hclosed : s.position + f.signedSize = 0
  · simp [hflat, hclosed, (abs_nonneg s.position).not_gt]
  have hprod : s.position * (s.position + f.signedSize) ≠ 0 := mul_ne_zero hflat hclosed
  rcases lt_or_gt_of_ne hprod with hneg | hpos
  · obtain ⟨hopened, hless⟩ := hcross hneg
    rw [habs] at hless
    have hkept : ¬ (|s.position + f.signedSize| ≤ 0 ∨ f.size ≤ |s.position + f.signedSize|) := by
      rw [not_or, not_le, not_le]
      exact ⟨hopened, hless⟩
    rw [if_neg hflat, if_neg hclosed, if_neg hneg.not_gt, if_neg hkept, if_pos hneg.le, if_pos hneg]
    simp only [mul_zero, zero_add, mul_div_assoc]
  · have hne := hsame hpos
    rw [if_neg hflat, if_neg hclosed, if_pos hpos, if_neg hpos.not_ge, if_neg hpos.not_gt]
    rcases lt_or_gt_of_ne hne with hless | hmore
    · simp [hless, hless.not_gt]
    · simp [hmore, hmore.not_gt]

/-- **One event.**  A valid event is replayed exactly when it is about the position, and then the
pools move as the reference says. -/
lemma replayEvent_iff {e : HistoryEvent} (hvalid : e.Valid) (s s' : Residual) :
    replayEvent s e = .ok s' ↔ e.Continues s.position ∧ s' = s.advance e := by
  cases e with
  | fill f =>
      simp only [replayEvent, replayFill, HistoryEvent.Continues, fillDelta_of_side hvalid.2.2.2,
        residualAfter_eq hvalid]
      by_cases hstart : f.startPosition = s.position
      · simp [hstart, eq_comm]
      · simp [hstart]
  | funding i =>
      simp only [replayEvent, replayFunding, HistoryEvent.Continues, Residual.advance_funding]
      by_cases hposition : i.positionSize = s.position
      · by_cases hflat : s.position = 0
        · by_cases hzero : i.usdc = 0
          · rw [if_neg (not_not.2 hposition), if_pos hflat, if_neg (not_not.2 hzero), hzero,
              add_zero, Except.ok.injEq]
            simp only [hposition, implies_true, true_and]
            exact eq_comm
          · simp [hposition, hflat, hzero]
        · simp [hposition, hflat, eq_comm]
      · simp [hposition]

/-- What a valid event can be rejected for. -/
lemma replayEvent_error {e : HistoryEvent} (hvalid : e.Valid) {s : Residual}
    {reason : IncompleteReason} (h : replayEvent s e = .error reason) :
    reason ≠ .noSizeChange ∧ reason ≠ .reversalAllocation := by
  cases e with
  | fill f =>
      simp only [replayEvent, replayFill, fillDelta_of_side hvalid.2.2.2, residualAfter_eq hvalid]
        at h
      split_ifs at h
      obtain rfl := Except.error.inj h
      simp
  | funding i =>
      simp only [replayEvent, replayFunding] at h
      split_ifs at h <;> obtain rfl := Except.error.inj h <;> simp

/-! ## The whole history -/

/-- **The replay.**  Valid events are replayed exactly when they are a chain, and the pools are the
ones of the reference. -/
lemma replay_iff {es : List HistoryEvent} (hvalid : ∀ e ∈ es, e.Valid) (s s' : Residual) :
    replay s es = .ok s' ↔ Chain s.position es s'.position ∧
      s'.entryFees = accumulate s.entryFees (costSteps feeAdded s.position es) ∧
      s'.funding = accumulate s.funding (costSteps (fun _ => fundingAdded) s.position es) := by
  induction es generalizing s with
  | nil =>
      obtain ⟨p, fees, funding⟩ := s
      obtain ⟨p', fees', funding'⟩ := s'
      simp [replay, Chain, costSteps, accumulate, eq_comm]
  | cons e es ih =>
      have hstep := replayEvent_iff (hvalid e List.mem_cons_self) s
      have htail := ih fun e' he' => hvalid e' (List.mem_cons_of_mem _ he')
      simp only [replay, Chain, costSteps, accumulate]
      cases hreplay : replayEvent s e with
      | error reason =>
          simp only [reduceCtorEq, false_iff]
          rintro ⟨⟨hcontinues, -⟩, -⟩
          rw [(hstep _).2 ⟨hcontinues, rfl⟩] at hreplay
          cases hreplay
      | ok mid =>
          obtain ⟨hcontinues, rfl⟩ := (hstep mid).1 hreplay
          simp only [hcontinues, true_and]
          exact htail _

lemma replay_error {es : List HistoryEvent} (hvalid : ∀ e ∈ es, e.Valid) {s : Residual}
    {reason : IncompleteReason} (h : replay s es = .error reason) :
    reason ≠ .noSizeChange ∧ reason ≠ .reversalAllocation := by
  induction es generalizing s with
  | nil => cases h
  | cons e es ih =>
      simp only [replay] at h
      cases hreplay : replayEvent s e with
      | error reason' =>
          simp only [hreplay] at h
          obtain rfl := Except.error.inj h
          exact replayEvent_error (hvalid e List.mem_cons_self) hreplay
      | ok mid =>
          simp only [hreplay] at h
          exact ih (fun e' he' => hvalid e' (List.mem_cons_of_mem _ he')) h

/-- The fills and payments of the input, in the order they are given. -/
def givenEvents (data : ProfitExitEconomicsInput) : List HistoryEvent :=
  data.fills.map .fill ++ data.funding.map .funding

/-- The events in ascending time, no two at the same. -/
def Chronological (es : List HistoryEvent) : Prop := es.Pairwise fun e e' => e.time < e'.time

lemma notLater_iff (e e' : HistoryEvent) :
    e.notLater e' = true ↔ e.time < e'.time ∨ e.time = e'.time ∧ e.key.2 ≤ e'.key.2 := by
  have hkey : ∀ e : HistoryEvent, e.key.1 = e.time := fun e => by cases e <;> rfl
  rw [HistoryEvent.notLater, Bool.or_eq_true, Bool.and_eq_true, decide_eq_true_eq,
    decide_eq_true_eq, decide_eq_true_eq, hkey, hkey]

lemma historyEvents_perm (data : ProfitExitEconomicsInput) :
    (historyEvents data).Perm (givenEvents data) := by
  refine (List.perm_insertionSort _ _).trans (List.Perm.append ?_ ?_)
  · exact (List.perm_insertionSort _ _).map _
  · exact (List.perm_insertionSort _ _).map _

/-- **Order does not matter.**  With distinct timestamps the input sorts to the one chronological
list of its events. -/
lemma historyEvents_eq {data : ProfitExitEconomicsInput} {es : List HistoryEvent}
    (hperm : es.Perm (givenEvents data)) (hsorted : Chronological es) :
    historyEvents data = es := by
  have htotal : Std.Total fun e e' : HistoryEvent => e.notLater e' = true := by
    refine ⟨fun e e' => ?_⟩
    rw [notLater_iff, notLater_iff]
    omega
  have htrans : IsTrans HistoryEvent fun e e' => e.notLater e' = true := by
    refine ⟨fun e e' e'' h h' => ?_⟩
    rw [notLater_iff] at *
    omega
  have hmem := (historyEvents_perm data).trans hperm.symm
  refine hmem.eq_of_pairwise ?_ (List.pairwise_insertionSort _ _)
    (hsorted.imp fun h => (notLater_iff _ _).2 (Or.inl h))
  intro e e' he he' hle hle'
  rw [notLater_iff] at hle hle'
  have htime : e.time = e'.time := by omega
  have hnodup : (es.map HistoryEvent.time).Nodup :=
    List.pairwise_map.2 (hsorted.imp fun h => h.ne)
  exact List.inj_on_of_nodup_map hnodup (hmem.mem_iff.1 he) he' htime

/-! ## The evaluation -/

/-- Inputs that pass every check before the replay, with nothing said of their order. -/
structure ValidInputs (data : ProfitExitEconomicsInput) : Prop where
  current : data.currentPosition ≠ 0
  entry : 0 < data.entryPrice
  exit : 0 < data.executableExitPrice
  rate : 0 ≤ data.takerFeeRate
  fills : data.fills ≠ []
  events : ∀ e ∈ givenEvents data, e.Valid

lemma validFunding_iff (i : ProfitExitFunding) :
    validFunding i = true ↔ (HistoryEvent.funding i).Valid := by
  rw [validFunding, decide_eq_true_eq]
  rfl

lemma givenEvents_valid_iff (data : ProfitExitEconomicsInput) :
    (∀ e ∈ givenEvents data, e.Valid) ↔
      (∀ f ∈ data.fills, validFill f = true) ∧ ∀ i ∈ data.funding, validFunding i = true := by
  simp only [givenEvents, List.mem_append, List.mem_map, validFill_iff, validFunding_iff]
  constructor
  · intro h
    exact ⟨fun f hf => h _ (Or.inl ⟨f, hf, rfl⟩), fun i hi => h _ (Or.inr ⟨i, hi, rfl⟩)⟩
  · rintro ⟨hfills, hfunding⟩ e (⟨f, hf, rfl⟩ | ⟨i, hi, rfl⟩)
    · exact hfills f hf
    · exact hfunding i hi

/-- With distinct timestamps no fill shares its time with a payment. -/
lemma not_ambiguous {data : ProfitExitEconomicsInput} {es : List HistoryEvent}
    (hperm : es.Perm (givenEvents data)) (hsorted : Chronological es) :
    ∀ i ∈ data.funding, ∀ f ∈ data.fills, f.timeMs ≠ i.timeMs := by
  intro i hi f hf htime
  have hnodup : (es.map HistoryEvent.time).Nodup :=
    List.pairwise_map.2 (hsorted.imp fun h => h.ne)
  have hfill : HistoryEvent.fill f ∈ es :=
    hperm.mem_iff.2 (List.mem_append_left _ (List.mem_map_of_mem hf))
  have hfunding : HistoryEvent.funding i ∈ es :=
    hperm.mem_iff.2 (List.mem_append_right _ (List.mem_map_of_mem hi))
  cases List.inj_on_of_nodup_map hnodup hfill hfunding htime

lemma inputFault_eq_none_iff {data : ProfitExitEconomicsInput} {es : List HistoryEvent}
    (hperm : es.Perm (givenEvents data)) (hsorted : Chronological es) :
    inputFault data = none ↔ ValidInputs data := by
  have hdistinct := not_ambiguous hperm hsorted
  constructor
  · intro h
    unfold inputFault at h
    split_ifs at h with hcurrent hentry hexit hrate hfills hfill hfunding hambiguous
    refine ⟨hcurrent, not_le.1 hentry, not_le.1 hexit, not_lt.1 hrate, by simpa using hfills,
      (givenEvents_valid_iff data).2 ⟨?_, ?_⟩⟩
    · simpa using hfill
    · simpa using hfunding
  · rintro ⟨hcurrent, hentry, hexit, hrate, hfills, hevents⟩
    obtain ⟨hfill, hfunding⟩ := (givenEvents_valid_iff data).1 hevents
    have hfill' : ¬ (data.fills.any fun f => !validFill f) = true := by simpa using hfill
    have hfunding' : ¬ (data.funding.any fun i => !validFunding i) = true := by
      simpa using hfunding
    have hambiguous : ¬ (data.funding.any fun i => data.fills.any fun f =>
        f.timeMs = i.timeMs) = true := by
      simpa using hdistinct
    rw [inputFault, if_neg hcurrent, if_neg hentry.not_ge, if_neg hexit.not_ge, if_neg hrate.not_gt,
      if_neg (by simpa using hfills), if_neg hfill', if_neg hfunding', if_neg hambiguous]

/-- The evaluation with the pools of the reference. -/
def referenceEconomics (data : ProfitExitEconomicsInput) (es : List HistoryEvent) :
    ProfitExitEconomics :=
  let size := |data.currentPosition|
  let gross := grossPnl data.currentPosition data.entryPrice data.executableExitPrice size
  let exitFee := size * data.executableExitPrice * data.takerFeeRate
  { grossPricePnl := gross
    residualEntryFees := referenceFees es
    residualFunding := referenceFunding es
    estimatedExitFee := exitFee
    netPnl := gross - referenceFees es + referenceFunding es - exitFee }

/-- **Complete evaluations.**  The evaluation completes exactly for valid inputs whose history is
a chain from flat to the current position, with the pools of the reference. -/
lemma evaluate_ok_iff {data : ProfitExitEconomicsInput} {es : List HistoryEvent}
    (hperm : es.Perm (givenEvents data)) (hsorted : Chronological es) (e : ProfitExitEconomics) :
    evaluateProfitExitEconomics data = .ok e ↔
      ValidInputs data ∧ Chain 0 es data.currentPosition ∧ e = referenceEconomics data es := by
  have hinputs := inputFault_eq_none_iff hperm hsorted
  unfold evaluateProfitExitEconomics
  cases hfault : inputFault data with
  | some reason =>
      have hinvalid : ¬ ValidInputs data := by
        rw [← hinputs, hfault]
        simp
      simp [hinvalid]
  | none =>
      have hvalid := hinputs.1 hfault
      have hreplay := replay_iff (fun e he => hvalid.events e (hperm.mem_iff.1 he)) ⟨0, 0, 0⟩
      simp only [historyEvents_eq hperm hsorted, hvalid, true_and]
      cases hrun : replay ⟨0, 0, 0⟩ es with
      | error reason =>
          simp only [reduceCtorEq, false_iff]
          rintro ⟨hchain, -⟩
          rw [(hreplay ⟨data.currentPosition, _, _⟩).2 ⟨hchain, rfl, rfl⟩] at hrun
          cases hrun
      | ok residual =>
          obtain ⟨hchain, hfees, hfunding⟩ := (hreplay residual).1 hrun
          simp only [accumulate_eq, zero_mul, zero_add] at hfees hfunding
          by_cases hposition : residual.position = data.currentPosition
          · rw [hposition] at hchain
            simp only [hposition, hchain, hfees, hfunding, true_and]
            simp [referenceEconomics, referenceFees, referenceFunding, eq_comm]
          · have hother : ¬ Chain 0 es data.currentPosition := by
              intro hcurrent
              have hagain := (hreplay ⟨data.currentPosition, _, _⟩).2 ⟨hcurrent, rfl, rfl⟩
              rw [hrun] at hagain
              exact hposition (congrArg Residual.position (Except.ok.inj hagain))
            simp [hposition, hother]

/-! ## Bounds -/

lemma reductionRatio_mem (p updated : ℚ) :
    0 ≤ reductionRatio p updated ∧ reductionRatio p updated ≤ 1 := by
  unfold reductionRatio
  split_ifs with hcross hless
  · norm_num
  · exact ⟨by positivity, div_le_one_of_le₀ hless.le (abs_nonneg p)⟩
  · norm_num

lemma openingFraction_mem (p : ℚ) {f : ProfitExitFill} (hvalid : (HistoryEvent.fill f).Valid) :
    0 ≤ openingFraction p f ∧ openingFraction p f ≤ 1 := by
  obtain ⟨-, hsize, -, hside⟩ := hvalid
  have habs := abs_signedSize hsize hside
  unfold openingFraction
  split_ifs with hcross
  · have hd : f.signedSize ≠ 0 := by
      intro hzero
      rw [hzero, abs_zero] at habs
      linarith
    have hless := ((move_cases hd).2 hcross).2
    rw [habs] at hless
    exact ⟨by positivity, div_le_one_of_le₀ hless.le hsize.le⟩
  · norm_num
  · norm_num

/-- The fee of the event. -/
def HistoryEvent.fee : HistoryEvent → ℚ
  | fill f => f.fee
  | funding _ => 0

lemma feeAdded_mem (p : ℚ) {e : HistoryEvent} (hvalid : e.Valid) :
    0 ≤ feeAdded p e ∧ feeAdded p e ≤ e.fee := by
  cases e with
  | fill f =>
      obtain ⟨h0, h1⟩ := openingFraction_mem p hvalid
      exact ⟨mul_nonneg hvalid.2.2.1 h0, mul_le_of_le_one_right hvalid.2.2.1 h1⟩
  | funding i => exact ⟨le_rfl, le_rfl⟩

lemma keptShare_mem (p : ℚ) (e : HistoryEvent) : 0 ≤ keptShare p e ∧ keptShare p e ≤ 1 := by
  cases e with
  | fill f => exact reductionRatio_mem _ _
  | funding i => norm_num [keptShare]

lemma costSteps_fee_mem {es : List HistoryEvent} (hvalid : ∀ e ∈ es, e.Valid) (p : ℚ) :
    (∀ step ∈ costSteps feeAdded p es, 0 ≤ step.1 ∧ step.1 ≤ 1 ∧ 0 ≤ step.2) ∧
      ((costSteps feeAdded p es).map Prod.snd).sum ≤ (es.map HistoryEvent.fee).sum := by
  induction es generalizing p with
  | nil => simp [costSteps]
  | cons e es ih =>
      obtain ⟨hsteps, hsum⟩ := ih (fun e' he' => hvalid e' (List.mem_cons_of_mem _ he')) (e.after p)
      obtain ⟨hk0, hk1⟩ := keptShare_mem p e
      obtain ⟨ha0, ha1⟩ := feeAdded_mem p (hvalid e List.mem_cons_self)
      constructor
      · intro step hstep
        obtain rfl | hlater := List.mem_cons.1 hstep
        · exact ⟨hk0, hk1, ha0⟩
        · exact hsteps step hlater
      · simp only [costSteps, List.map_cons, List.sum_cons]
        linarith

lemma fee_sum_eq {data : ProfitExitEconomicsInput} {es : List HistoryEvent}
    (hperm : es.Perm (givenEvents data)) :
    (es.map HistoryEvent.fee).sum = (data.fills.map ProfitExitFill.fee).sum := by
  have hfunding : ∀ l : List ProfitExitFunding,
      ((l.map HistoryEvent.funding).map HistoryEvent.fee).sum = 0 := by
    intro l
    induction l with
    | nil => rfl
    | cons i l ih => simpa [HistoryEvent.fee] using ih
  have hfills : (data.fills.map HistoryEvent.fill).map HistoryEvent.fee =
      data.fills.map ProfitExitFill.fee := by
    rw [List.map_map]
    rfl
  rw [(hperm.map _).sum_eq, givenEvents, List.map_append, List.sum_append, hfunding, hfills,
    add_zero]

lemma referenceFees_mem {data : ProfitExitEconomicsInput} {es : List HistoryEvent}
    (hperm : es.Perm (givenEvents data)) (hvalid : ValidInputs data) :
    0 ≤ referenceFees es ∧ referenceFees es ≤ (data.fills.map ProfitExitFill.fee).sum := by
  obtain ⟨hsteps, hsum⟩ :=
    costSteps_fee_mem (fun e he => hvalid.events e (hperm.mem_iff.1 he)) 0
  obtain ⟨h0, h1⟩ := weighted_mem _ hsteps
  rw [fee_sum_eq hperm] at hsum
  exact ⟨h0, h1.trans hsum⟩

/-! ## Histories that end flat -/

lemma chain_append (es₀ es : List HistoryEvent) (p r q : ℚ) (h : Chain p es₀ r) :
    Chain p (es₀ ++ es) q ↔ Chain r es q := by
  induction es₀ generalizing p with
  | nil =>
      obtain rfl := h
      rfl
  | cons e es₀ ih =>
      have htail := ih _ h.2
      simp only [List.cons_append, Chain, h.1, true_and]
      exact htail

lemma costSteps_append (added : ℚ → HistoryEvent → ℚ) (es₀ es : List HistoryEvent) (p r : ℚ)
    (h : Chain p es₀ r) :
    costSteps added p (es₀ ++ es) = costSteps added p es₀ ++ costSteps added r es := by
  induction es₀ generalizing p with
  | nil =>
      obtain rfl := h
      rfl
  | cons e es₀ ih => rw [List.cons_append, costSteps, costSteps, ih _ h.2, List.cons_append]

/-- Nothing is left in a pool when the position is flat. -/
lemma accumulate_of_flat {added : ℚ → HistoryEvent → ℚ}
    (hadded : ∀ p e, e.Continues p → e.after p = 0 → added p e = 0) (es : List HistoryEvent)
    (p pool : ℚ) (hchain : Chain p es 0) (hflat : p = 0 → pool = 0) :
    accumulate pool (costSteps added p es) = 0 := by
  induction es generalizing p pool with
  | nil => exact hflat hchain
  | cons e es ih =>
      refine ih _ _ hchain.2 fun hafter => ?_
      have hkept : pool * keptShare p e = 0 := by
        cases e with
        | fill f =>
            have hclosed : p + f.signedSize = 0 := hafter
            simp [keptShare, reductionRatio, hclosed]
        | funding i =>
            have hp : p = 0 := hafter
            rw [hflat hp, zero_mul]
      rw [hkept, hadded p e hchain.1 hafter, add_zero]

lemma feeAdded_of_flat (p : ℚ) (e : HistoryEvent) (hafter : e.after p = 0) : feeAdded p e = 0 := by
  cases e with
  | fill f =>
      have hclosed : p + f.signedSize = 0 := hafter
      have hnot : ¬ |p| < 0 := (abs_nonneg p).not_gt
      simp [feeAdded, openingFraction, hclosed, hnot]
  | funding i => rfl

lemma fundingAdded_of_flat (p : ℚ) (e : HistoryEvent) (hcontinues : e.Continues p)
    (hafter : e.after p = 0) : fundingAdded e = 0 := by
  cases e with
  | fill f => rfl
  | funding i => exact hcontinues.2 hafter

/-- A history that ends flat leaves nothing to a later one. -/
lemma weighted_append_of_flat {added : ℚ → HistoryEvent → ℚ}
    (hadded : ∀ p e, e.Continues p → e.after p = 0 → added p e = 0) {es₀ : List HistoryEvent}
    (hchain : Chain 0 es₀ 0) (es : List HistoryEvent) :
    weighted (costSteps added 0 (es₀ ++ es)) = weighted (costSteps added 0 es) := by
  have hempty := accumulate_of_flat hadded es₀ 0 0 hchain fun _ => rfl
  have h := accumulate_eq 0 (costSteps added 0 (es₀ ++ es))
  rw [costSteps_append added es₀ es 0 0 hchain, accumulate_append, hempty, accumulate_eq] at h
  rw [costSteps_append added es₀ es 0 0 hchain]
  linarith

/-- Payments alone do not move the position. -/
lemma chain_of_no_fill {es : List HistoryEvent} (hnone : ∀ f, HistoryEvent.fill f ∉ es) {p q : ℚ}
    (h : Chain p es q) : p = q := by
  induction es generalizing p with
  | nil => exact h
  | cons e es ih =>
      cases e with
      | fill f => exact absurd List.mem_cons_self (hnone f)
      | funding i => exact ih (fun f hf => hnone f (List.mem_cons_of_mem _ hf)) h.2

lemma fill_mem_iff {data : ProfitExitEconomicsInput} {es : List HistoryEvent}
    (hperm : es.Perm (givenEvents data)) (f : ProfitExitFill) :
    HistoryEvent.fill f ∈ es ↔ f ∈ data.fills := by
  rw [hperm.mem_iff, givenEvents]
  simp

/-- The input with another history. -/
def ProfitExitEconomicsInput.withHistory (data : ProfitExitEconomicsInput)
    (fills : List ProfitExitFill) (funding : List ProfitExitFunding) : ProfitExitEconomicsInput :=
  { data with fills := fills, funding := funding }

lemma evaluate_prepend {data : ProfitExitEconomicsInput} {es es₀ : List HistoryEvent}
    {fills : List ProfitExitFill} {funding : List ProfitExitFunding}
    (hperm : es.Perm (givenEvents data))
    (hperm₀ : (es₀ ++ es).Perm (givenEvents (data.withHistory fills funding)))
    (hsorted : Chronological (es₀ ++ es)) (hvalid₀ : ∀ e ∈ es₀, e.Valid) (hchain₀ : Chain 0 es₀ 0)
    (e : ProfitExitEconomics) :
    evaluateProfitExitEconomics (data.withHistory fills funding) = .ok e ↔
      evaluateProfitExitEconomics data = .ok e := by
  have htail : Chronological es := (List.pairwise_append.1 hsorted).2.1
  rw [evaluate_ok_iff hperm htail, evaluate_ok_iff hperm₀ hsorted, chain_append es₀ es 0 0 _ hchain₀]
  have hreference : referenceEconomics (data.withHistory fills funding) (es₀ ++ es) =
      referenceEconomics data es := by
    have hfees : referenceFees (es₀ ++ es) = referenceFees es :=
      weighted_append_of_flat (fun p e _ => feeAdded_of_flat p e) hchain₀ es
    have hfunding : referenceFunding (es₀ ++ es) = referenceFunding es :=
      weighted_append_of_flat fundingAdded_of_flat hchain₀ es
    simp only [referenceEconomics, hfees, hfunding]
    rfl
  rw [hreference]
  refine and_congr_left fun ⟨hchain, _⟩ => ?_
  constructor
  · rintro ⟨hcurrent, hentry, hexit, hrate, -, hevents⟩
    refine ⟨hcurrent, hentry, hexit, hrate, fun hnone => hcurrent ?_, fun e he => ?_⟩
    · refine (chain_of_no_fill (fun f hf => ?_) hchain).symm
      have := (fill_mem_iff hperm f).1 hf
      rw [hnone] at this
      cases this
    · exact hevents e (hperm₀.mem_iff.1 (List.mem_append_right _ (hperm.mem_iff.2 he)))
  · rintro ⟨hcurrent, hentry, hexit, hrate, hfills, hevents⟩
    refine ⟨hcurrent, hentry, hexit, hrate, fun hnone => hfills ?_, fun e he => ?_⟩
    · rw [List.eq_nil_iff_forall_not_mem]
      intro f hf
      have hmem := (fill_mem_iff hperm₀ f).1
        (List.mem_append_right _ ((fill_mem_iff hperm f).2 hf))
      rw [hnone] at hmem
      cases hmem
    · rcases List.mem_append.1 (hperm₀.mem_iff.2 he) with hold | hnew
      · exact hvalid₀ e hold
      · exact hevents e (hperm.mem_iff.1 hnew)

lemma evaluate_reason {data : ProfitExitEconomicsInput} {es : List HistoryEvent}
    (hperm : es.Perm (givenEvents data)) (hsorted : Chronological es) {reason : IncompleteReason}
    (h : evaluateProfitExitEconomics data = .error reason) :
    reason ≠ .noSizeChange ∧ reason ≠ .reversalAllocation := by
  unfold evaluateProfitExitEconomics at h
  cases hfault : inputFault data with
  | some fault =>
      simp only [hfault] at h
      obtain rfl := Except.error.inj h
      unfold inputFault at hfault
      split_ifs at hfault <;> obtain rfl := Option.some.inj hfault <;> simp
  | none =>
      have hvalid := (inputFault_eq_none_iff hperm hsorted).1 hfault
      simp only [hfault, historyEvents_eq hperm hsorted] at h
      cases hrun : replay ⟨0, 0, 0⟩ es with
      | error fault =>
          simp only [hrun] at h
          obtain rfl := Except.error.inj h
          exact replay_error (fun e he => hvalid.events e (hperm.mem_iff.1 he)) hrun
      | ok residual =>
          simp only [hrun] at h
          split_ifs at h
          obtain rfl := Except.error.inj h
          simp

/-- **Residual economics.**  For a history with distinct timestamps, in whatever order it is given:
the evaluation is complete exactly for valid inputs whose fills lead from flat to the current
position without a gap and whose payments are about the position of their time, and none but zero
while it is flat; the residual pools are then the weighted sums of the reference, the fees between
nothing and all that was paid; a history that ends flat, in front of the given one, changes no
complete evaluation; and the two branches for fills that change nothing are never taken. -/
theorem evaluate_residual_costs (data : ProfitExitEconomicsInput) (es : List HistoryEvent)
    (hperm : es.Perm (givenEvents data)) (hsorted : Chronological es) :
    ((∃ e, evaluateProfitExitEconomics data = .ok e) ↔
        ValidInputs data ∧ Chain 0 es data.currentPosition) ∧
      (∀ e, evaluateProfitExitEconomics data = .ok e →
        e.residualEntryFees = referenceFees es ∧ e.residualFunding = referenceFunding es ∧
          0 ≤ e.residualEntryFees ∧
          e.residualEntryFees ≤ (data.fills.map ProfitExitFill.fee).sum) ∧
      (∀ es₀ fills funding,
        (es₀ ++ es).Perm (givenEvents (data.withHistory fills funding)) →
        Chronological (es₀ ++ es) → (∀ e ∈ es₀, e.Valid) → Chain 0 es₀ 0 →
        ∀ e, evaluateProfitExitEconomics (data.withHistory fills funding) = .ok e ↔
          evaluateProfitExitEconomics data = .ok e) ∧
      ∀ reason, evaluateProfitExitEconomics data = .error reason →
        reason ≠ .noSizeChange ∧ reason ≠ .reversalAllocation := by
  have hcomplete := evaluate_ok_iff hperm hsorted
  refine ⟨⟨?_, ?_⟩, ?_, ?_, ?_⟩
  · rintro ⟨e, he⟩
    obtain ⟨hvalid, hchain, -⟩ := (hcomplete e).1 he
    exact ⟨hvalid, hchain⟩
  · rintro ⟨hvalid, hchain⟩
    exact ⟨_, (hcomplete _).2 ⟨hvalid, hchain, rfl⟩⟩
  · intro e he
    obtain ⟨hvalid, -, rfl⟩ := (hcomplete e).1 he
    obtain ⟨h0, h1⟩ := referenceFees_mem hperm hvalid
    exact ⟨rfl, rfl, h0, h1⟩
  · intro es₀ fills funding hperm₀ hsorted₀ hvalid₀ hchain₀ e
    exact evaluate_prepend hperm hperm₀ hsorted₀ hvalid₀ hchain₀ e
  · intro reason hreason
    exact evaluate_reason hperm hsorted hreason

/-- Two units opened for a fee of four and one of them closed: half of the fee is left. -/
theorem evaluate_residual_costs_reduced :
    ∃ e, evaluateProfitExitEconomics
        ⟨1, 10, 11, 0, [⟨2, 2, .a, 1, 1⟩, ⟨1, 0, .b, 2, 4⟩], []⟩ = .ok e ∧
      e.residualEntryFees = 2 := by
  have h := evaluate_residual_costs ⟨1, 10, 11, 0, [⟨2, 2, .a, 1, 1⟩, ⟨1, 0, .b, 2, 4⟩], []⟩
    [.fill ⟨1, 0, .b, 2, 4⟩, .fill ⟨2, 2, .a, 1, 1⟩] (List.Perm.swap _ _ _)
    (by simp [Chronological, HistoryEvent.time])
  obtain ⟨e, he⟩ := h.1.2 ⟨⟨by norm_num, by norm_num, by norm_num, by norm_num, by simp,
    by simp [givenEvents, HistoryEvent.Valid]⟩,
    by norm_num [Chain, HistoryEvent.Continues, HistoryEvent.after, ProfitExitFill.signedSize]⟩
  refine ⟨e, he, ?_⟩
  rw [(h.2.1 e he).1]
  decide +kernel

/-- A payment while flat is about the position of its time, and yet nothing is complete with it. -/
theorem evaluate_flat_payment :
    let fill : ProfitExitFill := ⟨1, 0, .b, 1, 0⟩
    let payment : ProfitExitFunding := ⟨0, 0, 1⟩
    let data : ProfitExitEconomicsInput := ⟨1, 10, 11, 0, [fill], [payment]⟩
    ValidInputs data ∧ payment.timeMs < fill.timeMs ∧ payment.positionSize = 0 ∧
      fill.startPosition = 0 ∧ fill.signedSize = data.currentPosition ∧
      evaluateProfitExitEconomics data = .error .fundingWhileFlat := by
  refine ⟨⟨by norm_num, by norm_num, by norm_num, by norm_num, by simp, ?_⟩, by norm_num, rfl, rfl,
    rfl, by decide +kernel⟩
  simp [givenEvents, HistoryEvent.Valid]

end HyperCopy

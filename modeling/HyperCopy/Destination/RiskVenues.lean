import HyperCopy.Destination.RiskEvidence
import HyperCopy.Destination.SwitchSettled

/-!
# Risk evidence and the venue it was observed on

`risk_evidence_of_current_venue`: in every history that keeps the guard below, the ledger rows
and the risk row of a user hold only what was observed on the user's venue, and a reconciliation
compares the equity it observed only with a peak and a day start of the same venue.

The guard asks three things of the tables before a step: an endpoint that links an account and
changes the venue finds no evidence of its user, `trading_network` and `trading_provider` find
the risk row they read, and a pass that inserts its run finds its user on the venue it observed.
From there on the row of the user is held.

`risex_link_keeps_peak` links a RISEx account to a user observed on Hyperliquid: the ledger and
the peak stay, and the next pass halts the user for a drawdown that nobody had.
-/

namespace HyperCopy

open Transition

/-! ## The venue of a user -/

/-- The provider and the network committed for a user. -/
def venueOf (db : DestinationDb) (userId : UserId) : Option DestinationVenue :=
  (db.users.lookup userId).map User.venue

/-- Where the requested destination is. -/
def DestinationRequest.venue (request : DestinationRequest) : DestinationVenue :=
  ⟨request.provider, request.network⟩

/-- Rewriting the row of a user within its venue. -/
lemma venueOf_insert {db : DestinationDb} {u : UserId} {row : User} (row' : User)
    (hrow : db.users.lookup u = some row) (hvenue : row'.venue = row.venue)
    (epochs : Table EpochId ExecutionEpoch) (v : UserId) :
    venueOf ⟨db.users.insert u row', epochs⟩ v = venueOf db v := by
  unfold venueOf
  by_cases hvu : v = u
  · subst hvu
    rw [AList.lookup_insert, hrow, Option.map_some, Option.map_some, hvenue]
  · rw [AList.lookup_insert_ne hvu]

lemma venueOf_networkState {db db' : DestinationDb} {u : UserId}
    {account : Option AccountAddress × Option ℕ} {now : ℕ} {id : EpochId}
    {d : UserDestinationState} (h : userNetworkState db u account now id = .ok (db', d))
    (v : UserId) : venueOf db' v = venueOf db v := by
  rcases userNetworkState_eq_ok h with ⟨rfl, -⟩ | ⟨row, hrow, -, rfl, -⟩
  · rfl
  · exact venueOf_insert { row with activeExecutionEpochId := some id } hrow rfl _ v

lemma venueOf_close {db db' : DestinationDb} {u : UserId} {now : ℕ}
    (h : closeUserDestinationEpoch db u now = .ok db') (v : UserId) :
    venueOf db' v = venueOf db v := by
  obtain ⟨row, hrow, ⟨-, rfl⟩ | ⟨id, -, rfl⟩⟩ := closeUserDestinationEpoch_eq_ok h
  · rfl
  · exact venueOf_insert { row with activeExecutionEpochId := none } hrow rfl _ v

/-- The request of a granted destination leaves the venue of its user, or is the new one. -/
lemma venueOf_setUserDestination {db db' : DestinationDb} {u : UserId}
    {request : DestinationRequest} {evidence : SwitchEvidence} {now : ℕ} {id : EpochId}
    {d : UserDestinationState}
    (h : setUserDestination db u request evidence now id = .ok (db', d)) :
    (∀ v, v ≠ u → venueOf db' v = venueOf db v) ∧
      (venueOf db' u = venueOf db u ∨ venueOf db' u = some request.venue) := by
  obtain ⟨row, -, rfl | ⟨-, rfl⟩⟩ := setUserDestination_eq_ok h
  · exact ⟨fun _ _ => rfl, Or.inl rfl⟩
  · constructor
    · intro v hvu
      show Option.map _ (AList.lookup v (AList.insert u _ db.users)) = _
      rw [AList.lookup_insert_ne hvu]
      rfl
    · right
      show Option.map _ (AList.lookup u (AList.insert u _ db.users)) = _
      rw [AList.lookup_insert]
      rfl

/-- Closing its epoch leaves a user with the history it had. -/
lemma EpochInv.history_of_close {db db' : DestinationDb} {t now : ℕ} (h : EpochInv db t)
    {u : UserId} {row row' : User} (hclose : closeUserDestinationEpoch db u now = .ok db')
    (hrow : db.users.lookup u = some row) (hrow' : db'.users.lookup u = some row')
    (hhistory : hasDestinationHistory db u row = true) :
    hasDestinationHistory db' u row' = true := by
  obtain ⟨row₁, hrow₁, ⟨-, rfl⟩ | ⟨id, hactive, rfl⟩⟩ := closeUserDestinationEpoch_eq_ok hclose
  · obtain rfl : row = row' := Option.some.inj (hrow.symm.trans hrow')
    exact hhistory
  · obtain ⟨e, he, hu, -⟩ := h.active_open u row₁ id hrow₁ hactive
    have hold : (Table.modify db.epochs id fun e => e.close now).lookup id = some (e.close now) := by
      rw [Table.lookup_modify_self, he]
      rfl
    have hany : Table.any (detachEpoch db u row₁ id now).epochs (fun _ e => e.userId = u) = true :=
      Table.any_eq_true.2 ⟨id, e.close now, hold, by simpa using hu⟩
    rw [hasDestinationHistory, hany, Bool.or_true]

/-- The commit of an endpoint gives its user another venue: the request names one, and it is not
refused. -/
def changesVenue (db : DestinationDb) (task : EndpointTask) (evidence : SwitchEvidence) : Bool :=
  (db.users.lookup task.userId).any fun row =>
    row.venue ≠ task.request.venue &&
      (!hasDestinationHistory db task.userId row || (assessSwitch evidence).isOk)

/-- What an endpoint that commits may do to the venues. -/
structure VenueChange (db db' : DestinationDb) (task : EndpointTask) (evidence : SwitchEvidence) :
    Prop where
  other : ∀ v, v ≠ task.userId → venueOf db' v = venueOf db v
  changes : venueOf db' task.userId ≠ venueOf db task.userId →
    changesVenue db task evidence = true

lemma EpochInv.setUserDestination {db db' : DestinationDb} {t now : ℕ} (h : EpochInv db t)
    {u : UserId} {request : DestinationRequest} {evidence : SwitchEvidence} {id : EpochId}
    {d : UserDestinationState} (hfresh : db.epochs.lookup id = none) (hnow : t ≤ now)
    (hset : setUserDestination db u request evidence now id = .ok (db', d)) :
    EpochInv db' now := by
  obtain ⟨row, hrow, rfl | ⟨-, rfl⟩⟩ := setUserDestination_eq_ok hset
  · exact h.mono hnow
  · exact h.openDestinationEpoch hrow request hfresh hnow

lemma EpochInv.close {db db' : DestinationDb} {t now now' : ℕ} (h : EpochInv db t) {u : UserId}
    (hnow : t ≤ now) (hread : now' ≤ now)
    (hclose : closeUserDestinationEpoch db u now' = .ok db') :
    EpochInv db' now ∧ ∀ i, db.epochs.lookup i = none → db'.epochs.lookup i = none := by
  obtain ⟨row, hrow, ⟨-, rfl⟩ | ⟨id, hactive, rfl⟩⟩ := closeUserDestinationEpoch_eq_ok hclose
  · exact ⟨h.mono hnow, fun _ hi => hi⟩
  · exact ⟨h.detach hrow hactive hread hnow, fun _ hi => detachEpoch_lookup_none hi⟩

/-- A destination set on tables that have kept the venues and the history of its user. -/
lemma EpochInv.venueChange {db closed db' : DestinationDb} {now : ℕ} (h : EpochInv closed now)
    {task : EndpointTask} {evidence : SwitchEvidence} {id : EpochId}
    (hfresh : closed.epochs.lookup id = none)
    (hvenues : ∀ v, venueOf closed v = venueOf db v)
    (hhistory : ∀ row row', db.users.lookup task.userId = some row →
      closed.users.lookup task.userId = some row' →
      hasDestinationHistory db task.userId row = true →
      hasDestinationHistory closed task.userId row' = true)
    (hset : (HyperCopy.setUserDestination closed task.userId task.request evidence now id).map
      (·.1) = .ok db') : EpochInv db' now ∧ VenueChange db db' task evidence := by
  cases hresult : HyperCopy.setUserDestination closed task.userId task.request evidence now id with
  | error e =>
      rw [hresult] at hset
      cases hset
  | ok r =>
      obtain ⟨db₁, d⟩ := r
      rw [hresult] at hset
      obtain rfl : db₁ = db' := Except.ok.inj hset
      obtain ⟨hother, huser⟩ := venueOf_setUserDestination hresult
      refine ⟨h.setUserDestination hfresh le_rfl hresult, ?_, ?_⟩
      · intro v hv
        rw [hother v hv, hvenues v]
      · intro hne
        have hnew : venueOf db₁ task.userId = some task.request.venue := by
          rcases huser with hkept | hnew
          · exact absurd (hkept.trans (hvenues task.userId)) hne
          · exact hnew
        obtain ⟨row', hrow', -⟩ := setUserDestination_eq_ok hresult
        have hvenue := hvenues task.userId
        unfold venueOf at hvenue hnew hne
        rw [hrow', Option.map_some] at hvenue
        obtain ⟨row, hrow, hsame⟩ := Option.map_eq_some_iff.1 hvenue.symm
        obtain ⟨row'', hrow'', hreq⟩ := Option.map_eq_some_iff.1 hnew
        rw [hrow'', hrow, Option.map_some, Option.map_some, hreq] at hne
        have hdiffers : row.venue ≠ task.request.venue := fun heq => hne (by rw [heq])
        rw [changesVenue, hrow, Option.any_some, Bool.and_eq_true, decide_eq_true_eq]
        refine ⟨hdiffers, ?_⟩
        by_cases hhist : hasDestinationHistory db task.userId row = true
        · have hcolumns : row''.executionProvider ≠ row'.executionProvider ∨
              row''.executionNetwork ≠ row'.executionNetwork := by
            by_contra hcolumns
            push Not at hcolumns
            apply hdiffers
            rw [← hreq, hsame]
            unfold User.venue
            rw [hcolumns.1, hcolumns.2]
          have hok := setUserDestination_switch hresult hrow' hrow'' hcolumns
            (hhistory row row' hrow hrow' hhist)
          rw [hok, Bool.or_eq_true]
          exact Or.inr rfl
        · rw [Bool.not_eq_true] at hhist
          rw [hhist]
          rfl

/-- Setting the destination of a user whose epoch, in the links, is closed just before. -/
lemma EpochInv.setDestinationOf {db db' : DestinationDb} {t now : ℕ} (h : EpochInv db t)
    {task : EndpointTask} {evidence : SwitchEvidence} {id : EpochId}
    (hfresh : db.epochs.lookup id = none) (hnow : t ≤ now)
    (hset : HyperCopy.setDestinationOf db task evidence now id = .ok db') :
    EpochInv db' now ∧ VenueChange db db' task evidence := by
  unfold HyperCopy.setDestinationOf at hset
  by_cases hlinks : task.kind.links = true
  · rw [if_pos hlinks] at hset
    cases hclose : closeUserDestinationEpoch db task.userId now with
    | error e =>
        rw [hclose] at hset
        cases hset
    | ok closed =>
        rw [hclose] at hset
        obtain ⟨hclosed, hkept⟩ := h.close hnow le_rfl hclose
        exact hclosed.venueChange (hkept id hfresh) (venueOf_close hclose)
          (fun _ _ hrow hrow' hhist => h.history_of_close hclose hrow hrow' hhist) hset
  · rw [if_neg hlinks] at hset
    refine (h.mono hnow).venueChange hfresh (fun _ => rfl) (fun row row' hrow hrow' hhist => ?_)
      hset
    obtain rfl : row = row' := Option.some.inj (hrow.symm.trans hrow')
    exact hhist

/-! ## What a pass writes -/

/-- The values of a risk row that were observed. -/
def RiskRow.observations (row : RiskRow) : List ObservedEquity :=
  row.peakEquity.toList ++ row.dayStartEquity.toList

/-- What the observed equity is compared with. -/
def RiskComparison.baselines (c : RiskComparison) : List ObservedEquity :=
  c.peak :: c.dayStart.toList

/-- A baseline is the equity itself or a value of the risk row. -/
lemma baseline_compareRisk {u : UserId} {row : RiskRow} {today : ℕ} {equity e : ObservedEquity}
    (h : e ∈ (compareRisk u row today equity).baselines) : e = equity ∨ e ∈ row.observations := by
  rcases List.mem_cons.1 h with rfl | hday
  · show peakWith row.peakEquity equity = equity ∨ peakWith row.peakEquity equity ∈ row.observations
    unfold peakWith RiskRow.observations
    cases row.peakEquity with
    | none => exact Or.inl rfl
    | some peak =>
        by_cases hlt : peak.value < equity.value
        · simp [hlt]
        · simp [hlt]
  · have hmem : e ∈ dayStartWith row today equity := Option.mem_toList.1 hday
    unfold dayStartWith at hmem
    by_cases hsame : row.dayKey = some today
    · rw [if_pos hsame] at hmem
      exact Or.inr (List.mem_append_right _ (Option.mem_toList.2 hmem))
    · rw [if_neg hsame] at hmem
      exact Or.inl (Option.some.inj hmem).symm

/-- The row a pass starts from holds the equity or what was stored. -/
lemma observation_riskRowOr {stored : Option RiskRow} {id : RiskRowId} {today : ℕ}
    {equity e : ObservedEquity} (h : e ∈ (riskRowOr stored id today equity).observations) :
    e = equity ∨ ∃ row, stored = some row ∧ e ∈ row.observations := by
  cases stored with
  | none =>
      left
      simpa [riskRowOr, RiskRow.observations] using h
  | some row => exact Or.inr ⟨row, rfl, h⟩

lemma lookup_positions {u : UserId} {venue : DestinationVenue} {positions : List (Asset × ℚ)} :
    ∀ {ledgers : Table (UserId × Asset) ObservedLedger} {k : UserId × Asset} {l : ObservedLedger},
      (positions.foldl (fun t p => t.insert (u, p.1) ⟨p.2, venue⟩) ledgers).lookup k = some l →
        (k.1 = u ∧ l.venue = venue) ∨ ledgers.lookup k = some l := by
  induction positions with
  | nil => exact fun h => Or.inr h
  | cons p positions ih =>
      intro ledgers k l h
      rw [List.foldl_cons] at h
      rcases ih h with hnew | hold
      · exact Or.inl hnew
      · rcases Table.lookup_insert_cases hold with ⟨rfl, rfl⟩ | hold
        · exact Or.inl ⟨rfl, rfl⟩
        · exact Or.inr hold

lemma lookup_deleteLedgers {u : UserId} {ledgers : Table (UserId × Asset) ObservedLedger}
    {k : UserId × Asset} {l : ObservedLedger} (h : (deleteLedgers ledgers u).lookup k = some l) :
    ledgers.lookup k = some l ∧ k.1 ≠ u := by
  have hfold : ∀ (es : List (Sigma fun _ : UserId × Asset => ObservedLedger))
      (t : Table (UserId × Asset) ObservedLedger),
      (es.foldl (fun t e => t.erase e.1) t).lookup k = some l →
        t.lookup k = some l ∧ ∀ e ∈ es, e.1 ≠ k := by
    intro es
    induction es with
    | nil => exact fun t ht => ⟨ht, fun e he => absurd he List.not_mem_nil⟩
    | cons e es ih =>
        intro t ht
        obtain ⟨hrest, hne⟩ := ih (t.erase e.1) ht
        refine ⟨Table.lookup_of_erase hrest, fun e' he' => ?_⟩
        rcases List.mem_cons.1 he' with rfl | he'
        · rintro rfl
          rw [AList.lookup_erase] at hrest
          cases hrest
        · exact hne e' he'
  obtain ⟨hl, hne⟩ := hfold _ ledgers h
  refine ⟨hl, fun hu => ?_⟩
  have hmem : (⟨k, l⟩ : Sigma fun _ : UserId × Asset => ObservedLedger) ∈
      ledgers.entries.filter fun e => e.1.1 = u :=
    List.mem_filter.2 ⟨AList.mem_lookup_iff.1 hl, by simpa using hu⟩
  exact hne _ hmem rfl

/-! ## The guard -/

/-- The commit of an endpoint leaves no evidence of its user: there is none, as far as the
endpoint does not delete it. -/
def leavesNoEvidence (s : EndpointState) (task : EndpointTask) : Bool :=
  let observed := (s.risks.lookup task.userId).any fun row => !row.observations.isEmpty
  if task.kind.links then
    !observed && !Table.any s.ledgers fun key _ => key.1 = task.userId
  else !observed || (s.risks.lookup task.userId).map (·.id) = task.riskRead

/-- A commit that changes a venue leaves no evidence, and a run row is inserted for a user on the
venue that was observed. -/
def evidenceGuard (s : EndpointState) (a : EndpointAction) : Bool :=
  match a.op with
  | .commit endpointId evidence _ =>
      (s.endpoints.lookup endpointId).all fun task =>
        !changesVenue s.db task evidence || leavesNoEvidence s task
  | .insertRun passId =>
      (s.passes.lookup passId).all fun pass => venueOf s.db pass.userId = some pass.equity.venue
  | _ => true

/-! ## The invariant of guarded histories -/

/-- All evidence of a user was observed on the user's venue. -/
structure EvidenceCurrent (s : EndpointState) : Prop where
  ledgers : ∀ k l, s.ledgers.lookup k = some l → venueOf s.db k.1 = some l.venue
  risks : ∀ u row e, s.risks.lookup u = some row → e ∈ row.observations →
    venueOf s.db u = some e.venue

/-- The invariant of a run: every figure of a user is of the venue its orders go to. -/
structure EvidenceInv (s : EndpointState) : Prop extends EvidenceCurrent s where
  epochs : EpochInv s.db s.clock
  running : ∀ p pass, s.passes.lookup p = some pass → pass.phase = .running →
    venueOf s.db pass.userId = some pass.equity.venue
  comparisons : ∀ c ∈ s.comparisons, ∀ e ∈ c.baselines, e.venue = c.equity.venue

/-- A user with a venue keeps it. -/
def VenueKept (db db' : DestinationDb) (u : UserId) : Prop :=
  ∀ v, venueOf db u = some v → venueOf db' u = some v

/-- Steps that add no evidence and leave none of a user they move. -/
lemma EvidenceInv.shrink {s s' : EndpointState} (h : EvidenceInv s)
    (hepochs : EpochInv s'.db s'.clock)
    (hledgers : ∀ k l, s'.ledgers.lookup k = some l →
      s.ledgers.lookup k = some l ∧ VenueKept s.db s'.db k.1)
    (hrisks : ∀ u row e, s'.risks.lookup u = some row → e ∈ row.observations →
      (∃ row, s.risks.lookup u = some row ∧ e ∈ row.observations) ∧ VenueKept s.db s'.db u)
    (hpasses : ∀ p pass, s'.passes.lookup p = some pass → pass.phase = .running →
      s.passes.lookup p = some pass ∧ VenueKept s.db s'.db pass.userId)
    (hcomparisons : s'.comparisons = s.comparisons) : EvidenceInv s' where
  epochs := hepochs
  ledgers k l hl := by
    obtain ⟨hold, hvenue⟩ := hledgers k l hl
    exact hvenue _ (h.ledgers k l hold)
  risks u row e hrow he := by
    obtain ⟨⟨row', hrow', he'⟩, hvenue⟩ := hrisks u row e hrow he
    exact hvenue _ (h.risks u row' e hrow' he')
  running p pass hpass hphase := by
    obtain ⟨hold, hvenue⟩ := hpasses p pass hpass hphase
    exact hvenue _ (h.running p pass hold hphase)
  comparisons := by
    rw [hcomparisons]
    exact h.comparisons

/-- Steps that keep the evidence and the venues. -/
lemma EvidenceInv.frame {s s' : EndpointState} (h : EvidenceInv s)
    (hepochs : EpochInv s'.db s'.clock) (hvenue : ∀ u, VenueKept s.db s'.db u)
    (hledgers : s'.ledgers = s.ledgers) (hrisks : s'.risks = s.risks)
    (hpasses : ∀ p pass, s'.passes.lookup p = some pass → pass.phase = .running →
      s.passes.lookup p = some pass)
    (hcomparisons : s'.comparisons = s.comparisons) : EvidenceInv s' := by
  refine h.shrink hepochs (fun k l hl => ⟨?_, hvenue _⟩) (fun u row e hrow he => ⟨?_, hvenue _⟩)
    (fun p pass hpass hphase => ⟨hpasses p pass hpass hphase, hvenue _⟩) hcomparisons
  · rwa [hledgers] at hl
  · rw [hrisks] at hrow
    exact ⟨row, hrow, he⟩

lemma VenueChange.kept {db db' : DestinationDb} {task : EndpointTask} {evidence : SwitchEvidence}
    (h : VenueChange db db' task evidence) {u : UserId}
    (hsame : u = task.userId → changesVenue db task evidence = false) : VenueKept db db' u := by
  intro v hv
  by_cases hu : u = task.userId
  · by_contra hne
    have hchange : changesVenue db task evidence = true := by
      refine h.changes fun heq => hne ?_
      rw [hu, heq, ← hu]
      exact hv
    rw [hsame hu] at hchange
    cases hchange
  · rw [h.other u hu]
    exact hv

/-- A commit that is guarded leaves no evidence of a user whose venue it changes. -/
lemma EvidenceInv.commit {s t : EndpointState} (h : EvidenceInv s) {task : EndpointTask}
    {evidence : SwitchEvidence} {now : ℕ} {id : EpochId} (hheld : s.held task.userId = false)
    (hfresh : s.db.epochs.lookup id = none) (hnow : s.clock ≤ now)
    (hguard : changesVenue s.db task evidence = true → leavesNoEvidence s task = true)
    (hcommit : commitEndpoint s task evidence now id = some t)
    (endpoints : Table EndpointId EndpointTask) :
    EvidenceInv { t with endpoints := endpoints, clock := now } := by
  unfold commitEndpoint at hcommit
  cases hset : setDestinationOf s.db task evidence now id with
  | error e =>
      rw [hset] at hcommit
      cases hcommit
  | ok db =>
      rw [hset] at hcommit
      dsimp only at hcommit
      obtain ⟨hepochs, hchange⟩ := h.epochs.setDestinationOf hfresh hnow hset
      -- the row of the user is not held, so no run of the user is open
      have hpasses : ∀ p pass, s.passes.lookup p = some pass → pass.phase = .running →
          s.passes.lookup p = some pass ∧ VenueKept s.db db pass.userId := by
        intro p pass hpass hphase
        refine ⟨hpass, hchange.kept fun hu => ?_⟩
        have hfree := Table.any_eq_false.1 hheld p pass hpass
        simp [hu, hphase] at hfree
      by_cases hlinks : task.kind.links = true
      · rw [if_pos hlinks] at hcommit
        obtain rfl := Option.some.inj hcommit
        unfold leavesNoEvidence at hguard
        dsimp only at hguard
        rw [if_pos hlinks] at hguard
        refine h.shrink hepochs ?_ ?_ hpasses rfl
        · intro k l hl
          refine ⟨hl, hchange.kept fun hu => ?_⟩
          by_contra hchanges
          have hnone := hguard (by simpa using hchanges)
          rw [Bool.and_eq_true, Bool.not_eq_true', Bool.not_eq_true', Table.any_eq_false] at hnone
          have hother := hnone.2 k l hl
          simp [hu] at hother
        · intro u row e hrow he
          refine ⟨⟨row, hrow, he⟩, hchange.kept fun hu => ?_⟩
          by_contra hchanges
          have hnone := hguard (by simpa using hchanges)
          rw [← hu, hrow, Option.any_some, Bool.and_eq_true, Bool.not_eq_true', Bool.not_eq_false',
            List.isEmpty_iff] at hnone
          rw [hnone.1] at he
          cases he
      · rw [if_neg hlinks] at hcommit
        obtain rfl := Option.some.inj hcommit
        unfold leavesNoEvidence at hguard
        dsimp only at hguard
        rw [if_neg hlinks] at hguard
        refine h.shrink hepochs ?_ ?_ hpasses rfl
        · intro k l hl
          obtain ⟨hold, hne⟩ := lookup_deleteLedgers hl
          exact ⟨hold, hchange.kept fun hu => absurd hu hne⟩
        · intro u row e hrow he
          have hold : s.risks.lookup u = some row := by
            change (deleteRiskRow s.risks task.userId task.riskRead).lookup u = some row at hrow
            unfold deleteRiskRow at hrow
            split_ifs at hrow
            · exact Table.lookup_of_erase hrow
            · exact hrow
          refine ⟨⟨row, hold, he⟩, hchange.kept fun hu => ?_⟩
          by_contra hchanges
          have hnone := hguard (by simpa using hchanges)
          rw [← hu, hold, Option.any_some, Bool.or_eq_true, Bool.not_eq_true', Bool.not_eq_false',
            List.isEmpty_iff, decide_eq_true_eq] at hnone
          rcases hnone with hempty | hread
          · rw [hempty] at he
            cases he
          · -- the row the endpoint read is the one it deletes
            subst hu
            change (deleteRiskRow s.risks task.userId task.riskRead).lookup task.userId =
              some row at hrow
            unfold deleteRiskRow at hrow
            rw [hold, if_pos hread, AList.lookup_erase] at hrow
            cases hrow

/-- The writes of a pass whose user is on the venue it observed. -/
lemma EvidenceInv.commitPass {s : EndpointState} (h : EvidenceInv s) {p : PassId}
    {pass : ReconcilePass} (hpass : s.passes.lookup p = some pass) (hphase : pass.phase = .running)
    {now : ℕ} (hnow : s.clock ≤ now) (today : ℕ) (riskId : RiskRowId)
    (limits : Option RiskThresholds) (positions : List (Asset × ℚ)) :
    EvidenceInv { HyperCopy.commitPass s pass today riskId limits positions with
      passes := s.passes.erase p, clock := now } := by
  have hvenue : venueOf s.db pass.userId = some pass.equity.venue := h.running p pass hpass hphase
  have hrow : ∀ e ∈ (riskRowOr (s.risks.lookup pass.userId) riskId today pass.equity).observations,
      e.venue = pass.equity.venue := by
    intro e he
    rcases observation_riskRowOr he with rfl | ⟨row, hstored, he'⟩
    · rfl
    · exact Option.some.inj ((h.risks pass.userId row e hstored he').symm.trans hvenue)
  have hbaseline : ∀ e ∈ (compareRisk pass.userId
      (riskRowOr (s.risks.lookup pass.userId) riskId today pass.equity) today
      pass.equity).baselines, e.venue = pass.equity.venue := by
    intro e he
    rcases baseline_compareRisk he with rfl | he'
    · rfl
    · exact hrow e he'
  refine ⟨⟨?_, ?_⟩, h.epochs.mono hnow, ?_, ?_⟩
  · intro k l hl
    rcases lookup_positions hl with ⟨hu, hl'⟩ | hold
    · rw [hu, hl']
      exact hvenue
    · exact h.ledgers k l hold
  · intro u row e hu he
    rcases Table.lookup_insert_cases hu with ⟨rfl, rfl⟩ | hold
    · refine hvenue.trans (congrArg some ?_)
      cases limits with
      | none => exact (hrow e he).symm
      | some l => exact (hbaseline e he).symm
    · exact h.risks u row e hold he
  · intro p' pass' hpass' hphase'
    exact h.running p' pass' (Table.lookup_of_erase hpass') hphase'
  · intro c hc
    cases limits with
    | none => exact h.comparisons c hc
    | some l =>
        rcases List.mem_cons.1 hc with rfl | hold
        · exact hbaseline
        · exact h.comparisons c hold

section

variable {s : EndpointState} {now : ℕ}

/-- Steps of an endpoint or a pass that leave the rows alone. -/
lemma EvidenceInv.quiet (h : EvidenceInv s) (hnow : s.clock ≤ now) {t : EndpointState}
    (hdb : t.db = s.db) (hledgers : t.ledgers = s.ledgers) (hrisks : t.risks = s.risks)
    (hcomparisons : t.comparisons = s.comparisons)
    (hpasses : ∀ p pass, t.passes.lookup p = some pass → pass.phase = .running →
      s.passes.lookup p = some pass) : EvidenceInv { t with clock := now } := by
  refine h.frame ?_ (fun u v hv => ?_) hledgers hrisks hpasses hcomparisons
  · show EpochInv t.db now
    rw [hdb]
    exact h.epochs.mono hnow
  · show venueOf t.db u = some v
    rw [hdb]
    exact hv

/-- The requests alone change. -/
lemma EvidenceInv.sameRows (h : EvidenceInv s) (hnow : s.clock ≤ now) {t : EndpointState}
    (hdb : t.db = s.db) (hledgers : t.ledgers = s.ledgers) (hrisks : t.risks = s.risks)
    (hcomparisons : t.comparisons = s.comparisons) (hpasses : t.passes = s.passes) :
    EvidenceInv { t with clock := now } := by
  refine h.quiet hnow hdb hledgers hrisks hcomparisons fun p pass hpass _ => ?_
  rwa [hpasses] at hpass

/-- The epochs alone move, and no venue with them. -/
lemma EvidenceInv.moveEpochs (h : EvidenceInv s) {db : DestinationDb} (hdb : EpochInv db now)
    (hvenue : ∀ u, venueOf db u = venueOf s.db u) :
    EvidenceInv { s with db := db, clock := now } := by
  refine h.frame hdb (fun u v hv => ?_) rfl rfl (fun _ _ hpass _ => hpass) rfl
  rw [← hv]
  exact hvenue u

/-- A pass that does not hold its user yet begins or moves on. -/
lemma EvidenceInv.insertPass (h : EvidenceInv s) (hnow : s.clock ≤ now) (p : PassId)
    {pass : ReconcilePass} (hphase : pass.phase ≠ .running) :
    EvidenceInv { s with passes := s.passes.insert p pass, clock := now } := by
  refine h.quiet (t := { s with passes := s.passes.insert p pass }) hnow rfl rfl rfl rfl
    fun p' pass' hpass' hphase' => ?_
  rcases Table.lookup_insert_cases hpass' with ⟨-, rfl⟩ | hold
  · exact absurd hphase' hphase
  · exact hold

lemma EvidenceInv.dropPass (h : EvidenceInv s) (hnow : s.clock ≤ now) (p : PassId) :
    EvidenceInv { s with passes := s.passes.erase p, clock := now } :=
  h.quiet (t := { s with passes := s.passes.erase p }) hnow rfl rfl rfl rfl
    fun _ _ hpass _ => Table.lookup_of_erase hpass

/-- The run row of a pass is inserted while its user is on the venue it observed. -/
lemma EvidenceInv.runPass (h : EvidenceInv s) (hnow : s.clock ≤ now) (p : PassId)
    {pass : ReconcilePass} (hvenue : venueOf s.db pass.userId = some pass.equity.venue) :
    EvidenceInv { s with passes := s.passes.insert p pass, clock := now } := by
  refine ⟨⟨h.ledgers, h.risks⟩, h.epochs.mono hnow, fun p' pass' hpass' hphase' => ?_,
    h.comparisons⟩
  rcases Table.lookup_insert_cases hpass' with ⟨-, rfl⟩ | hold
  · exact hvenue
  · exact h.running p' pass' hold hphase'

/-- A user without rows, and an empty risk row for it. -/
lemma EvidenceInv.addUser (h : EvidenceInv s) (hnow : s.clock ≤ now) {u : UserId}
    (hnew : s.db.users.lookup u = none) {row : User} (hactive : row.activeExecutionEpochId = none)
    {risk : RiskRow} (hempty : risk.observations = []) :
    EvidenceInv { s with
      db := { s.db with users := s.db.users.insert u row }
      risks := s.risks.insert u risk
      clock := now } := by
  have hvenue : ∀ v, VenueKept s.db { s.db with users := s.db.users.insert u row } v := by
    intro v w hw
    unfold venueOf at hw ⊢
    rw [AList.lookup_insert_ne]
    · exact hw
    · rintro rfl
      rw [hnew] at hw
      cases hw
  refine h.shrink ((h.epochs.mono hnow).addUser _ hnew hactive) (fun k l hl => ⟨hl, hvenue _⟩) ?_
    (fun p pass hpass _ => ⟨hpass, hvenue _⟩) rfl
  intro v risk' e hrisk he
  refine ⟨?_, hvenue v⟩
  rcases Table.lookup_insert_cases hrisk with ⟨rfl, rfl⟩ | hold
  · rw [hempty] at he
    cases he
  · exact ⟨risk', hold, he⟩

end

theorem EvidenceInv.step {s s' : EndpointState} {a : EndpointAction} (h : EvidenceInv s)
    (hguard : evidenceGuard s a = true) (hstep : endpointStep s a = some s') : EvidenceInv s' := by
  obtain ⟨now, op⟩ := a
  unfold endpointStep at hstep
  split_ifs at hstep with hclock
  obtain ⟨s₁, hs₁, rfl⟩ := Option.map_eq_some_iff.1 hstep
  dsimp only at hclock hs₁ ⊢
  have hnow : s.clock ≤ now := hclock.le
  cases op with
  | addUser u provider network startedAt riskId =>
      simp only [applyEndpointOp] at hs₁
      split_ifs at hs₁ with hnew
      obtain rfl := Option.some.inj hs₁
      exact h.addUser hnow hnew.1 rfl rfl
  | networkState u account id =>
      simp only [applyEndpointOp] at hs₁
      split_ifs at hs₁ with hbusy
      rw [Bool.not_eq_true, Bool.or_eq_false_iff, Option.isSome_eq_false_iff,
        Option.isNone_iff_eq_none] at hbusy
      split at hs₁
      · rename_i db d hstate
        obtain rfl := Option.some.inj hs₁
        exact h.moveEpochs (h.epochs.networkState hbusy.2 hnow hstate)
          (venueOf_networkState hstate)
      · obtain rfl := Option.some.inj hs₁
        exact h.sameRows hnow rfl rfl rfl rfl rfl
  | unlink u readAt =>
      simp only [applyEndpointOp] at hs₁
      split_ifs at hs₁ with hbusy
      rw [Bool.not_eq_true, Bool.or_eq_false_iff, decide_eq_false_iff_not] at hbusy
      split at hs₁
      · rename_i db hclose
        obtain rfl := Option.some.inj hs₁
        exact h.moveEpochs (h.epochs.close hnow (by omega) hclose).1 (venueOf_close hclose)
      · obtain rfl := Option.some.inj hs₁
        exact h.sameRows hnow rfl rfl rfl rfl rfl
  | start id u kind provider network account =>
      simp only [applyEndpointOp] at hs₁
      split_ifs at hs₁
      obtain ⟨request, -, rfl⟩ := Option.map_eq_some_iff.1 hs₁
      exact h.sameRows hnow rfl rfl rfl rfl rfl
  | commit endpointId evidence id =>
      simp only [applyEndpointOp] at hs₁
      split at hs₁
      · cases hs₁
      · rename_i task htask
        split_ifs at hs₁ with hbusy
        rw [Bool.not_eq_true, Bool.or_eq_false_iff, Option.isSome_eq_false_iff,
          Option.isNone_iff_eq_none] at hbusy
        obtain rfl := Option.some.inj hs₁
        have hleaves : changesVenue s.db task evidence = true →
            leavesNoEvidence s task = true := by
          intro hchanges
          simpa [evidenceGuard, htask, hchanges] using hguard
        cases hcommit : commitEndpoint s task evidence now id with
        | none => exact h.sameRows hnow rfl rfl rfl rfl rfl
        | some t => exact h.commit hbusy.1 hbusy.2 hnow hleaves hcommit _
  | rollback id =>
      obtain rfl := Option.some.inj hs₁
      exact h.sameRows hnow rfl rfl rfl rfl rfl
  | observe p u equity =>
      simp only [applyEndpointOp] at hs₁
      split at hs₁
      · obtain rfl := Option.some.inj hs₁
        exact h.insertPass hnow p (by simp)
      · cases hs₁
  | checkDestination p =>
      simp only [applyEndpointOp] at hs₁
      split at hs₁
      · cases hs₁
      · split_ifs at hs₁
        split at hs₁
        · split_ifs at hs₁
          · obtain rfl := Option.some.inj hs₁
            exact h.insertPass hnow p (by simp [ReconcilePass.advance])
          · obtain rfl := Option.some.inj hs₁
            exact h.dropPass hnow p
        · obtain rfl := Option.some.inj hs₁
          exact h.dropPass hnow p
  | insertRun p =>
      simp only [applyEndpointOp] at hs₁
      split at hs₁
      · cases hs₁
      · rename_i pass hpass
        split_ifs at hs₁
        obtain rfl := Option.some.inj hs₁
        have hvenue : venueOf s.db pass.userId = some pass.equity.venue := by
          simpa [evidenceGuard, hpass] using hguard
        exact h.runPass hnow p hvenue
  | commitPass p today riskId limits positions =>
      simp only [applyEndpointOp] at hs₁
      split at hs₁
      · cases hs₁
      · rename_i pass hpass
        split_ifs at hs₁ with hphase
        obtain rfl := Option.some.inj hs₁
        exact h.commitPass hpass hphase hnow today riskId limits positions
  | failPass p =>
      obtain rfl := Option.some.inj hs₁
      exact h.dropPass hnow p

lemma evidenceInv_initial : EvidenceInv .initial := by
  refine ⟨⟨?_, ?_⟩, epochInv_initial, ?_, ?_⟩ <;> simp [EndpointState.initial]

/-- In a guarded history all evidence of a user was observed on the user's venue, and equities
are compared with what was observed on their own venue only. -/
theorem risk_evidence_of_current_venue {as : List EndpointAction} {s : EndpointState}
    (hmeets : RunMeets endpointStep (fun s a => evidenceGuard s a = true) .initial as)
    (hrun : run endpointStep .initial as = some s) :
    EvidenceCurrent s ∧
      ∀ c ∈ s.comparisons, ∀ e ∈ c.baselines, e.venue = c.equity.venue := by
  have hinv : EvidenceInv s :=
    run_invariant_of_meets (fun _ _ _ h hG hstep => h.step hG hstep) evidenceInv_initial hmeets hrun
  exact ⟨hinv.toEvidenceCurrent, hinv.comparisons⟩

/-! ## A RISEx account linked to an observed user -/

/-- User 1 on Hyperliquid, with an epoch. -/
def observedUser : List EndpointAction :=
  [⟨1, .addUser 1 .hyperliquid .testnet 0 1⟩, ⟨2, .networkState 1 (some 7, some 1) 1⟩]

/-- A reconciliation of user 1 that finds no position and an equity of `equity`. -/
def passOf (t : ℕ) (equity : ℚ) : List EndpointAction :=
  [⟨t, .observe t 1 equity⟩, ⟨t + 1, .checkDestination t⟩, ⟨t + 2, .insertRun t⟩,
    ⟨t + 3, .commitPass t 1 2 (some ⟨20, 10⟩) [(0, 0)]⟩]

/-- An endpoint that moves user 1 to RISEx, allowed by its reads. -/
def moveToRisex (t : ℕ) (kind : EndpointKind) : List EndpointAction :=
  [⟨t, .start 1 1 kind .risex .testnet (some 7, some 1)⟩,
    ⟨t + 1, .commit 1 ⟨.verifiedFlat, [], []⟩ 2⟩]

/-- A pass at one provider, the switch to the other, and a pass there. -/
def providerRun : List EndpointAction :=
  observedUser ++ passOf 3 1000 ++ moveToRisex 7 .tradingProvider ++ passOf 9 100

/-- The same, where linking an account moves the user. -/
def linkRun : List EndpointAction :=
  observedUser ++ passOf 3 1000 ++ moveToRisex 7 .linkRisexTradingAccount

theorem risk_evidence_of_current_venue_switched :
    ∃ s, run endpointStep .initial providerRun = some s ∧
      venueOf s.db 1 = some ⟨.risex, .testnet⟩ ∧ s.comparisons.length = 2 ∧
      EvidenceCurrent s ∧ ∀ c ∈ s.comparisons, ∀ e ∈ c.baselines, e.venue = c.equity.venue := by
  have hlast : (run endpointStep .initial providerRun).map (fun s =>
      (venueOf s.db 1, s.comparisons.length)) = some (some ⟨.risex, .testnet⟩, 2) := by
    decide +kernel
  obtain ⟨s, hrun, hs⟩ := Option.map_eq_some_iff.1 hlast
  rw [Prod.mk.injEq] at hs
  exact ⟨s, hrun, hs.1, hs.2, risk_evidence_of_current_venue (by decide +kernel) hrun⟩

/-- Linking a RISEx account leaves the ledger and the risk row observed on Hyperliquid, and the
next pass finds a drawdown of 90 percent against the peak of the other venue. -/
theorem risex_link_keeps_peak :
    (∃ s, run endpointStep .initial linkRun = some s ∧ ¬ EvidenceCurrent s) ∧
      ∃ s c, run endpointStep .initial (linkRun ++ passOf 9 100) = some s ∧ c ∈ s.comparisons ∧
        c.equity.venue = ⟨.risex, .testnet⟩ ∧ c.peak.venue = ⟨.hyperliquid, .testnet⟩ ∧
        c.drawdown = 90 ∧ (s.risks.lookup 1).map (·.state) = some .dailyLossHalt := by
  constructor
  · have hlast : (run endpointStep .initial linkRun).map (fun s =>
        (venueOf s.db 1, s.ledgers.lookup (1, 0))) =
        some (some ⟨.risex, .testnet⟩, some ⟨0, ⟨.hyperliquid, .testnet⟩⟩) := by
      decide +kernel
    obtain ⟨s, hrun, hs⟩ := Option.map_eq_some_iff.1 hlast
    rw [Prod.mk.injEq] at hs
    refine ⟨s, hrun, fun hcurrent => ?_⟩
    have hvenue := hcurrent.ledgers (1, 0) _ hs.2
    rw [hs.1] at hvenue
    cases hvenue
  · have hlast : (run endpointStep .initial (linkRun ++ passOf 9 100)).map (fun s =>
        (s.comparisons.head?.map fun c => (c.equity.venue, c.peak.venue, c.drawdown),
          (s.risks.lookup 1).map (·.state))) =
        some (some (⟨.risex, .testnet⟩, ⟨.hyperliquid, .testnet⟩, 90), some .dailyLossHalt) := by
      decide +kernel
    obtain ⟨s, hrun, hs⟩ := Option.map_eq_some_iff.1 hlast
    rw [Prod.mk.injEq] at hs
    obtain ⟨c, hc, hvalues⟩ := Option.map_eq_some_iff.1 hs.1
    rw [Prod.mk.injEq, Prod.mk.injEq] at hvalues
    exact ⟨s, c, hrun, List.mem_of_mem_head? hc, hvalues.1, hvalues.2.1, hvalues.2.2, hs.2⟩

end HyperCopy

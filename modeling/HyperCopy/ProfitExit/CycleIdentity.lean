import HyperCopy.ProfitExit.SourceEvents
import Mathlib.Tactic.Linarith

/-!
# The identity of a source cycle

`source_cycle_identity` collects the four laws of the resolver: it does not depend on the order of
the rows; what it returns is proved by a chain of rows; a row that continues the cycle keeps its
identity; and a row that opens a new one gives an identity that no earlier rows resolve to.

The last two look at one more row.  It is the latest of all, so that it comes last in causal order,
and the walk back either stops at it or goes on to the walk from the row before it.
-/

namespace HyperCopy.StoredEvents

open SortByKey

/-! ## Rows of a cycle -/

/-- The position leaves flat, or changes its sign. -/
def MasterEvent.OpensCycle (event : MasterEvent) : Prop :=
  ∃ start after, event.startPosition.finite? = some start ∧
    event.positionAfter.finite? = some after ∧ after ≠ 0 ∧ (start = 0 ∨ (0 < start ↔ after < 0))

/-- The position stays on its side of zero. -/
def MasterEvent.KeepsSign (event : MasterEvent) : Prop :=
  ∃ start after, event.startPosition.finite? = some start ∧
    event.positionAfter.finite? = some after ∧ start ≠ 0 ∧ after ≠ 0 ∧ (0 < start ↔ 0 < after)

/-- `next` starts where `event` ends, and not before it. -/
def Follows (event next : MasterEvent) : Prop :=
  (∃ position, event.positionAfter.finite? = some position ∧
    next.startPosition.finite? = some position) ∧ event.eventTs ≤ next.eventTs

lemma classify_eq_continue {start after : ℚ} :
    classifySourceCycleTransition start after = .continue ↔
      start ≠ 0 ∧ after ≠ 0 ∧ (0 < start ↔ 0 < after) := by
  unfold classifySourceCycleTransition
  split_ifs with hflat hstart hafter hsign
  · simp [hflat.1]
  · simp [hstart]
  · simp [hafter]
  · simpa [hstart, hafter] using hsign
  · simpa [hstart, hafter] using hsign

lemma classify_opens {start after : ℚ} :
    (classifySourceCycleTransition start after = .open ∨
        classifySourceCycleTransition start after = .reverse) ↔
      after ≠ 0 ∧ (start = 0 ∨ (0 < start ↔ after < 0)) := by
  unfold classifySourceCycleTransition
  split_ifs with hflat hstart hafter hsign
  · simp [hflat.2]
  · have hne : after ≠ 0 := fun h => hflat ⟨hstart, h⟩
    simp [hstart, hne]
  · simp [hafter]
  · have hiff : 0 < start ↔ 0 < after := iff_of_eq hsign
    have hnot : ¬ (0 < start ↔ after < 0) := by
      intro hopposite
      rcases lt_or_gt_of_ne hafter with hneg | hpos
      · exact absurd (hiff.1 (hopposite.2 hneg)) (not_lt.2 hneg.le)
      · exact absurd (hopposite.1 (hiff.2 hpos)) (not_lt.2 hpos.le)
    simp [hstart, hafter, hnot]
  · have hopposite : 0 < start ↔ after < 0 := by
      have hiff : ¬ (0 < start ↔ 0 < after) := fun h => hsign (propext h)
      rcases lt_or_gt_of_ne hafter with hneg | hpos
      · have hnot : ¬ 0 < after := not_lt.2 hneg.le
        simpa [hneg, hnot] using hiff
      · have hnot : ¬ after < 0 := not_lt.2 hpos.le
        simpa [hpos, hnot] using hiff
    simp [hafter, hopposite]

/-! ## The walk back -/

/-- The walk back passes over rows that keep the sign and stops at one that opens the cycle; the
rows it has seen follow each other. -/
lemma walkBack_spec {later : Option MasterEvent} {l : List MasterEvent} {openEvent : MasterEvent}
    (h : walkBack later l = some openEvent) :
    ∃ passed earlier, l = passed ++ openEvent :: earlier ∧ openEvent.OpensCycle ∧
      (∀ event ∈ passed, event.KeepsSign) ∧
      (later.toList ++ passed ++ [openEvent]).IsChain fun next event => Follows event next := by
  induction l generalizing later with
  | nil => cases h
  | cons event rest ih =>
      unfold walkBack at h
      split at h
      · rename_i start after hstart hafter
        split_ifs at h with hbroken
        have hfollows : ∀ l ∈ later, Follows event l := by
          intro l hl
          simp only [Option.mem_def] at hl
          subst hl
          simp only [Option.any_some, Bool.or_eq_true, decide_eq_true_eq, not_or, not_not,
            not_lt] at hbroken
          exact ⟨⟨after, hafter, hbroken.1⟩, hbroken.2⟩
        have hlink : (later.toList ++ [event]).IsChain fun next event => Follows event next := by
          cases later with
          | none => exact List.isChain_singleton _
          | some l => exact List.isChain_pair.2 (hfollows l rfl)
        have hstops : event.OpensCycle → some event = some openEvent →
            ∃ passed earlier, event :: rest = passed ++ openEvent :: earlier ∧
              openEvent.OpensCycle ∧ (∀ event ∈ passed, event.KeepsSign) ∧
              (later.toList ++ passed ++ [openEvent]).IsChain fun next event =>
                Follows event next := by
          intro hopens heq
          obtain rfl := Option.some.inj heq
          exact ⟨[], rest, rfl, hopens, by simp, by simpa using hlink⟩
        split at h
        · rename_i htransition
          exact hstops ⟨start, after, hstart, hafter, classify_opens.1 (Or.inl htransition)⟩ h
        · rename_i htransition
          exact hstops ⟨start, after, hstart, hafter, classify_opens.1 (Or.inr htransition)⟩ h
        · cases h
        · cases h
        · rename_i htransition
          obtain ⟨passed, earlier, hrest, hopens, hkeeps, hchain⟩ := ih h
          refine ⟨event :: passed, earlier, by rw [hrest]; rfl, hopens, fun e he => ?_, ?_⟩
          · rcases List.mem_cons.1 he with rfl | he
            · exact ⟨start, after, hstart, hafter, classify_eq_continue.1 htransition⟩
            · exact hkeeps e he
          · cases later with
            | none => simpa using hchain
            | some l =>
                refine List.isChain_cons_cons.2 ⟨hfollows l rfl, ?_⟩
                simpa using hchain
      · cases h

/-- The walk from a row goes on as the walk from the row before it, where that one ends where the
row starts. -/
lemma walkBack_cons {later event : MasterEvent} {rest : List MasterEvent}
    (hkeeps : later.KeepsSign) (hfollows : Follows event later) :
    walkBack none (later :: event :: rest) = walkBack none (event :: rest) := by
  obtain ⟨start, after, hstart, hafter, hsign⟩ := hkeeps
  obtain ⟨⟨position, hposition, hnext⟩, hts⟩ := hfollows
  rw [hstart] at hnext
  obtain rfl := Option.some.inj hnext
  have hskip : walkBack none (later :: event :: rest) = walkBack (some later) (event :: rest) := by
    rw [walkBack]
    simp only [hstart, hafter, Option.any_none, Bool.false_eq_true, if_false,
      classify_eq_continue.2 hsign]
  have hlinked : (decide (later.startPosition.finite? ≠ some start) ||
      decide (later.eventTs < event.eventTs)) = false := by
    simp [hstart, not_lt.2 hts]
  rw [hskip, walkBack, walkBack]
  cases hfirst : event.startPosition.finite? with
  | none => rfl
  | some first =>
      simp only [hposition, Option.any_some, hlinked, Option.any_none, Bool.false_eq_true, if_false]

/-- The walk stops at a row that opens a cycle. -/
lemma walkBack_opens {event : MasterEvent} {rest : List MasterEvent} (hopens : event.OpensCycle) :
    walkBack none (event :: rest) = some event := by
  obtain ⟨start, after, hstart, hafter, hopen⟩ := hopens
  rw [walkBack]
  simp only [hstart, hafter, Option.any_none, Bool.false_eq_true, if_false]
  rcases classify_opens.2 hopen with htransition | htransition <;> rw [htransition]

/-! ## The rows of a market -/

section Rows

variable {rules : CaseRules} {events : List MasterEvent} {asset masterNetwork : String}

lemma mem_versionedEvents {matching : List MasterEvent} {order : ℤ} {event : MasterEvent} :
    (order, event) ∈ versionedEvents matching ↔
      event ∈ matching ∧ positiveEventCausalOrder event = some order := by
  simp only [versionedEvents, mem_sortByKey, List.mem_filterMap, Option.map_eq_some_iff,
    Prod.mk.injEq]
  constructor
  · rintro ⟨e, he, o, ho, rfl, rfl⟩
    exact ⟨he, ho⟩
  · rintro ⟨he, ho⟩
    exact ⟨event, he, order, ho, rfl, rfl⟩

/-- The first row of the walk back has the largest order. -/
lemma le_of_versioned {matching : List MasterEvent} {order : ℤ} {latest : MasterEvent}
    {earlier : List (ℤ × MasterEvent)}
    (h : (versionedEvents matching).reverse = (order, latest) :: earlier) {row : ℤ × MasterEvent}
    (hrow : row ∈ versionedEvents matching) : row.1 ≤ order := by
  have hsorted := List.pairwise_reverse.2 (pairwise_sortByKey (matching.filterMap fun event =>
    (positiveEventCausalOrder event).map fun order => (order, event)))
  have hreversed : (versionedEvents matching).reverse.Pairwise fun a b => b.1 ≤ a.1 := hsorted
  rw [h, List.pairwise_cons] at hreversed
  have hmem : row ∈ (order, latest) :: earlier := by
    rw [← h, List.mem_reverse]
    exact hrow
  rcases List.mem_cons.1 hmem with rfl | hearlier
  · exact le_refl _
  · exact hreversed.1 row hearlier

lemma matchingEvents_append (events : List MasterEvent) {event : MasterEvent}
    (h : matchingEvents rules [event] asset masterNetwork = [event]) :
    matchingEvents rules (events ++ [event]) asset masterNetwork =
      matchingEvents rules events asset masterNetwork ++ [event] :=
  calc matchingEvents rules (events ++ [event]) asset masterNetwork
      = matchingEvents rules events asset masterNetwork ++
          matchingEvents rules [event] asset masterNetwork := List.filter_append ..
    _ = matchingEvents rules events asset masterNetwork ++ [event] := by rw [h]

/-- A row of the market that is later than all others comes last. -/
lemma versionedEvents_append {matching : List MasterEvent} {event : MasterEvent} {order : ℤ}
    (horder : positiveEventCausalOrder event = some order)
    (hnodup : ((versionedEvents matching).map Prod.fst).Nodup)
    (hlargest : ∀ row ∈ versionedEvents matching, row.1 < order) :
    versionedEvents (matching ++ [event]) = versionedEvents matching ++ [(order, event)] := by
  have hsingle : List.filterMap (fun event =>
      (positiveEventCausalOrder event).map fun order => (order, event)) [event] =
        [(order, event)] := by
    simp [horder]
  unfold versionedEvents at hnodup hlargest ⊢
  rw [List.filterMap_append, hsingle]
  exact sortByKey_append (nodup_keys_sortByKey.1 hnodup) fun row hrow =>
    hlargest row (mem_sortByKey.2 hrow)

/-! ## The four laws -/

/-- The order of the rows does not matter. -/
lemma resolve_perm {events' : List MasterEvent} (h : events.Perm events') (position : Option ℚ) :
    resolveCurrentSourceCycle rules events asset masterNetwork position =
      resolveCurrentSourceCycle rules events' asset masterNetwork position := by
  have hmatching : (matchingEvents rules events asset masterNetwork).Perm
      (matchingEvents rules events' asset masterNetwork) := h.filter _
  have hrows := hmatching.filterMap fun event =>
    (positiveEventCausalOrder event).map fun order => (order, event)
  have hkeys := ((sortByKey_perm _).trans (hrows.trans (sortByKey_perm _).symm)).map Prod.fst
  have hone : ∀ (events events' : List MasterEvent) cycle,
      (matchingEvents rules events asset masterNetwork).Perm
        (matchingEvents rules events' asset masterNetwork) →
      resolveCurrentSourceCycle rules events asset masterNetwork position = some cycle →
      resolveCurrentSourceCycle rules events' asset masterNetwork position = some cycle := by
    intro events events' cycle hmatching hcycle
    obtain ⟨p, order, openEvent, hp, hresolved, hcycle⟩ := resolveCurrentSourceCycle_eq_some.1 hcycle
    have hversioned : versionedEvents (matchingEvents rules events asset masterNetwork) =
        versionedEvents (matchingEvents rules events' asset masterNetwork) :=
      sortByKey_eq_of_perm (nodup_keys_sortByKey.1 hresolved.distinct) (hmatching.filterMap _)
    refine resolveCurrentSourceCycle_eq_some.2 ⟨p, order, openEvent, hp, ⟨hresolved.nonzero, ?_, ?_,
      fun event hevent => hresolved.unversioned event (hmatching.mem_iff.2 hevent)⟩, hcycle⟩
    · rw [← hversioned]
      exact hresolved.distinct
    · rw [← hversioned]
      exact hresolved.walk
  exact Option.ext fun cycle =>
    ⟨hone events events' cycle hmatching, hone events' events cycle hmatching.symm⟩

/-- What proves a cycle: the versioned rows of the market from the opening to the last. -/
structure Proven (rules : CaseRules) (events : List MasterEvent) (asset masterNetwork : String)
    (position : ℚ) (cycle : SourceCycle) : Prop where
  chain : ∃ before opening rest,
    (versionedEvents (matchingEvents rules events asset masterNetwork)).map Prod.snd =
        before ++ opening :: rest ∧
      opening.id = cycle.openEventId ∧ opening.OpensCycle ∧ (∀ event ∈ rest, event.KeepsSign) ∧
      (opening :: rest).IsChain Follows ∧
      (∃ last, (opening :: rest).getLast? = some last ∧
        last.positionAfter.finite? = some position) ∧
      ∀ event ∈ matchingEvents rules events asset masterNetwork,
        positiveEventCausalOrder event = none → event.eventTs < opening.eventTs
  identity : cycle.sourceCycleId = sourceCycleId rules asset masterNetwork cycle.openEventId
  position : cycle.masterPosition = position

lemma Resolved.proven {position : ℚ} {order : ℤ} {openEvent : MasterEvent}
    (h : Resolved rules events asset masterNetwork position order openEvent) :
    Proven rules events asset masterNetwork position
      ⟨openEvent.id, sourceCycleId rules asset masterNetwork openEvent.id, order, position,
        sideOf position⟩ := by
  refine ⟨?_, rfl, rfl⟩
  obtain ⟨latest, earlier, hversioned, hlatest, hwalk⟩ := h.walk
  obtain ⟨passed, before, hrows, hopens, hkeeps, hchain⟩ := walkBack_spec hwalk
  have hrest : (openEvent :: passed.reverse) = (passed ++ [openEvent]).reverse := by simp
  refine ⟨before.reverse, openEvent, passed.reverse, ?_, rfl, hopens, fun event hevent =>
    hkeeps event (List.mem_reverse.1 hevent), ?_, ⟨latest, ?_, hlatest⟩, fun event hevent horder =>
    ?_⟩
  · calc (versionedEvents (matchingEvents rules events asset masterNetwork)).map Prod.snd
        = ((versionedEvents (matchingEvents rules events asset masterNetwork)).reverse.map
            Prod.snd).reverse := by rw [List.map_reverse, List.reverse_reverse]
      _ = (latest :: earlier.map Prod.snd).reverse := by rw [hversioned]; rfl
      _ = before.reverse ++ openEvent :: passed.reverse := by rw [hrows]; simp
  · rw [hrest, List.isChain_reverse]
    simpa using hchain
  · rw [hrest, List.getLast?_reverse]
    have hhead : (passed ++ openEvent :: before).head? = some latest := by
      rw [← hrows]
      rfl
    cases passed with
    | nil => simpa using hhead
    | cons event passed => simpa using hhead
  · have hsince := h.unversioned event hevent
    simpa [unversionedSince, horder] using hsince

/-- A row that continues the cycle keeps the opening. -/
lemma Resolved.continue {position next : ℚ} {order newOrder : ℤ} {openEvent event : MasterEvent}
    (h : Resolved rules events asset masterNetwork position order openEvent)
    (hmatches : matchingEvents rules [event] asset masterNetwork = [event])
    (horder : positiveEventCausalOrder event = some newOrder) (hlater : order < newOrder)
    (hkeeps : event.KeepsSign) (hstart : event.startPosition.finite? = some position)
    (hafter : event.positionAfter.finite? = some next)
    (hts : ∀ last ∈ matchingEvents rules events asset masterNetwork,
      positiveEventCausalOrder last = some order → last.eventTs ≤ event.eventTs) :
    Resolved rules (events ++ [event]) asset masterNetwork next newOrder openEvent := by
  obtain ⟨latest, earlier, hversioned, hlatest, hwalk⟩ := h.walk
  have hmatching := matchingEvents_append events hmatches
  have happend := versionedEvents_append horder h.distinct
    fun row hrow => lt_of_le_of_lt (le_of_versioned hversioned hrow) hlater
  have hmem : (order, latest) ∈
      versionedEvents (matchingEvents rules events asset masterNetwork) := by
    rw [← List.mem_reverse, hversioned]
    exact List.mem_cons_self
  obtain ⟨hlatestMem, hlatestOrder⟩ := mem_versionedEvents.1 hmem
  refine ⟨?_, ?_, ?_, ?_⟩
  · obtain ⟨start, after, -, hafter', -, hne, -⟩ := hkeeps
    rw [hafter] at hafter'
    obtain rfl := Option.some.inj hafter'
    exact hne
  · rw [hmatching, happend, List.map_append, List.nodup_append]
    refine ⟨h.distinct, List.nodup_singleton _, fun k hk k' hk' => ?_⟩
    obtain ⟨row, hrow, rfl⟩ := List.mem_map.1 hk
    obtain rfl : k' = newOrder := by simpa using hk'
    exact (lt_of_le_of_lt (le_of_versioned hversioned hrow) hlater).ne
  · refine ⟨event, (order, latest) :: earlier, ?_, hafter, ?_⟩
    · rw [hmatching, happend, List.reverse_append, hversioned]
      rfl
    · have hfollows : Follows latest event :=
        ⟨⟨position, hlatest, hstart⟩, hts latest hlatestMem hlatestOrder⟩
      exact (walkBack_cons hkeeps hfollows).trans hwalk
  · intro e he
    rw [hmatching] at he
    rcases List.mem_append.1 he with hold | hnew
    · exact h.unversioned e hold
    · obtain rfl : e = event := by simpa using hnew
      simp [unversionedSince, horder]

/-- The opening of a cycle is one of the rows. -/
lemma Resolved.mem {position : ℚ} {order : ℤ} {openEvent : MasterEvent}
    (h : Resolved rules events asset masterNetwork position order openEvent) : openEvent ∈ events := by
  obtain ⟨latest, earlier, hversioned, -, hwalk⟩ := h.walk
  obtain ⟨passed, before, hrows, -⟩ := walkBack_spec hwalk
  have hmem : openEvent ∈ latest :: earlier.map Prod.snd := by
    rw [hrows]
    simp
  have hversionedMem : openEvent ∈
      ((versionedEvents (matchingEvents rules events asset masterNetwork)).reverse.map Prod.snd) := by
    rw [hversioned]
    exact hmem
  obtain ⟨⟨o, e⟩, hrow, rfl⟩ := List.mem_map.1 hversionedMem
  exact List.mem_of_mem_filter (mem_versionedEvents.1 (List.mem_reverse.1 hrow)).1

/-- After a row that opens a cycle, the opening is that row. -/
lemma Resolved.opening {position : ℚ} {order newOrder : ℤ} {openEvent event : MasterEvent}
    (h : Resolved rules (events ++ [event]) asset masterNetwork position order openEvent)
    (hmatches : matchingEvents rules [event] asset masterNetwork = [event])
    (horder : positiveEventCausalOrder event = some newOrder)
    (hlater : ∀ e ∈ matchingEvents rules events asset masterNetwork, ∀ o,
      positiveEventCausalOrder e = some o → o < newOrder) (hopens : event.OpensCycle) :
    openEvent = event := by
  obtain ⟨latest, earlier, hversioned, -, hwalk⟩ := h.walk
  have hmatching := matchingEvents_append events hmatches
  have hmemLatest : (newOrder, event) ∈
      versionedEvents (matchingEvents rules (events ++ [event]) asset masterNetwork) := by
    refine mem_versionedEvents.2 ⟨?_, horder⟩
    rw [hmatching]
    simp
  have hle := le_of_versioned hversioned hmemLatest
  have hmem : (order, latest) ∈
      versionedEvents (matchingEvents rules (events ++ [event]) asset masterNetwork) := by
    rw [← List.mem_reverse, hversioned]
    exact List.mem_cons_self
  obtain ⟨hlatestMem, hlatestOrder⟩ := mem_versionedEvents.1 hmem
  rw [hmatching] at hlatestMem
  rcases List.mem_append.1 hlatestMem with hold | hnew
  · exact absurd (hlater latest hold order hlatestOrder) (not_lt.2 hle)
  · obtain rfl : latest = event := by simpa using hnew
    rw [walkBack_opens hopens] at hwalk
    exact (Option.some.inj hwalk).symm

lemma sourceCycleId_inj {a b : String}
    (h : sourceCycleId rules asset masterNetwork a = sourceCycleId rules asset masterNetwork b) :
    a = b :=
  (String.append_right_inj _).1 h

end Rows

/-- **The identity of a source cycle.**  Of any rows: (a) their order does not matter; (b) a cycle
that is resolved is proved by the versioned rows from its opening to the last; (c) a later row that
starts at the last position and keeps its sign leaves the identity as it is; (d) after a later row
that opens a cycle, out of a flat position or by a reversal, the identity is none that any of the
rows before resolve to. -/
theorem source_cycle_identity (rules : CaseRules) (events : List MasterEvent)
    (asset masterNetwork : String) :
    (∀ events' position, events.Perm events' →
      resolveCurrentSourceCycle rules events asset masterNetwork position =
        resolveCurrentSourceCycle rules events' asset masterNetwork position) ∧
    (∀ position cycle,
      resolveCurrentSourceCycle rules events asset masterNetwork (some position) = some cycle →
        Proven rules events asset masterNetwork position cycle) ∧
    (∀ position next cycle event order,
      resolveCurrentSourceCycle rules events asset masterNetwork (some position) = some cycle →
      matchingEvents rules [event] asset masterNetwork = [event] →
      positiveEventCausalOrder event = some order → cycle.stateVersion < order →
      event.startPosition.finite? = some position → event.positionAfter.finite? = some next →
      event.KeepsSign →
      (∀ last ∈ matchingEvents rules events asset masterNetwork,
        positiveEventCausalOrder last = some cycle.stateVersion → last.eventTs ≤ event.eventTs) →
      ∃ cycle', resolveCurrentSourceCycle rules (events ++ [event]) asset masterNetwork
          (some next) = some cycle' ∧ cycle'.sourceCycleId = cycle.sourceCycleId) ∧
    ∀ event order position cycle,
      matchingEvents rules [event] asset masterNetwork = [event] →
      positiveEventCausalOrder event = some order →
      (∀ e ∈ matchingEvents rules events asset masterNetwork, ∀ o,
        positiveEventCausalOrder e = some o → o < order) →
      event.OpensCycle → (∀ e ∈ events, e.id ≠ event.id) →
      resolveCurrentSourceCycle rules (events ++ [event]) asset masterNetwork position =
        some cycle →
      ∀ before position' cycle', before ⊆ events →
        resolveCurrentSourceCycle rules before asset masterNetwork position' = some cycle' →
        cycle.sourceCycleId ≠ cycle'.sourceCycleId := by
  refine ⟨fun events' position h => resolve_perm h position, fun position cycle h => ?_, ?_, ?_⟩
  · obtain ⟨p, order, openEvent, hp, hresolved, rfl⟩ := resolveCurrentSourceCycle_eq_some.1 h
    obtain rfl := Option.some.inj hp
    exact hresolved.proven
  · intro position next cycle event order h hmatches horder hlater hstart hafter hkeeps hts
    obtain ⟨p, o, openEvent, hp, hresolved, rfl⟩ := resolveCurrentSourceCycle_eq_some.1 h
    obtain rfl := Option.some.inj hp
    have hnext := hresolved.continue hmatches horder hlater hkeeps hstart hafter hts
    exact ⟨_, resolveCurrentSourceCycle_eq_some.2 ⟨next, order, openEvent, rfl, hnext, rfl⟩, rfl⟩
  · intro event order position cycle hmatches horder hlater hopens hfresh h before position' cycle'
      hbefore h'
    obtain ⟨p, o, openEvent, -, hresolved, rfl⟩ := resolveCurrentSourceCycle_eq_some.1 h
    obtain ⟨p', o', openEvent', -, hresolved', rfl⟩ := resolveCurrentSourceCycle_eq_some.1 h'
    obtain rfl := hresolved.opening hmatches horder hlater hopens
    intro hsame
    exact hfresh openEvent' (hbefore hresolved'.mem) (sourceCycleId_inj hsame).symm

end HyperCopy.StoredEvents

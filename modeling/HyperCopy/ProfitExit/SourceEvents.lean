import HyperCopy.Library.SortByKey
import HyperCopy.ProfitExit.SourceCycle

/-!
# Source cycles from the rows as they are stored

`resolve_current_source_cycle` of `services/ai_profit_exit.py` on rows as the database may hold
them: decimals that cannot be read or are not finite, causal orders that are missing or no positive
integers, names in any case.  The case rules of the source's strings are a parameter; nothing below
depends on what they do.

`HyperCopy.resolveCurrentSourceCycle` is the same function on rows that are already read;
`resolveCurrentSourceCycle_stored` relates the two.
-/

namespace HyperCopy.StoredEvents

open SortByKey

/-- What `Decimal(str(...))` makes of a stored value. -/
inductive StoredDecimal
  | unreadable
  | notFinite
  | finite (value : ℚ)
deriving DecidableEq, Repr

/-- The number, where it is one. -/
def StoredDecimal.finite? : StoredDecimal → Option ℚ
  | .finite value => some value
  | _ => none

/-- A stored causal order; `flag` is a Boolean, `unreadable` what `int` refuses. -/
inductive StoredOrder
  | missing
  | flag
  | unreadable
  | number (value : ℚ)
deriving DecidableEq, Repr

/-- A row of `master_events`; `networkTag` is what the raw payload says, if it says anything. -/
structure MasterEvent where
  id : String
  asset : String
  networkTag : Option String
  causalOrder : StoredOrder
  eventTs : ℤ
  startPosition : StoredDecimal
  positionAfter : StoredDecimal
deriving DecidableEq, Repr

/-- `SourceCycle`, as the stored rows give it. -/
structure SourceCycle where
  openEventId : String
  sourceCycleId : String
  stateVersion : ℤ
  masterPosition : ℚ
  side : PositionSide
deriving DecidableEq, Repr

/-- `str.upper` and `str.lower`. -/
structure CaseRules where
  upper : String → String
  lower : String → String

variable (rules : CaseRules)

/-- The network of the event, without its case; an empty tag is none. -/
def masterEventNetwork (event : MasterEvent) : Option String :=
  match event.networkTag with
  | none => none
  | some value => if value = "" then none else some (rules.lower value)

/-- `int` truncates; a number that is no integer has no order. -/
def positiveEventCausalOrder (event : MasterEvent) : Option ℤ :=
  match event.causalOrder with
  | .number numeric =>
    let value := numeric.num.tdiv numeric.den
    if value ≤ 0 then none
    else if numeric ≠ value then none
    else some value
  | _ => none

/-- The events of the asset on the network. -/
def matchingEvents (events : List MasterEvent) (asset masterNetwork : String) : List MasterEvent :=
  events.filter fun event =>
    rules.upper event.asset = rules.upper asset &&
      masterEventNetwork rules event = some (rules.lower masterNetwork)

/-- The versioned events in causal order. -/
def versionedEvents (matching : List MasterEvent) : List (ℤ × MasterEvent) :=
  sortByKey (matching.filterMap fun event =>
    (positiveEventCausalOrder event).map fun order => (order, event))

/-- Walk back from the latest event to the one that opened the cycle. -/
def walkBack : Option MasterEvent → List MasterEvent → Option MasterEvent
  | _, [] => none
  | later, event :: rest =>
    match event.startPosition.finite?, event.positionAfter.finite? with
    | some start, some after =>
      if later.any fun l => l.startPosition.finite? ≠ some after || l.eventTs < event.eventTs then
        none
      else
        match classifySourceCycleTransition start after with
        | .open | .reverse => some event
        | .close | .flat => none
        | .continue => walkBack (some event) rest
    | _, _ => none

/-- An event without a causal order that may belong to the cycle opened by `openEvent`. -/
def unversionedSince (openEvent event : MasterEvent) : Bool :=
  (positiveEventCausalOrder event).isNone && openEvent.eventTs ≤ event.eventTs

/-- `network:asset:event`. -/
def sourceCycleId (asset masterNetwork openEventId : String) : String :=
  rules.lower masterNetwork ++ ":" ++ rules.upper asset ++ ":" ++ openEventId

/-- Resolve the active master position cycle; `none` when it cannot be proven.  The position is
`none` when it is not finite. -/
def resolveCurrentSourceCycle (events : List MasterEvent) (asset masterNetwork : String)
    (currentMasterPosition : Option ℚ) : Option SourceCycle :=
  match currentMasterPosition with
  | none => none
  | some position =>
    if position = 0 then none
    else
      let matching := matchingEvents rules events asset masterNetwork
      let versioned := versionedEvents matching
      match versioned.reverse with
      | [] => none
      | (latestOrder, latest) :: earlier =>
        if ¬ (versioned.map Prod.fst).Nodup then none
        else if latest.positionAfter.finite? ≠ some position then none
        else
          match walkBack none (latest :: earlier.map Prod.snd) with
          | none => none
          | some openEvent =>
            if matching.any (unversionedSince openEvent) then none
            else some
              { openEventId := openEvent.id
                sourceCycleId := sourceCycleId rules asset masterNetwork openEvent.id
                stateVersion := latestOrder
                masterPosition := position
                side := sideOf position }

/-! ## When a cycle is resolved -/

/-- The evidence for a cycle: the latest event is at the position, and the walk back from it ends at
an event after which nothing unversioned happened. -/
structure Resolved (events : List MasterEvent) (asset masterNetwork : String) (position : ℚ)
    (order : ℤ) (openEvent : MasterEvent) : Prop where
  nonzero : position ≠ 0
  distinct : ((versionedEvents (matchingEvents rules events asset masterNetwork)).map Prod.fst).Nodup
  walk : ∃ latest earlier,
    (versionedEvents (matchingEvents rules events asset masterNetwork)).reverse =
        (order, latest) :: earlier ∧
      latest.positionAfter.finite? = some position ∧
      walkBack none (latest :: earlier.map Prod.snd) = some openEvent
  unversioned : ∀ event ∈ matchingEvents rules events asset masterNetwork,
    unversionedSince openEvent event = false

variable {rules} {events : List MasterEvent} {asset masterNetwork : String}

lemma resolveCurrentSourceCycle_eq_some {currentMasterPosition : Option ℚ} {cycle : SourceCycle} :
    resolveCurrentSourceCycle rules events asset masterNetwork currentMasterPosition = some cycle ↔
      ∃ position order openEvent, currentMasterPosition = some position ∧
        Resolved rules events asset masterNetwork position order openEvent ∧
        cycle = ⟨openEvent.id, sourceCycleId rules asset masterNetwork openEvent.id, order,
          position, sideOf position⟩ := by
  constructor
  · intro h
    unfold resolveCurrentSourceCycle at h
    split at h
    · cases h
    rename_i position
    split_ifs at h with hzero
    dsimp only at h
    split at h
    · cases h
    rename_i order latest earlier hversioned
    split_ifs at h with hdistinct hposition
    split at h
    · cases h
    rename_i openEvent hwalk
    split_ifs at h with hunversioned
    refine ⟨position, order, openEvent, rfl, ⟨hzero, hdistinct,
      ⟨latest, earlier, hversioned, not_not.1 hposition, hwalk⟩, fun event hevent => ?_⟩,
      (Option.some.inj h).symm⟩
    by_contra hsince
    exact hunversioned (List.any_eq_true.2 ⟨event, hevent, by simpa using hsince⟩)
  · rintro ⟨position, order, openEvent, rfl, ⟨hzero, hdistinct, ⟨latest, earlier, hversioned,
      hposition, hwalk⟩, hunversioned⟩, rfl⟩
    have hnone : ¬ (matchingEvents rules events asset masterNetwork).any
        (unversionedSince openEvent) = true := by
      intro hany
      obtain ⟨event, hevent, hsince⟩ := List.any_eq_true.1 hany
      rw [hunversioned event hevent] at hsince
      cases hsince
    simp only [resolveCurrentSourceCycle, if_neg hzero, hversioned, hdistinct, hposition, hwalk,
      hnone, not_true_eq_false, if_false, ne_eq, Bool.false_eq_true]

/-! ## Rows that can be read -/

/-- How the names of `HyperCopy.MasterEvent` are written. -/
structure Names (rules : CaseRules) where
  asset : Asset → String
  network : Network → String
  event : MasterEventId → String
  asset_inj : ∀ a b, rules.upper (asset a) = rules.upper (asset b) → a = b
  network_inj : ∀ a b, rules.lower (network a) = rules.lower (network b) → a = b
  network_ne : ∀ a, network a ≠ ""

/-- The name of an asset that counts to it. -/
def unaryAsset (a : Asset) : String := String.ofList (List.replicate a 'A')

/-- The name of a network. -/
def networkName : Network → String
  | .testnet => "testnet"
  | .mainnet => "mainnet"

lemma toUpper_unaryAsset_inj {a b : Asset} (h : (unaryAsset a).toUpper = (unaryAsset b).toUpper) :
    a = b := by
  have hlength := congrArg String.length h
  simpa [unaryAsset, String.toUpper] using hlength

lemma toLower_networkName_inj {a b : Network} (h : (networkName a).toLower = (networkName b).toLower) :
    a = b := by
  revert h
  cases a <;> cases b <;> decide +kernel

lemma networkName_ne (a : Network) : networkName a ≠ "" := by
  cases a <;> decide

/-- Names that count, under the case rules of ASCII. -/
def unaryNames : Names ⟨String.toUpper, String.toLower⟩ where
  asset := unaryAsset
  network := networkName
  event e := String.ofList (List.replicate e '1')
  asset_inj _ _ h := toUpper_unaryAsset_inj h
  network_inj _ _ h := toLower_networkName_inj h
  network_ne := networkName_ne

/-- The row that stores an event. -/
def stored (names : Names rules) (event : HyperCopy.MasterEvent) : MasterEvent :=
  ⟨names.event event.id, names.asset event.asset, event.network.map names.network,
    event.causalOrder.elim .missing fun order => .number order, event.eventTs,
    .finite event.startPosition, .finite event.positionAfter⟩

section Stored

variable (names : Names rules)

lemma positiveEventCausalOrder_stored (event : HyperCopy.MasterEvent) :
    positiveEventCausalOrder (stored names event) = HyperCopy.positiveEventCausalOrder event := by
  unfold positiveEventCausalOrder HyperCopy.positiveEventCausalOrder stored
  cases event.causalOrder with
  | none => rfl
  | some order =>
      by_cases hpos : 0 < order
      · simp [hpos, not_le.2 hpos]
      · simp [hpos, not_lt.1 hpos]

lemma matchingEvents_stored (events : List HyperCopy.MasterEvent) (asset : Asset)
    (network : Network) :
    matchingEvents rules (events.map (stored names)) (names.asset asset) (names.network network) =
      (events.filter fun e => e.asset = asset && e.network = some network).map (stored names) := by
  have hcongr : ∀ e : HyperCopy.MasterEvent,
      (rules.upper (stored names e).asset = rules.upper (names.asset asset) &&
        masterEventNetwork rules (stored names e) = some (rules.lower (names.network network)) :
          Bool) = (e.asset = asset && e.network = some network) := by
    intro e
    have hasset : rules.upper (names.asset e.asset) = rules.upper (names.asset asset) ↔
        e.asset = asset := ⟨names.asset_inj _ _, fun h => by rw [h]⟩
    have hnetwork : masterEventNetwork rules (stored names e) =
        some (rules.lower (names.network network)) ↔ e.network = some network := by
      unfold masterEventNetwork stored
      cases e.network with
      | none => simp
      | some n =>
          simp only [Option.map_some, names.network_ne, if_false, Option.some.injEq]
          exact ⟨names.network_inj _ _, fun h => by rw [h]⟩
    rw [show (stored names e).asset = names.asset e.asset from rfl]
    simp only [hasset, hnetwork]
  unfold matchingEvents
  rw [List.filter_map]
  congr 1
  exact List.filter_congr fun e _ => hcongr e

lemma walkBack_stored (later : Option HyperCopy.MasterEvent) (l : List HyperCopy.MasterEvent) :
    walkBack (later.map (stored names)) (l.map (stored names)) =
      (HyperCopy.walkBack later l).map (stored names) := by
  induction l generalizing later with
  | nil => rfl
  | cons event rest ih =>
      have hbroken : (later.map (stored names)).any (fun l =>
            l.startPosition.finite? ≠ some event.positionAfter || l.eventTs < event.eventTs) =
          later.any fun l => event.positionAfter ≠ l.startPosition || l.eventTs < event.eventTs := by
        cases later with
        | none => rfl
        | some l => simp [stored, StoredDecimal.finite?, eq_comm]
      have hnext := ih (some event)
      simp only [Option.map_some] at hnext
      rw [List.map_cons, walkBack, HyperCopy.walkBack]
      simp only [show (stored names event).startPosition.finite? = some event.startPosition from rfl,
        show (stored names event).positionAfter.finite? = some event.positionAfter from rfl,
        show (stored names event).eventTs = event.eventTs from rfl, hbroken, hnext]
      split_ifs
      · rfl
      · cases classifySourceCycleTransition event.startPosition event.positionAfter <;> rfl

lemma versionedEvents_stored (matching : List HyperCopy.MasterEvent) :
    (versionedEvents (matching.map (stored names))).reverse =
      (HyperCopy.versionedEvents matching).map fun row => (row.1, stored names row.2) := by
  have hrows : (matching.map (stored names)).filterMap (fun event =>
      (positiveEventCausalOrder event).map fun order => (order, event)) =
        (matching.filterMap fun event =>
          (HyperCopy.positiveEventCausalOrder event).map fun order => (order, event)).map
            fun row => (row.1, stored names row.2) := by
    rw [List.filterMap_map, List.map_filterMap]
    refine List.filterMap_congr fun event _ => ?_
    simp [positiveEventCausalOrder_stored, Function.comp_def]
  unfold versionedEvents HyperCopy.versionedEvents sortByKey
  rw [hrows, List.map_reverse]
  congr 1
  exact (List.map_insertionSort (fun a b : ℤ × HyperCopy.MasterEvent => a.1 ≤ b.1)
    (fun a b : ℤ × MasterEvent => a.1 ≤ b.1) (fun row => (row.1, stored names row.2)) _
      fun a _ b _ => Iff.rfl).symm

/-- On rows that can be read the resolver is the one of `HyperCopy.resolveCurrentSourceCycle`. -/
theorem resolveCurrentSourceCycle_stored (events : List HyperCopy.MasterEvent) (asset : Asset)
    (network : Network) (position : ℚ) :
    resolveCurrentSourceCycle rules (events.map (stored names)) (names.asset asset)
        (names.network network) (some position) =
      (HyperCopy.resolveCurrentSourceCycle events asset network position).map fun cycle =>
        ⟨names.event cycle.sourceCycleId.openEventId,
          sourceCycleId rules (names.asset asset) (names.network network)
            (names.event cycle.sourceCycleId.openEventId),
          cycle.stateVersion, cycle.masterPosition, cycle.side⟩ := by
  unfold resolveCurrentSourceCycle HyperCopy.resolveCurrentSourceCycle
  dsimp only
  by_cases hzero : position = 0
  · rw [if_pos hzero, if_pos hzero]
    rfl
  rw [if_neg hzero, if_neg hzero, matchingEvents_stored]
  set matching := events.filter fun e => e.asset = asset && e.network = some network
  have hversioned := versionedEvents_stored names matching
  have hkeys : ((versionedEvents (matching.map (stored names))).map Prod.fst).Nodup ↔
      ((HyperCopy.versionedEvents matching).map (·.1)).Nodup := by
    rw [← List.nodup_reverse, ← List.map_reverse, hversioned, List.map_map]
    rfl
  have hany : ∀ openEvent, (matching.map (stored names)).any
      (unversionedSince (stored names openEvent)) =
        matching.any (HyperCopy.unversionedSince openEvent) := by
    intro openEvent
    rw [List.any_map]
    congr 1
    funext e
    simp only [Function.comp, unversionedSince, HyperCopy.unversionedSince,
      positiveEventCausalOrder_stored]
    rfl
  rw [hversioned]
  cases hrows : HyperCopy.versionedEvents matching with
  | nil => rfl
  | cons row earlier =>
      obtain ⟨order, latest⟩ := row
      rw [hrows] at hkeys
      simp only [List.map_cons] at hkeys ⊢
      by_cases hdistinct : (order :: earlier.map (·.1)).Nodup
      · rw [if_neg (not_not.2 (hkeys.2 hdistinct)), if_neg (not_not.2 hdistinct)]
        by_cases hposition : latest.positionAfter = position
        · have hsame : (stored names latest).positionAfter.finite? = some position := by
            rw [← hposition]
            rfl
          rw [if_neg (not_not.2 hsame), if_neg (not_not.2 hposition)]
          have hwalk := walkBack_stored names none (latest :: earlier.map (·.2))
          simp only [Option.map_none, List.map_cons, List.map_map] at hwalk
          rw [List.map_map]
          have hcomp : (Prod.snd ∘ fun row : ℤ × HyperCopy.MasterEvent =>
              (row.1, stored names row.2)) = stored names ∘ fun row => row.2 := rfl
          rw [hcomp, hwalk]
          cases HyperCopy.walkBack none (latest :: earlier.map (·.2)) with
          | none => rfl
          | some openEvent =>
              dsimp only [Option.map_some]
              rw [hany]
              by_cases hunversioned : matching.any (HyperCopy.unversionedSince openEvent) = true
              · rw [if_pos hunversioned, if_pos hunversioned]
                rfl
              · rw [if_neg hunversioned, if_neg hunversioned]
                rfl
        · have hother : (stored names latest).positionAfter.finite? ≠ some position :=
            fun h => hposition (Option.some.inj h)
          rw [if_pos hother, if_pos hposition]
          rfl
      · rw [if_pos (fun h => hdistinct (hkeys.1 h)), if_pos hdistinct]
        rfl

/-- The opening of a cycle in market 3, as the database holds it. -/
example : resolveCurrentSourceCycle ⟨String.toUpper, String.toLower⟩
    [⟨"11", "AAA", some "mainnet", .number 7, 100, .finite 0, .finite 2⟩] "AAA" "mainnet" (some 2) =
      some ⟨"11", "mainnet:AAA:11", 7, 2, .long⟩ :=
  (resolveCurrentSourceCycle_stored unaryNames [⟨2, 3, some .mainnet, some 7, 100, 0, 2⟩] 3 .mainnet
    2).trans (by decide +kernel)

end Stored

end HyperCopy.StoredEvents

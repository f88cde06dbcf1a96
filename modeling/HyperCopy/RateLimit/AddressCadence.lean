import HyperCopy.RateLimit.SignedCalls
import Mathlib.Data.List.Chain

/-!
# The cadence of a throttled address

In throttled mode the exchange takes one action of an address every ten seconds.  What the tracker
spaces are the moments at which the slot is set, and an invocation follows its own by whatever the
authorization callback takes.  The first of two calls can spend nine seconds there and the second
none, and then their invocations are one second apart.

So the spacing of the invocations has an exact condition on the delays of their callers.  It is
stated for runs in which the slot found at an invocation belongs to the call that is invoked: that
is the case when one credential signs for the address and no snapshot turns the mode on or off
behind a reservation.
-/

namespace HyperCopy.SignedCalls

open Transition

/-! ## Spacing -/

/-- Ten seconds, if the address has been in throttled mode in between. -/
def Spaced (later earlier : Invocation) : Prop :=
  later.sustained = true → earlier.startedAt + slotMs ≤ later.startedAt

instance (later earlier : Invocation) : Decidable (Spaced later earlier) :=
  inferInstanceAs (Decidable (_ → _))

/-- Consecutive invocations in throttled mode are at least ten seconds apart. -/
def Cadence (s : State) : Prop := s.invocations.IsChain Spaced

instance (s : State) : Decidable (Cadence s) := inferInstanceAs (Decidable (List.IsChain _ _))

/-- In throttled mode the slot is the call's own where the call invokes the SDK, and where it
resets a slot that has not expired. -/
def OwnsSlot (s : State) : Op → Prop
  | .proceed c => ∀ call ∈ s.calls.lookup c, s.throttled = true →
      call.phase = .authorize ∨ call.phase = .resetSlot ∧ 0 < s.pttl →
      (s.ownSlot c).isSome = true
  | _ => True

/-- What the last invocation lost between its slot and its start is made up for: by what this call
loses there, and by the time for which the slot lay free before this call set it. -/
def DelayCovered (s : State) : Op → Prop
  | .proceed c => ∀ call ∈ s.calls.lookup c, call.phase = .authorize → s.sustained = true →
      ∀ last ∈ s.invocations.head?, ∀ lastSlot ∈ last.slotAt, ∀ ownSlot ∈ s.ownSlot c,
        last.startedAt - lastSlot ≤
          (s.clock - ownSlot) + (ownSlot - (lastSlot + slotMs))
  | _ => True

instance (s : State) : ∀ op, Decidable (OwnsSlot s op)
  | .proceed c => inferInstanceAs (Decidable (∀ call ∈ s.calls.lookup c, _))
  | .tick _ | .recordExchangeSnapshot _ _ | .signedCall _ _ _ | .answer _ _ | .abandon _
  | .loseLock _ => .isTrue trivial

instance (s : State) : ∀ op, Decidable (DelayCovered s op)
  | .proceed c => inferInstanceAs (Decidable (∀ call ∈ s.calls.lookup c, _))
  | .tick _ | .recordExchangeSnapshot _ _ | .signedCall _ _ _ | .answer _ _ | .abandon _
  | .loseLock _ => .isTrue trivial

namespace State

variable {s s' : State} {c : CallId} {call : Call} {phase : Phase}

@[simp] lemma goto_clock : (s.goto c call phase).clock = s.clock := rfl
@[simp] lemma goto_slot : (s.goto c call phase).slot = s.slot := rfl
@[simp] lemma goto_sustained : (s.goto c call phase).sustained = s.sustained := rfl
@[simp] lemma goto_invocations : (s.goto c call phase).invocations = s.invocations := rfl
@[simp] lemma goto_throttled : (s.goto c call phase).throttled = s.throttled := rfl

lemma ownSlot_eq_some {t : ℕ} : s.ownSlot c = some t ↔ s.slot = some ⟨t, c⟩ := by
  unfold ownSlot
  rw [Option.bind_eq_some_iff]
  constructor
  · rintro ⟨⟨setAt, owner⟩, hslot, hown⟩
    split_ifs at hown with howner
    obtain rfl : setAt = t := Option.some.inj hown
    obtain rfl : owner = c := howner
    exact hslot
  · intro hslot
    exact ⟨_, hslot, if_pos rfl⟩

/-- A slot key that is gone has expired. -/
lemma expired_of_pttl_eq_zero {slot : Slot} (hfree : s.pttl = 0) (hslot : s.slot = some slot) :
    slot.setAt + slotMs ≤ s.clock := by
  simp only [pttl, hslot] at hfree
  omega

/-- The call has invoked the SDK or will not do so. -/
def Spent (s : State) (c : CallId) : Prop :=
  ∃ call, s.calls.lookup c = some call ∧ call.phase.spent = true

lemma Spent.goto {k : CallId} (h : s.Spent k)
    (hspent : ∀ old, s.calls.lookup c = some old → old.phase.spent = true → phase.spent = true) :
    (s.goto c call phase).Spent k := by
  obtain ⟨old, hold, hphase⟩ := h
  unfold Spent State.goto
  rw [Table.lookup_insert_eq]
  by_cases hk : k = c
  · subst hk
    exact ⟨_, if_pos rfl, hspent old hold hphase⟩
  · exact ⟨old, by rw [if_neg hk, hold], hphase⟩

lemma spent_goto_self (hphase : phase.spent = true) : (s.goto c call phase).Spent c :=
  ⟨{ call with phase := phase }, by simp [State.goto], hphase⟩

/-- When the slot of the newest invocation was set. -/
def base (s : State) : Option ℕ := s.invocations.head?.bind Invocation.slotAt

@[simp] lemma goto_base : (s.goto c call phase).base = s.base := rfl

end State

/-! ## What the tracker spaces -/

/-- While throttled mode lasts, the slot is never older than that of the newest invocation, and
ten seconds younger as soon as a call that may still be invoked has set it. -/
structure SlotsApart (s : State) : Prop where
  set_le : ∀ slot, s.slot = some slot → slot.setAt ≤ s.clock
  throttled : s.sustained = true → s.throttled = true
  apart : s.sustained = true → ∃ base slot, s.base = some base ∧ s.slot = some slot ∧
    base ≤ slot.setAt ∧ (s.Spent slot.owner ∨ base + slotMs ≤ slot.setAt)

lemma SlotsApart.initial : SlotsApart .initial where
  set_le := fun _ h => by cases h
  throttled := fun h => by cases h
  apart := fun h => by cases h

namespace SlotsApart

variable {s s' : State} {c : CallId} {call : Call} {phase : Phase}

/-- A slot that lies free is ten seconds old, and so is that of the newest invocation. -/
lemma base_of_free {base : ℕ} (h : SlotsApart s) (hfree : s.pttl = 0) (hsus : s.sustained = true)
    (hbase : s.base = some base) : base + slotMs ≤ s.clock := by
  obtain ⟨base', slot, hbase', hslot, hle, _⟩ := h.apart hsus
  obtain rfl : base = base' := Option.some.inj (hbase.symm.trans hbase')
  have hexp := State.expired_of_pttl_eq_zero hfree hslot
  omega

/-- The slot of a call that has not been invoked is ten seconds younger. -/
lemma base_of_ownSlot {base t : ℕ} (h : SlotsApart s) (hown : s.ownSlot c = some t)
    (hlook : s.calls.lookup c = some call) (hphase : call.phase.spent = false)
    (hsus : s.sustained = true) (hbase : s.base = some base) : base + slotMs ≤ t := by
  obtain ⟨base', slot, hbase', hslot, _, hspent | hapart⟩ := h.apart hsus
  · obtain rfl : slot = ⟨t, c⟩ := Option.some.inj (hslot.symm.trans (State.ownSlot_eq_some.1 hown))
    obtain ⟨call', hlook', hspent'⟩ := hspent
    obtain rfl : call = call' := Option.some.inj (hlook.symm.trans hlook')
    rw [hphase] at hspent'
    cases hspent'
  · obtain rfl : base = base' := Option.some.inj (hbase.symm.trans hbase')
    obtain rfl : slot = ⟨t, c⟩ := Option.some.inj (hslot.symm.trans (State.ownSlot_eq_some.1 hown))
    exact hapart

lemma goto (h : SlotsApart s)
    (hspent : ∀ old, s.calls.lookup c = some old → old.phase.spent = true → phase.spent = true) :
    SlotsApart (s.goto c call phase) where
  set_le := h.set_le
  throttled := h.throttled
  apart := by
    intro hsus
    obtain ⟨base, slot, hbase, hslot, hle, hor⟩ := h.apart hsus
    exact ⟨base, slot, hbase, hslot, hle, hor.imp_left fun hs => hs.goto hspent⟩

/-- A call on its way to the SDK moves on. -/
lemma goto_of_unspent {call' : Call} (h : SlotsApart s) (hlook : s.calls.lookup c = some call)
    (hphase : call.phase.spent = false) : SlotsApart (s.goto c call' phase) := by
  refine h.goto fun old hold hspent => ?_
  obtain rfl : call = old := Option.some.inj (hlook.symm.trans hold)
  rw [hphase] at hspent
  cases hspent

/-- The slot is set by a call that is through, or late enough. -/
lemma takeSlot (h : SlotsApart s)
    (hlate : s.Spent c ∨
      ∀ base, s.sustained = true → s.base = some base → base + slotMs ≤ s.clock) :
    SlotsApart (s.takeSlot c) where
  set_le := by
    intro slot hslot
    obtain rfl : ⟨s.clock, c⟩ = slot := Option.some.inj hslot
    exact le_refl _
  throttled := h.throttled
  apart := by
    intro hsus
    obtain ⟨base, slot, hbase, hslot, hle, _⟩ := h.apart hsus
    have hset := h.set_le slot hslot
    exact ⟨base, ⟨s.clock, c⟩, hbase, rfl, by show base ≤ s.clock; omega,
      hlate.imp_right fun hl => hl base hsus hbase⟩

/-- The slot of the invocation becomes the one to compare with. -/
lemma invoke (h : SlotsApart s) (hown : s.throttled = true → (s.ownSlot c).isSome = true) :
    SlotsApart (s.invoke c call) where
  set_le := h.set_le
  throttled := id
  apart := by
    intro hthrottled
    obtain ⟨t, ht⟩ := Option.isSome_iff_exists.1 (hown hthrottled)
    refine ⟨t, ⟨t, c⟩, ?_, State.ownSlot_eq_some.1 ht, le_refl _, Or.inl ?_⟩
    · exact ht
    · exact State.spent_goto_self rfl

lemma proceed (h : SlotsApart s) (hlook : s.calls.lookup c = some call)
    (hown : s.throttled = true → call.phase = .authorize ∨ call.phase = .resetSlot ∧ 0 < s.pttl →
      (s.ownSlot c).isSome = true)
    (hs : s.proceed c call = some s') : SlotsApart s' := by
  unfold State.proceed at hs
  have hmove : ∀ {call' : Call} {p : Phase}, call.phase.spent = false →
      SlotsApart (s.goto c call' p) := h.goto_of_unspent hlook
  split at hs
  case h_1 _ hphase | h_3 _ hphase | h_4 _ hphase =>
    obtain ⟨p, _, rfl⟩ := Option.map_eq_some_iff.1 hs
    exact hmove (by rw [hphase]; rfl)
  case h_2 hphase =>
    split_ifs at hs
    obtain rfl := Option.some.inj hs
    exact hmove (by rw [hphase]; rfl)
  case h_5 hphase | h_7 hphase =>
    obtain rfl := Option.some.inj hs
    exact hmove (by rw [hphase]; rfl)
  case h_6 hphase =>
    split_ifs at hs with hlive
    · obtain rfl := Option.some.inj hs
      exact hmove (by rw [hphase]; rfl)
    · obtain rfl := Option.some.inj hs
      exact (hmove (by rw [hphase]; rfl)).takeSlot
        (Or.inr fun base hsus hbase => h.base_of_free (by omega) hsus hbase)
  case h_8 hphase =>
    obtain rfl := Option.some.inj hs
    refine (hmove (by rw [hphase]; rfl)).takeSlot (Or.inr fun base hsus hbase => ?_)
    show base + slotMs ≤ s.clock
    by_cases hlive : 0 < s.pttl
    · obtain ⟨t, ht⟩ := Option.isSome_iff_exists.1
        (hown (h.throttled hsus) (Or.inr ⟨hphase, hlive⟩))
      have hbase_le := h.base_of_ownSlot ht hlook (by rw [hphase]; rfl) hsus hbase
      have hset := h.set_le _ (State.ownSlot_eq_some.1 ht)
      exact le_trans hbase_le hset
    · exact h.base_of_free (by omega) hsus hbase
  case h_9 hphase =>
    obtain rfl := Option.some.inj hs
    exact h.invoke fun hthrottled => hown hthrottled (Or.inl hphase)
  case h_10 | h_12 => cases hs
  case h_11 =>
    obtain rfl := Option.some.inj hs
    exact h.goto fun _ _ _ => rfl

lemma answer {limited : Bool} (h : SlotsApart s) (hs : s.answer c call limited = some s') :
    SlotsApart s' := by
  have hdone : SlotsApart (s.goto c call .classified) := h.goto fun _ _ _ => rfl
  unfold State.answer at hs
  split at hs
  case h_5 =>
    obtain rfl := Option.some.inj hs
    cases limited
    · exact hdone
    · exact hdone.takeSlot (Or.inl (State.spent_goto_self rfl))
  all_goals cases hs

lemma tick (h : SlotsApart s) (ms : ℕ) : SlotsApart (s.tick ms) where
  set_le := fun slot hslot => le_trans (h.set_le slot hslot) (Nat.le_add_right _ _)
  throttled := fun hsus => (Bool.and_eq_true_iff.1 hsus).2
  apart := fun hsus => h.apart (Bool.and_eq_true_iff.1 hsus).1

lemma recordExchangeSnapshot (h : SlotsApart s) (used cap : Option ℤ) :
    SlotsApart (s.recordExchangeSnapshot used cap) := by
  unfold State.recordExchangeSnapshot
  split
  · split_ifs
    · refine ⟨h.set_le, fun _ => ?_, h.apart⟩
      simp [State.throttled, revalidateMs]
    · refine ⟨fun _ hslot => ?_, fun hsus => ?_, fun hsus => ?_⟩
      · cases hslot
      · cases hsus
      · cases hsus
  · exact h

/-- Every step that meets the condition on the slot keeps the slots apart. -/
lemma step {op : Op} (h : SlotsApart s) (hown : OwnsSlot s op)
    (hs : SignedCalls.step s op = some s') : SlotsApart s' := by
  cases op with
  | tick ms =>
      obtain rfl := Option.some.inj hs
      exact h.tick ms
  | recordExchangeSnapshot used cap =>
      obtain rfl := Option.some.inj hs
      exact h.recordExchangeSnapshot used cap
  | signedCall c signer action =>
      simp only [SignedCalls.step] at hs
      split at hs
      · next hlook =>
          obtain rfl := Option.some.inj hs
          exact h.goto fun old hold _ => by rw [hlook] at hold; cases hold
      · cases hs
  | proceed c =>
      obtain ⟨call, hlook, hproceed⟩ := Option.bind_eq_some_iff.1 hs
      exact h.proceed hlook (hown call hlook) hproceed
  | answer c limited =>
      obtain ⟨call, _, hanswer⟩ := Option.bind_eq_some_iff.1 hs
      exact h.answer hanswer
  | abandon c =>
      obtain ⟨call, _, rfl⟩ := Option.map_eq_some_iff.1 hs
      exact h.goto fun _ _ _ => rfl
  | loseLock c =>
      obtain ⟨call, hlook, rfl⟩ := Option.map_eq_some_iff.1 hs
      refine h.goto fun old hold hspent => ?_
      obtain rfl : call = old := Option.some.inj (hlook.symm.trans hold)
      exact hspent

end SlotsApart

/-! ## The invocations -/

/-- A step starts an invocation, or leaves all of them as they are. -/
lemma step_invocations {s s' : State} {op : Op} (hs : step s op = some s') :
    (∃ c call, op = .proceed c ∧ s.calls.lookup c = some call ∧ call.phase = .authorize ∧
      s' = s.invoke c call) ∨
    (s'.invocations = s.invocations ∧ DelayCovered s op) := by
  cases op with
  | tick ms =>
      obtain rfl := Option.some.inj hs
      exact Or.inr ⟨rfl, trivial⟩
  | recordExchangeSnapshot used cap =>
      obtain rfl := Option.some.inj hs
      refine Or.inr ⟨?_, trivial⟩
      unfold State.recordExchangeSnapshot
      split
      · split_ifs <;> rfl
      · rfl
  | signedCall c signer action =>
      simp only [step] at hs
      split at hs
      · obtain rfl := Option.some.inj hs
        exact Or.inr ⟨rfl, trivial⟩
      · cases hs
  | proceed c =>
      obtain ⟨call, hlook, hproceed⟩ := Option.bind_eq_some_iff.1 hs
      by_cases hphase : call.phase = .authorize
      · simp only [State.proceed, hphase] at hproceed
        exact Or.inl ⟨c, call, rfl, hlook, hphase, (Option.some.inj hproceed).symm⟩
      · refine Or.inr ⟨?_, fun call' hlook' hphase' => ?_⟩
        · unfold State.proceed at hproceed
          split at hproceed
          case h_1 | h_3 | h_4 =>
            obtain ⟨p, _, rfl⟩ := Option.map_eq_some_iff.1 hproceed
            rfl
          case h_2 =>
            split_ifs at hproceed
            obtain rfl := Option.some.inj hproceed
            rfl
          case h_6 =>
            split_ifs at hproceed <;>
            · obtain rfl := Option.some.inj hproceed
              rfl
          case h_9 h => exact absurd h hphase
          case h_10 | h_12 => cases hproceed
          all_goals
            obtain rfl := Option.some.inj hproceed
            rfl
        · obtain rfl : call = call' := Option.some.inj (hlook.symm.trans hlook')
          exact absurd hphase' hphase
  | answer c limited =>
      obtain ⟨call, _, hanswer⟩ := Option.bind_eq_some_iff.1 hs
      refine Or.inr ⟨?_, trivial⟩
      unfold State.answer at hanswer
      split at hanswer
      case h_5 =>
        obtain rfl := Option.some.inj hanswer
        cases limited <;> rfl
      all_goals cases hanswer
  | abandon c | loseLock c =>
      obtain ⟨call, _, rfl⟩ := Option.map_eq_some_iff.1 hs
      exact Or.inr ⟨rfl, trivial⟩

/-- The delays decide whether an invocation keeps the cadence. -/
lemma SlotsApart.spaced_iff {s : State} {c : CallId} {call : Call} (h : SlotsApart s)
    (hlook : s.calls.lookup c = some call) (hphase : call.phase = .authorize)
    (hown : OwnsSlot s (.proceed c)) :
    (∀ last ∈ s.invocations.head?, Spaced ⟨c, s.clock, s.ownSlot c, s.sustained⟩ last) ↔
      DelayCovered s (.proceed c) := by
  by_cases hsus : s.sustained = true
  · have hthrottled := h.throttled hsus
    obtain ⟨t, ht⟩ := Option.isSome_iff_exists.1 (hown call hlook hthrottled (Or.inl hphase))
    obtain ⟨base, _, hbase, _⟩ := h.apart hsus
    obtain ⟨last, hlast, hlastSlot⟩ := Option.bind_eq_some_iff.1 hbase
    have hunspent : call.phase.spent = false := by rw [hphase]; rfl
    have hapart : base + slotMs ≤ t := h.base_of_ownSlot ht hlook hunspent hsus hbase
    have hset : t ≤ s.clock := h.set_le _ (State.ownSlot_eq_some.1 ht)
    constructor
    · intro hspaced call' _ _ _ last' hlast' lastSlot hlastSlot' ownSlot hownSlot
      obtain rfl : last = last' := Option.some.inj (hlast.symm.trans hlast')
      obtain rfl : base = lastSlot := Option.some.inj (hlastSlot.symm.trans hlastSlot')
      obtain rfl : t = ownSlot := Option.some.inj (ht.symm.trans hownSlot)
      have hgap : last.startedAt + slotMs ≤ s.clock := hspaced last hlast hsus
      omega
    · intro hcov last' hlast' _
      obtain rfl : last = last' := Option.some.inj (hlast.symm.trans hlast')
      have hdelay := hcov call hlook hphase hsus last hlast base hlastSlot t ht
      show last.startedAt + slotMs ≤ s.clock
      omega
  · exact ⟨fun _ _ _ _ hsus' => absurd hsus' hsus, fun _ _ _ hsus' => absurd hsus' hsus⟩

lemma cadence_step_iff {s s' : State} {op : Op} (h : SlotsApart s) (hown : OwnsSlot s op)
    (hs : step s op = some s') : Cadence s' ↔ Cadence s ∧ DelayCovered s op := by
  obtain ⟨c, call, rfl, hlook, hphase, rfl⟩ | ⟨hsame, hcov⟩ := step_invocations hs
  · rw [and_comm, ← h.spaced_iff hlook hphase hown]
    exact List.isChain_cons
  · unfold Cadence
    rw [hsame]
    exact (and_iff_left hcov).symm

/-- **The cadence of an address.**  In every run in which the slots found at the invocations are
those of the invoked calls, consecutive invocations in throttled mode are ten seconds apart exactly
if every invocation makes up for the delay of the one before. -/
theorem cadence_iff_delayCovered {ops : List Op} {s : State}
    (hown : RunMeets step OwnsSlot .initial ops) (hrun : run step .initial ops = some s) :
    Cadence s ↔ RunMeets step DelayCovered .initial ops := by
  have hiff := iff_runMeets (P := Cadence) (fun _ _ _ hI hG hs => SlotsApart.step hI hG hs)
    (fun _ _ _ hI hG hs => cadence_step_iff hI hG hs) .initial hown hrun
  rw [hiff]
  exact and_iff_right List.isChain_nil

/-! ## Two runs in throttled mode -/

/-- The address is over its quota. -/
def exhausted : Op := .recordExchangeSnapshot (some 10100) (some 10100)

/-- A signed call that finds the slot free, and its callback with the time it takes. -/
def signedCallOps (c : CallId) (action : SignedAction) (callback : List Op) : List Op :=
  .signedCall c 7 action :: List.replicate 6 (.proceed c) ++ callback ++
    [.proceed c, .answer c false, .proceed c]

/-- Nine seconds in the callback of the first order, and none in that of the second. -/
def hastyOps : List Op :=
  exhausted :: signedCallOps 1 .placeIoc [.tick 9000] ++
    .tick 1000 :: signedCallOps 2 .placeIoc []

/-- Twelve seconds of fresh reads, behind which the slot is set anew, and an order. -/
def steadyOps : List Op :=
  exhausted ::
    signedCallOps 1 .adminLeverageSync [.tick 12000, .proceed 1, .proceed 1, .tick 200] ++
    .tick 9800 :: signedCallOps 2 .placeIoc [.tick 300]

/-- The two orders leave one second apart. -/
theorem throttled_orders_one_second_apart :
    ∃ s, run step .initial hastyOps = some s ∧ s.throttled = true ∧
      s.invocations.map Invocation.startedAt = [10000, 9000] ∧ ¬ Cadence s :=
  ⟨_, rfl, by decide +kernel, by decide +kernel, by decide +kernel⟩

theorem cadence_iff_delayCovered_steady :
    ∃ s, run step .initial steadyOps = some s ∧
      s.invocations.map Invocation.startedAt = [22300, 12200] ∧ Cadence s := by
  have hown : RunMeets step OwnsSlot .initial steadyOps := by decide +kernel
  have hcov : RunMeets step DelayCovered .initial steadyOps := by decide +kernel
  exact ⟨_, rfl, by decide +kernel, (cadence_iff_delayCovered hown rfl).2 hcov⟩

end HyperCopy.SignedCalls

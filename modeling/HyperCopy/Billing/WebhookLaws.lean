import HyperCopy.Billing.Webhook
import Mathlib.Data.List.Nodup

/-!
# What the deliveries leave behind

Each event is processed once: the row is the replay of what was committed, and the ids committed are
those of `stripe_events` (`ExactlyOnce`).  That holds in every run.

That the row says what the latest event of the latest subscription gives (`LatestWins`) depends on the
order of the deliveries: the webhook lets every event overwrite the row, and a failed payment finds
the row only by the customer that an event before it stored.  `InOrder` is the condition of one step,
field by field.
-/

namespace HyperCopy.Billing

open Transition

/-! ## Fields of the row -/

/-- A field of the row: how it is read, what an event of the user gives for it, and what an activated
plan does. -/
structure BillingField (ν : Type) where
  read : Subscription → ν
  gives : BillingEnv → WebhookEvent → Option ν
  activated : String → ν

/-- The subscription's id, from a checkout or a change of the subscription. -/
def subscriptionIdField : BillingField (Option String) where
  read := Subscription.stripeSubscriptionId
  gives env event :=
    match event.object with
    | .checkoutCompleted session =>
      if event.object.uid = some env.user then (given session.subscription).map some else none
    | .subscription _ object =>
      if event.object.uid = some env.user then some (some object.id) else none
    | _ => none
  activated _ := none

/-- The status, from a change of the subscription or a failed payment. -/
def statusField : BillingField String where
  read := Subscription.status
  gives env event :=
    match event.object with
    | .subscription change object =>
      if event.object.uid = some env.user then
        if change = .deleted then some "canceled" else object.status
      else none
    | .paymentFailed _ => some "past_due"
    | _ => none
  activated _ := "complimentary"

/-- The plan, from a change that names one. -/
def planField : BillingField String where
  read := Subscription.planSlug
  gives env event :=
    match event.object with
    | .subscription _ object =>
      if event.object.uid = some env.user then
        (given object.metadataPlan).filter fun plan => (env.plans.lookup plan).isSome
      else none
    | _ => none
  activated plan := plan

/-- The end of the period, from a change that has one. -/
def periodEndField : BillingField (Option ℕ) where
  read := Subscription.periodEnd
  gives env event :=
    match event.object with
    | .subscription _ object =>
      if event.object.uid = some env.user then object.periodEnd.map some else none
    | _ => none
  activated _ := none

/-- Does the webhook find the row of the user? -/
def found (env : BillingEnv) (event : WebhookEvent) (sub : Option Subscription) : Bool :=
  sub.any fun sub =>
    match event.object with
    | .paymentFailed customer => sub.stripeCustomerId = some (customer.getD "")
    | object => object.uid = some env.user

/-! ## The laws -/

section Laws

variable {ν : Type}

/-- The events of a history. -/
def events (history : List HistoryEntry) : List WebhookEvent :=
  history.filterMap fun entry =>
    match entry with
    | .event event => some event
    | .activated _ => none

/-- What one committed entry does to the row. -/
def replay (env : BillingEnv) (sub : Option Subscription) : HistoryEntry → Option Subscription
  | .event event => handle env event sub
  | .activated plan => some (complimentary plan sub)

/-- The row is the replay of the events processed, each of them once. -/
structure ExactlyOnce (env : BillingEnv) (initial : Option Subscription) (s : BillingSystem) :
    Prop where
  once : s.stripeEvents.Nodup
  recorded : s.stripeEvents = (events s.history).map WebhookEvent.id
  replayed : s.subscription = s.history.foldl (replay env) initial

/-- The stamps of the events that give the field. -/
def BillingField.stamps (F : BillingField ν) (env : BillingEnv) (history : List HistoryEntry) :
    List (ℕ ×ₗ ℕ) :=
  ((events history).filter fun event => (F.gives env event).isSome).map WebhookEvent.stamp

/-- Of the events of a history that give the field, the event in the middle is the latest. -/
structure BillingField.Latest (F : BillingField ν) (env : BillingEnv) (before : List HistoryEntry)
    (event : WebhookEvent) (after : List HistoryEntry) (v : ν) : Prop where
  gives : F.gives env event = some v
  before : ∀ stamp ∈ F.stamps env before, stamp < event.stamp
  after : ∀ stamp ∈ F.stamps env after, stamp < event.stamp

/-- No plan has been activated. -/
def NoneActivated (history : List HistoryEntry) : Prop :=
  ∀ plan, .activated plan ∉ history

/-- The field is what its latest event gives, or what a plan gives that was activated after it. -/
def BillingField.Law (F : BillingField ν) (env : BillingEnv) (s : BillingSystem) : Prop :=
  ∀ before event after v, s.history = before ++ .event event :: after →
    F.Latest env before event after v →
      (s.subscription.map F.read = some v ∧ NoneActivated after) ∨
        ∃ plan, .activated plan ∈ after ∧ s.subscription.map F.read = some (F.activated plan)

/-- The row is what the latest event of the latest subscription gives. -/
structure LatestWins (env : BillingEnv) (s : BillingSystem) : Prop where
  subscriptionId : subscriptionIdField.Law env s
  status : statusField.Law env s
  plan : planField.Law env s
  periodEnd : periodEndField.Law env s
  /-- The entitlement is that of the latest event. -/
  entitlement : ∀ before event after id status plan endsAt,
    s.history = before ++ .event event :: after → NoneActivated after →
    subscriptionIdField.Latest env before event after id →
    statusField.Latest env before event after status →
    planField.Latest env before event after plan →
    periodEndField.Latest env before event after endsAt →
      ∀ ctx, entitled env s.discounts ctx s.subscription =
        entitled env s.discounts ctx (s.subscription.map fun sub =>
          { sub with
            stripeSubscriptionId := id
            status := status
            planSlug := plan
            periodEnd := endsAt })
  /-- A subscription whose latest event is its end does not entitle. -/
  cancelled : ∀ before event after object,
    s.history = before ++ .event event :: after → NoneActivated after →
    event.object = .subscription .deleted object →
    statusField.Latest env before event after "canceled" →
      ∀ ctx, entitled env s.discounts ctx s.subscription = false

/-! ## The condition -/

/-- An event gives a value the row has already, or finds the row if and only if it is later than the
events before it that give the field. -/
def BillingField.InOrder (F : BillingField ν) (env : BillingEnv) (s : BillingSystem)
    (event : WebhookEvent) : Prop :=
  ∀ v ∈ F.gives env event, s.subscription.map F.read = some v ∨
    (found env event s.subscription = true ↔ ∀ stamp ∈ F.stamps env s.history, stamp < event.stamp)

/-- An event that is processed is in order for each field. -/
def InOrder (env : BillingEnv) (s : BillingSystem) : BillingOp → Prop
  | .deliver event commits => commits = true → event.id ∉ s.stripeEvents →
      subscriptionIdField.InOrder env s event ∧ statusField.InOrder env s event ∧
        planField.InOrder env s event ∧ periodEndField.InOrder env s event
  | _ => True

instance [DecidableEq ν] (F : BillingField ν) (env : BillingEnv) (s : BillingSystem)
    (event : WebhookEvent) : Decidable (F.InOrder env s event) :=
  inferInstanceAs (Decidable (∀ v ∈ F.gives env event, _ ∨ (_ ↔ ∀ stamp ∈ F.stamps env s.history, _)))

instance (env : BillingEnv) (s : BillingSystem) : ∀ op, Decidable (InOrder env s op)
  | .deliver _ _ => inferInstanceAs (Decidable (_ = true → _ ∉ _ → _ ∧ _ ∧ _ ∧ _))
  | .activate _ | .discount _ _ => .isTrue trivial

end Laws

/-! ## Exactly once -/

section ExactlyOnce

variable {env : BillingEnv} {initial : Option Subscription} {s s' : BillingSystem} {op : BillingOp}

lemma activateComplimentary_eq_some {discounts : Table String ℕ} {plan : String}
    {sub : Option Subscription} {sub' : Subscription}
    (h : activateComplimentary env discounts plan sub = some sub') :
    sub' = complimentary plan sub := by
  unfold activateComplimentary at h
  split_ifs at h
  exact (Option.some.inj h).symm

/-- What a step can do: nothing to the row and its history, process an event for the first time, or
activate a plan. -/
inductive BillingEffect (env : BillingEnv) (s : BillingSystem) : BillingOp → BillingSystem → Prop
  | kept (o : BillingOp) (discounts : Table String ℕ) : BillingEffect env s o { s with discounts }
  | processed (event : WebhookEvent) (hnew : event.id ∉ s.stripeEvents) :
      BillingEffect env s (.deliver event true)
        { s with
          stripeEvents := s.stripeEvents ++ [event.id]
          subscription := handle env event s.subscription
          history := s.history ++ [.event event] }
  | activated (plan : String) :
      BillingEffect env s (.activate plan)
        { s with
          subscription := some (complimentary plan s.subscription)
          history := s.history ++ [.activated plan] }

lemma billingEffect (hstep : billingStep env s op = some s') : BillingEffect env s op s' := by
  cases op with
  | deliver event commits =>
      obtain rfl := Option.some.inj hstep
      cases commits with
      | false => exact .kept _ s.discounts
      | true =>
          unfold stripeWebhook
          by_cases hknown : event.id ∈ s.stripeEvents
          · rw [if_pos rfl, if_pos hknown]
            exact .kept _ s.discounts
          · rw [if_pos rfl, if_neg hknown]
            exact .processed event hknown
  | activate plan =>
      simp only [billingStep] at hstep
      cases hactivate : activateComplimentary env s.discounts plan s.subscription with
      | none =>
          rw [hactivate] at hstep
          obtain rfl := Option.some.inj hstep
          exact .kept _ s.discounts
      | some sub =>
          rw [hactivate] at hstep
          obtain rfl := Option.some.inj hstep
          obtain rfl := activateComplimentary_eq_some hactivate
          exact .activated plan
  | discount plan percent =>
      obtain rfl := Option.some.inj hstep
      exact .kept _ _

lemma ExactlyOnce.step (h : ExactlyOnce env initial s) (hstep : billingStep env s op = some s') :
    ExactlyOnce env initial s' := by
  cases billingEffect hstep with
  | kept _ discounts => exact ⟨h.once, h.recorded, h.replayed⟩
  | processed event hnew =>
      refine ⟨List.nodup_append'.2 ⟨h.once, List.nodup_singleton _, ?_⟩, ?_, ?_⟩
      · intro id hid hid'
        obtain rfl := List.mem_singleton.1 hid'
        exact hnew hid
      · simp [events, h.recorded]
      · simp [replay, h.replayed]
  | activated plan =>
      refine ⟨h.once, ?_, ?_⟩
      · simp [events, h.recorded]
      · simp [replay, h.replayed]

end ExactlyOnce

/-! ## The latest event wins -/

section LatestWins

variable {env : BillingEnv} {s s' : BillingSystem} {op : BillingOp} {ν : Type} {F : BillingField ν}

/-- A field is overwritten by what an event gives if the row is found, and by a plan. -/
structure BillingField.Faithful (F : BillingField ν) (env : BillingEnv) : Prop where
  handled : ∀ event sub, (handle env event sub).map F.read =
    if found env event sub = true then (F.gives env event).or (sub.map F.read) else sub.map F.read
  activated : ∀ plan sub, F.read (complimentary plan sub) = F.activated plan

/-- It is enough to look at the three writes. -/
lemma BillingField.Faithful.of_writes (hactivated : ∀ plan sub, F.read (complimentary plan sub) =
      F.activated plan)
    (hcheckout : ∀ id session stamp sub, session.clientReferenceId.or session.metadataUserId =
        some env.user → some (F.read (Subscription.completeCheckout sub session)) =
          (F.gives env ⟨id, .checkoutCompleted session, stamp⟩).or (some (F.read sub)))
    (hchange : ∀ id change object stamp sub, object.metadataUserId = some env.user →
      some (F.read (Subscription.change sub env change object)) =
        (F.gives env ⟨id, .subscription change object, stamp⟩).or (some (F.read sub)))
    (hfailed : ∀ id customer stamp (sub : Subscription),
      some (F.read { sub with status := "past_due" }) =
        (F.gives env ⟨id, .paymentFailed customer, stamp⟩).or (some (F.read sub))) :
    F.Faithful env := by
  refine ⟨fun event sub => ?_, hactivated⟩
  obtain ⟨id, object, stamp⟩ := event
  cases sub with
  | none => cases object <;> simp [handle, found]
  | some sub =>
      cases object with
      | checkoutCompleted session =>
          by_cases huid : (StripeObject.checkoutCompleted session).uid = some env.user
          · simp only [handle, found, Option.map_some, Option.any_some, huid, decide_true, if_true]
            exact hcheckout id session stamp sub huid
          · simp [handle, found, huid]
      | subscription change object =>
          by_cases huid : (StripeObject.subscription change object).uid = some env.user
          · simp only [handle, found, Option.map_some, Option.any_some, huid, decide_true, if_true]
            exact hchange id change object stamp sub huid
          · simp [handle, found, huid]
      | paymentFailed customer =>
          by_cases hcustomer : sub.stripeCustomerId = some (customer.getD "")
          · simp only [handle, found, Option.map_some, Option.any_some, hcustomer, decide_true, if_true]
            exact hcustomer ▸ hfailed id customer stamp sub
          · simp [handle, found, hcustomer]
      | other => simp [handle, found, StripeObject.uid]

lemma subscriptionIdField_faithful (env : BillingEnv) : subscriptionIdField.Faithful env := by
  refine .of_writes (fun _ _ => rfl) (fun id session stamp sub huid => ?_)
    (fun id change object stamp sub huid => ?_) fun id customer stamp sub => rfl
  · cases hsubscription : given session.subscription <;>
      simp [subscriptionIdField, StripeObject.uid, Subscription.completeCheckout, huid, hsubscription]
  · simp [subscriptionIdField, StripeObject.uid, Subscription.change, huid]

lemma statusField_faithful (env : BillingEnv) : statusField.Faithful env := by
  refine .of_writes (fun _ _ => rfl) (fun id session stamp sub huid => rfl)
    (fun id change object stamp sub huid => ?_) fun id customer stamp sub => rfl
  simp only [statusField, StripeObject.uid, Subscription.change, huid, if_true]
  by_cases hdeleted : change = .deleted
  · rw [if_pos hdeleted, if_pos hdeleted, Option.some_or]
  · rw [if_neg hdeleted, if_neg hdeleted]
    cases object.status <;> rfl

lemma planField_faithful (env : BillingEnv) : planField.Faithful env := by
  refine .of_writes (fun _ _ => rfl) (fun id session stamp sub huid => rfl)
    (fun id change object stamp sub huid => ?_) fun id customer stamp sub => rfl
  simp only [planField, StripeObject.uid, Subscription.change, huid, if_true]
  cases given object.metadataPlan with
  | none => rfl
  | some plan =>
      by_cases hknown : (env.plans.lookup plan).isSome
      · simp only [Option.filter_some, hknown, if_true, Option.some_or]
      · simp only [Option.filter_some, hknown]
        rfl

lemma periodEndField_faithful (env : BillingEnv) : periodEndField.Faithful env := by
  refine .of_writes (fun _ _ => rfl) (fun id session stamp sub huid => rfl)
    (fun id change object stamp sub huid => ?_) fun id customer stamp sub => rfl
  simp only [periodEndField, StripeObject.uid, Subscription.change, huid, if_true]
  cases object.periodEnd <;> rfl

lemma stamps_append (F : BillingField ν) (env : BillingEnv) (history history' : List HistoryEntry) :
    F.stamps env (history ++ history') = F.stamps env history ++ F.stamps env history' := by
  simp [BillingField.stamps, events]

lemma mem_stamps {event : WebhookEvent} {v : ν} {history : List HistoryEntry}
    (hgives : F.gives env event = some v) (hmem : .event event ∈ history) :
    event.stamp ∈ F.stamps env history := by
  refine List.mem_map.2 ⟨event, List.mem_filter.2 ⟨?_, by rw [hgives]; rfl⟩, rfl⟩
  exact List.mem_filterMap.2 ⟨.event event, hmem, rfl⟩

/-- An event in order leaves a later value of the field as it is. -/
lemma handled_of_inOrder (hF : F.Faithful env) {event : WebhookEvent}
    (horder : F.InOrder env s event)
    (hlate : ∀ v, F.gives env event = some v → ∃ stamp ∈ F.stamps env s.history, event.stamp < stamp) :
    (handle env event s.subscription).map F.read = s.subscription.map F.read := by
  rw [hF.handled]
  split_ifs with hfound
  · cases hgives : F.gives env event with
    | none => rw [Option.none_or]
    | some v =>
        rw [Option.some_or]
        rcases horder v hgives with hsame | hiff
        · exact hsame.symm
        · obtain ⟨stamp, hstamp, hlt⟩ := hlate v hgives
          exact absurd (hiff.1 hfound stamp hstamp) (lt_asymm hlt)
  · rfl

/-- **One event.** -/
lemma BillingField.Law.processed (h : F.Law env s) (hF : F.Faithful env) {event : WebhookEvent}
    (horder : F.InOrder env s event) (stripeEvents : List String) :
    F.Law env { s with
      stripeEvents
      subscription := handle env event s.subscription
      history := s.history ++ [.event event] } := by
  intro before latest after v hhistory hlatest
  rcases List.eq_nil_or_concat' after with rfl | ⟨after', entry, rfl⟩
  · -- the event is the latest one itself
    obtain ⟨rfl, hentry⟩ := List.append_inj' hhistory rfl
    obtain rfl : event = latest := by simpa using hentry
    refine .inl ⟨?_, fun _ hmem => by cases hmem⟩
    rw [hF.handled, hlatest.gives, Option.some_or]
    rcases horder v hlatest.gives with hsame | hiff
    · rw [hsame, ite_self]
    · rw [if_pos (hiff.2 hlatest.before)]
  · -- the latest one came before
    rw [← List.cons_append, ← List.append_assoc] at hhistory
    obtain ⟨hbefore, hentry⟩ := List.append_inj' hhistory rfl
    obtain rfl : HistoryEntry.event event = entry := by simpa using hentry
    have hkept : (handle env event s.subscription).map F.read = s.subscription.map F.read := by
      refine handled_of_inOrder hF horder fun w hw => ⟨latest.stamp, ?_, ?_⟩
      · rw [hbefore]
        exact mem_stamps hlatest.gives (by simp)
      · refine hlatest.after _ ?_
        exact mem_stamps hw (by simp)
    have hafter : ∀ stamp ∈ F.stamps env after', stamp < latest.stamp := by
      intro stamp hstamp
      refine hlatest.after stamp ?_
      rw [stamps_append]
      exact List.mem_append_left _ hstamp
    rcases h before latest after' v hbefore ⟨hlatest.gives, hlatest.before, hafter⟩ with
      ⟨hvalue, hnone⟩ | ⟨plan, hplan, hvalue⟩
    · refine .inl ⟨hkept.trans hvalue, fun plan hplan => ?_⟩
      rcases List.mem_append.1 hplan with hplan | hplan
      · exact hnone plan hplan
      · simp at hplan
    · exact .inr ⟨plan, List.mem_append_left _ hplan, hkept.trans hvalue⟩

/-- **One activation.** -/
lemma BillingField.Law.activated (hF : F.Faithful env) (plan : String) :
    F.Law env { s with
      subscription := some (complimentary plan s.subscription)
      history := s.history ++ [.activated plan] } := by
  intro before latest after v hhistory hlatest
  rcases List.eq_nil_or_concat' after with rfl | ⟨after', entry, rfl⟩
  · obtain ⟨-, hentry⟩ := List.append_inj' hhistory rfl
    simp at hentry
  · rw [← List.cons_append, ← List.append_assoc] at hhistory
    obtain ⟨-, hentry⟩ := List.append_inj' hhistory rfl
    obtain rfl : HistoryEntry.activated plan = entry := by simpa using hentry
    refine .inr ⟨plan, by simp, ?_⟩
    rw [Option.map_some, hF.activated]

lemma BillingField.Law.step (h : F.Law env s) (hF : F.Faithful env)
    (heffect : BillingEffect env s op s')
    (horder : ∀ event, op = .deliver event true → event.id ∉ s.stripeEvents →
      F.InOrder env s event) : F.Law env s' := by
  cases heffect with
  | kept _ discounts => exact h
  | processed event hnew => exact h.processed hF (horder event rfl hnew) _
  | activated plan => exact .activated hF plan

/-- The four fields. -/
structure FieldLaws (env : BillingEnv) (s : BillingSystem) : Prop where
  subscriptionId : subscriptionIdField.Law env s
  status : statusField.Law env s
  plan : planField.Law env s
  periodEnd : periodEndField.Law env s

lemma FieldLaws.step (h : FieldLaws env s) (horder : InOrder env s op)
    (hstep : billingStep env s op = some s') : FieldLaws env s' := by
  have heffect := billingEffect hstep
  have hop : ∀ event, op = .deliver event true → event.id ∉ s.stripeEvents →
      subscriptionIdField.InOrder env s event ∧ statusField.InOrder env s event ∧
        planField.InOrder env s event ∧ periodEndField.InOrder env s event := by
    rintro event rfl hnew
    exact horder rfl hnew
  refine ⟨?_, ?_, ?_, ?_⟩
  · exact h.subscriptionId.step (subscriptionIdField_faithful env) heffect
      fun event heq hnew => (hop event heq hnew).1
  · exact h.status.step (statusField_faithful env) heffect
      fun event heq hnew => (hop event heq hnew).2.1
  · exact h.plan.step (planField_faithful env) heffect
      fun event heq hnew => (hop event heq hnew).2.2.1
  · exact h.periodEnd.step (periodEndField_faithful env) heffect
      fun event heq hnew => (hop event heq hnew).2.2.2

lemma FieldLaws.start (env : BillingEnv) (sub : Option Subscription) (discounts : Table String ℕ) :
    FieldLaws env (.start sub discounts) := by
  have hempty : ∀ {before after : List HistoryEntry} {event : WebhookEvent},
      [] ≠ before ++ HistoryEntry.event event :: after := by simp
  exact ⟨fun _ _ _ _ h => absurd h hempty, fun _ _ _ _ h => absurd h hempty,
    fun _ _ _ _ h => absurd h hempty, fun _ _ _ _ h => absurd h hempty⟩

/-- Where no plan has been activated since, the field is what its latest event gives. -/
lemma BillingField.Law.value (h : F.Law env s) {before after : List HistoryEntry}
    {event : WebhookEvent} {v : ν} (hhistory : s.history = before ++ .event event :: after)
    (hnone : NoneActivated after) (hlatest : F.Latest env before event after v) :
    ∃ sub, s.subscription = some sub ∧ F.read sub = v := by
  rcases h before event after v hhistory hlatest with ⟨hvalue, -⟩ | ⟨plan, hplan, -⟩
  · exact Option.map_eq_some_iff.1 hvalue
  · exact absurd hplan (hnone plan)

/-- The entitlement follows from the fields. -/
lemma FieldLaws.latestWins (h : FieldLaws env s) : LatestWins env s := by
  refine ⟨h.subscriptionId, h.status, h.plan, h.periodEnd, ?_, ?_⟩
  · intro before event after id status plan endsAt hhistory hnone hid hstatus hplan hend ctx
    obtain ⟨sub, hsub, rfl⟩ := h.subscriptionId.value hhistory hnone hid
    obtain ⟨sub₁, hsub₁, rfl⟩ := h.status.value hhistory hnone hstatus
    obtain ⟨sub₂, hsub₂, rfl⟩ := h.plan.value hhistory hnone hplan
    obtain ⟨sub₃, hsub₃, rfl⟩ := h.periodEnd.value hhistory hnone hend
    obtain rfl := Option.some.inj (hsub.symm.trans hsub₁)
    obtain rfl := Option.some.inj (hsub.symm.trans hsub₂)
    obtain rfl := Option.some.inj (hsub.symm.trans hsub₃)
    rw [hsub]
    rfl
  · intro before event after object hhistory hnone _ hstatus ctx
    obtain ⟨sub, hsub, hcanceled⟩ := h.status.value hhistory hnone hstatus
    have hstatus' : sub.status = "canceled" := hcanceled
    simp [entitled, hsub, hstatus']

end LatestWins

/-! ## Runs -/

/-- **Webhooks.**  In every run each event is processed once; and in every state of a run whose
deliveries are in order, the row says what the latest event gives. -/
theorem latest_event_wins_of_inOrder {env : BillingEnv} {sub : Option Subscription}
    {discounts : Table String ℕ} {ops : List BillingOp} {s : BillingSystem}
    (hrun : run (billingStep env) (.start sub discounts) ops = some s) :
    ExactlyOnce env sub s ∧
      (RunMeets (billingStep env) (InOrder env) (.start sub discounts) ops → LatestWins env s) := by
  refine ⟨?_, fun hmeets => FieldLaws.latestWins ?_⟩
  · have hstart : ExactlyOnce env sub (.start sub discounts) := ⟨List.nodup_nil, rfl, rfl⟩
    exact run_invariant (fun _ _ _ => ExactlyOnce.step) hstart hrun
  · exact run_invariant_of_meets (fun _ _ _ => FieldLaws.step)
      (FieldLaws.start env sub discounts) hmeets hrun

/-- User 0, with the plan `starter` in the catalog. -/
def starterEnv : BillingEnv :=
  ⟨0, (∅ : Table String Plan).insert "starter" ⟨some 2500⟩⟩

/-- The row of a user on trial. -/
def trialRow : Subscription :=
  ⟨"trial", none, none, "trialing", some 100, some 100⟩

/-- An event of the first subscription of user 0. -/
def starterEvent (id : String) (change : SubscriptionChange) (status : String) (created : ℕ) :
    WebhookEvent :=
  ⟨id, .subscription change ⟨"sub_1", some 0, some "starter", some "cus_1", some status, some 1000, []⟩,
    toLex (1, created)⟩

/-- A subscription is created, cancelled, and its cancellation is delivered twice. -/
theorem latest_event_wins_run :
    ∃ s, run (billingStep starterEnv) (.start (some trialRow) ∅)
        [.deliver (starterEvent "evt_1" .created "active" 1) true,
          .deliver (starterEvent "evt_3" .deleted "canceled" 3) false,
          .deliver (starterEvent "evt_3" .deleted "canceled" 3) true,
          .deliver (starterEvent "evt_3" .deleted "canceled" 3) true] = some s ∧
      s.stripeEvents = ["evt_1", "evt_3"] ∧ ExactlyOnce starterEnv (some trialRow) s ∧
        LatestWins starterEnv s := by
  have hmeets : RunMeets (billingStep starterEnv) (InOrder starterEnv) (.start (some trialRow) ∅)
      [.deliver (starterEvent "evt_1" .created "active" 1) true,
        .deliver (starterEvent "evt_3" .deleted "canceled" 3) false,
        .deliver (starterEvent "evt_3" .deleted "canceled" 3) true,
        .deliver (starterEvent "evt_3" .deleted "canceled" 3) true] := by
    decide +kernel
  have hrun : (run (billingStep starterEnv) (.start (some trialRow) ∅)
      [.deliver (starterEvent "evt_1" .created "active" 1) true,
        .deliver (starterEvent "evt_3" .deleted "canceled" 3) false,
        .deliver (starterEvent "evt_3" .deleted "canceled" 3) true,
        .deliver (starterEvent "evt_3" .deleted "canceled" 3) true]).map
          BillingSystem.stripeEvents = some ["evt_1", "evt_3"] := by
    decide +kernel
  obtain ⟨s, hs, hevents⟩ := Option.map_eq_some_iff.1 hrun
  obtain ⟨honce, hlatest⟩ := latest_event_wins_of_inOrder hs
  exact ⟨s, hs, hevents, honce, hlatest hmeets⟩

/-- An update from before the cancellation is delivered after it: the row is active again. -/
theorem late_update_reentitles :
    ∃ s, run (billingStep starterEnv) (.start (some trialRow) ∅)
        [.deliver (starterEvent "evt_1" .created "active" 1) true,
          .deliver (starterEvent "evt_3" .deleted "canceled" 3) true,
          .deliver (starterEvent "evt_2" .updated "active" 2) true] = some s ∧
      s.subscription.map Subscription.status = some "active" ∧
      entitled starterEnv s.discounts ⟨500, none, false⟩ s.subscription = true ∧
      ¬ LatestWins starterEnv s := by
  have hrun : (run (billingStep starterEnv) (.start (some trialRow) ∅)
      [.deliver (starterEvent "evt_1" .created "active" 1) true,
        .deliver (starterEvent "evt_3" .deleted "canceled" 3) true,
        .deliver (starterEvent "evt_2" .updated "active" 2) true]).map (fun s =>
          (s.subscription.map Subscription.status,
            entitled starterEnv s.discounts ⟨500, none, false⟩ s.subscription, s.history)) =
      some (some "active", true, [.event (starterEvent "evt_1" .created "active" 1),
        .event (starterEvent "evt_3" .deleted "canceled" 3),
        .event (starterEvent "evt_2" .updated "active" 2)]) := by
    decide +kernel
  obtain ⟨s, hs, heq⟩ := Option.map_eq_some_iff.1 hrun
  obtain ⟨hstatus, hrest⟩ := Prod.mk.inj heq
  obtain ⟨hentitled, hhistory⟩ := Prod.mk.inj hrest
  refine ⟨s, hs, hstatus, hentitled, fun hlaws => ?_⟩
  have hlatest : statusField.Latest starterEnv [.event (starterEvent "evt_1" .created "active" 1)]
      (starterEvent "evt_3" .deleted "canceled" 3)
      [.event (starterEvent "evt_2" .updated "active" 2)] "canceled" :=
    ⟨by decide +kernel, by decide +kernel, by decide +kernel⟩
  have hcancelled := hlaws.cancelled _ _ _ _ hhistory (fun plan => by simp) rfl hlatest
    ⟨500, none, false⟩
  exact absurd (hentitled.symm.trans hcancelled) (by decide)

end HyperCopy.Billing

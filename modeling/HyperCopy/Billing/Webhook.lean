import HyperCopy.Library.Table
import HyperCopy.Library.Transition
import Mathlib.Algebra.Order.Ring.Rat
import Mathlib.Data.Prod.Lex

/-!
# Stripe webhooks and the subscription of a user

Stripe reports every change of a subscription as an event.  The webhook inserts the event's id into
`stripe_events` and overwrites fields of the user's one row in the same transaction; an id that is
there already ends the delivery.  A delivery can fail, and Stripe delivers the event again; the order
of deliveries is open.  In between the user can activate a plan that a full discount covers.

Events carry a `stamp` that the code does not read: when the subscription was created, and when the
event was.  The system records what was processed, in the order in which it was committed.
-/

namespace HyperCopy.Billing

/-- The primary key of a user. -/
abbrev UserId := ℕ

/-! ## Events -/

/-- The object of `checkout.session.completed`. -/
structure CheckoutSession where
  clientReferenceId : Option UserId
  metadataUserId : Option UserId
  customer : Option String
  subscription : Option String
  deriving DecidableEq

/-- The suffix of `customer.subscription.*`. -/
inductive SubscriptionChange where
  | created | updated | deleted | other
  deriving DecidableEq

/-- The object of a subscription event. -/
structure SubscriptionObject where
  id : String
  metadataUserId : Option UserId
  metadataPlan : Option String
  customer : Option String
  status : Option String
  currentPeriodEnd : Option ℕ
  /-- `current_period_end` of its items. -/
  itemPeriodEnds : List (Option ℕ)
  deriving DecidableEq

/-- The kinds of events the webhook tells apart. -/
inductive StripeObject where
  | checkoutCompleted (session : CheckoutSession)
  | subscription (change : SubscriptionChange) (object : SubscriptionObject)
  | paymentFailed (customer : Option String)
  | other
  deriving DecidableEq

/-- An event of Stripe, with its order of creation. -/
structure WebhookEvent where
  id : String
  object : StripeObject
  stamp : ℕ ×ₗ ℕ
  deriving DecidableEq

/-- The end of the period that an object reports: its own, or the latest of its items. -/
def SubscriptionObject.periodEnd (o : SubscriptionObject) : Option ℕ :=
  match o.currentPeriodEnd.filter (· ≠ 0) with
  | some endsAt => some endsAt
  | none => (o.itemPeriodEnds.filterMap fun e => e.filter (· ≠ 0)).max?

/-! ## Rows -/

/-- The row of the user's subscription. -/
structure Subscription where
  planSlug : String
  stripeCustomerId : Option String
  stripeSubscriptionId : Option String
  status : String
  periodEnd : Option ℕ
  trialEnd : Option ℕ
  deriving DecidableEq

/-- A plan, as far as its limits are read. -/
structure Plan where
  maxEquityUsd : Option ℚ

/-- What the billing of a user depends on, apart from the events. -/
structure BillingEnv where
  user : UserId
  /-- The entitlement catalog. -/
  plans : Table String Plan

/-- `OFFERED_PLANS`. -/
def offeredPlans : List String :=
  ["starter", "plus", "pro_10k"]

/-! ## The webhook -/

/-- The user an event names. -/
def StripeObject.uid : StripeObject → Option UserId
  | .checkoutCompleted session => session.clientReferenceId.or session.metadataUserId
  | .subscription _ object => object.metadataUserId
  | .paymentFailed _ | .other => none

/-- A text that is there and not empty; the webhook keeps the old value where there is none. -/
def given (text : Option String) : Option String := text.filter (· ≠ "")

/-- The row after `checkout.session.completed`. -/
def Subscription.completeCheckout (sub : Subscription) (session : CheckoutSession) : Subscription :=
  { sub with
    stripeCustomerId := (given session.customer).or sub.stripeCustomerId
    stripeSubscriptionId := (given session.subscription).or sub.stripeSubscriptionId }

/-- The row after `customer.subscription.*`. -/
def Subscription.change (sub : Subscription) (env : BillingEnv) (change : SubscriptionChange)
    (o : SubscriptionObject) : Subscription :=
  { sub with
    stripeCustomerId := (given o.customer).or sub.stripeCustomerId
    stripeSubscriptionId := some o.id
    status := if change = .deleted then "canceled" else o.status.getD sub.status
    planSlug := match given o.metadataPlan with
      | some plan => if (env.plans.lookup plan).isSome then plan else sub.planSlug
      | none => sub.planSlug
    periodEnd := o.periodEnd.or sub.periodEnd }

/-- The row of the user after an event. -/
def handle (env : BillingEnv) (event : WebhookEvent) (sub : Option Subscription) :
    Option Subscription :=
  match event.object with
  | .checkoutCompleted session =>
    -- never grants entitlement
    if event.object.uid = some env.user then sub.map fun sub => sub.completeCheckout session else sub
  | .subscription change object =>
    if event.object.uid = some env.user then sub.map fun sub => sub.change env change object else sub
  | .paymentFailed customer =>
    sub.map fun sub =>
      if sub.stripeCustomerId = some (customer.getD "") then { sub with status := "past_due" } else sub
  | .other => sub

/-! ## Complimentary plans and entitlement -/

/-- `discount_percent_for`. -/
def discountPercentFor (discounts : Table String ℕ) (plan : String) : ℕ :=
  (discounts.lookup plan).getD 0

/-- A subscription of Stripe that only the billing portal manages. -/
def Subscription.managed (sub : Subscription) : Bool :=
  sub.stripeSubscriptionId.any (· ≠ "") && sub.status ∈ ["active", "trialing", "past_due"]

/-- The row after `activate_complimentary`. -/
def complimentary (plan : String) (sub : Option Subscription) : Subscription :=
  { planSlug := plan
    stripeCustomerId := sub.bind Subscription.stripeCustomerId
    stripeSubscriptionId := none
    status := "complimentary"
    periodEnd := none
    trialEnd := none }

/-- `activate_complimentary`; a refusal raises. -/
def activateComplimentary (env : BillingEnv) (discounts : Table String ℕ) (plan : String)
    (sub : Option Subscription) : Option Subscription :=
  if plan ∉ offeredPlans then none
  else if discountPercentFor discounts plan ≠ 100 then none
  else if (env.plans.lookup plan).isNone then none
  else if sub.any Subscription.managed then none
  else some (complimentary plan sub)

/-- The time, the equity and the operator override that `entitlement` reads. -/
structure EntitlementContext where
  now : ℕ
  portfolioEquity : Option ℚ
  operatorOverride : Bool

/-- `entitled` of `entitlement`. -/
def entitled (env : BillingEnv) (discounts : Table String ℕ) (ctx : EntitlementContext)
    (sub : Option Subscription) : Bool :=
  let bySubscription := match sub with
    | none => false
    | some sub =>
      if sub.status ∈ ["active", "trialing"] then
        match sub.periodEnd.or sub.trialEnd with
        | none => true
        | some deadline => ctx.now < deadline
      else if sub.status = "complimentary" then discountPercentFor discounts sub.planSlug = 100
      else false
  let maxEquity := (sub.bind fun sub => env.plans.lookup sub.planSlug).bind Plan.maxEquityUsd
  let portfolioLimitExceeded := match maxEquity, ctx.portfolioEquity with
    | some maxEquity, some equity => !ctx.operatorOverride && maxEquity < equity
    | _, _ => false
  bySubscription && !portfolioLimitExceeded

/-! ## The system -/

/-- What has been committed for the user. -/
inductive HistoryEntry where
  | event (event : WebhookEvent)
  | activated (plan : String)
  deriving DecidableEq

/-- The events seen, the subscription, the discounts, and what happened. -/
structure BillingSystem where
  /-- The event ids of `stripe_events`. -/
  stripeEvents : List String
  subscription : Option Subscription
  discounts : Table String ℕ
  history : List HistoryEntry

/-- Events are delivered, and the transaction of a delivery commits or fails; the user activates a
plan; an administrator sets a discount. -/
inductive BillingOp where
  | deliver (event : WebhookEvent) (commits : Bool)
  | activate (plan : String)
  | discount (plan : String) (percent : ℕ)

/-- `stripe_webhook`. -/
def stripeWebhook (env : BillingEnv) (s : BillingSystem) (event : WebhookEvent) : BillingSystem :=
  if event.id ∈ s.stripeEvents then s
  else
    { s with
      stripeEvents := s.stripeEvents ++ [event.id]
      subscription := handle env event s.subscription
      history := s.history ++ [.event event] }

/-- One step. -/
def billingStep (env : BillingEnv) (s : BillingSystem) : BillingOp → Option BillingSystem
  | .deliver event commits => some (if commits then stripeWebhook env s event else s)
  | .activate plan =>
    match activateComplimentary env s.discounts plan s.subscription with
    | none => some s
    | some sub =>
      some { s with subscription := some sub, history := s.history ++ [.activated plan] }
  | .discount plan percent => some { s with discounts := s.discounts.insert plan percent }

/-- A user of whom no event has been processed. -/
def BillingSystem.start (sub : Option Subscription) (discounts : Table String ℕ) : BillingSystem :=
  ⟨[], sub, discounts, []⟩

end HyperCopy.Billing

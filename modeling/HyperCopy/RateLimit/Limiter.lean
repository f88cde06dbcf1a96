import HyperCopy.Library.SortedSet
import HyperCopy.Library.Transition
import Mathlib.Algebra.Order.Ring.Rat

/-!
# The weighted rate limiter

`WeightedRateLimiter` of `adapters/ratelimit.py`: sorted sets in Redis hold one entry for each
reservation, once for all consumers and once for the lane of the consumer.  The score of an entry
is the time at which its weight was taken, and its member spells the weight.

A call reads the clock of its client and then runs one script, which Redis executes atomically;
between the two any other script can run.  Keys disappear `bucketTtl` seconds after the last
reservation.  Two fields record history that no code reads: the admissions, with the weight that
stands for each, and the entries that were dropped for their age or with their key.
-/

namespace HyperCopy

/-- Independent consumer lanes sharing the same global ceiling. -/
inductive Priority
  | reconcile
  | diagnostic
  | metadata
  | masterState
  | order
deriving DecidableEq, Repr

/-- Every lane. -/
def Priority.all : List Priority := [.reconcile, .diagnostic, .metadata, .masterState, .order]

/-- Per-consumer share of the per-minute budget; `validate` refuses any other. -/
structure Budget where
  totalPerMinute : ℕ
  orders : ℕ
  reconcile : ℕ
  diagnostic : ℕ
  masterState : ℕ
  metadata : ℕ
  reserve : ℕ
  validate : orders + reconcile + diagnostic + masterState + metadata + reserve ≤ totalPerMinute

/-- The shares of `RateBudget`. -/
def Budget.default : Budget := ⟨1200, 560, 210, 20, 300, 70, 40, by decide⟩

/-- `allowance`: the share of a lane. -/
def Budget.allowance (b : Budget) : Priority → ℕ
  | .order => b.orders
  | .reconcile => b.reconcile
  | .diagnostic => b.diagnostic
  | .masterState => b.masterState
  | .metadata => b.metadata

/-- `WINDOW_SECONDS`. -/
def windowSeconds : ℚ := 60

/-- The `EXPIRE` of the scripts. -/
def bucketTtl : ℚ := 120

/-- `weight:uuid`, where `0:noop` has no identifier. -/
structure Member where
  weight : ℕ
  suffix : Option ℕ
deriving DecidableEq, Repr

/-- What `try_reserve` returns when it grants the weight. -/
structure RateLimitReservation where
  member : Member
  priority : Priority
  reservedWeight : ℕ
deriving DecidableEq, Repr

/-! ## Buckets -/

/-- A sorted set with the expiry of its key. -/
structure Bucket where
  entries : SortedSet Member ℚ
  expiresAt : Option ℚ

namespace Bucket

/-- A key that does not exist. -/
def empty : Bucket := ⟨∅, none⟩

/-- A key whose last member goes is deleted, and its expiry with it. -/
def withEntries (b : Bucket) (entries : SortedSet Member ℚ) : Bucket :=
  ⟨entries, if entries.keys = [] then none else b.expiresAt⟩

/-- Drop what is not younger than the cutoff. -/
def trim (b : Bucket) (cutoff : ℚ) : Bucket :=
  b.withEntries (b.entries.zremrangebyscore 0 cutoff)

/-- The weight of all entries. -/
def total (b : Bucket) : ℕ := b.entries.total Member.weight

/-- `ZADD`, then `EXPIRE`. -/
def reserve (b : Bucket) (score : ℚ) (member : Member) (expiresAt : ℚ) : Bucket :=
  ⟨b.entries.zadd score member, some expiresAt⟩

/-- The script of `settle` on one of its keys. -/
def settle (b : Bucket) (old new : Member) : Bucket :=
  match b.entries.zscore old with
  | none => b
  | some score =>
    let removed := b.withEntries (b.entries.zrem old)
    if new.weight = 0 then removed else { removed with entries := removed.entries.zadd score new }

end Bucket

/-! ## State -/

/-- A call that has read the clock and not yet run its script. -/
inductive LimiterCall
  | tryReserve (weight : ℕ) (priority : Priority) (now : ℚ)
  | used (key : Option Priority) (now : ℚ)
deriving DecidableEq, Repr

/-- The handle of a call. -/
abbrev CallId := ℕ

/-- A reservation that was granted, with the weight that stands for it. -/
structure Admission where
  reservation : RateLimitReservation
  score : ℚ
  weight : ℕ
deriving DecidableEq, Repr

/-- The member of the entry that stands for the admission. -/
def Admission.member (a : Admission) : Member := ⟨a.weight, a.reservation.member.suffix⟩

/-- The keys of the buckets: `none` is the key all lanes share. -/
def bucketKeys : List (Option Priority) := none :: Priority.all.map some

/-- The shared key counts everything, a lane what was reserved in it. -/
def Admission.countsFor (a : Admission) (key : Option Priority) : Bool :=
  key.all fun priority => a.reservation.priority = priority

/-- The buckets in Redis, the calls under way, and what happened: the admissions, and the key and
score of every entry that was dropped. -/
structure LimiterState where
  clock : ℚ
  buckets : Option Priority → Bucket
  calls : Table CallId LimiterCall
  admitted : List Admission
  drops : List (Option Priority × ℚ)

/-- Time passes, a call reads the clock, the script of a call runs, a reservation is settled. -/
inductive LimiterOp
  | tick (clock : ℚ)
  | tryReserve (call : CallId) (weight : ℕ) (priority : Priority)
  | used (call : CallId) (key : Option Priority)
  /-- The script of the call runs; a reservation gets the identifier `suffix`. -/
  | script (call : CallId) (suffix : ℕ)
  | settle (reservation : RateLimitReservation) (actual : ℕ)

/-! ## Steps -/

/-- Time passes, and keys expire. -/
def LimiterState.tick (s : LimiterState) (clock : ℚ) : LimiterState :=
  let expired := fun key => (s.buckets key).expiresAt.any (· ≤ clock)
  { s with
    clock := clock
    buckets := fun key => if expired key then .empty else s.buckets key
    drops := (bucketKeys.filter expired).flatMap
      (fun key => (s.buckets key).entries.scores.map fun score => (key, score)) ++ s.drops }

/-- Both scripts drop what is a minute old at the time they carry. -/
def LimiterState.trim (s : LimiterState) (key : Option Priority) (now : ℚ) : LimiterState :=
  let cutoff := now - windowSeconds
  { s with
    buckets := Function.update s.buckets key ((s.buckets key).trim cutoff)
    drops := ((s.buckets key).entries.scores.filter fun score => 0 ≤ score ∧ score ≤ cutoff).map
      (fun score => (key, score)) ++ s.drops }

/-- The script of `try_reserve`. -/
def reserveScript (budget : Budget) (s : LimiterState) (weight : ℕ) (priority : Priority) (now : ℚ)
    (suffix : ℕ) : LimiterState :=
  let s := (s.trim none now).trim (some priority) now
  let globalUsed := (s.buckets none).total
  let laneUsed := (s.buckets (some priority)).total
  if budget.totalPerMinute - budget.reserve < globalUsed + weight ||
      budget.allowance priority < laneUsed + weight then s
  else
    let member : Member := ⟨weight, some suffix⟩
    let add := fun b : Bucket => b.reserve now member (s.clock + bucketTtl)
    { s with
      buckets := fun key =>
        if key = none ∨ key = some priority then add (s.buckets key) else s.buckets key
      admitted := ⟨⟨member, priority, weight⟩, now, weight⟩ :: s.admitted }

/-- A reservation that `try_reserve` has returned. -/
def LimiterState.issued (s : LimiterState) (r : RateLimitReservation) : Bool :=
  (r.member = ⟨0, none⟩ && r.reservedWeight = 0) || s.admitted.any fun a => a.reservation = r

/-- The weight that stands for an admission once its reservation is settled for the first time. -/
def Admission.settle (r : RateLimitReservation) (actual : ℕ) (a : Admission) : Admission :=
  if a.reservation = r ∧ a.weight = r.reservedWeight then { a with weight := actual } else a

/-- `settle`; a weight out of range raises, and nothing is settled that stays as it is. -/
def settleReservation (s : LimiterState) (r : RateLimitReservation) (actual : ℕ) : LimiterState :=
  if r.reservedWeight < actual then s
  else if r.reservedWeight = 0 || actual = r.reservedWeight then s
  else
    { s with
      buckets := fun key =>
        if key = none ∨ key = some r.priority then
          (s.buckets key).settle r.member ⟨actual, r.member.suffix⟩
        else s.buckets key
      admitted := s.admitted.map (Admission.settle r actual) }

/-- One step of the limiter. -/
def limiterStep (budget : Budget) (s : LimiterState) : LimiterOp → Option LimiterState
  | .tick clock => if s.clock ≤ clock then some (s.tick clock) else none
  | .tryReserve call weight priority =>
    if (s.calls.lookup call).isSome then none
    else if weight = 0 then some s
    else some { s with calls := s.calls.insert call (.tryReserve weight priority s.clock) }
  | .used call key =>
    if (s.calls.lookup call).isSome then none
    else some { s with calls := s.calls.insert call (.used key s.clock) }
  | .script call suffix =>
    let s' := { s with calls := s.calls.erase call }
    match s.calls.lookup call with
    | some (.tryReserve weight priority now) =>
      if s.admitted.any fun a => a.reservation.member.suffix = some suffix then none
      else some (reserveScript budget s' weight priority now suffix)
    | some (.used key now) => some (s'.trim key now)
    | none => none
  | .settle r actual => if s.issued r then some (settleReservation s r actual) else none

/-- Redis holds nothing yet. -/
def LimiterState.initial : LimiterState := ⟨0, fun _ => .empty, ∅, [], []⟩

end HyperCopy

import Mathlib.Order.Basic
import HyperCopy.Library.Transition
import HyperCopy.Destination.Epochs

/-!
# Histories of a user's destination epochs

The destination operations of `Epochs` as one transition system: users are created, destinations
are set and set again, epochs are closed and bootstrapped, jobs are inserted and bound, in any
order and for any number of users.  Every step happens at its own instant, later than all
earlier ones; closing reads the clock before it holds the user's row lock, so it carries an
earlier reading of its own.

`EpochInv` is the invariant of every history: the open epoch of a user is the active one, agrees
with the user row and was opened last (`epochInv_of_run`).  The partial unique index on open
epochs that the migrations add is therefore never what keeps a second one out.
-/

namespace HyperCopy

open Transition

/-! ## The system -/

/-- The destination rows and the jobs bound to them. -/
structure DestinationState where
  db : DestinationDb
  jobs : Table JobId DestinationJob
  clock : ℕ

/-- What requests and publishers do. -/
inductive DestinationOp
  | addUser (userId : UserId) (provider : ExecutionProvider) (network : Network)
      (networkStartedAt : ℕ)
  | setDestination (userId : UserId) (request : DestinationRequest) (evidence : SwitchEvidence)
      (epochId : EpochId)
  | closeEpoch (userId : UserId) (readAt : ℕ)
  | networkState (userId : UserId) (account : Option AccountAddress × Option ℕ)
      (epochId : EpochId)
  | createJob (jobId : JobId) (userId : UserId) (binding : Option (EpochId × ExecutionEpoch))
      (createdAt : ℕ) (network : ContextText Network)
      (provider : ContextText ExecutionProvider)
  | bindJob (jobId : JobId) (account : Option AccountAddress × Option ℕ) (epochId : EpochId)

/-- An operation at a time. -/
structure DestinationAction where
  now : ℕ
  op : DestinationOp

/-- The active epoch a user row names. -/
def activeEpochId (db : DestinationDb) (userId : UserId) : Option EpochId :=
  (db.users.lookup userId).bind (·.activeExecutionEpochId)

/-- The row a planner inserts.  A destination-aware planner binds it to an epoch of the user
that it has read; `openEpoch` records the epoch open at the insertion. -/
def newJob (db : DestinationDb) (userId : UserId) (binding : Option (EpochId × ExecutionEpoch))
    (createdAt : ℕ) (network : ContextText Network)
    (provider : ContextText ExecutionProvider) : DestinationJob where
  userId := userId
  executionEpochId := binding.map (·.1)
  executionProvider := binding.map (·.2.provider)
  executionNetwork := binding.map (·.2.network)
  createdAt := createdAt
  followerNetworkText := network
  executionProviderText := provider
  openEpoch := activeEpochId db userId

/-- One operation at instant `now`.  An operation that raises is rolled back. -/
def applyDestinationOp (s : DestinationState) (now : ℕ) : DestinationOp →
    Option DestinationState
  | .addUser userId provider network networkStartedAt =>
    if s.db.users.lookup userId = none ∧ networkStartedAt ≤ now then
      let row : User := ⟨provider, network, networkStartedAt, none⟩
      some { s with db := { s.db with users := s.db.users.insert userId row } }
    else none
  | .setDestination userId request evidence epochId =>
    if s.db.epochs.lookup epochId = none then
      match setUserDestination s.db userId request evidence now epochId with
      | .ok (db, _) => some { s with db := db }
      | .error _ => some s
    else none
  | .closeEpoch userId readAt =>
    if readAt ≤ now then
      match closeUserDestinationEpoch s.db userId readAt with
      | .ok db => some { s with db := db }
      | .error _ => some s
    else none
  | .networkState userId account epochId =>
    if s.db.epochs.lookup epochId = none then
      match userNetworkState s.db userId account now epochId with
      | .ok (db, _) => some { s with db := db }
      | .error _ => some s
    else none
  | .createJob jobId userId binding createdAt network provider =>
    if s.jobs.lookup jobId = none ∧ createdAt ≤ now ∧
        (∀ b ∈ binding, s.db.epochs.lookup b.1 = some b.2 ∧ b.2.userId = userId) then
      let job := newJob s.db userId binding createdAt network provider
      some { s with jobs := s.jobs.insert jobId job }
    else none
  | .bindJob jobId account epochId =>
    if s.db.epochs.lookup epochId = none then
      match s.jobs.lookup jobId with
      | none => none
      | some job =>
        let r := bindJobToActiveDestination s.db job account now epochId
        some { s with db := r.1, jobs := s.jobs.insert jobId r.2.1 }
    else none

/-- Time moves forward with every step. -/
def destinationStep (s : DestinationState) (a : DestinationAction) : Option DestinationState :=
  if s.clock < a.now then
    (applyDestinationOp s a.now a.op).map fun t => { t with clock := a.now }
  else none

/-- Empty tables at the origin of the clock. -/
def DestinationState.initial : DestinationState := ⟨⟨∅, ∅⟩, ∅, 0⟩

/-! ## The invariant of every run -/

/-- The open epoch of a user is the active one, and no timestamp of an epoch's life lies in the
future.  The open epoch is also the one opened last. -/
structure EpochInv (db : DestinationDb) (clock : ℕ) : Prop where
  active_open : ∀ u row id, db.users.lookup u = some row → row.activeExecutionEpochId = some id →
    ∃ e, db.epochs.lookup id = some e ∧ e.userId = u ∧ e.endedAt = none ∧
      row.executionProvider = e.provider ∧ row.executionNetwork = e.network
  open_active : ∀ id e, db.epochs.lookup id = some e → e.endedAt = none →
    ∃ row, db.users.lookup e.userId = some row ∧ row.activeExecutionEpochId = some id
  ended_le : ∀ id e stop, db.epochs.lookup id = some e → e.endedAt = some stop → stop ≤ clock
  created_le : ∀ id e, db.epochs.lookup id = some e → e.createdAt ≤ clock
  open_latest : ∀ id e id' e', db.epochs.lookup id = some e → db.epochs.lookup id' = some e' →
    e.userId = e'.userId → e.endedAt = none → e'.createdAt ≤ e.createdAt

/-- Every epoch of user `u` is closed. -/
def EpochsClosed (db : DestinationDb) (u : UserId) : Prop :=
  ∀ id e, db.epochs.lookup id = some e → e.userId = u → ∃ stop, e.endedAt = some stop

lemma EpochInv.mono {db : DestinationDb} {t t' : ℕ} (h : EpochInv db t) (ht : t ≤ t') :
    EpochInv db t' where
  active_open := h.active_open
  open_active := h.open_active
  ended_le id e stop he hs := (h.ended_le id e stop he hs).trans ht
  created_le id e he := (h.created_le id e he).trans ht
  open_latest := h.open_latest

lemma EpochInv.closed_of_detached {db : DestinationDb} {t : ℕ} (h : EpochInv db t)
    {u : UserId} {row : User} (hrow : db.users.lookup u = some row)
    (hactive : row.activeExecutionEpochId = none) : EpochsClosed db u := by
  intro id e he hu
  cases hended : e.endedAt with
  | some stop => exact ⟨stop, rfl⟩
  | none =>
      obtain ⟨row', hrow', hactive'⟩ := h.open_active id e he hended
      rw [hu, hrow, Option.some.injEq] at hrow'
      rw [← hrow', hactive] at hactive'
      cases hactive'

/-- Under the invariant a user row with an active epoch reads its destination. -/
lemma EpochInv.currentOpenEpoch_eq {db : DestinationDb} {t : ℕ} (h : EpochInv db t)
    {u : UserId} {row : User} (hrow : db.users.lookup u = some row) :
    (row.activeExecutionEpochId = none ∧ currentOpenEpoch db row = none) ∨
      ∃ id e, row.activeExecutionEpochId = some id ∧ db.epochs.lookup id = some e ∧
        e.userId = u ∧ e.endedAt = none ∧ currentOpenEpoch db row = some (id, e) := by
  unfold currentOpenEpoch
  cases hactive : row.activeExecutionEpochId with
  | none => exact Or.inl ⟨rfl, rfl⟩
  | some id =>
      obtain ⟨e, he, hu, hopen, -, -⟩ := h.active_open u row id hrow hactive
      exact Or.inr ⟨id, e, rfl, he, hu, hopen, by simp [he, hopen]⟩

lemma detachEpoch_lookup {db : DestinationDb} {u : UserId} {row : User} {id : EpochId}
    {now' : ℕ} {i : EpochId} {e' : ExecutionEpoch} :
    (detachEpoch db u row id now').epochs.lookup i = some e' ↔
      (i ≠ id ∧ db.epochs.lookup i = some e') ∨
        (i = id ∧ ∃ e, db.epochs.lookup id = some e ∧ e.close now' = e') :=
  Table.lookup_modify_eq_some

lemma detachEpoch_lookup_none {db : DestinationDb} {u : UserId} {row : User} {id : EpochId}
    {now' : ℕ} {i : EpochId} (h : db.epochs.lookup i = none) :
    (detachEpoch db u row id now').epochs.lookup i = none := by
  by_cases hi : i = id
  · subst hi
    simp [detachEpoch, h]
  · rw [detachEpoch, Table.lookup_modify_of_ne _ _ hi]
    exact h

/-- Detaching keeps the rows of the epochs table, up to the end of the closed one. -/
lemma detachEpoch_row {db : DestinationDb} {u : UserId} {row : User} {id : EpochId}
    {now' : ℕ} {i : EpochId} {e' : ExecutionEpoch}
    (h : (detachEpoch db u row id now').epochs.lookup i = some e') :
    ∃ e, db.epochs.lookup i = some e ∧ e'.userId = e.userId ∧ e'.createdAt = e.createdAt ∧
      e'.startedAt = e.startedAt ∧ (∀ stop, e.endedAt = some stop → e'.endedAt = some stop) ∧
      (i ≠ id → e' = e) ∧ (i = id → e'.endedAt = some (e.endedAt.getD now')) := by
  rcases detachEpoch_lookup.1 h with ⟨hne, he⟩ | ⟨rfl, e, he, rfl⟩
  · exact ⟨e', he, rfl, rfl, rfl, fun _ hs => hs, fun _ => rfl, fun hi => absurd hi hne⟩
  · refine ⟨e, he, by simp, by simp, by simp, ?_, fun hne => absurd rfl hne, fun _ => by simp⟩
    intro stop hs
    simp [hs]

lemma EpochInv.detach {db : DestinationDb} {t t' : ℕ} (h : EpochInv db t) {u : UserId}
    {row : User} (hrow : db.users.lookup u = some row) {id : EpochId}
    (hactive : row.activeExecutionEpochId = some id) {now' : ℕ} (hnow : now' ≤ t')
    (ht : t ≤ t') : EpochInv (detachEpoch db u row id now') t' := by
  obtain ⟨e₀, he₀, hu₀, hopen₀, -, -⟩ := h.active_open u row id hrow hactive
  refine ⟨?_, ?_, ?_, ?_, ?_⟩
  · intro v row' i hv hi
    by_cases hvu : v = u
    · subst hvu
      simp only [detachEpoch, AList.lookup_insert, Option.some.injEq] at hv
      rw [← hv] at hi
      cases hi
    · rw [detachEpoch, AList.lookup_insert_ne hvu] at hv
      obtain ⟨e, he, hue, hrest⟩ := h.active_open v row' i hv hi
      have hne : i ≠ id := by
        rintro rfl
        rw [he₀, Option.some.injEq] at he
        exact hvu (by rw [← hue, ← he, hu₀])
      exact ⟨e, detachEpoch_lookup.2 (Or.inl ⟨hne, he⟩), hue, hrest⟩
  · intro i e' he' hopen
    rcases detachEpoch_lookup.1 he' with ⟨hne, he⟩ | ⟨rfl, e, he, rfl⟩
    · obtain ⟨row', hrow', hactive'⟩ := h.open_active i e' he hopen
      have hvu : e'.userId ≠ u := by
        intro hvu
        rw [hvu, hrow, Option.some.injEq] at hrow'
        rw [← hrow', hactive, Option.some.injEq] at hactive'
        exact hne hactive'.symm
      exact ⟨row', by rw [detachEpoch, AList.lookup_insert_ne hvu]; exact hrow', hactive'⟩
    · simp at hopen
  · intro i e' stop he' hstop
    obtain ⟨e, he, -, -, -, hkeep, hsame, hclosed⟩ := detachEpoch_row he'
    by_cases hi : i = id
    · subst hi
      rw [he₀, Option.some.injEq] at he
      rw [hclosed rfl, ← he, hopen₀] at hstop
      simp only [Option.getD_none, Option.some.injEq] at hstop
      omega
    · rw [hsame hi] at hstop
      exact (h.ended_le i e stop he hstop).trans ht
  · intro i e' he'
    obtain ⟨e, he, -, hcreated, -⟩ := detachEpoch_row he'
    rw [hcreated]
    exact (h.created_le i e he).trans ht
  · intro i e' j f' he' hf' huser hopen
    obtain ⟨e, he, hue, hce, -, -, hsame, hclosed⟩ := detachEpoch_row he'
    obtain ⟨f, hf, huf, hcf, -⟩ := detachEpoch_row hf'
    have hi : i ≠ id := by
      rintro rfl
      rw [hclosed rfl] at hopen
      cases hopen
    rw [hcf, hce]
    refine h.open_latest i e j f he hf (by rw [← hue, ← huf, huser]) ?_
    rw [← hsame hi]
    exact hopen

lemma detachEpoch_closed {db : DestinationDb} {t : ℕ} (h : EpochInv db t) {u : UserId}
    {row : User} (hrow : db.users.lookup u = some row) {id : EpochId}
    (hactive : row.activeExecutionEpochId = some id) (now' : ℕ) :
    EpochsClosed (detachEpoch db u row id now') u := by
  have hinv : EpochInv (detachEpoch db u row id now') (max t now') :=
    h.detach hrow hactive (by omega) (by omega)
  have hrow' : (detachEpoch db u row id now').users.lookup u =
      some { row with activeExecutionEpochId := none } := by
    simp [detachEpoch]
  exact hinv.closed_of_detached hrow' rfl

lemma EpochInv.attach {db : DestinationDb} {t t' : ℕ} (h : EpochInv db t) {u : UserId}
    (hclosed : EpochsClosed db u) {row : User} {id : EpochId} {epoch : ExecutionEpoch}
    (hfresh : db.epochs.lookup id = none) (huser : epoch.userId = u)
    (hopen : epoch.endedAt = none) (hprovider : row.executionProvider = epoch.provider)
    (hnetwork : row.executionNetwork = epoch.network) (hcreated : epoch.createdAt = t')
    (ht : t ≤ t') : EpochInv (attachEpoch db u row id epoch) t' := by
  have hne : ∀ i e, db.epochs.lookup i = some e → i ≠ id := by
    rintro i e he rfl
    rw [hfresh] at he
    cases he
  refine ⟨?_, ?_, ?_, ?_, ?_⟩
  · intro v row' i hv hi
    by_cases hvu : v = u
    · subst hvu
      simp only [attachEpoch, AList.lookup_insert, Option.some.injEq] at hv
      rw [← hv] at hi ⊢
      obtain rfl : id = i := by simpa using hi
      exact ⟨epoch, by simp [attachEpoch], huser, hopen, hprovider, hnetwork⟩
    · rw [attachEpoch, AList.lookup_insert_ne hvu] at hv
      obtain ⟨e, he, hrest⟩ := h.active_open v row' i hv hi
      exact ⟨e, by rw [attachEpoch, AList.lookup_insert_ne (hne i e he)]; exact he, hrest⟩
  · intro i e he hopene
    rw [attachEpoch, Table.lookup_insert_eq] at he
    split_ifs at he with hi
    · obtain rfl := Option.some.inj he
      subst hi
      exact ⟨_, by rw [huser, attachEpoch, AList.lookup_insert], rfl⟩
    · obtain ⟨row', hrow', hactive'⟩ := h.open_active i e he hopene
      have hvu : e.userId ≠ u := by
        intro hvu
        obtain ⟨stop, hstop⟩ := hclosed i e he hvu
        rw [hopene] at hstop
        cases hstop
      exact ⟨row', by rw [attachEpoch, AList.lookup_insert_ne hvu]; exact hrow', hactive'⟩
  · intro i e stop he hstop
    rw [attachEpoch, Table.lookup_insert_eq] at he
    split_ifs at he with hi
    · obtain rfl := Option.some.inj he
      rw [hopen] at hstop
      cases hstop
    · exact (h.ended_le i e stop he hstop).trans ht
  · intro i e he
    rw [attachEpoch, Table.lookup_insert_eq] at he
    split_ifs at he with hi
    · obtain rfl := Option.some.inj he
      exact hcreated.le
    · exact (h.created_le i e he).trans ht
  · intro i e j f he hf huef hopene
    rw [attachEpoch, Table.lookup_insert_eq] at he hf
    split_ifs at he with hi
    · obtain rfl := Option.some.inj he
      split_ifs at hf with hj
      · obtain rfl := Option.some.inj hf
        exact le_rfl
      · rw [hcreated]
        exact (h.created_le j f hf).trans ht
    · split_ifs at hf with hj
      · obtain rfl := Option.some.inj hf
        obtain ⟨stop, hstop⟩ := hclosed i e he (huef.trans huser)
        rw [hopene] at hstop
        cases hstop
      · exact h.open_latest i e j f he hf huef hopene

/-- A granted request is a detachment of the open epoch, if any, followed by an attachment. -/
lemma EpochInv.openDestinationEpoch_eq {db : DestinationDb} {t : ℕ} (h : EpochInv db t)
    {u : UserId} {row : User} (hrow : db.users.lookup u = some row)
    (request : DestinationRequest) (now : ℕ) (id : EpochId) :
    ∃ db₁, EpochsClosed db₁ u ∧
      ((row.activeExecutionEpochId = none ∧ db₁ = db) ∨
        ∃ current, row.activeExecutionEpochId = some current ∧
          db₁ = detachEpoch db u row current now) ∧
      openDestinationEpoch db u row request now id =
        attachEpoch db₁ u (requestedUser request row now) id (requestedEpoch u request now) := by
  rcases h.currentOpenEpoch_eq hrow with ⟨hactive, hcurrent⟩ | ⟨current, e, hactive, -, -, -, hcurrent⟩
  · refine ⟨db, h.closed_of_detached hrow hactive, Or.inl ⟨hactive, rfl⟩, ?_⟩
    simp [openDestinationEpoch, hcurrent]
  · refine ⟨_, detachEpoch_closed h hrow hactive now, Or.inr ⟨current, hactive, rfl⟩, ?_⟩
    simp [openDestinationEpoch, hcurrent, attachEpoch, detachEpoch]

lemma EpochInv.addUser {db : DestinationDb} {t : ℕ} (h : EpochInv db t) {u : UserId} (row : User)
    (hfresh : db.users.lookup u = none) (hactive : row.activeExecutionEpochId = none) :
    EpochInv { db with users := db.users.insert u row } t := by
  refine { h with active_open := ?_, open_active := ?_ }
  · intro v row' id hv hid
    rw [Table.lookup_insert_eq] at hv
    split_ifs at hv with hvu
    · obtain rfl := Option.some.inj hv
      rw [hactive] at hid
      cases hid
    · exact h.active_open v row' id hv hid
  · intro id e he hopen
    obtain ⟨row', hrow', hid⟩ := h.open_active id e he hopen
    have hne : e.userId ≠ u := by
      intro hu
      rw [hu, hfresh] at hrow'
      cases hrow'
    exact ⟨row', by rw [AList.lookup_insert_ne hne]; exact hrow', hid⟩

lemma EpochInv.networkState {db db' : DestinationDb} {t now : ℕ} (h : EpochInv db t) {u : UserId}
    {account : Option AccountAddress × Option ℕ} {id : EpochId} {d : UserDestinationState}
    (hfresh : db.epochs.lookup id = none) (hnow : t ≤ now)
    (hstate : userNetworkState db u account now id = .ok (db', d)) : EpochInv db' now := by
  rcases userNetworkState_eq_ok hstate with ⟨rfl, -⟩ | ⟨row, hrow, hactive, rfl, -⟩
  · exact h.mono hnow
  · exact h.attach (h.closed_of_detached hrow hactive) hfresh rfl rfl rfl rfl rfl hnow

/-- A granted request closes the open epoch, leaves every epoch of the user closed, and attaches
the new one. -/
lemma EpochInv.openDestinationEpoch {db : DestinationDb} {t now : ℕ} (h : EpochInv db t)
    {u : UserId} {row : User} (hrow : db.users.lookup u = some row)
    (request : DestinationRequest) {id : EpochId} (hfresh : db.epochs.lookup id = none)
    (hnow : t ≤ now) : EpochInv (openDestinationEpoch db u row request now id) now := by
  obtain ⟨db₁, hclosed, hdb₁, heq⟩ := h.openDestinationEpoch_eq hrow request now id
  rw [heq]
  rcases hdb₁ with ⟨-, rfl⟩ | ⟨current, hactive, rfl⟩
  · exact h.attach hclosed hfresh rfl rfl rfl rfl rfl hnow
  · have hinv := h.detach hrow hactive le_rfl hnow
    exact hinv.attach hclosed (detachEpoch_lookup_none hfresh) rfl rfl rfl rfl rfl le_rfl

/-- Every operation, a bootstrap that reaches back included, keeps the open epoch active. -/
lemma EpochInv.step {s s' : DestinationState} {a : DestinationAction}
    (h : EpochInv s.db s.clock) (hstep : destinationStep s a = some s') :
    EpochInv s'.db s'.clock := by
  obtain ⟨now, op⟩ := a
  unfold destinationStep at hstep
  split_ifs at hstep with hclock
  obtain ⟨t, ht, rfl⟩ := Option.map_eq_some_iff.1 hstep
  dsimp only at hclock ht ⊢
  have hstay : EpochInv s.db now := h.mono hclock.le
  cases op with
  | addUser u provider network startedAt =>
      simp only [applyDestinationOp] at ht
      split_ifs at ht with hcond
      obtain rfl := Option.some.inj ht
      exact hstay.addUser ⟨provider, network, startedAt, none⟩ hcond.1 rfl
  | setDestination u request evidence id =>
      simp only [applyDestinationOp] at ht
      split_ifs at ht with hfresh
      split at ht
      · rename_i db d hset
        obtain rfl := Option.some.inj ht
        obtain ⟨row, hrow, rfl | ⟨-, rfl⟩⟩ := setUserDestination_eq_ok hset
        · exact hstay
        · exact h.openDestinationEpoch hrow request hfresh hclock.le
      · obtain rfl := Option.some.inj ht
        exact hstay
  | closeEpoch u readAt =>
      simp only [applyDestinationOp] at ht
      split_ifs at ht with hread
      split at ht
      · rename_i db hclose
        obtain rfl := Option.some.inj ht
        obtain ⟨row, hrow, ⟨-, rfl⟩ | ⟨id, hactive, rfl⟩⟩ := closeUserDestinationEpoch_eq_ok hclose
        · exact hstay
        · exact h.detach hrow hactive hread hclock.le
      · obtain rfl := Option.some.inj ht
        exact hstay
  | networkState u account id =>
      simp only [applyDestinationOp] at ht
      split_ifs at ht with hfresh
      split at ht
      · rename_i db d hstate
        obtain rfl := Option.some.inj ht
        exact h.networkState hfresh hclock.le hstate
      · obtain rfl := Option.some.inj ht
        exact hstay
  | createJob j u binding createdAt network provider =>
      simp only [applyDestinationOp] at ht
      split_ifs at ht with hcond
      obtain rfl := Option.some.inj ht
      exact hstay
  | bindJob j account id =>
      simp only [applyDestinationOp] at ht
      split_ifs at ht with hfresh
      cases hj : s.jobs.lookup j with
      | none => simp [hj] at ht
      | some job =>
          simp only [hj, Option.some.injEq] at ht
          subst ht
          rcases bindJobToActiveDestination_cases s.db job account now id with
            ⟨ok, heq⟩ | ⟨-, db', d, hstate, hbind⟩
          · rw [heq]
            exact hstay
          · have hinv := h.networkState hfresh hclock.le hstate
            rcases hbind with heq | ⟨-, heq⟩
            · rw [heq]
              exact hinv
            · rw [heq]
              exact hinv

lemma epochInv_initial : EpochInv DestinationState.initial.db DestinationState.initial.clock := by
  refine ⟨?_, ?_, ?_, ?_, ?_⟩ <;> simp [DestinationState.initial]

/-- In every history the open epoch of a user is the active one and agrees with the user row, so
a user has at most one. -/
theorem epochInv_of_run {as : List DestinationAction} {s : DestinationState}
    (hrun : run destinationStep .initial as = some s) : EpochInv s.db s.clock :=
  run_invariant (I := fun s => EpochInv s.db s.clock) (fun _ _ _ h hstep => h.step hstep)
    epochInv_initial hrun

/-- A user links an account, unlinks it and is read again. -/
def unlinkedRun : List DestinationAction :=
  [⟨1, .addUser 0 .hyperliquid .testnet 1⟩,
   ⟨2, .setDestination 0 ⟨.hyperliquid, .testnet, some 7, some 1⟩ ⟨.unreadable, [], []⟩ 100⟩,
   ⟨4, .closeEpoch 0 3⟩,
   ⟨5, .networkState 0 (none, none) 101⟩]

theorem epochInv_of_unlinkedRun : ∃ s,
    run destinationStep .initial unlinkedRun = some s ∧ EpochInv s.db s.clock := by
  have hend : (run destinationStep .initial unlinkedRun).isSome = true := by decide +kernel
  obtain ⟨s, hrun⟩ := Option.isSome_iff_exists.1 hend
  exact ⟨s, hrun, epochInv_of_run hrun⟩

end HyperCopy

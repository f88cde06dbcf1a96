import HyperCopy.Destination.EpochHistory

/-!
# Disjoint epochs

The intervals `[started_at, ended_at)` of one user's epochs, and the binding of jobs to them,
along the histories of `EpochHistory`.  `EpochsSeparated` and `JobsInv` (one of two epochs ended
before the other started; jobs stay in the epoch that was open at their insertion) are kept by
every operation except a bootstrap that reaches back: it starts its epoch at
`network_started_at`, which after a close lies before the end of the closed epoch.

`epochs_coherent_of_bootstrapForward` is the result for the histories in which no bootstrap does
so, `bootstrap_after_close_overlaps` a history in which one does: linking, unlinking and reading
the network state.
-/

namespace HyperCopy

open Transition

/-! ## What the epochs of a history must satisfy -/

/-- **Coherent epochs.**  A user has at most one open epoch, the open epoch and the active one
are the same and agree with the user row, the intervals of one user's epochs never overlap, and
a job inserted while an epoch was open is bound to no epoch opened later. -/
structure EpochsCoherent (s : DestinationState) : Prop where
  one_open : ∀ id id' e e', s.db.epochs.lookup id = some e → s.db.epochs.lookup id' = some e' →
    e.userId = e'.userId → e.endedAt = none → e'.endedAt = none → id = id'
  open_is_active : ∀ id e, s.db.epochs.lookup id = some e → e.endedAt = none →
    ∃ row, s.db.users.lookup e.userId = some row ∧ row.activeExecutionEpochId = some id ∧
      row.executionProvider = e.provider ∧ row.executionNetwork = e.network
  active_is_open : ∀ u row id, s.db.users.lookup u = some row →
    row.activeExecutionEpochId = some id →
    ∃ e, s.db.epochs.lookup id = some e ∧ e.userId = u ∧ e.endedAt = none
  disjoint : ∀ id id' e e' t, s.db.epochs.lookup id = some e →
    s.db.epochs.lookup id' = some e' → e.userId = e'.userId → id ≠ id' →
    ¬ (e.Covers t ∧ e'.Covers t)
  job_epoch : ∀ j job opened bound eo eb, s.jobs.lookup j = some job →
    job.openEpoch = some opened → job.executionEpochId = some bound →
    s.db.epochs.lookup opened = some eo → s.db.epochs.lookup bound = some eb →
    eb.createdAt ≤ eo.createdAt

/-! ## The invariant of guarded runs -/

/-- `e` ended no later than `e'` started. -/
def ExecutionEpoch.Before (e e' : ExecutionEpoch) : Prop :=
  ∃ stop, e.endedAt = some stop ∧ stop ≤ e'.startedAt

lemma ExecutionEpoch.Before.disjoint {e e' : ExecutionEpoch} (h : e.Before e') (t : ℕ) :
    ¬ (e.Covers t ∧ e'.Covers t) := by
  obtain ⟨stop, hstop, hle⟩ := h
  rintro ⟨⟨-, hend⟩, ⟨hstart, -⟩⟩
  have := hend stop hstop
  omega

/-- Of two epochs of one user, one ended before the other started. -/
def EpochsSeparated (db : DestinationDb) : Prop :=
  ∀ id e id' e', db.epochs.lookup id = some e → db.epochs.lookup id' = some e' →
    e.userId = e'.userId → id ≠ id' → e.Before e' ∨ e'.Before e

/-- Jobs stay in their epoch: a bound job is bound to an epoch opened no later than the one that
was open at its insertion, and an unbound one is too old for every open epoch but that one. -/
structure JobsInv (db : DestinationDb) (jobs : Table JobId DestinationJob) (clock : ℕ) : Prop where
  created_le : ∀ j job, jobs.lookup j = some job → job.createdAt ≤ clock
  opened : ∀ j job o, jobs.lookup j = some job → job.openEpoch = some o →
    ∃ e, db.epochs.lookup o = some e ∧ e.userId = job.userId
  bound : ∀ j job b, jobs.lookup j = some job → job.executionEpochId = some b →
    ∃ e, db.epochs.lookup b = some e
  job_epoch : ∀ j job o b eo eb, jobs.lookup j = some job → job.openEpoch = some o →
    job.executionEpochId = some b → db.epochs.lookup o = some eo →
    db.epochs.lookup b = some eb → eb.createdAt ≤ eo.createdAt
  unbound : ∀ j job o id e, jobs.lookup j = some job → job.openEpoch = some o →
    job.unbound → db.epochs.lookup id = some e → e.userId = job.userId →
    e.endedAt = none → id ≠ o → job.createdAt < e.startedAt

lemma EpochsSeparated.detach {db : DestinationDb} (h : EpochsSeparated db) (u : UserId)
    (row : User) (id : EpochId) (now' : ℕ) : EpochsSeparated (detachEpoch db u row id now') := by
  intro i e' j f' he' hf' huser hij
  obtain ⟨e, he, hue, -, hse, hke, -⟩ := detachEpoch_row he'
  obtain ⟨f, hf, huf, -, hsf, hkf, -⟩ := detachEpoch_row hf'
  rcases h i e j f he hf (by rw [← hue, ← huf, huser]) hij with hbefore | hbefore
  · obtain ⟨stop, hstop, hle⟩ := hbefore
    exact Or.inl ⟨stop, hke stop hstop, by rw [hsf]; exact hle⟩
  · obtain ⟨stop, hstop, hle⟩ := hbefore
    exact Or.inr ⟨stop, hkf stop hstop, by rw [hse]; exact hle⟩

lemma EpochsSeparated.attach {db : DestinationDb} (h : EpochsSeparated db) {u : UserId}
    {row : User} {id : EpochId} {epoch : ExecutionEpoch} (huser : epoch.userId = u)
    (hbefore : ∀ i e, db.epochs.lookup i = some e → e.userId = u → e.Before epoch) :
    EpochsSeparated (attachEpoch db u row id epoch) := by
  intro i e j f he hf huef hij
  rw [attachEpoch, Table.lookup_insert_eq] at he hf
  split_ifs at he with hi
  · obtain rfl := Option.some.inj he
    rw [if_neg (fun hj => hij (hi.trans hj.symm))] at hf
    exact Or.inr (hbefore j f hf (huef.symm.trans huser))
  · split_ifs at hf with hj
    · obtain rfl := Option.some.inj hf
      exact Or.inl (hbefore i e he (huef.trans huser))
    · exact h i e j f he hf huef hij

lemma JobsInv.mono {db : DestinationDb} {jobs : Table JobId DestinationJob} {t t' : ℕ}
    (h : JobsInv db jobs t) (ht : t ≤ t') : JobsInv db jobs t' :=
  { h with created_le := fun j job hj => (h.created_le j job hj).trans ht }

lemma JobsInv.detach {db : DestinationDb} {jobs : Table JobId DestinationJob} {t : ℕ}
    (h : JobsInv db jobs t) (u : UserId) (row : User) (id : EpochId) (now' : ℕ) :
    JobsInv (detachEpoch db u row id now') jobs t := by
  have hrow : ∀ i e, db.epochs.lookup i = some e →
      ∃ e', (detachEpoch db u row id now').epochs.lookup i = some e' ∧ e'.userId = e.userId := by
    intro i e he
    by_cases hi : i = id
    · subst hi
      exact ⟨_, detachEpoch_lookup.2 (Or.inr ⟨rfl, e, he, rfl⟩), by simp⟩
    · exact ⟨e, detachEpoch_lookup.2 (Or.inl ⟨hi, he⟩), rfl⟩
  refine ⟨h.created_le, ?_, ?_, ?_, ?_⟩
  · intro j job o hj ho
    obtain ⟨e, he, hu⟩ := h.opened j job o hj ho
    obtain ⟨e', he', hu'⟩ := hrow o e he
    exact ⟨e', he', hu'.trans hu⟩
  · intro j job b hj hb
    obtain ⟨e, he⟩ := h.bound j job b hj hb
    obtain ⟨e', he', -⟩ := hrow b e he
    exact ⟨e', he'⟩
  · intro j job o b eo' eb' hj ho hb heo' heb'
    obtain ⟨eo, heo, -, hco, -⟩ := detachEpoch_row heo'
    obtain ⟨eb, heb, -, hcb, -⟩ := detachEpoch_row heb'
    rw [hco, hcb]
    exact h.job_epoch j job o b eo eb hj ho hb heo heb
  · intro j job o i e' hj ho hb he' hu hopen hio
    obtain ⟨e, he, hue, -, hse, -, hsame, hclosed⟩ := detachEpoch_row he'
    have hi : i ≠ id := by
      rintro rfl
      rw [hclosed rfl] at hopen
      cases hopen
    rw [hsame hi] at hu hopen ⊢
    exact h.unbound j job o i e hj ho hb he hu hopen hio

lemma JobsInv.attach {db : DestinationDb} {jobs : Table JobId DestinationJob} {t : ℕ}
    (h : JobsInv db jobs t) {u : UserId} {row : User} {id : EpochId} {epoch : ExecutionEpoch}
    (hfresh : db.epochs.lookup id = none) (huser : epoch.userId = u)
    (hjobs : ∀ j job, jobs.lookup j = some job → job.userId = u →
      job.unbound → job.openEpoch.isSome → job.createdAt < epoch.startedAt) :
    JobsInv (attachEpoch db u row id epoch) jobs t := by
  have hrow : ∀ i e, db.epochs.lookup i = some e →
      (attachEpoch db u row id epoch).epochs.lookup i = some e := by
    intro i e he
    have hi : i ≠ id := by
      rintro rfl
      rw [hfresh] at he
      cases he
    rw [attachEpoch, AList.lookup_insert_ne hi]
    exact he
  refine ⟨h.created_le, ?_, ?_, ?_, ?_⟩
  · intro j job o hj ho
    obtain ⟨e, he, hu⟩ := h.opened j job o hj ho
    exact ⟨e, hrow o e he, hu⟩
  · intro j job b hj hb
    obtain ⟨e, he⟩ := h.bound j job b hj hb
    exact ⟨e, hrow b e he⟩
  · intro j job o b eo eb hj ho hb heo heb
    obtain ⟨eo', heo', -⟩ := h.opened j job o hj ho
    obtain ⟨eb', heb'⟩ := h.bound j job b hj hb
    obtain rfl : eo' = eo := Option.some.inj ((hrow o eo' heo').symm.trans heo)
    obtain rfl : eb' = eb := Option.some.inj ((hrow b eb' heb').symm.trans heb)
    exact h.job_epoch j job o b eo' eb' hj ho hb heo' heb'
  · intro j job o i e hj ho hb he hu hopen hio
    rw [attachEpoch, Table.lookup_insert_eq] at he
    split_ifs at he with hi
    · obtain rfl := Option.some.inj he
      exact hjobs j job hj (hu.symm.trans huser) hb (by simp [ho])
    · exact h.unbound j job o i e hj ho hb he hu hopen hio

/-- The two invariants of guarded runs, next to the one of every run. -/
structure HistoryInv (s : DestinationState) : Prop where
  epochs : EpochInv s.db s.clock
  separated : EpochsSeparated s.db
  jobs : JobsInv s.db s.jobs s.clock

theorem HistoryInv.coherent {s : DestinationState} (h : HistoryInv s) : EpochsCoherent s := by
  refine ⟨?_, ?_, ?_, ?_, h.jobs.job_epoch⟩
  · intro id id' e e' he he' hu hopen hopen'
    obtain ⟨row, hrow, hactive⟩ := h.epochs.open_active id e he hopen
    obtain ⟨row', hrow', hactive'⟩ := h.epochs.open_active id' e' he' hopen'
    rw [← hu, hrow, Option.some.injEq] at hrow'
    rw [← hrow', hactive, Option.some.injEq] at hactive'
    exact hactive'
  · intro id e he hopen
    obtain ⟨row, hrow, hactive⟩ := h.epochs.open_active id e he hopen
    obtain ⟨e', he', -, -, hprovider, hnetwork⟩ := h.epochs.active_open _ row id hrow hactive
    obtain rfl : e = e' := Option.some.inj (he.symm.trans he')
    exact ⟨row, hrow, hactive, hprovider, hnetwork⟩
  · intro u row id hrow hactive
    obtain ⟨e, he, hu, hopen, -, -⟩ := h.epochs.active_open u row id hrow hactive
    exact ⟨e, he, hu, hopen⟩
  · intro id id' e e' t he he' hu hne hcovers
    rcases h.separated id e id' e' he he' hu hne with hbefore | hbefore
    · exact hbefore.disjoint t hcovers
    · exact hbefore.disjoint t hcovers.symm

/-! ## One step -/

/-- The user whose epoch an operation may bootstrap. -/
def bootstrapUser (s : DestinationState) : DestinationOp → Option UserId
  | .networkState userId _ _ => some userId
  | .bindJob jobId _ _ =>
    (s.jobs.lookup jobId).bind fun job => if job.unbound then some job.userId else none
  | _ => none

/-- The bootstrap does not reach back: the start it uses, `network_started_at`, is not before the
end of an epoch the user already had, nor before an unbound job inserted during one. -/
def BootstrapForward (s : DestinationState) (a : DestinationAction) : Prop :=
  ∀ u row, bootstrapUser s a.op = some u → s.db.users.lookup u = some row →
    row.activeExecutionEpochId = none →
    (∀ id e, s.db.epochs.lookup id = some e → e.userId = u →
      ∃ stop, e.endedAt = some stop ∧ stop ≤ row.networkStartedAt) ∧
    ∀ j job, s.jobs.lookup j = some job → job.userId = u → job.unbound →
      job.openEpoch.isSome → job.createdAt < row.networkStartedAt

lemma HistoryInv.detach {s : DestinationState} (h : HistoryInv s) {u : UserId} {row : User}
    (hrow : s.db.users.lookup u = some row) {id : EpochId}
    (hactive : row.activeExecutionEpochId = some id) {now' now : ℕ} (hle : now' ≤ now)
    (hnow : s.clock ≤ now) : HistoryInv ⟨detachEpoch s.db u row id now', s.jobs, now⟩ where
  epochs := h.epochs.detach hrow hactive hle hnow
  separated := h.separated.detach u row id now'
  jobs := (h.jobs.detach u row id now').mono hnow

lemma HistoryInv.attach {s : DestinationState} (h : HistoryInv s) {u : UserId} {row : User}
    {id : EpochId} (epoch : ExecutionEpoch) (hfresh : s.db.epochs.lookup id = none)
    (huser : epoch.userId = u) (hopen : epoch.endedAt = none)
    (hprovider : row.executionProvider = epoch.provider)
    (hnetwork : row.executionNetwork = epoch.network) (hclock : s.clock ≤ epoch.createdAt)
    (hbefore : ∀ i e, s.db.epochs.lookup i = some e → e.userId = u → e.Before epoch)
    (hjobs : ∀ j job, s.jobs.lookup j = some job → job.userId = u → job.unbound →
      job.openEpoch.isSome → job.createdAt < epoch.startedAt) :
    HistoryInv ⟨attachEpoch s.db u row id epoch, s.jobs, epoch.createdAt⟩ where
  epochs := by
    have hclosed : EpochsClosed s.db u := fun i e he hu =>
      (hbefore i e he hu).imp fun _ hstop => hstop.1
    exact h.epochs.attach hclosed hfresh huser hopen hprovider hnetwork rfl hclock
  separated := h.separated.attach huser hbefore
  jobs := (h.jobs.attach hfresh huser hjobs).mono hclock

/-- Reading the destination, with a bootstrap that does not reach back. -/
lemma HistoryInv.networkState {s : DestinationState} (h : HistoryInv s) {u : UserId}
    {account : Option AccountAddress × Option ℕ} {now : ℕ} {id : EpochId} {db' : DestinationDb}
    {d : UserDestinationState} (hfresh : s.db.epochs.lookup id = none) (hnow : s.clock ≤ now)
    (hforward : ∀ row, s.db.users.lookup u = some row → row.activeExecutionEpochId = none →
      (∀ i e, s.db.epochs.lookup i = some e → e.userId = u →
        ∃ stop, e.endedAt = some stop ∧ stop ≤ row.networkStartedAt) ∧
      ∀ j job, s.jobs.lookup j = some job → job.userId = u → job.unbound →
        job.openEpoch.isSome → job.createdAt < row.networkStartedAt)
    (hstate : userNetworkState s.db u account now id = .ok (db', d)) :
    HistoryInv ⟨db', s.jobs, now⟩ ∧ userDestinationState db' u = .ok d := by
  rcases userNetworkState_eq_ok hstate with ⟨rfl, hd⟩ | ⟨row, hrow, hactive, rfl, rfl⟩
  · exact ⟨⟨h.epochs.mono hnow, h.separated, h.jobs.mono hnow⟩, hd⟩
  · obtain ⟨hended, hjobs⟩ := hforward row hrow hactive
    refine ⟨h.attach (bootstrapEpoch u row account now) hfresh rfl rfl rfl rfl hnow
      hended hjobs, ?_⟩
    refine userDestinationState_eq_ok.2 ⟨{ row with activeExecutionEpochId := some id },
      bootstrapEpoch u row account now, ?_, rfl, ?_, rfl, rfl, rfl, rfl, rfl, rfl⟩
    · simp [attachEpoch]
    · simp [attachEpoch]

/-- A granted request: the open epoch ends at the instant the new one starts. -/
lemma HistoryInv.openDestinationEpoch {s : DestinationState} (h : HistoryInv s) {u : UserId}
    {row : User} (hrow : s.db.users.lookup u = some row) (request : DestinationRequest)
    {now : ℕ} {id : EpochId} (hfresh : s.db.epochs.lookup id = none) (hnow : s.clock < now) :
    HistoryInv ⟨openDestinationEpoch s.db u row request now id, s.jobs, now⟩ := by
  obtain ⟨db₁, hclosed, hdb₁, heq⟩ := h.epochs.openDestinationEpoch_eq hrow request now id
  have hinv : HistoryInv ⟨db₁, s.jobs, now⟩ ∧ db₁.epochs.lookup id = none := by
    rcases hdb₁ with ⟨-, rfl⟩ | ⟨current, hactive, rfl⟩
    · exact ⟨⟨h.epochs.mono hnow.le, h.separated, h.jobs.mono hnow.le⟩, hfresh⟩
    · exact ⟨h.detach hrow hactive le_rfl hnow.le, detachEpoch_lookup_none hfresh⟩
  rw [heq]
  refine hinv.1.attach (requestedEpoch u request now) hinv.2 rfl rfl rfl rfl le_rfl ?_ ?_
  · intro i e he hu
    obtain ⟨stop, hstop⟩ := hclosed i e he hu
    exact ⟨stop, hstop, hinv.1.epochs.ended_le i e stop he hstop⟩
  · intro j job hj _ _ _
    have := h.jobs.created_le j job hj
    show job.createdAt < now
    omega

lemma HistoryInv.addUser {s : DestinationState} (h : HistoryInv s) {u : UserId} (row : User)
    (hfresh : s.db.users.lookup u = none) (hactive : row.activeExecutionEpochId = none) {now : ℕ}
    (hnow : s.clock ≤ now) :
    HistoryInv ⟨{ s.db with users := s.db.users.insert u row }, s.jobs, now⟩ where
  epochs := (h.epochs.mono hnow).addUser row hfresh hactive
  separated := h.separated
  jobs := { h.jobs.mono hnow with }

/-- Inserting a job, unbound or bound to an epoch of its user. -/
lemma HistoryInv.createJob {s : DestinationState} (h : HistoryInv s) {j : JobId} {u : UserId}
    {binding : Option (EpochId × ExecutionEpoch)} {createdAt now : ℕ} {network provider}
    (hcreated : createdAt ≤ now) (hnow : s.clock ≤ now)
    (hbinding : ∀ b ∈ binding, s.db.epochs.lookup b.1 = some b.2 ∧ b.2.userId = u) :
    HistoryInv ⟨s.db, s.jobs.insert j (newJob s.db u binding createdAt network provider), now⟩ := by
  have hopenEpoch : ∀ o, activeEpochId s.db u = some o →
      ∃ e, s.db.epochs.lookup o = some e ∧ e.userId = u ∧ e.endedAt = none := by
    intro o ho
    obtain ⟨row, hrow, hactive⟩ := Option.bind_eq_some_iff.1 ho
    obtain ⟨e, he, hu, hopen, -, -⟩ := h.epochs.active_open u row o hrow hactive
    exact ⟨e, he, hu, hopen⟩
  have hjobs := h.jobs.mono hnow
  refine ⟨h.epochs.mono hnow, h.separated, ?_, ?_, ?_, ?_, ?_⟩
  · intro j' job hj
    rw [Table.lookup_insert_eq] at hj
    split_ifs at hj with hjj
    · obtain rfl := Option.some.inj hj
      exact hcreated
    · exact hjobs.created_le j' job hj
  · intro j' job o hj ho
    rw [Table.lookup_insert_eq] at hj
    split_ifs at hj with hjj
    · obtain rfl := Option.some.inj hj
      obtain ⟨e, he, hu, -⟩ := hopenEpoch o ho
      exact ⟨e, he, hu⟩
    · exact hjobs.opened j' job o hj ho
  · intro j' job b hj hb
    rw [Table.lookup_insert_eq] at hj
    split_ifs at hj with hjj
    · obtain rfl := Option.some.inj hj
      obtain ⟨p, hp, rfl⟩ := Option.map_eq_some_iff.1 hb
      exact ⟨p.2, (hbinding p hp).1⟩
    · exact hjobs.bound j' job b hj hb
  · intro j' job o b eo eb hj ho hb heo heb
    rw [Table.lookup_insert_eq] at hj
    split_ifs at hj with hjj
    · obtain rfl := Option.some.inj hj
      obtain ⟨p, hp, rfl⟩ := Option.map_eq_some_iff.1 hb
      obtain ⟨e, he, hu, hopen⟩ := hopenEpoch o ho
      obtain rfl : e = eo := Option.some.inj (he.symm.trans heo)
      obtain ⟨hpb, hpu⟩ := hbinding p hp
      obtain rfl : p.2 = eb := Option.some.inj (hpb.symm.trans heb)
      exact h.epochs.open_latest o e p.1 p.2 he hpb (hu.trans hpu.symm) hopen
    · exact hjobs.job_epoch j' job o b eo eb hj ho hb heo heb
  · intro j' job o id e hj ho hb he hu hopen hid
    rw [Table.lookup_insert_eq] at hj
    split_ifs at hj with hjj
    · obtain rfl := Option.some.inj hj
      obtain ⟨row, hrow, hactive⟩ := h.epochs.open_active id e he hopen
      rw [hu] at hrow
      have : activeEpochId s.db u = some id := Option.bind_eq_some_iff.2 ⟨row, hrow, hactive⟩
      exact absurd (Option.some.inj (this.symm.trans ho)) hid
    · exact hjobs.unbound j' job o id e hj ho hb he hu hopen hid

/-- Writing a job back unchanged. -/
lemma HistoryInv.writeBack {s : DestinationState} (h : HistoryInv s) {j : JobId}
    {job : DestinationJob} (hj : s.jobs.lookup j = some job) :
    HistoryInv ⟨s.db, s.jobs.insert j job, s.clock⟩ := by
  have hsame : ∀ i, (s.jobs.insert j job).lookup i = s.jobs.lookup i := by
    intro i
    rw [Table.lookup_insert_eq]
    split_ifs with hi
    · rw [hi, hj]
    · rfl
  refine ⟨h.epochs, h.separated, ⟨?_, ?_, ?_, ?_, ?_⟩⟩ <;> simp only [hsame]
  · exact h.jobs.created_le
  · exact h.jobs.opened
  · exact h.jobs.bound
  · exact h.jobs.job_epoch
  · exact h.jobs.unbound

/-- Binding an unbound job to the destination it was created in. -/
lemma HistoryInv.bind {s : DestinationState} (h : HistoryInv s) {j : JobId}
    {job job' : DestinationJob} {d : UserDestinationState} (hj : s.jobs.lookup j = some job)
    (hunbound : job.unbound) (hd : userDestinationState s.db job.userId = .ok d)
    (hstarted : d.startedAt ≤ job.createdAt) (huser : job'.userId = job.userId)
    (hcreated : job'.createdAt = job.createdAt) (hopened : job'.openEpoch = job.openEpoch)
    (hbound : job'.executionEpochId = some d.epochId) :
    HistoryInv ⟨s.db, s.jobs.insert j job', s.clock⟩ := by
  obtain ⟨row, epoch, hrow, hactive, hepoch, hopen, -, -, -, -, hstart⟩ :=
    userDestinationState_eq_ok.1 hd
  obtain ⟨e', he', hu, -⟩ := h.epochs.active_open _ row _ hrow hactive
  obtain rfl : epoch = e' := Option.some.inj (hepoch.symm.trans he')
  refine ⟨h.epochs, h.separated, ?_, ?_, ?_, ?_, ?_⟩
  · intro i job₁ hi
    rw [Table.lookup_insert_eq] at hi
    split_ifs at hi with hij
    · obtain rfl := Option.some.inj hi
      rw [hcreated]
      exact h.jobs.created_le j job hj
    · exact h.jobs.created_le i job₁ hi
  · intro i job₁ o hi ho
    rw [Table.lookup_insert_eq] at hi
    split_ifs at hi with hij
    · obtain rfl := Option.some.inj hi
      rw [huser]
      exact h.jobs.opened j job o hj (hopened ▸ ho)
    · exact h.jobs.opened i job₁ o hi ho
  · intro i job₁ b hi hb
    rw [Table.lookup_insert_eq] at hi
    split_ifs at hi with hij
    · obtain rfl := Option.some.inj hi
      rw [hbound, Option.some.injEq] at hb
      exact ⟨epoch, hb ▸ hepoch⟩
    · exact h.jobs.bound i job₁ b hi hb
  · intro i job₁ o b eo eb hi ho hb heo heb
    rw [Table.lookup_insert_eq] at hi
    split_ifs at hi with hij
    · obtain rfl := Option.some.inj hi
      rw [hbound, Option.some.injEq] at hb
      subst hb
      -- an open epoch other than the job's own would have started after the job
      have ho' : d.epochId = o := by
        by_contra hne
        have := h.jobs.unbound j job o d.epochId epoch hj (hopened ▸ ho) hunbound hepoch hu
          hopen hne
        omega
      subst ho'
      rw [heo, Option.some.injEq] at heb
      rw [heb]
    · exact h.jobs.job_epoch i job₁ o b eo eb hi ho hb heo heb
  · intro i job₁ o id e hi ho hb he hue hope hid
    rw [Table.lookup_insert_eq] at hi
    split_ifs at hi with hij
    · obtain rfl := Option.some.inj hi
      simp [DestinationJob.unbound, hbound] at hb
    · exact h.jobs.unbound i job₁ o id e hi ho hb he hue hope hid

/-- **Step lemma.**  Every operation keeps the history invariant, provided a bootstrap does not
reach back. -/
theorem HistoryInv.step {s s' : DestinationState} {a : DestinationAction} (h : HistoryInv s)
    (hforward : BootstrapForward s a) (hstep : destinationStep s a = some s') :
    HistoryInv s' := by
  obtain ⟨now, op⟩ := a
  unfold destinationStep at hstep
  split_ifs at hstep with hclock
  obtain ⟨t, ht, rfl⟩ := Option.map_eq_some_iff.1 hstep
  dsimp only at hclock ht hforward ⊢
  have hstay : HistoryInv { s with clock := now } :=
    ⟨h.epochs.mono hclock.le, h.separated, h.jobs.mono hclock.le⟩
  cases op with
  | addUser u provider network startedAt =>
      simp only [applyDestinationOp] at ht
      split_ifs at ht with hcond
      obtain rfl := Option.some.inj ht
      exact h.addUser ⟨provider, network, startedAt, none⟩ hcond.1 rfl hclock.le
  | setDestination u request evidence id =>
      simp only [applyDestinationOp] at ht
      split_ifs at ht with hfresh
      split at ht
      · rename_i db d hset
        obtain rfl := Option.some.inj ht
        obtain ⟨row, hrow, rfl | ⟨-, rfl⟩⟩ := setUserDestination_eq_ok hset
        · exact hstay
        · exact h.openDestinationEpoch hrow request hfresh hclock
      · obtain rfl := Option.some.inj ht
        exact hstay
  | closeEpoch u readAt =>
      simp only [applyDestinationOp] at ht
      split_ifs at ht with hread
      split at ht
      · rename_i db hclose
        obtain rfl := Option.some.inj ht
        obtain ⟨row, hrow, ⟨-, rfl⟩ | ⟨id, hactive, rfl⟩⟩ := closeUserDestinationEpoch_eq_ok hclose
        · exact hstay
        · exact h.detach hrow hactive hread hclock.le
      · obtain rfl := Option.some.inj ht
        exact hstay
  | networkState u account id =>
      simp only [applyDestinationOp] at ht
      split_ifs at ht with hfresh
      split at ht
      · rename_i db d hstate
        obtain rfl := Option.some.inj ht
        exact (h.networkState hfresh hclock.le
          (fun row hrow hactive => hforward u row rfl hrow hactive) hstate).1
      · obtain rfl := Option.some.inj ht
        exact hstay
  | createJob j u binding createdAt network provider =>
      simp only [applyDestinationOp] at ht
      split_ifs at ht with hcond
      obtain rfl := Option.some.inj ht
      exact h.createJob hcond.2.1 hclock.le hcond.2.2
  | bindJob j account id =>
      simp only [applyDestinationOp] at ht
      split_ifs at ht with hfresh
      cases hj : s.jobs.lookup j with
      | none => simp [hj] at ht
      | some job =>
          simp only [hj, Option.some.injEq] at ht
          subst ht
          rcases bindJobToActiveDestination_cases s.db job account now id with
            ⟨ok, heq⟩ | ⟨hunbound, db', d, hstate, hbind⟩
          · rw [heq]
            exact hstay.writeBack hj
          · have hforward' : ∀ row, s.db.users.lookup job.userId = some row →
                row.activeExecutionEpochId = none → _ := fun row hrow hactive =>
              hforward job.userId row (by simp [bootstrapUser, hj, hunbound]) hrow hactive
            obtain ⟨hinv, hd⟩ := h.networkState hfresh hclock.le hforward' hstate
            rcases hbind with heq | ⟨hstarted, heq⟩
            · rw [heq]
              exact hinv.writeBack hj
            · rw [heq]
              exact hinv.bind hj hunbound hd hstarted rfl rfl rfl rfl

/-! ## Results about whole histories -/

lemma historyInv_initial : HistoryInv .initial := by
  refine ⟨epochInv_initial, ?_, ⟨?_, ?_, ?_, ?_, ?_⟩⟩ <;>
    simp [DestinationState.initial, EpochsSeparated]

/-- **Epochs are disjoint and jobs stay in theirs**, in every history in which no bootstrap
starts an epoch before the end of one the user already had. -/
theorem epochs_coherent_of_bootstrapForward {as : List DestinationAction} {s : DestinationState}
    (hmeets : RunMeets destinationStep BootstrapForward .initial as)
    (hrun : run destinationStep .initial as = some s) : EpochsCoherent s :=
  (run_invariant_of_meets (fun _ _ _ h hG hstep => h.step hG hstep) historyInv_initial hmeets
    hrun).coherent

/-- A legacy user: a job from before the schema, the first bootstrap, the binding of the job, a
credential link and its rotation. -/
def legacyUserRun : List DestinationAction :=
  [⟨1, .addUser 0 .hyperliquid .testnet 1⟩,
   ⟨2, .createJob 0 0 none 2 .absent .absent⟩,
   ⟨3, .networkState 0 (none, none) 100⟩,
   ⟨4, .bindJob 0 (none, none) 101⟩,
   ⟨5, .setDestination 0 ⟨.hyperliquid, .testnet, some 7, some 1⟩ ⟨.unreadable, [], []⟩ 101⟩,
   ⟨6, .setDestination 0 ⟨.hyperliquid, .testnet, some 7, some 2⟩ ⟨.unreadable, [], []⟩ 102⟩]

theorem epochs_coherent_legacyUserRun : ∃ s,
    run destinationStep .initial legacyUserRun = some s ∧ EpochsCoherent s := by
  have hnone : ∀ s a, bootstrapUser s a.op = none → BootstrapForward s a := by
    intro s a h u row hu
    rw [h] at hu
    cases hu
  have hmeets : RunMeets destinationStep BootstrapForward .initial legacyUserRun := by
    refine .cons (hnone _ _ rfl) rfl (.cons (hnone _ _ rfl) rfl (.cons ?_ rfl (.cons ?_ rfl
      (.cons (hnone _ _ rfl) rfl (.cons (hnone _ _ rfl) rfl trivial)))))
    · intro u row _ _ _
      refine ⟨fun id e he _ => (by cases he), fun j job hj _ _ ho => ?_⟩
      -- the only job was inserted while no epoch was open
      rcases Table.lookup_insert_cases hj with ⟨-, rfl⟩ | hj'
      · cases ho
      · cases hj'
    · intro u row hu hrow hactive
      cases hu
      cases hrow
      cases hactive
  exact ⟨_, rfl, epochs_coherent_of_bootstrapForward hmeets rfl⟩

/-- Link at 10, unlink at 20, bootstrap from the link's start, and bind a job of 15. -/
def relinkRun : List DestinationAction :=
  [⟨1, .addUser 0 .hyperliquid .testnet 1⟩,
   ⟨10, .setDestination 0 ⟨.hyperliquid, .testnet, some 7, some 1⟩ ⟨.unreadable, [], []⟩ 100⟩,
   ⟨15, .createJob 0 0 none 15 .absent .absent⟩,
   ⟨20, .closeEpoch 0 20⟩,
   ⟨25, .networkState 0 (none, none) 101⟩,
   ⟨30, .bindJob 0 (none, none) 102⟩]

/-- A bootstrap after a close reaches back: the new epoch covers an instant of the closed one, and
the job inserted then is bound to it. -/
theorem bootstrap_after_close_overlaps : ∃ s e e' job,
    run destinationStep .initial relinkRun = some s ∧
    s.db.epochs.lookup 100 = some e ∧ s.db.epochs.lookup 101 = some e' ∧
    e.userId = e'.userId ∧ e.Covers 15 ∧ e'.Covers 15 ∧
    s.jobs.lookup 0 = some job ∧ job.openEpoch = some 100 ∧ job.executionEpochId = some 101 ∧
    ¬ EpochsCoherent s := by
  refine ⟨_, _, _, _, rfl, rfl, rfl, rfl, ?_, ?_, rfl, rfl, rfl, ?_⟩
  · exact ⟨by decide, by rintro _ ⟨⟩; decide⟩
  · exact ⟨by decide, by rintro _ ⟨⟩⟩
  · intro h
    have := h.job_epoch 0 _ 100 101 _ _ rfl rfl rfl rfl rfl
    exact absurd this (by decide)

end HyperCopy

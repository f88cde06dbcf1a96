import HyperCopy.Destination.Evolution
import HyperCopy.Destination.Relink

/-!
# The start of a user's destination along a history

`network_started_at` of a user row is the start of the active epoch, moves only forward, and only
to an instant later than everything created so far.  So a job that is too old for the destination
of its user stays too old, and an unchanged start shows the same jobs (`DestinationInv.step`,
`destinationStep_users`).
-/

namespace HyperCopy

open Transition

/-- What every operation keeps of the users: nobody disappears, and a start that moves moves
past the clock. -/
def UsersEvolve (clock : ℕ) (db db' : DestinationDb) : Prop :=
  ∀ u row, db.users.lookup u = some row → ∃ row', db'.users.lookup u = some row' ∧
    (row'.networkStartedAt = row.networkStartedAt ∨ clock < row'.networkStartedAt)

lemma UsersEvolve.refl (clock : ℕ) (db : DestinationDb) : UsersEvolve clock db db :=
  fun _ row hrow => ⟨row, hrow, Or.inl rfl⟩

lemma UsersEvolve.insert {clock : ℕ} {db : DestinationDb} {u : UserId} {row : User} (row' : User)
    (hrow : db.users.lookup u = some row)
    (hstart : row'.networkStartedAt = row.networkStartedAt ∨ clock < row'.networkStartedAt)
    (epochs : Table EpochId ExecutionEpoch) :
    UsersEvolve clock db ⟨db.users.insert u row', epochs⟩ := by
  intro v old hv
  by_cases hvu : v = u
  · subst hvu
    obtain rfl : row = old := Option.some.inj (hrow.symm.trans hv)
    exact ⟨row', AList.lookup_insert _, hstart⟩
  · exact ⟨old, by rw [AList.lookup_insert_ne hvu]; exact hv, Or.inl rfl⟩

lemma usersEvolve_networkState {clock : ℕ} {db db' : DestinationDb} {u : UserId}
    {account : Option AccountAddress × Option ℕ} {now : ℕ} {id : EpochId}
    {d : UserDestinationState} (h : userNetworkState db u account now id = .ok (db', d)) :
    UsersEvolve clock db db' := by
  rcases userNetworkState_eq_ok h with ⟨rfl, -⟩ | ⟨row, hrow, -, rfl, -⟩
  · exact .refl clock db'
  · exact UsersEvolve.insert { row with activeExecutionEpochId := some id } hrow (Or.inl rfl) _

lemma usersEvolve_open {clock now : ℕ} {db : DestinationDb} {u : UserId} {row : User}
    {request : DestinationRequest} {id : EpochId} (hrow : db.users.lookup u = some row)
    (hclock : clock < now) : UsersEvolve clock db (openDestinationEpoch db u row request now id) :=
  UsersEvolve.insert { requestedUser request row now with activeExecutionEpochId := some id } hrow
    (Or.inr hclock) _

lemma DestinationInv.closeEarlier {db db' : DestinationDb} {t t' now : ℕ}
    (h : DestinationInv db t) {u : UserId} (hnow : now ≤ t') (ht : t ≤ t')
    (hclose : closeUserDestinationEpoch db u now = .ok db') : DestinationInv db' t' := by
  obtain ⟨row, hrow, ⟨-, rfl⟩ | ⟨id, hactive, rfl⟩⟩ := closeUserDestinationEpoch_eq_ok hclose
  · exact h.mono ht
  · exact h.detach hrow hactive hnow ht

/-- Every operation keeps the tables' invariant and the users, up to a start that moves past the
clock. -/
theorem DestinationInv.step {s s' : DestinationState} {a : DestinationAction}
    (h : DestinationInv s.db s.clock) (hstep : destinationStep s a = some s') :
    DestinationInv s'.db s'.clock ∧ UsersEvolve s.clock s.db s'.db := by
  obtain ⟨now, op⟩ := a
  unfold destinationStep at hstep
  split_ifs at hstep with hclock
  obtain ⟨t, ht, rfl⟩ := Option.map_eq_some_iff.1 hstep
  dsimp only at hclock ht ⊢
  have hstay : DestinationInv s.db now ∧ UsersEvolve s.clock s.db s.db :=
    ⟨h.mono hclock.le, .refl _ _⟩
  cases op with
  | addUser u provider network startedAt =>
      simp only [applyDestinationOp] at ht
      split_ifs at ht with hcond
      obtain rfl := Option.some.inj ht
      refine ⟨hstay.1.addUser _ hcond.1 rfl, fun v row hv => ⟨row, ?_, Or.inl rfl⟩⟩
      have hvu : v ≠ u := by
        rintro rfl
        rw [hcond.1] at hv
        cases hv
      show (s.db.users.insert u _).lookup v = some row
      rw [AList.lookup_insert_ne hvu]
      exact hv
  | setDestination u request evidence id =>
      simp only [applyDestinationOp] at ht
      split_ifs at ht with hfresh
      split at ht
      · rename_i db d hset
        obtain rfl := Option.some.inj ht
        obtain ⟨hinv, -⟩ := h.setUserDestination hfresh hclock.le hset
        refine ⟨hinv, ?_⟩
        obtain ⟨row, hrow, rfl | ⟨-, rfl⟩⟩ := setUserDestination_eq_ok hset
        · exact .refl _ _
        · exact usersEvolve_open hrow hclock
      · obtain rfl := Option.some.inj ht
        exact hstay
  | closeEpoch u readAt =>
      simp only [applyDestinationOp] at ht
      split_ifs at ht with hread
      split at ht
      · rename_i db hclose
        obtain rfl := Option.some.inj ht
        refine ⟨h.closeEarlier hread hclock.le hclose, ?_⟩
        obtain ⟨row, hrow, ⟨-, rfl⟩ | ⟨id, hactive, rfl⟩⟩ := closeUserDestinationEpoch_eq_ok hclose
        · exact .refl _ _
        · exact UsersEvolve.insert { row with activeExecutionEpochId := none } hrow (Or.inl rfl) _
      · obtain rfl := Option.some.inj ht
        exact hstay
  | networkState u account id =>
      simp only [applyDestinationOp] at ht
      split_ifs at ht with hfresh
      split at ht
      · rename_i db d hstate
        obtain rfl := Option.some.inj ht
        exact ⟨(h.networkState hfresh hclock.le hstate).1, usersEvolve_networkState hstate⟩
      · obtain rfl := Option.some.inj ht
        exact hstay
  | createJob j u binding createdAt network provider =>
      simp only [applyDestinationOp] at ht
      split_ifs at ht with hcond
      obtain rfl := Option.some.inj ht
      exact hstay
  | bindJob j account id =>
      simp only [applyDestinationOp] at ht
      split_ifs at ht with hfresh
      cases hj : s.jobs.lookup j with
      | none => simp [hj] at ht
      | some job =>
          simp only [hj, Option.some.injEq] at ht
          subst ht
          rcases bindJobToActiveDestination_cases s.db job account now id with
            ⟨ok, heq⟩ | ⟨-, db', d, hstate, hbind⟩
          · rw [heq]
            exact hstay
          · have hinv := (h.networkState hfresh hclock.le hstate).1
            have husers : UsersEvolve s.clock s.db db' := usersEvolve_networkState hstate
            rcases hbind with heq | ⟨-, heq⟩
            · rw [heq]
              exact ⟨hinv, husers⟩
            · rw [heq]
              exact ⟨hinv, husers⟩

/-! ## The invariant of histories with jobs -/

/-- The tables' invariant, with the jobs: a bound job is bound to an epoch of its own user, and no
job was created in the future. -/
structure JobHistoryInv (s : DestinationState) : Prop where
  db : DestinationInv s.db s.clock
  bound : JobsBound s
  created_le : ∀ j job, s.jobs.lookup j = some job → job.createdAt ≤ s.clock

/-- A job after an operation was there before it, with the same creation time, or was created by
it. -/
lemma destinationStep_createdAt {s s' : DestinationState} {a : DestinationAction}
    (hstep : destinationStep s a = some s') {j : JobId} {job' : DestinationJob}
    (hjob' : s'.jobs.lookup j = some job') :
    (∃ job, s.jobs.lookup j = some job) ∨ job'.createdAt ≤ s'.clock := by
  by_cases hpresent : ∃ job, s.jobs.lookup j = some job
  · exact Or.inl hpresent
  · refine Or.inr ?_
    obtain ⟨now, op⟩ := a
    unfold destinationStep at hstep
    split_ifs at hstep with hclock
    obtain ⟨t, ht, rfl⟩ := Option.map_eq_some_iff.1 hstep
    have hsame : t.jobs ≠ s.jobs := by
      intro heq
      exact hpresent ⟨job', by rw [← heq]; exact hjob'⟩
    dsimp only at ht
    cases op with
    | addUser u provider network startedAt =>
        simp only [applyDestinationOp] at ht
        split_ifs at ht
        obtain rfl := Option.some.inj ht
        exact absurd rfl hsame
    | setDestination u request evidence id =>
        simp only [applyDestinationOp] at ht
        split_ifs at ht
        split at ht <;> (obtain rfl := Option.some.inj ht; exact absurd rfl hsame)
    | closeEpoch u readAt =>
        simp only [applyDestinationOp] at ht
        split_ifs at ht
        split at ht <;> (obtain rfl := Option.some.inj ht; exact absurd rfl hsame)
    | networkState u account id =>
        simp only [applyDestinationOp] at ht
        split_ifs at ht
        split at ht <;> (obtain rfl := Option.some.inj ht; exact absurd rfl hsame)
    | createJob k u binding createdAt network provider =>
        simp only [applyDestinationOp] at ht
        split_ifs at ht with hcond
        obtain rfl := Option.some.inj ht
        rcases Table.lookup_insert_cases hjob' with ⟨-, rfl⟩ | hold
        · exact hcond.2.1
        · exact absurd ⟨job', hold⟩ hpresent
    | bindJob k account id =>
        simp only [applyDestinationOp] at ht
        split_ifs at ht
        cases hk : s.jobs.lookup k with
        | none => simp [hk] at ht
        | some job =>
            simp only [hk, Option.some.injEq] at ht
            subst ht
            rcases Table.lookup_insert_cases hjob' with ⟨rfl, -⟩ | hold
            · exact absurd ⟨job, hk⟩ hpresent
            · exact absurd ⟨job', hold⟩ hpresent

lemma destinationStep_clock {s s' : DestinationState} {a : DestinationAction}
    (hstep : destinationStep s a = some s') : s.clock < s'.clock := by
  unfold destinationStep at hstep
  split_ifs at hstep with hclock
  obtain ⟨t, -, rfl⟩ := Option.map_eq_some_iff.1 hstep
  exact hclock

theorem JobHistoryInv.step {s s' : DestinationState} {a : DestinationAction} (h : JobHistoryInv s)
    (hstep : destinationStep s a = some s') : JobHistoryInv s' where
  db := (h.db.step hstep).1
  bound := h.bound.step h.db.toEpochInv hstep
  created_le j job' hjob' := by
    rcases destinationStep_createdAt hstep hjob' with ⟨job, hjob⟩ | hle
    · obtain ⟨job₁, hjob₁, hevolves⟩ := (destinationStep_evolves hstep).jobs j job hjob
      obtain rfl : job₁ = job' := Option.some.inj (hjob₁.symm.trans hjob')
      have hle := h.created_le j job hjob
      have hclock := destinationStep_clock hstep
      rw [hevolves.createdAt]
      omega
    · exact hle

lemma jobHistoryInv_initial : JobHistoryInv DestinationState.initial where
  db := { epochInv_initial with starts := by simp [DestinationState.initial] }
  bound := by simp [JobsBound, DestinationState.initial]
  created_le := by simp [DestinationState.initial]

end HyperCopy

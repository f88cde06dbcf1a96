import HyperCopy.Destination.EpochHistory

/-!
# What a destination operation leaves alone

Epochs are never removed, keep their owner, destination and start, and stay closed once they
are; jobs keep their owner, creation time and network evidence, and stay bound once they are.
`EvolvesTo` collects this for one operation; a job is only ever bound to an epoch of its own
user (`JobsBound`), so a job whose epoch is not the active one is bound to a closed epoch
(`epoch_closed_of_ne_active`).
-/

namespace HyperCopy

open Transition

/-! ## One operation -/

/-- What every operation keeps of an epoch. -/
structure ExecutionEpoch.EvolvesTo (e e' : ExecutionEpoch) : Prop where
  userId : e'.userId = e.userId
  provider : e'.provider = e.provider
  network : e'.network = e.network
  startedAt : e'.startedAt = e.startedAt
  closed : e.endedAt ≠ none → e'.endedAt ≠ none

/-- What every operation keeps of a job. -/
structure DestinationJob.EvolvesTo (job job' : DestinationJob) : Prop where
  userId : job'.userId = job.userId
  createdAt : job'.createdAt = job.createdAt
  network : job'.followerNetworkText = job.followerNetworkText
  bound : ∀ id, job.executionEpochId = some id → job'.executionEpochId = some id

/-- What steps can make of the rows. -/
structure DestinationState.EvolvesTo (s s' : DestinationState) : Prop where
  epochs : ∀ id e, s.db.epochs.lookup id = some e →
    ∃ e', s'.db.epochs.lookup id = some e' ∧ e.EvolvesTo e'
  jobs : ∀ j job, s.jobs.lookup j = some job →
    ∃ job', s'.jobs.lookup j = some job' ∧ job.EvolvesTo job'

lemma ExecutionEpoch.EvolvesTo.refl (e : ExecutionEpoch) : e.EvolvesTo e :=
  ⟨rfl, rfl, rfl, rfl, id⟩

lemma ExecutionEpoch.EvolvesTo.trans {e e' e'' : ExecutionEpoch} (h : e.EvolvesTo e')
    (h' : e'.EvolvesTo e'') : e.EvolvesTo e'' :=
  ⟨h'.userId.trans h.userId, h'.provider.trans h.provider, h'.network.trans h.network,
    h'.startedAt.trans h.startedAt, fun hclosed => h'.closed (h.closed hclosed)⟩

lemma DestinationJob.EvolvesTo.refl (job : DestinationJob) : job.EvolvesTo job :=
  ⟨rfl, rfl, rfl, fun _ hid => hid⟩

lemma ExecutionEpoch.close_evolves (e : ExecutionEpoch) (now : ℕ) : e.EvolvesTo (e.close now) := by
  unfold ExecutionEpoch.close
  split
  · exact ⟨rfl, rfl, rfl, rfl, fun _ => by simp⟩
  · exact .refl e

/-- Epochs of a table and of the table a database operation leaves. -/
def EpochsEvolve (db db' : DestinationDb) : Prop :=
  ∀ id e, db.epochs.lookup id = some e → ∃ e', db'.epochs.lookup id = some e' ∧ e.EvolvesTo e'

lemma EpochsEvolve.refl (db : DestinationDb) : EpochsEvolve db db :=
  fun _ e he => ⟨e, he, .refl e⟩

lemma epochsEvolve_close (db : DestinationDb) (users : Table UserId User) (closed : EpochId)
    (now : ℕ) :
    EpochsEvolve db ⟨users, Table.modify db.epochs closed fun e => e.close now⟩ := by
  intro id e he
  show ∃ e', (Table.modify db.epochs closed _).lookup id = some e' ∧ _
  rw [Table.lookup_modify]
  split_ifs with hid
  · subst hid
    rw [he]
    exact ⟨e.close now, rfl, e.close_evolves now⟩
  · exact ⟨e, he, .refl e⟩

lemma epochsEvolve_attach {db : DestinationDb} {u : UserId} {row : User} {id : EpochId}
    {epoch : ExecutionEpoch} (hfresh : db.epochs.lookup id = none) :
    EpochsEvolve db (attachEpoch db u row id epoch) := by
  intro id' e he
  refine ⟨e, ?_, .refl e⟩
  show (db.epochs.insert id epoch).lookup id' = some e
  rw [Table.lookup_insert_eq]
  split_ifs with hid
  · subst hid
    rw [hfresh] at he
    cases he
  · exact he

lemma epochsEvolve_open {db : DestinationDb} {u : UserId} {row : User}
    {request : DestinationRequest} {now : ℕ} {id : EpochId}
    (hfresh : db.epochs.lookup id = none) :
    EpochsEvolve db (openDestinationEpoch db u row request now id) := by
  unfold openDestinationEpoch
  cases hcurrent : currentOpenEpoch db row with
  | none => exact epochsEvolve_attach hfresh
  | some current =>
      obtain ⟨old, epoch⟩ := current
      have hclosed := epochsEvolve_close db db.users old now
      have hstill : (Table.modify db.epochs old fun e => e.close now).lookup id = none := by
        rw [Table.lookup_modify]
        split_ifs with hid
        · subst hid
          rw [hfresh]
          rfl
        · exact hfresh
      have hattach : EpochsEvolve ⟨db.users, Table.modify db.epochs old fun e => e.close now⟩
          (attachEpoch ⟨db.users, Table.modify db.epochs old fun e => e.close now⟩ u
            (requestedUser request row now) id (requestedEpoch u request now)) :=
        epochsEvolve_attach hstill
      intro id' e he
      obtain ⟨e', he', hevolves⟩ := hclosed id' e he
      obtain ⟨e'', he'', hevolves'⟩ := hattach id' e' he'
      exact ⟨e'', he'', hevolves.trans hevolves'⟩

lemma epochsEvolve_networkState {db db' : DestinationDb} {u : UserId}
    {account : Option AccountAddress × Option ℕ} {now : ℕ} {id : EpochId}
    {d : UserDestinationState} (hfresh : db.epochs.lookup id = none)
    (h : userNetworkState db u account now id = .ok (db', d)) : EpochsEvolve db db' := by
  rcases userNetworkState_eq_ok h with ⟨rfl, -⟩ | ⟨row, -, -, rfl, -⟩
  · exact .refl db'
  · exact epochsEvolve_attach hfresh

/-- **What an operation keeps.** -/
theorem destinationStep_evolves {s s' : DestinationState} {a : DestinationAction}
    (hstep : destinationStep s a = some s') : s.EvolvesTo s' := by
  obtain ⟨now, op⟩ := a
  unfold destinationStep at hstep
  split_ifs at hstep with hclock
  obtain ⟨t, ht, rfl⟩ := Option.map_eq_some_iff.1 hstep
  dsimp only at ht
  have hjobs : ∀ j job, s.jobs.lookup j = some job →
      ∃ job', s.jobs.lookup j = some job' ∧ job.EvolvesTo job' :=
    fun j job hjob => ⟨job, hjob, .refl job⟩
  cases op with
  | addUser u provider network startedAt =>
      simp only [applyDestinationOp] at ht
      split_ifs at ht with hcond
      obtain rfl := Option.some.inj ht
      exact ⟨EpochsEvolve.refl s.db, hjobs⟩
  | setDestination u request evidence id =>
      simp only [applyDestinationOp] at ht
      split_ifs at ht with hfresh
      split at ht
      · rename_i db d hset
        obtain rfl := Option.some.inj ht
        obtain ⟨row, hrow, rfl | ⟨-, rfl⟩⟩ := setUserDestination_eq_ok hset
        · exact ⟨EpochsEvolve.refl s.db, hjobs⟩
        · exact ⟨epochsEvolve_open hfresh, hjobs⟩
      · obtain rfl := Option.some.inj ht
        exact ⟨EpochsEvolve.refl s.db, hjobs⟩
  | closeEpoch u readAt =>
      simp only [applyDestinationOp] at ht
      split_ifs at ht with hread
      split at ht
      · rename_i db hclose
        obtain rfl := Option.some.inj ht
        obtain ⟨row, hrow, ⟨-, rfl⟩ | ⟨id, hactive, rfl⟩⟩ := closeUserDestinationEpoch_eq_ok hclose
        · exact ⟨EpochsEvolve.refl s.db, hjobs⟩
        · exact ⟨epochsEvolve_close s.db _ id readAt, hjobs⟩
      · obtain rfl := Option.some.inj ht
        exact ⟨EpochsEvolve.refl s.db, hjobs⟩
  | networkState u account id =>
      simp only [applyDestinationOp] at ht
      split_ifs at ht with hfresh
      split at ht
      · rename_i db d hstate
        obtain rfl := Option.some.inj ht
        exact ⟨epochsEvolve_networkState hfresh hstate, hjobs⟩
      · obtain rfl := Option.some.inj ht
        exact ⟨EpochsEvolve.refl s.db, hjobs⟩
  | createJob j u binding createdAt network provider =>
      simp only [applyDestinationOp] at ht
      split_ifs at ht with hcond
      obtain rfl := Option.some.inj ht
      refine ⟨EpochsEvolve.refl s.db, fun j' job hjob => ⟨job, ?_, .refl job⟩⟩
      show (s.jobs.insert j _).lookup j' = some job
      rw [Table.lookup_insert_eq]
      split_ifs with hj
      · rw [hj, hcond.1] at hjob
        cases hjob
      · exact hjob
  | bindJob j account id =>
      simp only [applyDestinationOp] at ht
      split_ifs at ht with hfresh
      cases hj : s.jobs.lookup j with
      | none => simp [hj] at ht
      | some job =>
          simp only [hj, Option.some.injEq] at ht
          subst ht
          have hreplace : ∀ job', job.EvolvesTo job' → ∀ k row, s.jobs.lookup k = some row →
              ∃ row', (s.jobs.insert j job').lookup k = some row' ∧ row.EvolvesTo row' := by
            intro job' hevolves k row hrow
            rw [Table.lookup_insert_eq]
            split_ifs with hk
            · subst hk
              obtain rfl : job = row := Option.some.inj (hj.symm.trans hrow)
              exact ⟨job', rfl, hevolves⟩
            · exact ⟨row, hrow, .refl row⟩
          rcases bindJobToActiveDestination_cases s.db job account now id with
            ⟨ok, heq⟩ | ⟨hunbound, db', d, hstate, hbind⟩
          · rw [heq]
            exact ⟨EpochsEvolve.refl s.db, hreplace job (.refl job)⟩
          · have hepochs := epochsEvolve_networkState hfresh hstate
            rcases hbind with heq | ⟨-, heq⟩
            · rw [heq]
              exact ⟨hepochs, hreplace job (.refl job)⟩
            · rw [heq]
              refine ⟨hepochs, hreplace _ ⟨rfl, rfl, rfl, fun id' hid => ?_⟩⟩
              simp [DestinationJob.unbound, hid] at hunbound

/-! ## The epoch of a job -/

/-- A job is bound to epochs of its own user only. -/
def JobsBound (s : DestinationState) : Prop :=
  ∀ j job id, s.jobs.lookup j = some job → job.executionEpochId = some id →
    ∃ e, s.db.epochs.lookup id = some e ∧ e.userId = job.userId

/-- The destination a binding reads is an epoch of the user. -/
lemma epoch_of_networkState {db db' : DestinationDb} {t : ℕ} (hinv : EpochInv db t) {u : UserId}
    {account : Option AccountAddress × Option ℕ} {now : ℕ} {id : EpochId}
    {d : UserDestinationState} (h : userNetworkState db u account now id = .ok (db', d)) :
    ∃ e, db'.epochs.lookup d.epochId = some e ∧ e.userId = u := by
  rcases userNetworkState_eq_ok h with ⟨rfl, hread⟩ | ⟨row, -, -, rfl, rfl⟩
  · obtain ⟨row, e, hrow, hactive, he, -⟩ := userDestinationState_eq_ok.1 hread
    obtain ⟨e', he', hu, -⟩ := hinv.active_open u row d.epochId hrow hactive
    exact ⟨e', he', hu⟩
  · exact ⟨bootstrapEpoch u row account now, by simp [attachEpoch], rfl⟩

lemma JobsBound.step {s s' : DestinationState} {a : DestinationAction} (h : JobsBound s)
    (hinv : EpochInv s.db s.clock) (hstep : destinationStep s a = some s') : JobsBound s' := by
  have hevolves := destinationStep_evolves hstep
  have hkeep : ∀ id e u, s.db.epochs.lookup id = some e → e.userId = u →
      ∃ e', s'.db.epochs.lookup id = some e' ∧ e'.userId = u := by
    intro id e u he hu
    obtain ⟨e', he', hevolve⟩ := hevolves.epochs id e he
    exact ⟨e', he', hevolve.userId.trans hu⟩
  have hold : ∀ j job id, s.jobs.lookup j = some job → job.executionEpochId = some id →
      ∃ e, s'.db.epochs.lookup id = some e ∧ e.userId = job.userId := by
    intro j job id hjob hid
    obtain ⟨e, he, hu⟩ := h j job id hjob hid
    exact hkeep id e job.userId he hu
  obtain ⟨now, op⟩ := a
  unfold destinationStep at hstep
  split_ifs at hstep with hclock
  obtain ⟨t, ht, rfl⟩ := Option.map_eq_some_iff.1 hstep
  dsimp only at ht hold hkeep ⊢
  have hsame : t.jobs = s.jobs → JobsBound { t with clock := now } := by
    intro heq j job id hjob hid
    have hjob' : t.jobs.lookup j = some job := hjob
    rw [heq] at hjob'
    exact hold j job id hjob' hid
  cases op with
  | addUser u provider network startedAt =>
      simp only [applyDestinationOp] at ht
      split_ifs at ht
      obtain rfl := Option.some.inj ht
      exact hsame rfl
  | setDestination u request evidence id =>
      simp only [applyDestinationOp] at ht
      split_ifs at ht
      split at ht <;> (obtain rfl := Option.some.inj ht; exact hsame rfl)
  | closeEpoch u readAt =>
      simp only [applyDestinationOp] at ht
      split_ifs at ht
      split at ht <;> (obtain rfl := Option.some.inj ht; exact hsame rfl)
  | networkState u account id =>
      simp only [applyDestinationOp] at ht
      split_ifs at ht
      split at ht <;> (obtain rfl := Option.some.inj ht; exact hsame rfl)
  | createJob j u binding createdAt network provider =>
      simp only [applyDestinationOp] at ht
      split_ifs at ht with hcond
      obtain rfl := Option.some.inj ht
      intro j' job id hjob hid
      rcases Table.lookup_insert_cases hjob with ⟨-, rfl⟩ | hjob
      · obtain ⟨b, hb, rfl⟩ := Option.map_eq_some_iff.1 hid
        obtain ⟨he, hu⟩ := hcond.2.2 b hb
        exact ⟨b.2, he, hu⟩
      · exact hold j' job id hjob hid
  | bindJob j account id =>
      simp only [applyDestinationOp] at ht
      split_ifs at ht with hfresh
      cases hj : s.jobs.lookup j with
      | none => simp [hj] at ht
      | some job =>
          simp only [hj, Option.some.injEq] at ht
          subst ht
          intro j' job' id' hjob' hid'
          rcases Table.lookup_insert_cases hjob' with ⟨-, hrow⟩ | hjob'
          · rcases bindJobToActiveDestination_cases s.db job account now id with
              ⟨ok, heq⟩ | ⟨-, db', d, hstate, heq | ⟨-, heq⟩⟩
            · rw [heq] at hrow
              rw [hrow] at hid' ⊢
              exact hold j job id' hj hid'
            · rw [heq] at hrow
              rw [hrow] at hid' ⊢
              exact hold j job id' hj hid'
            · rw [heq] at hrow
              rw [hrow] at hid' ⊢
              obtain rfl := Option.some.inj hid'
              obtain ⟨e, he, hu⟩ := epoch_of_networkState hinv hstate
              exact ⟨e, by rw [heq]; exact he, hu⟩
          · exact hold j' job' id' hjob' hid'

/-- A job that is bound to another epoch than the active one of its user is bound to a closed
epoch. -/
lemma epoch_closed_of_ne_active {s : DestinationState} (hbound : JobsBound s)
    (hinv : EpochInv s.db s.clock) {j : JobId} {job : DestinationJob} {id : EpochId}
    (hjob : s.jobs.lookup j = some job) (hid : job.executionEpochId = some id)
    {d : UserDestinationState} (hactive : userDestinationState s.db job.userId = .ok d)
    (hne : id ≠ d.epochId) : ∃ e, s.db.epochs.lookup id = some e ∧ e.endedAt ≠ none := by
  obtain ⟨e, he, hu⟩ := hbound j job id hjob hid
  refine ⟨e, he, fun hopen => ?_⟩
  obtain ⟨row, hrow, hrowActive⟩ := hinv.open_active id e he hopen
  obtain ⟨row', e', hrow', hactive', -⟩ := userDestinationState_eq_ok.1 hactive
  rw [hu, hrow', Option.some.injEq] at hrow
  rw [← hrow, hactive'] at hrowActive
  exact hne (Option.some.inj hrowActive).symm

end HyperCopy

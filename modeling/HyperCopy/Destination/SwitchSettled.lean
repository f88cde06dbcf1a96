import HyperCopy.Destination.EpochHistory
import HyperCopy.Destination.Switch
import Mathlib.Data.List.Induction

/-!
# What a destination switch leaves behind

`destination_switch_settled`: when a switch of a user with a destination history commits, the user
is paused, and the second check, made while the user's row was locked, found no managed position
and nothing pending or unresolved in the source epoch.  The lock carries the pause and the source
epoch from the check to the commit; the rest is as of the check.

That is all: `switch_leaves_unresolved_work` shows a first destination set while the user is
in shadow mode, work of an older epoch of the same destination that the filter does not see, and
a job put back in the queue between the check and the write.
-/

namespace HyperCopy

open Transition

/-! ## Nothing pending in the source epoch -/

/-- The local rows of a user leave nothing open in an epoch. -/
structure LocallySettled (rows : LocalRows) (u : UserId) (source : Option EpochId) : Prop where
  flat : ∀ id l, rows.ledgers.lookup id = some l → l.userId = u → l.managed = true → l.size = 0
  jobs : ∀ id job, rows.jobs.lookup id = some job → job.userId = u →
    job.executionEpochId = source → job.state.active = false
  executions : ∀ id x, rows.executions.lookup id = some x → x.userId = u →
    x.executionEpochId = source → x.state.unresolved = false

lemma destinationSwitchBlockers_eq_nil {copyState : Option CopyState} {rows : LocalRows}
    {u : UserId} {source : Option EpochId}
    (h : destinationSwitchBlockers copyState rows u source = []) :
    copyState = some .paused ∧ LocallySettled rows u source := by
  unfold destinationSwitchBlockers at h
  cases copyState with
  | none => cases h
  | some c =>
      simp only [List.append_eq_nil_iff, ite_eq_right_iff, reduceCtorEq, imp_false,
        not_not, Bool.not_eq_true, Table.any_eq_false] at h
      obtain ⟨⟨⟨hpaused, hledgers⟩, hjobs⟩, hexecutions⟩ := h
      refine ⟨by rw [hpaused], ?_, ?_, ?_⟩
      · intro id l hl hu hmanaged
        simpa [hu, hmanaged] using hledgers id l hl
      · intro id job hjob hu hsource
        simpa [hu, hsource] using hjobs id job hjob
      · intro id x hx hu hsource
        simpa [hu, hsource] using hexecutions id x hx

/-! ## Operations on other users -/

/-- Nothing of user `v` that a switch reads has changed. -/
structure UserKept (v : UserId) (db db' : DestinationDb) : Prop where
  row : db'.users.lookup v = db.users.lookup v
  epochs : db'.epochs.entries.filter (fun e => e.2.userId = v) =
    db.epochs.entries.filter fun e => e.2.userId = v

lemma UserKept.refl (v : UserId) (db : DestinationDb) : UserKept v db db := ⟨rfl, rfl⟩

lemma UserKept.trans {v : UserId} {db db' db'' : DestinationDb} (h : UserKept v db db')
    (h' : UserKept v db' db'') : UserKept v db db'' :=
  ⟨h'.row.trans h.row, h'.epochs.trans h.epochs⟩

lemma UserKept.sourceEpoch {v : UserId} {db db' : DestinationDb} (h : UserKept v db db')
    (row : User) : sourceEpoch db' v row = sourceEpoch db v row := by
  unfold HyperCopy.sourceEpoch latestDestinationEpoch
  rw [h.epochs]

lemma userKept_attach {v : UserId} {db : DestinationDb} {u : UserId} {row : User} {id : EpochId}
    {epoch : ExecutionEpoch} (hne : v ≠ u) (huser : epoch.userId = u)
    (hfresh : db.epochs.lookup id = none) : UserKept v db (attachEpoch db u row id epoch) where
  row := AList.lookup_insert_ne hne
  epochs := by
    refine Table.filter_insert_of_not ?_ fun r hr => ?_
    · simpa [huser] using Ne.symm hne
    · rw [hfresh] at hr
      cases hr

lemma userKept_close {v : UserId} {db : DestinationDb} {u : UserId} {id : EpochId}
    {e : ExecutionEpoch} (hne : v ≠ u) (he : db.epochs.lookup id = some e) (huser : e.userId = u)
    (users : Table UserId User) (hrow : users.lookup v = db.users.lookup v) (now : ℕ) :
    UserKept v db ⟨users, Table.modify db.epochs id fun e => e.close now⟩ where
  row := hrow
  epochs := by
    show (Table.modify db.epochs id _).entries.filter _ = _
    unfold Table.modify
    rw [he]
    refine Table.filter_insert_of_not ?_ fun r hr => ?_
    · simpa [huser] using Ne.symm hne
    · obtain rfl : e = r := Option.some.inj (he.symm.trans hr)
      simpa [huser] using Ne.symm hne

lemma userKept_networkState {v : UserId} {db db' : DestinationDb} {u : UserId}
    {account : Option AccountAddress × Option ℕ} {now : ℕ} {id : EpochId}
    {d : UserDestinationState} (hne : v ≠ u) (hfresh : db.epochs.lookup id = none)
    (h : userNetworkState db u account now id = .ok (db', d)) : UserKept v db db' := by
  rcases userNetworkState_eq_ok h with ⟨rfl, -⟩ | ⟨row, -, -, rfl, -⟩
  · exact .refl v db'
  · exact userKept_attach hne rfl hfresh

lemma EpochInv.userKept_closeEpoch {v : UserId} {db db' : DestinationDb} {t : ℕ}
    (h : EpochInv db t) {u : UserId} {now : ℕ} (hne : v ≠ u)
    (hclose : closeUserDestinationEpoch db u now = .ok db') : UserKept v db db' := by
  obtain ⟨row, hrow, ⟨-, rfl⟩ | ⟨id, hactive, rfl⟩⟩ := closeUserDestinationEpoch_eq_ok hclose
  · exact .refl v db'
  · obtain ⟨e, he, hu, -⟩ := h.active_open u row id hrow hactive
    exact userKept_close hne he hu _ (AList.lookup_insert_ne hne) now

lemma EpochInv.userKept_setDestination {v : UserId} {db db' : DestinationDb} {t : ℕ}
    (h : EpochInv db t) {u : UserId} {request : DestinationRequest} {evidence : SwitchEvidence}
    {now : ℕ} {id : EpochId} {d : UserDestinationState} (hne : v ≠ u)
    (hfresh : db.epochs.lookup id = none)
    (hset : setUserDestination db u request evidence now id = .ok (db', d)) :
    UserKept v db db' := by
  obtain ⟨row, hrow, rfl | ⟨-, rfl⟩⟩ := setUserDestination_eq_ok hset
  · exact .refl v db'
  · unfold HyperCopy.openDestinationEpoch
    rcases h.currentOpenEpoch_eq hrow with ⟨-, hcurrent⟩ | ⟨current, e, -, he, hu, -, hcurrent⟩
    · rw [hcurrent]
      exact userKept_attach hne rfl hfresh
    · rw [hcurrent]
      have hclosed := userKept_close hne he hu db.users rfl now
      refine hclosed.trans (userKept_attach hne rfl ?_)
      show (Table.modify db.epochs current _).lookup id = none
      rw [Table.lookup_modify_of_ne]
      · exact hfresh
      · rintro rfl
        rw [hfresh] at he
        cases he

/-- What a commit that changes the destination of a user with a history was allowed by. -/
lemma setUserDestination_switch {db db' : DestinationDb} {u : UserId}
    {request : DestinationRequest} {evidence : SwitchEvidence} {now : ℕ} {id : EpochId}
    {d : UserDestinationState} {row row' : User}
    (hset : setUserDestination db u request evidence now id = .ok (db', d))
    (hrow : db.users.lookup u = some row) (hrow' : db'.users.lookup u = some row')
    (hchanged : row'.executionProvider ≠ row.executionProvider ∨
      row'.executionNetwork ≠ row.executionNetwork)
    (hhistory : hasDestinationHistory db u row = true) : assessSwitch evidence = .ok () := by
  by_cases hswitch : isDestinationSwitch db u row request = true
  · unfold setUserDestination at hset
    rw [hrow] at hset
    dsimp only at hset
    rw [if_pos hswitch] at hset
    cases hassess : assessSwitch evidence with
    | ok _ => rfl
    | error e =>
        rw [hassess] at hset
        cases hcurrent : currentOpenEpoch db row with
        | none =>
            rw [hcurrent] at hset
            cases hset
        | some current =>
            rw [hcurrent] at hset
            dsimp only at hset
            split_ifs at hset
            -- an unchanged destination
            obtain ⟨rfl, -⟩ := Prod.mk.inj (Except.ok.inj hset)
            rw [hrow, Option.some.injEq] at hrow'
            subst hrow'
            simp at hchanged
  · -- the request names the destination the user has
    exfalso
    simp only [isDestinationSwitch, hhistory, Bool.true_and, Bool.or_eq_true, decide_eq_true_eq,
      not_or, not_not] at hswitch
    obtain ⟨row₁, hrow₁, rfl | ⟨-, rfl⟩⟩ := setUserDestination_eq_ok hset
    · rw [hrow, Option.some.injEq] at hrow'
      subst hrow'
      simp at hchanged
    · obtain rfl : row = row₁ := Option.some.inj (hrow.symm.trans hrow₁)
      have hnew : row'.executionProvider = request.provider ∧
          row'.executionNetwork = request.network := by
        have heq : some { requestedUser request row now with activeExecutionEpochId := some id } =
            some row' := by
          rw [← hrow']
          exact (AList.lookup_insert db.users).symm
        obtain rfl := Option.some.inj heq
        exact ⟨rfl, rfl⟩
      rcases hchanged with hprovider | hnetwork
      · exact hprovider (hnew.1.trans hswitch.1.symm)
      · exact hnetwork (hnew.2.trans hswitch.2.symm)

lemma assessSwitch_eq_ok {evidence : SwitchEvidence} (h : assessSwitch evidence = .ok ()) :
    evidence.state ≠ .unreadable ∧ evidence.freshBlockers = [] := by
  unfold assessSwitch at h
  split_ifs at h with hblocked hfresh
  exact ⟨fun hstate => hblocked (Or.inl hstate), not_not.1 hfresh⟩

/-! ## The invariant of every run -/

/-- One switch a user; while it holds the lock, the row and the source epoch are the ones it read,
and what its second check found clear is recorded with it. -/
structure SwitchInv (s : SwitchState) : Prop where
  epochs : EpochInv s.db s.clock
  one : ∀ t t' task task', s.tasks.lookup t = some task → s.tasks.lookup t' = some task' →
    task.userId = task'.userId → t = t'
  row : ∀ t task, s.tasks.lookup t = some task → s.db.users.lookup task.userId = some task.row
  source : ∀ t task, s.tasks.lookup t = some task →
    task.sourceEpochId = sourceEpoch s.db task.userId task.row
  paused : ∀ t task state blockers rows, s.tasks.lookup t = some task →
    task.phase = .rechecked state blockers [] rows →
    s.copyStates.lookup task.userId = some .paused
  settled : ∀ t task state blockers rows, s.tasks.lookup t = some task →
    task.phase = .rechecked state blockers [] rows →
    LocallySettled rows task.userId task.sourceEpochId

/-- A user of an open switch is locked. -/
lemma SwitchState.ne_of_unlocked {s : SwitchState} {u : UserId} (h : s.locked u = false)
    {t : SwitchId} {task : SwitchTask} (htask : s.tasks.lookup t = some task) :
    task.userId ≠ u := by
  have hany := Table.any_eq_false.1 h t task htask
  simpa using hany

/-- Steps that keep the switches, and of their users the rows, the epochs and the copy state. -/
lemma SwitchInv.frame {s s' : SwitchState} (h : SwitchInv s) (hepochs : EpochInv s'.db s'.clock)
    (htasks : ∀ t task, s'.tasks.lookup t = some task → s.tasks.lookup t = some task)
    (hkept : ∀ t task, s'.tasks.lookup t = some task → UserKept task.userId s.db s'.db ∧
      s'.copyStates.lookup task.userId = s.copyStates.lookup task.userId) : SwitchInv s' where
  epochs := hepochs
  one t t' task task' htask htask' := h.one t t' task task' (htasks t task htask)
    (htasks t' task' htask')
  row t task htask := by
    rw [(hkept t task htask).1.row]
    exact h.row t task (htasks t task htask)
  source t task htask := by
    rw [(hkept t task htask).1.sourceEpoch]
    exact h.source t task (htasks t task htask)
  paused t task state blockers rows htask hphase := by
    rw [(hkept t task htask).2]
    exact h.paused t task state blockers rows (htasks t task htask) hphase
  settled t task state blockers rows htask hphase :=
    h.settled t task state blockers rows (htasks t task htask) hphase

/-- A switch goes on to a phase whose findings hold. -/
lemma SwitchInv.advance {s : SwitchState} (h : SwitchInv s) {clock : ℕ} (hclock : s.clock ≤ clock)
    {t : SwitchId} {task : SwitchTask} (htask : s.tasks.lookup t = some task) {phase : SwitchPhase}
    (hphase : ∀ state blockers rows, phase = .rechecked state blockers [] rows →
      s.copyStates.lookup task.userId = some .paused ∧
        LocallySettled rows task.userId task.sourceEpochId) :
    SwitchInv { s with tasks := s.tasks.insert t (task.advance phase), clock := clock } where
  epochs := h.epochs.mono hclock
  one t₁ t₂ task₁ task₂ htask₁ htask₂ huser := by
    rcases Table.lookup_insert_cases htask₁ with ⟨rfl, rfl⟩ | hold₁
    · rcases Table.lookup_insert_cases htask₂ with ⟨rfl, rfl⟩ | hold₂
      · rfl
      · exact h.one t₁ t₂ task task₂ htask hold₂ huser
    · rcases Table.lookup_insert_cases htask₂ with ⟨rfl, rfl⟩ | hold₂
      · exact h.one t₁ t₂ task₁ task hold₁ htask huser
      · exact h.one t₁ t₂ task₁ task₂ hold₁ hold₂ huser
  row t' task' htask' := by
    rcases Table.lookup_insert_cases htask' with ⟨-, rfl⟩ | hold
    · exact h.row t task htask
    · exact h.row t' task' hold
  source t' task' htask' := by
    rcases Table.lookup_insert_cases htask' with ⟨-, rfl⟩ | hold
    · exact h.source t task htask
    · exact h.source t' task' hold
  paused t' task' state blockers rows htask' hnew := by
    rcases Table.lookup_insert_cases htask' with ⟨-, rfl⟩ | hold
    · exact (hphase state blockers rows hnew).1
    · exact h.paused t' task' state blockers rows hold hnew
  settled t' task' state blockers rows htask' hnew := by
    rcases Table.lookup_insert_cases htask' with ⟨-, rfl⟩ | hold
    · exact (hphase state blockers rows hnew).2
    · exact h.settled t' task' state blockers rows hold hnew

/-- The commit of a switch leaves the users of the other switches alone. -/
lemma SwitchInv.commit {s : SwitchState} (h : SwitchInv s) {t : SwitchId} {task : SwitchTask}
    (htask : s.tasks.lookup t = some task) {now : ℕ} (hnow : s.clock ≤ now) {id : EpochId}
    (hfresh : s.db.epochs.lookup id = none) :
    SwitchInv { commitSwitch s t task now id with clock := now } := by
  have hother : ∀ t' task', (s.tasks.erase t).lookup t' = some task' →
      s.tasks.lookup t' = some task' ∧ task'.userId ≠ task.userId := by
    intro t' task' htask'
    refine ⟨Table.lookup_of_erase htask', fun huser => ?_⟩
    obtain rfl := h.one t' t task' task (Table.lookup_of_erase htask') htask huser
    rw [AList.lookup_erase] at htask'
    cases htask'
  unfold commitSwitch
  split
  · rename_i db d hset
    have hepochs : EpochInv db now := by
      obtain ⟨row, hrow, rfl | ⟨-, rfl⟩⟩ := setUserDestination_eq_ok hset
      · exact h.epochs.mono hnow
      · exact h.epochs.openDestinationEpoch hrow task.request hfresh hnow
    refine h.frame hepochs (fun t' task' htask' => (hother t' task' htask').1)
      fun t' task' htask' => ⟨?_, rfl⟩
    exact h.epochs.userKept_setDestination (hother t' task' htask').2 hfresh hset
  · exact h.frame (h.epochs.mono hnow) (fun t' task' htask' => (hother t' task' htask').1)
      fun t' task' htask' => ⟨.refl _ _, rfl⟩

/-- A switch of a user whom no other switch has locked begins. -/
lemma SwitchInv.start {s : SwitchState} (h : SwitchInv s) {now : ℕ} (hnow : s.clock ≤ now)
    {u : UserId} {row : User} (hrow : s.db.users.lookup u = some row) (hfree : s.locked u = false)
    (t : SwitchId) (request : DestinationRequest) :
    SwitchInv { s with
      tasks := s.tasks.insert t ⟨u, request, row, sourceEpoch s.db u row, .started⟩
      clock := now } := by
  have hne : ∀ t' task', s.tasks.lookup t' = some task' → task'.userId ≠ u :=
    fun t' task' htask' => SwitchState.ne_of_unlocked hfree htask'
  refine ⟨h.epochs.mono hnow, ?_, ?_, ?_, ?_, ?_⟩
  · intro t₁ t₂ task₁ task₂ htask₁ htask₂ huser
    rcases Table.lookup_insert_cases htask₁ with ⟨rfl, rfl⟩ | hold₁
    · rcases Table.lookup_insert_cases htask₂ with ⟨rfl, rfl⟩ | hold₂
      · rfl
      · exact absurd huser.symm (hne t₂ task₂ hold₂)
    · rcases Table.lookup_insert_cases htask₂ with ⟨rfl, rfl⟩ | hold₂
      · exact absurd huser (hne t₁ task₁ hold₁)
      · exact h.one t₁ t₂ task₁ task₂ hold₁ hold₂ huser
  · intro t' task' htask'
    rcases Table.lookup_insert_cases htask' with ⟨-, rfl⟩ | hold
    · exact hrow
    · exact h.row t' task' hold
  · intro t' task' htask'
    rcases Table.lookup_insert_cases htask' with ⟨-, rfl⟩ | hold
    · rfl
    · exact h.source t' task' hold
  · intro t' task' state blockers rows htask' hphase
    rcases Table.lookup_insert_cases htask' with ⟨-, rfl⟩ | hold
    · cases hphase
    · exact h.paused t' task' state blockers rows hold hphase
  · intro t' task' state blockers rows htask' hphase
    rcases Table.lookup_insert_cases htask' with ⟨-, rfl⟩ | hold
    · cases hphase
    · exact h.settled t' task' state blockers rows hold hphase

theorem SwitchInv.step {s s' : SwitchState} {a : SwitchAction} (h : SwitchInv s)
    (hstep : switchStep s a = some s') : SwitchInv s' := by
  obtain ⟨now, op⟩ := a
  unfold switchStep at hstep
  split_ifs at hstep with hclock
  obtain ⟨s₁, hs₁, rfl⟩ := Option.map_eq_some_iff.1 hstep
  dsimp only at hclock hs₁ ⊢
  have hmono : EpochInv s.db now := h.epochs.mono hclock.le
  -- steps that only write rows the switches do not lock
  have hrows : s₁.db = s.db → s₁.copyStates = s.copyStates → s₁.tasks = s.tasks →
      SwitchInv { s₁ with clock := now } := by
    intro hdb hcopy htasks
    refine h.frame (by rw [hdb]; exact hmono) (fun t task htask => ?_) fun t task _ => ?_
    · rw [← htasks]
      exact htask
    · show UserKept task.userId s.db s₁.db ∧ s₁.copyStates.lookup _ = _
      rw [hdb, hcopy]
      exact ⟨.refl _ _, rfl⟩
  cases op with
  | addUser u provider network startedAt copyState =>
      simp only [applySwitchOp] at hs₁
      split_ifs at hs₁ with hcond
      obtain rfl := Option.some.inj hs₁
      have hne : ∀ t task, s.tasks.lookup t = some task → task.userId ≠ u := by
        rintro t task htask rfl
        have hrow := h.row t task htask
        rw [hcond.1] at hrow
        cases hrow
      refine h.frame (hmono.addUser _ hcond.1 rfl) (fun _ _ htask => htask) fun t task htask => ?_
      exact ⟨⟨AList.lookup_insert_ne (hne t task htask), rfl⟩,
        AList.lookup_insert_ne (hne t task htask)⟩
  | setCopyState u copyState =>
      simp only [applySwitchOp] at hs₁
      split_ifs at hs₁ with hlocked
      obtain rfl := Option.some.inj hs₁
      have hfree : s.locked u = false := by simpa using hlocked
      refine h.frame hmono (fun _ _ htask => htask) fun t task htask => ⟨.refl _ _, ?_⟩
      exact AList.lookup_insert_ne (SwitchState.ne_of_unlocked hfree htask)
  | closeEpoch u readAt =>
      simp only [applySwitchOp] at hs₁
      split_ifs at hs₁ with hlocked
      simp only [Bool.or_eq_true, decide_eq_true_eq, not_or, Bool.not_eq_true, not_lt] at hlocked
      split at hs₁
      · rename_i db hclose
        obtain rfl := Option.some.inj hs₁
        have hepochs : EpochInv db now := by
          obtain ⟨row, hrow, ⟨-, rfl⟩ | ⟨id, hactive, rfl⟩⟩ :=
            closeUserDestinationEpoch_eq_ok hclose
          · exact hmono
          · exact h.epochs.detach hrow hactive hlocked.2 hclock.le
        refine h.frame hepochs (fun _ _ htask => htask) fun t task htask => ⟨?_, rfl⟩
        exact h.epochs.userKept_closeEpoch (SwitchState.ne_of_unlocked hlocked.1 htask) hclose
      · obtain rfl := Option.some.inj hs₁
        exact hrows rfl rfl rfl
  | networkState u account id =>
      simp only [applySwitchOp] at hs₁
      split_ifs at hs₁ with hlocked
      simp only [Bool.or_eq_true, not_or, Bool.not_eq_true, Option.isSome_eq_false_iff,
        Option.isNone_iff_eq_none] at hlocked
      split at hs₁
      · rename_i db d hstate
        obtain rfl := Option.some.inj hs₁
        refine h.frame (h.epochs.networkState hlocked.2 hclock.le hstate) (fun _ _ htask => htask)
          fun t task htask => ⟨?_, rfl⟩
        exact userKept_networkState (SwitchState.ne_of_unlocked hlocked.1 htask) hlocked.2 hstate
      · obtain rfl := Option.some.inj hs₁
        exact hrows rfl rfl rfl
  | writeJob | writeExecution | writeLedger | deleteLedger | writeAccount | deleteAccount =>
      obtain rfl := Option.some.inj hs₁
      exact hrows rfl rfl rfl
  | start t u request =>
      simp only [applySwitchOp] at hs₁
      split at hs₁
      · rename_i row hrow
        split_ifs at hs₁ with hlocked
        obtain rfl := Option.some.inj hs₁
        simp only [Bool.or_eq_true, not_or, Bool.not_eq_true] at hlocked
        exact h.start hclock.le hrow hlocked.1 t request
      · cases hs₁
  | assess t flat =>
      simp only [applySwitchOp] at hs₁
      split at hs₁
      · rename_i task htask
        split at hs₁
        · obtain rfl := Option.some.inj hs₁
          exact h.advance hclock.le htask fun state blockers rows hphase => by cases hphase
        · cases hs₁
      · cases hs₁
  | recheck t =>
      simp only [applySwitchOp] at hs₁
      split at hs₁
      · rename_i task htask
        split at hs₁
        · obtain rfl := Option.some.inj hs₁
          refine h.advance hclock.le htask fun state blockers rows hphase => ?_
          obtain ⟨-, -, hfresh, rfl⟩ := SwitchPhase.rechecked.inj hphase
          exact destinationSwitchBlockers_eq_nil hfresh
        · cases hs₁
      · cases hs₁
  | commit t id =>
      simp only [applySwitchOp] at hs₁
      split at hs₁
      · rename_i task htask
        split_ifs at hs₁ with hfresh
        obtain rfl := Option.some.inj hs₁
        exact h.commit htask hclock.le (by simpa using hfresh)
      · cases hs₁
  | rollback t =>
      obtain rfl := Option.some.inj hs₁
      exact h.frame hmono (fun _ _ htask => Table.lookup_of_erase htask)
        fun _ _ _ => ⟨.refl _ _, rfl⟩

lemma switchInv_initial : SwitchInv .initial where
  epochs := epochInv_initial
  one := by simp [SwitchState.initial]
  row := by simp [SwitchState.initial]
  source := by simp [SwitchState.initial]
  paused := by simp [SwitchState.initial]
  settled := by simp [SwitchState.initial]

theorem switchInv_of_run {ops : List SwitchAction} {s : SwitchState}
    (hrun : run switchStep .initial ops = some s) : SwitchInv s :=
  run_invariant (fun _ _ _ h hstep => h.step hstep) switchInv_initial hrun

/-! ## The second check of a switch -/

/-- A switch past its second check either was so before the step, or the step was the check. -/
lemma rechecked_of_step {s s' : SwitchState} {a : SwitchAction} (hstep : switchStep s a = some s')
    {t : SwitchId} {task : SwitchTask} (htask : s'.tasks.lookup t = some task)
    {state : DestinationLifecycleState} {blockers fresh : List DestinationSwitchBlocker}
    {rows : LocalRows} (hphase : task.phase = .rechecked state blockers fresh rows) :
    s.tasks.lookup t = some task ∨ (a.op = .recheck t ∧ rows = s.rows ∧
      ∃ before, s.tasks.lookup t = some before ∧ before.row = task.row ∧
        before.userId = task.userId) := by
  obtain ⟨now, op⟩ := a
  unfold switchStep at hstep
  split_ifs at hstep with hclock
  obtain ⟨s₁, hs₁, rfl⟩ := Option.map_eq_some_iff.1 hstep
  dsimp only at hs₁ htask ⊢
  cases op with
  | addUser u provider network startedAt copyState =>
      simp only [applySwitchOp] at hs₁
      split_ifs at hs₁
      obtain rfl := Option.some.inj hs₁
      exact Or.inl htask
  | setCopyState u copyState =>
      simp only [applySwitchOp] at hs₁
      split_ifs at hs₁
      obtain rfl := Option.some.inj hs₁
      exact Or.inl htask
  | closeEpoch u readAt =>
      simp only [applySwitchOp] at hs₁
      split_ifs at hs₁
      split at hs₁ <;> (obtain rfl := Option.some.inj hs₁; exact Or.inl htask)
  | networkState u account id =>
      simp only [applySwitchOp] at hs₁
      split_ifs at hs₁
      split at hs₁ <;> (obtain rfl := Option.some.inj hs₁; exact Or.inl htask)
  | writeJob | writeExecution | writeLedger | deleteLedger | writeAccount | deleteAccount =>
      obtain rfl := Option.some.inj hs₁
      exact Or.inl htask
  | start t' u request =>
      simp only [applySwitchOp] at hs₁
      split at hs₁
      · split_ifs at hs₁
        obtain rfl := Option.some.inj hs₁
        rcases Table.lookup_insert_cases htask with ⟨-, rfl⟩ | hold
        · cases hphase
        · exact Or.inl hold
      · cases hs₁
  | assess t' flat =>
      simp only [applySwitchOp] at hs₁
      split at hs₁
      · split at hs₁
        · obtain rfl := Option.some.inj hs₁
          rcases Table.lookup_insert_cases htask with ⟨-, rfl⟩ | hold
          · cases hphase
          · exact Or.inl hold
        · cases hs₁
      · cases hs₁
  | recheck t' =>
      simp only [applySwitchOp] at hs₁
      split at hs₁
      · rename_i before hbefore
        split at hs₁
        · obtain rfl := Option.some.inj hs₁
          rcases Table.lookup_insert_cases htask with ⟨rfl, rfl⟩ | hold
          · obtain ⟨-, -, -, rfl⟩ := SwitchPhase.rechecked.inj hphase
            exact Or.inr ⟨rfl, rfl, before, hbefore, rfl, rfl⟩
          · exact Or.inl hold
        · cases hs₁
      · cases hs₁
  | commit t' id =>
      simp only [applySwitchOp] at hs₁
      split at hs₁
      · split_ifs at hs₁
        obtain rfl := Option.some.inj hs₁
        refine Or.inl ?_
        unfold commitSwitch at htask
        split at htask <;> exact Table.lookup_of_erase htask
      · cases hs₁
  | rollback t' =>
      obtain rfl := Option.some.inj hs₁
      exact Or.inl (Table.lookup_of_erase htask)

/-- The rows a switch recorded at its second check are those of a state of the run. -/
lemma recheck_in_run {ops : List SwitchAction} :
    ∀ {s : SwitchState}, run switchStep .initial ops = some s →
      ∀ {t : SwitchId} {task : SwitchTask}, s.tasks.lookup t = some task →
      ∀ {state : DestinationLifecycleState} {blockers fresh : List DestinationSwitchBlocker}
        {rows : LocalRows}, task.phase = .rechecked state blockers fresh rows →
      ∃ early now late s₁ before, ops = early ++ ⟨now, .recheck t⟩ :: late ∧
        run switchStep .initial early = some s₁ ∧ s₁.rows = rows ∧
        s₁.tasks.lookup t = some before ∧ before.row = task.row ∧
        before.userId = task.userId := by
  induction ops using List.reverseRecOn with
  | nil =>
      intro s hrun t task htask
      obtain rfl : SwitchState.initial = s := by simpa using hrun
      simp [SwitchState.initial] at htask
  | append_singleton ops a ih =>
      intro s' hrun t task htask state blockers fresh rows hphase
      obtain ⟨s, hs, hlast⟩ := run_append_eq_some.1 hrun
      obtain ⟨s'', hstep, hnil⟩ := run_cons_eq_some.1 hlast
      obtain rfl : s'' = s' := by simpa using hnil
      rcases rechecked_of_step hstep htask hphase with hold | ⟨hop, rfl, before, hbefore, hsame⟩
      · obtain ⟨early, now, late, s₁, before, rfl, hrest⟩ := ih hs hold hphase
        exact ⟨early, now, late ++ [a], s₁, before, by simp, hrest⟩
      · obtain ⟨now, op⟩ := a
        dsimp only at hop
        subst hop
        exact ⟨ops, now, [], s, before, by simp, hs, rfl, hbefore, hsame⟩

/-! ## A committed switch -/

/-- **A destination switch leaves its source epoch settled.**  In every history, when a switch of
a user with a destination history commits another provider or network, the user is paused, the
source is the active epoch or the latest one, and at the second check, an earlier state of the
run in which the switch already held the user's row, there was no managed position of the user and
no job pending or execution unresolved in the source epoch. -/
theorem destination_switch_settled {ops : List SwitchAction} {s s' : SwitchState} {now : ℕ}
    {t : SwitchId} {id : EpochId} {task : SwitchTask} {row' : User}
    (hrun : run switchStep .initial ops = some s)
    (hstep : switchStep s ⟨now, .commit t id⟩ = some s') (htask : s.tasks.lookup t = some task)
    (hrow' : s'.db.users.lookup task.userId = some row')
    (hchanged : row'.executionProvider ≠ task.row.executionProvider ∨
      row'.executionNetwork ≠ task.row.executionNetwork)
    (hhistory : hasDestinationHistory s.db task.userId task.row = true) :
    s.db.users.lookup task.userId = some task.row ∧
      s'.copyStates.lookup task.userId = some .paused ∧
      ∃ early at' late s₁ before, ops = early ++ ⟨at', .recheck t⟩ :: late ∧
        run switchStep .initial early = some s₁ ∧ s₁.tasks.lookup t = some before ∧
        before.userId = task.userId ∧ before.row = task.row ∧
        LocallySettled s₁.rows task.userId (sourceEpoch s.db task.userId task.row) := by
  have hinv := switchInv_of_run hrun
  have hrow := hinv.row t task htask
  have hcommit : s' = { commitSwitch s t task now id with clock := now } := by
    unfold switchStep at hstep
    split_ifs at hstep with hclock
    obtain ⟨s₁, hs₁, rfl⟩ := Option.map_eq_some_iff.1 hstep
    simp only [applySwitchOp, htask] at hs₁
    split_ifs at hs₁
    obtain rfl := Option.some.inj hs₁
    rfl
  subst hcommit
  have hallowed : assessSwitch task.phase.evidence = .ok () ∧
      (commitSwitch s t task now id).copyStates = s.copyStates := by
    unfold commitSwitch at hrow' ⊢
    split at hrow'
    · rename_i db d hset
      exact ⟨setUserDestination_switch hset hrow hrow' hchanged hhistory, rfl⟩
    · -- a refused switch changes nothing
      have hsame : s.db.users.lookup task.userId = some row' := hrow'
      rw [hrow, Option.some.injEq] at hsame
      subst hsame
      simp at hchanged
  obtain ⟨hstate, hfresh⟩ := assessSwitch_eq_ok hallowed.1
  cases hphase : task.phase with
  | started =>
      rw [hphase] at hstate
      exact absurd rfl hstate
  | assessed state blockers =>
      rw [hphase] at hstate
      exact absurd rfl hstate
  | rechecked state blockers fresh rows =>
      rw [hphase] at hfresh
      obtain rfl : fresh = [] := hfresh
      obtain ⟨early, at', late, s₁, before, hops, hearly, rfl, hbefore, hsame, huser⟩ :=
        recheck_in_run hrun htask hphase
      have hsettled := hinv.settled t task state blockers s₁.rows htask hphase
      rw [hinv.source t task htask] at hsettled
      refine ⟨hrow, ?_, early, at', late, s₁, before, hops, hearly, hbefore, huser, hsame,
        hsettled⟩
      show (commitSwitch s t task now id).copyStates.lookup task.userId = some .paused
      rw [hallowed.2]
      exact hinv.paused t task state blockers s₁.rows htask hphase

/-! ## Histories of one user -/

/-- A linked account on testnet. -/
def onTestnet : DestinationRequest := ⟨.hyperliquid, .testnet, some 7, some 1⟩

/-- The same destination with the next version of the credential. -/
def onTestnetAgain : DestinationRequest := ⟨.hyperliquid, .testnet, some 7, some 2⟩

/-- The same provider on mainnet. -/
def toMainnet : DestinationRequest := ⟨.hyperliquid, .mainnet, none, none⟩

/-- User 0 pauses with the account linked to epoch 1. -/
def linkedUser : List SwitchAction :=
  [⟨1, .addUser 0 .hyperliquid .testnet 1 .paused⟩, ⟨2, .writeAccount 0 ⟨7, some 1⟩⟩,
   ⟨3, .start 1 0 onTestnet⟩, ⟨4, .commit 1 1⟩]

/-- The checks of switch 2 to mainnet, up to the write. -/
def checksToMainnet : List SwitchAction :=
  [⟨20, .start 2 0 toMainnet⟩, ⟨21, .assess 2 true⟩, ⟨22, .recheck 2⟩]

/-- A finished job, and a switch to mainnet. -/
def settledRun : List SwitchAction :=
  linkedUser ++ [⟨5, .writeJob 1 ⟨0, some 1, .done⟩⟩] ++ checksToMainnet

/-- An order of epoch 1 is unknown when the credential is renewed, which opens epoch 2. -/
def olderEpochRun : List SwitchAction :=
  linkedUser ++ [⟨5, .writeExecution 1 ⟨0, some 1, .unknown⟩⟩, ⟨6, .writeAccount 0 ⟨7, some 2⟩⟩,
    ⟨7, .start 1 0 onTestnetAgain⟩, ⟨8, .commit 1 2⟩] ++ checksToMainnet

/-- A managed ledger row, flat at the second check, is set to the size the exchange reports. -/
def ledgerBehindRun : List SwitchAction :=
  linkedUser ++ [⟨5, .writeLedger 1 ⟨0, true, 0⟩⟩] ++ checksToMainnet ++
    [⟨23, .writeLedger 1 ⟨0, true, 1⟩⟩]

/-- A new user in shadow mode gets a first destination other than the one of the schema. -/
def firstDestinationRun : List SwitchAction :=
  [⟨1, .addUser 0 .hyperliquid .testnet 1 .shadow⟩, ⟨2, .start 2 0 toMainnet⟩]

/-- The rows of a user that a switch must not leave behind. -/
def openWork (s : SwitchState) (userId : UserId) : Bool :=
  (Table.any s.rows.ledgers fun _ l => l.userId = userId && l.managed && l.size ≠ 0) ||
    (Table.any s.rows.jobs fun _ job => job.userId = userId && job.state.active) ||
    Table.any s.rows.executions fun _ x => x.userId = userId && x.state.unresolved

/-- The network of user 0, whether the user is paused, and whether work is open, before and
after the commit of switch 2. -/
def commitOutcome (s : SwitchState) : Option (Network × Network × Bool × Bool) :=
  match s.db.users.lookup 0, switchStep s ⟨24, .commit 2 9⟩ with
  | some row, some s' => (s'.db.users.lookup 0).map fun row' =>
      (row.executionNetwork, row'.executionNetwork, s'.copyStates.lookup 0 = some .paused,
        openWork s' 0)
  | _, _ => none

/-- Switch 2 is of user 0 in epoch 1, and its commit changes the network. -/
def switchesNetwork (s : SwitchState) : Bool :=
  match s.tasks.lookup 2, switchStep s ⟨24, .commit 2 9⟩ with
  | some task, some s' =>
      ((s'.db.users.lookup task.userId).any fun row' =>
        row'.executionNetwork ≠ task.row.executionNetwork) &&
      hasDestinationHistory s.db task.userId task.row && task.userId = 0 &&
      sourceEpoch s.db task.userId task.row = some 1
  | _, _ => false

/-- The switch of a settled user. -/
theorem destination_switch_settled_done :
    ∃ s s', run switchStep .initial settledRun = some s ∧
      switchStep s ⟨24, .commit 2 9⟩ = some s' ∧ s'.copyStates.lookup 0 = some .paused ∧
      ∃ early at' late s₁, settledRun = early ++ ⟨at', .recheck 2⟩ :: late ∧
        run switchStep .initial early = some s₁ ∧ LocallySettled s₁.rows 0 (some 1) := by
  have hrun : (run switchStep .initial settledRun).map switchesNetwork = some true := by
    decide +kernel
  obtain ⟨s, hrun, hswitches⟩ := Option.map_eq_some_iff.1 hrun
  unfold switchesNetwork at hswitches
  split at hswitches
  · rename_i task s' htask hstep
    simp only [Bool.and_eq_true, decide_eq_true_eq, Option.any_eq_true] at hswitches
    obtain ⟨⟨⟨⟨row', hrow', hnetwork⟩, hhistory⟩, huser⟩, hsource⟩ := hswitches
    obtain ⟨-, hpaused, early, at', late, s₁, before, hops, hearly, -, -, -, hsettled⟩ :=
      destination_switch_settled hrun hstep htask hrow' (Or.inr hnetwork) hhistory
    rw [hsource, huser] at hsettled
    rw [huser] at hpaused
    exact ⟨s, s', hrun, hstep, hpaused, early, at', late, s₁, hops, hearly, hsettled⟩
  · cases hswitches

/-- **A switch that commits with unresolved work**: of an older epoch of the same destination, and
of a ledger row written between the last check and the write; and a first destination of a user who
is not paused. -/
theorem switch_leaves_unresolved_work :
    (∃ s, run switchStep .initial olderEpochRun = some s ∧
      commitOutcome s = some (.testnet, .mainnet, true, true)) ∧
    (∃ s, run switchStep .initial ledgerBehindRun = some s ∧
      commitOutcome s = some (.testnet, .mainnet, true, true)) ∧
    ∃ s, run switchStep .initial firstDestinationRun = some s ∧
      commitOutcome s = some (.testnet, .mainnet, false, false) := by
  have holder : (run switchStep .initial olderEpochRun).map commitOutcome =
      some (some (.testnet, .mainnet, true, true)) := by decide +kernel
  have hledger : (run switchStep .initial ledgerBehindRun).map commitOutcome =
      some (some (.testnet, .mainnet, true, true)) := by decide +kernel
  have hfirst : (run switchStep .initial firstDestinationRun).map commitOutcome =
      some (some (.testnet, .mainnet, false, false)) := by decide +kernel
  exact ⟨Option.map_eq_some_iff.1 holder, Option.map_eq_some_iff.1 hledger,
    Option.map_eq_some_iff.1 hfirst⟩

end HyperCopy

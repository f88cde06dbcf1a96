import HyperCopy.Watcher.Step

/-!
# What a step of a watcher can do

`ReplicaMove` lists what one replica does to its own memory, with the guards the step has checked;
`WatcherEffect` adds the steps that change the shared rows, and `watcherStep_effect` says that
every step does one of these things.
-/

namespace HyperCopy

namespace WatcherReplica

/-- The watcher with this session. -/
def withSession (w : WatcherReplica) (session : WatchSession) : WatcherReplica :=
  { w with session := some session }

/-- The write of the session has come to the phase. -/
def atPhase (w : WatcherReplica) (session : WatchSession) (write : FillWrite)
    (phase : WritePhase) : WatcherReplica :=
  w.withSession { session with write := some { write with phase := phase } }

/-- The write of the session has returned. -/
def afterWrite (w : WatcherReplica) (session : WatchSession) (write : FillWrite) :
    WatcherReplica :=
  w.withSession { session with write := none, handled := write.fill :: session.handled }

@[simp] lemma withSession_holder (w : WatcherReplica) (session : WatchSession) :
    (w.withSession session).holder = w.holder := rfl

@[simp] lemma withSession_token (w : WatcherReplica) (session : WatchSession) :
    (w.withSession session).token = w.token := rfl

@[simp] lemma withSession_session (w : WatcherReplica) (session : WatchSession) :
    (w.withSession session).session = some session := rfl

@[simp] lemma withSession_write (w : WatcherReplica) (session : WatchSession) :
    (w.withSession session).write? = session.write := rfl

end WatcherReplica

open WatcherReplica

/-- The replay starts at the checkpoint, or five minutes ago when there is none. -/
def replayCursor (checkpoint now : ℕ) : ℕ :=
  if checkpoint = 0 then now - 5 * 60 * 1000 else checkpoint

/-- A step that only changes the memory of its replica. -/
inductive ReplicaMove (cfg : WatcherSettings) (s : WatcherState) (now : ℕ) (op : WatcherOp)
    (r : ReplicaId) (w : WatcherReplica) : WatcherReplica → Prop
  | crash : ReplicaMove cfg s now op r w (freshReplica w.holder)
  | stop : ReplicaMove cfg s now op r w { w with session := none }
  | begin (hop : op = .readCheckpoint r) (hs : w.session = none) :
      ReplicaMove cfg s now op r w
        (w.withSession ⟨s.checkpoint, replayCursor s.checkpoint now, .reading, [], none, [], []⟩)
  | fetch (session : WatchSession) (returned : List MasterFill) (hs : w.session = some session)
      (hphase : session.phase = .reading) (hsub : ∀ f ∈ returned, f ∈ s.exchange)
      (hall : ∀ f ∈ s.exchange, session.cursor ≤ f.time → f ∈ returned) :
      ReplicaMove cfg s now op r w (w.withSession { session with
        phase := .replaying
        pending := replayFills session.cursor returned
        returned := returned })
  | subscribe (session : WatchSession) (hs : w.session = some session)
      (hw : session.write = none) (hphase : session.phase = .replaying)
      (hp : session.pending = []) :
      ReplicaMove cfg s now op r w (w.withSession { session with phase := .live })
  | message (session : WatchSession) (fills : List MasterFill) (hs : w.session = some session)
      (hw : session.write = none) (hphase : session.phase = .live)
      (hsub : ∀ f ∈ fills, f ∈ s.exchange) :
      ReplicaMove cfg s now op r w (w.withSession { session with pending := fills })
  | next (session : WatchSession) (fill : MasterFill) (rest : List MasterFill) (token : ℕ)
      (hop : op = .next r) (hs : w.session = some session) (hw : session.write = none)
      (hp : session.pending = fill :: rest) (htoken : w.token = some token) :
      ReplicaMove cfg s now op r w (w.withSession { session with
        pending := rest
        write := some ⟨fill, token, session.phase = .live, .opened⟩ })
  | fenced (session : WatchSession) (write : FillWrite) (row : LeaseRow)
      (hs : w.session = some session) (hw : session.write = some write)
      (hphase : write.phase = .opened) (hlease : s.lease = some row)
      (htoken : row.fencingToken = write.token) :
      ReplicaMove cfg s now op r w (w.atPhase session write .fenced)
  | found (session : WatchSession) (write : FillWrite) (hs : w.session = some session)
      (hw : session.write = some write) (hstored : s.Stored write.fill) :
      ReplicaMove cfg s now op r w (w.afterWrite session write)
  | missing (session : WatchSession) (write : FillWrite) (hs : w.session = some session)
      (hw : session.write = some write) (hphase : write.phase = .fenced) :
      ReplicaMove cfg s now op r w (w.atPhase session write .missing)
  | flushed (session : WatchSession) (write : FillWrite) (id : MasterEventId)
      (causalOrder : Option ℤ) (hs : w.session = some session) (hw : session.write = some write)
      (hphase : write.phase = .missing) (hid : id ∉ s.events.map (·.id))
      (hnew : ¬ s.Stored write.fill) :
      ReplicaMove cfg s now op r w
        (w.atPhase session write (.flushed (masterEventOf cfg write id causalOrder)))
  | select (session : WatchSession) (write : FillWrite) (event : MasterEventRow)
      (users : List EligibleUser) (hs : w.session = some session)
      (hw : session.write = some write) (hphase : write.phase = .flushed event) :
      ReplicaMove cfg s now op r w (w.atPhase session write (.inserting event [] users))
  | insertJob (session : WatchSession) (write : FillWrite) (event : MasterEventRow)
      (jobs : List EventCopyJob) (user : EligibleUser) (users : List EligibleUser)
      (hs : w.session = some session) (hw : session.write = some write)
      (hphase : write.phase = .inserting event jobs (user :: users)) :
      ReplicaMove cfg s now op r w (w.atPhase session write
        (.inserting event (insertEventJob cfg s.jobs jobs event user) users))

/-- Everything a step does. -/
inductive WatcherEffect (cfg : WatcherSettings) (s : WatcherState) (now : ℕ) (op : WatcherOp) :
    WatcherState → Prop
  | idle : WatcherEffect cfg s now op s
  | trade (fill : MasterFill) (hlast : ∀ f ∈ s.exchange, f.time ≤ fill.time) :
      WatcherEffect cfg s now op { s with exchange := fill :: s.exchange }
  | acquire (r : ReplicaId) (w w' : WatcherReplica) (row : LeaseRow)
      (hr : s.replicas.lookup r = some w) (hfree : s.leaseLocked = false)
      (hs : w.session = none) (hrow : acquireRow s.lease w.holder now cfg.leaseTtl = some row)
      (hw' : w' = w ∨ w' = { w with token := some row.fencingToken, lost := false }) :
      WatcherEffect cfg s now op { s with
        lease := some row
        issued := (row.fencingToken, r) :: s.issued
        replicas := s.replicas.insert r w' }
  | renew (expiry : ℕ) :
      WatcherEffect cfg s now op
        { s with lease := s.lease.map fun row => { row with expiresAt := expiry } }
  /-- the lease may expire, and a replica may forget its token -/
  | lease (r : ReplicaId) (w w' : WatcherReplica) (expiry : LeaseRow → ℕ)
      (hr : s.replicas.lookup r = some w) (hholder : w'.holder = w.holder)
      (hsession : w'.session = w.session) (htoken : w'.token = w.token ∨ w'.token = none) :
      WatcherEffect cfg s now op { s with
        lease := s.lease.map fun row => { row with expiresAt := expiry row }
        replicas := s.replicas.insert r w' }
  | move (r : ReplicaId) (w w' : WatcherReplica) (hr : s.replicas.lookup r = some w)
      (hmove : ReplicaMove cfg s now op r w w') : WatcherEffect cfg s now op (s.putReplica r w')
  | commit (r : ReplicaId) (w : WatcherReplica) (session : WatchSession) (write : FillWrite)
      (event : MasterEventRow) (jobs : List EventCopyJob) (hop : op = .commit r)
      (hr : s.replicas.lookup r = some w) (hs : w.session = some session)
      (hw : session.write = some write) (hphase : write.phase = .inserting event jobs []) :
      WatcherEffect cfg s now op { s with
        events := s.events ++ [event]
        jobs := s.jobs ++ jobs
        replicas := s.replicas.insert r (w.atPhase session write .stored) }
  | checkpoint (r : ReplicaId) (w : WatcherReplica) (session : WatchSession) (write : FillWrite)
      (timeMs : ℕ) (hr : s.replicas.lookup r = some w) (hs : w.session = some session)
      (hw : session.write = some write) (hphase : write.phase = .stored)
      (htime : timeMs = write.fill.time ∨ timeMs + 1 = write.fill.time) :
      WatcherEffect cfg s now op { s with
        checkpoint := if s.checkpoint ≤ timeMs then timeMs else s.checkpoint
        firstCheckpoint := if s.firstCheckpoint = 0 then timeMs else s.firstCheckpoint
        replicas := s.replicas.insert r (w.afterWrite session write) }

section

variable {cfg : WatcherSettings} {s s' : WatcherState} {now : ℕ} {op : WatcherOp} {r : ReplicaId}

lemma endSession_effect (h : endSession s r = some s') : WatcherEffect cfg s now op s' := by
  unfold endSession at h
  split at h
  · cases h
  · rename_i w hr
    split at h
    · obtain rfl := Option.some.inj h
      exact .move r w _ hr .stop
    · cases h

lemma betweenFills_eq_some {f : WatcherReplica → WatchSession → Option WatchSession}
    (h : betweenFills s r f = some s') :
    ∃ w session session', s.replicas.lookup r = some w ∧ w.session = some session ∧
      session.write = none ∧ f w session = some session' ∧
      s' = s.putReplica r (w.withSession session') := by
  unfold betweenFills at h
  split at h
  · cases h
  rename_i w hr
  split at h
  · cases h
  rename_i session hs
  split at h
  · cases h
  rename_i hw
  obtain ⟨session', hf, rfl⟩ := Option.map_eq_some_iff.1 h
  exact ⟨w, session, session', hr, hs, by simpa using hw, hf, rfl⟩

lemma withWrite_eq_some {f : WatcherReplica → WatchSession → FillWrite → Option WatcherState}
    (h : withWrite s r f = some s') :
    ∃ w session write, s.replicas.lookup r = some w ∧ w.session = some session ∧
      session.write = some write ∧ f w session write = some s' := by
  unfold withWrite at h
  split at h
  · cases h
  rename_i w hr
  split at h
  · cases h
  rename_i session hs
  split at h
  · cases h
  rename_i write hw
  exact ⟨w, session, write, hr, hs, hw, h⟩

lemma tryAcquire_effect {reply : Bool} (h : tryAcquire cfg s r now reply = some s') :
    WatcherEffect cfg s now op s' := by
  unfold tryAcquire at h
  split at h
  · cases h
  rename_i w hr
  split at h
  · cases h
  rename_i hfree
  rw [Bool.or_eq_true, not_or, Bool.not_eq_true, Bool.not_eq_true] at hfree
  split at h
  · obtain rfl := Option.some.inj h
    exact .idle
  · rename_i row hrow
    obtain rfl := Option.some.inj h
    refine .acquire r w _ row hr hfree.1 (by simpa using hfree.2) hrow ?_
    cases reply
    · exact Or.inl rfl
    · exact Or.inr rfl

lemma renewLease_effect {reply : Bool} (h : renewLease cfg s r now reply = some s') :
    WatcherEffect cfg s now op s' := by
  unfold renewLease at h
  split at h
  · cases h
  rename_i w hr
  split at h
  · obtain rfl := Option.some.inj h
    exact .idle
  split at h
  · cases h
  split at h
  · obtain rfl := Option.some.inj h
    exact .renew _
  · obtain rfl := Option.some.inj h
    have heffect : WatcherEffect cfg s now op _ := .lease r w
      (if reply then { w with token := none, lost := true } else w) LeaseRow.expiresAt hr
      (by cases reply <;> rfl) (by cases reply <;> rfl) (by cases reply <;> simp)
    have hlease : (s.lease.map fun row => { row with expiresAt := row.expiresAt }) = s.lease := by
      cases s.lease <;> rfl
    rwa [hlease] at heffect

lemma releaseLease_effect {reply : Bool} (h : releaseLease s r now reply = some s') :
    WatcherEffect cfg s now op s' := by
  unfold releaseLease at h
  split at h
  · cases h
  rename_i w hr
  split at h
  · obtain rfl := Option.some.inj h
    exact .idle
  rename_i token _
  split at h
  · cases h
  · obtain rfl := Option.some.inj h
    exact .lease r w (if reply then { w with token := none } else w)
      (fun row => if row.ownedBy w.holder token then now else row.expiresAt) hr
      (by cases reply <;> rfl) (by cases reply <;> rfl) (by cases reply <;> simp)

lemma readCheckpoint_effect (h : readCheckpoint s r now = some s') :
    WatcherEffect cfg s now (.readCheckpoint r) s' := by
  unfold readCheckpoint at h
  split at h
  · cases h
  rename_i w hr
  split at h
  · cases h
  rename_i hguard
  obtain rfl := Option.some.inj h
  simp only [Bool.or_eq_true, not_or, Bool.not_eq_true, Option.isSome_eq_false_iff,
    Option.isNone_iff_eq_none] at hguard
  exact .move r w _ hr (.begin rfl hguard.1.1)

lemma fetchFills_effect {returned : List MasterFill} (h : fetchFills s r returned = some s') :
    WatcherEffect cfg s now op s' := by
  unfold fetchFills at h
  split at h
  · cases h
  rename_i w hr
  split at h
  · cases h
  rename_i session hs
  split at h
  · rename_i hguard
    obtain rfl := Option.some.inj h
    exact .move r w _ hr (.fetch session returned hs hguard.1 hguard.2.1 hguard.2.2.1)
  · cases h

lemma subscribe_effect (h : subscribe s r = some s') : WatcherEffect cfg s now op s' := by
  obtain ⟨w, session, session', hr, hs, hw, hf, rfl⟩ := betweenFills_eq_some h
  split at hf
  · rename_i hguard
    obtain rfl := Option.some.inj hf
    exact .move r w _ hr (.subscribe session hs hw hguard.1 hguard.2)
  · cases hf

lemma receiveMessage_effect {fills : List MasterFill} (h : receiveMessage s r fills = some s') :
    WatcherEffect cfg s now op s' := by
  obtain ⟨w, session, session', hr, hs, hw, hf, rfl⟩ := betweenFills_eq_some h
  split at hf
  · rename_i hguard
    obtain rfl := Option.some.inj hf
    exact .move r w _ hr (.message session fills hs hw hguard.1 hguard.2.2)
  · cases hf

lemma nextFill_effect (h : nextFill s r = some s') : WatcherEffect cfg s now (.next r) s' := by
  obtain ⟨w, session, session', hr, hs, hw, hf, rfl⟩ := betweenFills_eq_some h
  split at hf
  · rename_i fill rest token hp htoken
    split at hf
    · cases hf
    · obtain rfl := Option.some.inj hf
      exact .move r w _ hr (.next session fill rest token rfl hs hw hp htoken)
  · cases hf

lemma checkLease_effect (h : checkLease s r now = some s') : WatcherEffect cfg s now op s' := by
  obtain ⟨w, session, write, hr, hs, hw, hf⟩ := withWrite_eq_some h
  split at hf
  · rename_i hphase
    split at hf
    · rename_i hrow
      obtain rfl := Option.some.inj hf
      obtain ⟨row, hlease, htoken⟩ := (Option.any_eq_true _ _).1 hrow
      rw [Bool.and_eq_true, decide_eq_true_eq] at htoken
      exact .move r w _ hr (.fenced session write row hs hw hphase hlease htoken.1)
    · exact endSession_effect hf
  · cases hf

lemma selectExisting_effect (h : selectExisting s r = some s') :
    WatcherEffect cfg s now op s' := by
  obtain ⟨w, session, write, hr, hs, hw, hf⟩ := withWrite_eq_some h
  split at hf
  · rename_i hphase
    split at hf
    · rename_i hstored
      obtain rfl := Option.some.inj hf
      exact .move r w _ hr (.found session write hs hw hstored)
    · obtain rfl := Option.some.inj hf
      exact .move r w _ hr (.missing session write hs hw hphase)
  · cases hf

lemma flushEvent_effect {id : MasterEventId} {causalOrder : Option ℤ}
    (h : flushEvent cfg s r id causalOrder = some s') : WatcherEffect cfg s now op s' := by
  obtain ⟨w, session, write, hr, hs, hw, hf⟩ := withWrite_eq_some h
  split at hf
  · rename_i hguard
    split at hf
    · exact endSession_effect hf
    · rename_i hnew
      obtain rfl := Option.some.inj hf
      exact .move r w _ hr (.flushed session write id causalOrder hs hw hguard.1 hguard.2 hnew)
  · cases hf

lemma selectEligible_effect {eligible : List EligibleUser}
    (h : selectEligible cfg s r now eligible = some s') : WatcherEffect cfg s now op s' := by
  obtain ⟨w, session, write, hr, hs, hw, hf⟩ := withWrite_eq_some h
  split at hf
  · rename_i event hphase
    obtain rfl := Option.some.inj hf
    exact .move r w _ hr (.select session write event _ hs hw hphase)
  · cases hf

lemma insertJob_effect (h : insertJob cfg s r = some s') : WatcherEffect cfg s now op s' := by
  obtain ⟨w, session, write, hr, hs, hw, hf⟩ := withWrite_eq_some h
  split at hf
  · rename_i event jobs user users hphase
    obtain rfl := Option.some.inj hf
    exact .move r w _ hr (.insertJob session write event jobs user users hs hw hphase)
  · cases hf

lemma commitEvent_effect (h : commitEvent s r = some s') :
    WatcherEffect cfg s now (.commit r) s' := by
  obtain ⟨w, session, write, hr, hs, hw, hf⟩ := withWrite_eq_some h
  split at hf
  · rename_i event jobs hphase
    obtain rfl := Option.some.inj hf
    exact .commit r w session write event jobs rfl hr hs hw hphase
  · cases hf

lemma setCheckpoint_effect {timeMs : ℕ} (h : setCheckpoint s r timeMs = some s') :
    WatcherEffect cfg s now op s' := by
  obtain ⟨w, session, write, hr, hs, hw, hf⟩ := withWrite_eq_some h
  split at hf
  · rename_i hguard
    obtain rfl := Option.some.inj hf
    exact .checkpoint r w session write timeMs hr hs hw hguard.1 hguard.2
  · cases hf

theorem watcherStep_effect {action : WatcherAction} (h : watcherStep cfg s action = some s') :
    WatcherEffect cfg s action.now action.op s' := by
  obtain ⟨now, op⟩ := action
  cases op with
  | trade fill =>
      simp only [watcherStep, tradeFill] at h
      split at h
      · rename_i hlast
        obtain rfl := Option.some.inj h
        exact .trade fill hlast
      · cases h
  | tryAcquire r reply => exact tryAcquire_effect h
  | renew r reply => exact renewLease_effect h
  | release r reply => exact releaseLease_effect h
  | crash r =>
      obtain ⟨w, hr, rfl⟩ := Option.map_eq_some_iff.1 h
      exact .move r w _ hr .crash
  | readCheckpoint r => exact readCheckpoint_effect h
  | fetch r returned => exact fetchFills_effect h
  | subscribe r => exact subscribe_effect h
  | message r fills => exact receiveMessage_effect h
  | next r => exact nextFill_effect h
  | rotate r => exact endSession_effect h
  | abort r => exact endSession_effect h
  | checkLease r => exact checkLease_effect h
  | selectExisting r => exact selectExisting_effect h
  | flush r id causalOrder => exact flushEvent_effect h
  | selectEligible r eligible => exact selectEligible_effect h
  | insertJob r => exact insertJob_effect h
  | commit r => exact commitEvent_effect h
  | setCheckpoint r timeMs => exact setCheckpoint_effect h

end

end HyperCopy

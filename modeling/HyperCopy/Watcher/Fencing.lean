import HyperCopy.Watcher.Effect

/-!
# The fencing of the watchers

`Fenced` is the invariant of the runs: tokens are issued in increasing order and the lease row
carries the last one; an open transaction has read the current token under a share lock, so the
token is still current when it commits; and what the transaction has flushed is not in the tables.
`watcher_fencing` reads the guarantee off it.
-/

namespace HyperCopy

open Transition WatcherReplica

/-! ## The invariant -/

/-- The event of an open transaction: written under its token, and new to the table. -/
structure EventPending (s : WatcherState) (write : FillWrite) (event : MasterEventRow) : Prop where
  token : event.fencingToken = write.token
  eventId : event.exchangeEventId = write.fill.eventId
  fresh : event.exchangeEventId ∉ s.events.map MasterEventRow.exchangeEventId
  freshId : event.id ∉ s.events.map (·.id)

/-- The jobs of an open transaction: one for each follower of the event. -/
structure JobsPending (event : MasterEventRow) (jobs : List EventCopyJob) : Prop where
  event : ∀ job ∈ jobs, job.masterEventId = event.id
  nodup : (jobs.map EventCopyJob.key).Nodup

/-- What the session of a write has added and not committed. -/
def PhasePending (s : WatcherState) (write : FillWrite) : WritePhase → Prop
  | .opened | .fenced | .missing | .stored => True
  | .flushed event => EventPending s write event
  | .inserting event jobs _ => EventPending s write event ∧ JobsPending event jobs

/-- The lease row carries the token. -/
def WatcherState.Current (s : WatcherState) (token : ℕ) : Prop :=
  s.lease.map LeaseRow.fencingToken = some token

/-- The token of a watcher was issued to it, and a write that holds the lease has the current
one. -/
structure ReplicaFenced (s : WatcherState) (r : ReplicaId) (w : WatcherReplica) : Prop where
  token : ∀ k, w.token = some k → (k, r) ∈ s.issued
  write : ∀ write, w.write? = some write → (write.token, r) ∈ s.issued
  locked : ∀ write, w.write? = some write → write.phase.holdsLeaseLock = true →
    s.Current write.token
  pending : ∀ write, w.write? = some write → PhasePending s write write.phase

/-- The lease row belongs to the last replica a token was issued to. -/
def LeaseIssued (s : WatcherState) : Prop :=
  match s.lease with
  | none => s.issued = []
  | some row => ∃ r w, s.issued.head? = some (row.fencingToken, r) ∧
      s.replicas.lookup r = some w ∧ w.holder = row.holder

/-- The invariant of a run: the tokens grow, and the events carry them in order. -/
structure Fenced (s : WatcherState) : Prop where
  decreasing : s.issued.Pairwise fun newer older => older.1 < newer.1
  lease : LeaseIssued s
  replicas : ∀ r w, s.replicas.lookup r = some w → ReplicaFenced s r w
  eventTokens : ∀ e ∈ s.events, ∃ k, s.Current k ∧ e.fencingToken ≤ k
  order : s.events.Pairwise fun e e' => e.fencingToken ≤ e'.fencingToken
  eventIds : (s.events.map MasterEventRow.exchangeEventId).Nodup
  ids : (s.events.map (·.id)).Nodup
  jobKeys : (s.jobs.map EventCopyJob.key).Nodup
  jobEvents : ∀ job ∈ s.jobs, job.masterEventId ∈ s.events.map (·.id)

section

variable {cfg : WatcherSettings} {s s' : WatcherState} {now : ℕ} {op : WatcherOp}
  {r r' : ReplicaId} {w w' : WatcherReplica}

lemma WatcherState.Current.eq {k k' : ℕ} (h : s.Current k) (h' : s.Current k') : k = k' :=
  Option.some.inj (h.symm.trans h')

/-- Every token goes to one replica. -/
lemma Fenced.issued_unique (hf : Fenced s) {k : ℕ} (h : (k, r) ∈ s.issued)
    (h' : (k, r') ∈ s.issued) : r = r' := by
  by_contra hne
  have hdistinct : s.issued.Pairwise fun a b => a.1 ≠ b.1 :=
    hf.decreasing.imp fun hlt => (Nat.ne_of_lt hlt).symm
  have hne' : ((k, r) : ℕ × ReplicaId) ≠ (k, r') := by simpa using hne
  have : Std.Symm fun a b : ℕ × ReplicaId => a.1 ≠ b.1 := ⟨fun _ _ hab => hab.symm⟩
  exact hdistinct.forall h h' hne' rfl

lemma Fenced.current_issued (hf : Fenced s) {k : ℕ} (h : s.Current k) :
    ∃ r w row, s.lease = some row ∧ row.fencingToken = k ∧ s.issued.head? = some (k, r) ∧
      s.replicas.lookup r = some w ∧ w.holder = row.holder := by
  obtain ⟨row, hrow, rfl⟩ := Option.map_eq_some_iff.1 h
  have hlease := hf.lease
  unfold LeaseIssued at hlease
  rw [hrow] at hlease
  obtain ⟨r, w, hhead, hr, hholder⟩ := hlease
  exact ⟨r, w, row, hrow, rfl, hhead, hr, hholder⟩

/-- The lease row carries the greatest token that was issued. -/
lemma Fenced.issued_le (hf : Fenced s) {k : ℕ} (h : s.Current k) {p : ℕ × ReplicaId}
    (hp : p ∈ s.issued) : p.1 ≤ k := by
  obtain ⟨r, w, row, -, -, hhead, -, -⟩ := hf.current_issued h
  obtain ⟨rest, hissued⟩ : ∃ rest, s.issued = (k, r) :: rest := by
    cases hs : s.issued with
    | nil => simp [hs] at hhead
    | cons a rest =>
        rw [hs] at hhead
        obtain rfl := Option.some.inj hhead
        exact ⟨rest, rfl⟩
  rw [hissued] at hp
  rcases List.mem_cons.1 hp with rfl | hp
  · exact le_rfl
  · have hdec := hf.decreasing
    rw [hissued] at hdec
    exact ((List.pairwise_cons.1 hdec).1 p hp).le

/-- Two open transactions are one: both have read the current token. -/
lemma Fenced.lock_unique (hf : Fenced s) (hr : s.replicas.lookup r = some w)
    (hr' : s.replicas.lookup r' = some w') {write write' : FillWrite}
    (hw : w.write? = some write) (hw' : w'.write? = some write')
    (hlock : write.phase.holdsLeaseLock = true) (hlock' : write'.phase.holdsLeaseLock = true) :
    r = r' := by
  have hcur := (hf.replicas r w hr).locked write hw hlock
  have hcur' := (hf.replicas r' w' hr').locked write' hw' hlock'
  have htoken : write.token = write'.token := hcur.eq hcur'
  have hissued := (hf.replicas r w hr).write write hw
  rw [htoken] at hissued
  exact hf.issued_unique hissued ((hf.replicas r' w' hr').write write' hw')

/-- While the lease row is free no transaction is open. -/
lemma unlocked_of_free (hfree : s.leaseLocked = false) (hr : s.replicas.lookup r = some w)
    {write : FillWrite} (hw : w.write? = some write) : write.phase.holdsLeaseLock = false := by
  have hany := Table.any_eq_false.1 hfree r w hr
  unfold WatcherReplica.holdsLeaseLock at hany
  rw [hw] at hany
  simpa using hany

lemma phasePending_of_unlocked {write : FillWrite} {phase : WritePhase}
    (h : phase.holdsLeaseLock = false) : PhasePending s write phase := by
  cases phase with
  | opened | fenced | missing | stored => trivial
  | flushed event => cases h
  | inserting event jobs rest => cases h

/-! ## Frames -/

/-- What the invariant of a replica reads of the shared rows. -/
structure LeaseKept (s s' : WatcherState) : Prop where
  issued : s'.issued = s.issued
  token : s'.lease.map LeaseRow.fencingToken = s.lease.map LeaseRow.fencingToken
  events : s'.events = s.events

lemma PhasePending.of_events (hevents : s'.events = s.events) {write : FillWrite}
    {phase : WritePhase} (h : PhasePending s write phase) : PhasePending s' write phase := by
  cases phase with
  | opened | fenced | missing | stored => trivial
  | flushed event => exact ⟨h.token, h.eventId, hevents ▸ h.fresh, hevents ▸ h.freshId⟩
  | inserting event jobs rest =>
      exact ⟨⟨h.1.token, h.1.eventId, hevents ▸ h.1.fresh, hevents ▸ h.1.freshId⟩, h.2⟩

lemma ReplicaFenced.of_kept (hkept : LeaseKept s s') (h : ReplicaFenced s r w) :
    ReplicaFenced s' r w where
  token k hk := hkept.issued ▸ h.token k hk
  write write hw := hkept.issued ▸ h.write write hw
  locked write hw hlock := hkept.token.trans (h.locked write hw hlock)
  pending write hw := (h.pending write hw).of_events hkept.events

/-- The holder of the lease row is looked up in the table the replica was changed in. -/
lemma LeaseIssued.of_insert (h : LeaseIssued s) (hr : s.replicas.lookup r = some w)
    (hreplicas : s'.replicas = s.replicas.insert r w') (hholder : w'.holder = w.holder)
    (hissued : s'.issued = s.issued)
    (hlease : s'.lease = s.lease ∨ ∃ expiry : LeaseRow → ℕ,
      s'.lease = s.lease.map fun row => { row with expiresAt := expiry row }) :
    LeaseIssued s' := by
  have hlookup : ∀ r₁ w₁, s.replicas.lookup r₁ = some w₁ →
      ∃ w₂, s'.replicas.lookup r₁ = some w₂ ∧ w₂.holder = w₁.holder := by
    intro r₁ w₁ hr₁
    rw [hreplicas, Table.lookup_insert_eq]
    by_cases hkey : r₁ = r
    · subst hkey
      obtain rfl := Option.some.inj (hr.symm.trans hr₁)
      exact ⟨w', by simp, hholder⟩
    · exact ⟨w₁, by simpa [hkey] using hr₁, rfl⟩
  unfold LeaseIssued at h ⊢
  rw [hissued]
  cases hl : s.lease with
  | none =>
      rw [hl] at h hlease
      have hnone : s'.lease = none := by
        rcases hlease with hlease | ⟨expiry, hlease⟩
        · exact hlease
        · exact hlease
      rw [hnone]
      exact h
  | some row =>
      rw [hl] at h hlease
      obtain ⟨r₁, w₁, hhead, hr₁, hw₁⟩ := h
      obtain ⟨w₂, hr₂, hw₂⟩ := hlookup r₁ w₁ hr₁
      rcases hlease with hlease | ⟨expiry, hlease⟩
      · rw [hlease]
        exact ⟨r₁, w₂, hhead, hr₂, hw₂.trans hw₁⟩
      · rw [hlease]
        exact ⟨r₁, w₂, hhead, hr₂, hw₂.trans hw₁⟩

/-! ## The steps -/

lemma ReplicaFenced.withoutWrite (hw : w.write? = none)
    (htoken : ∀ k, w.token = some k → (k, r) ∈ s.issued) : ReplicaFenced s r w where
  token := htoken
  write write h := by simp [hw] at h
  locked write h := by simp [hw] at h
  pending write h := by simp [hw] at h

/-- A replica that is in the middle of a write, at a new phase. -/
lemma ReplicaFenced.atPhase (h : ReplicaFenced s r w) {session : WatchSession} {write : FillWrite}
    (hs : w.session = some session) (hw : session.write = some write) {phase : WritePhase}
    (hlocked : phase.holdsLeaseLock = true → s.Current write.token)
    (hpending : PhasePending s write phase) : ReplicaFenced s r (w.atPhase session write phase) := by
  have hwrite : w.write? = some write := by simp [WatcherReplica.write?, hs, hw]
  refine ⟨h.token, ?_, ?_, ?_⟩
  · rintro _ ⟨⟩
    exact h.write write hwrite
  · rintro _ ⟨⟩ hlock
    exact hlocked hlock
  · rintro _ ⟨⟩
    cases phase with
    | opened | fenced | missing | stored => trivial
    | flushed event => exact ⟨hpending.token, hpending.eventId, hpending.fresh, hpending.freshId⟩
    | inserting event jobs rest =>
        obtain ⟨hevent, hjobs⟩ := hpending
        exact ⟨⟨hevent.token, hevent.eventId, hevent.fresh, hevent.freshId⟩, hjobs⟩

/-- One more follower: the statement does nothing on a conflict. -/
lemma JobsPending.insertEventJob {event : MasterEventRow} {jobs stored : List EventCopyJob}
    (h : JobsPending event jobs) (user : EligibleUser) :
    JobsPending event (insertEventJob cfg stored jobs event user) := by
  unfold HyperCopy.insertEventJob
  split
  · exact h
  rename_i network _
  by_cases hkey : (eventCopyJob cfg event user network).key ∈
      (stored ++ jobs).map EventCopyJob.key
  · simpa only [hkey, if_true] using h
  · simp only [hkey, if_false]
    refine ⟨?_, ?_⟩
    · intro job hjob
      rcases List.mem_append.1 hjob with hjob | hjob
      · exact h.event job hjob
      · obtain rfl := List.mem_singleton.1 hjob
        rfl
    · rw [List.map_append, List.nodup_append]
      refine ⟨h.nodup, by simp, ?_⟩
      intro a ha b hb hab
      obtain rfl : b = (eventCopyJob cfg event user network).key := by simpa using hb
      refine hkey ?_
      rw [List.map_append]
      exact List.mem_append_right _ (hab ▸ ha)

lemma ReplicaFenced.move (h : ReplicaFenced s r w) (hmove : ReplicaMove cfg s now op r w w') :
    ReplicaFenced s r w' := by
  have hwrite : ∀ {session : WatchSession} {write : FillWrite}, w.session = some session →
      session.write = some write → w.write? = some write := by
    intro session write hs hw
    simp [WatcherReplica.write?, hs, hw]
  cases hmove with
  | crash => exact .withoutWrite rfl fun k hk => by cases hk
  | stop => exact .withoutWrite rfl h.token
  | begin hop hs => exact .withoutWrite rfl h.token
  | fetch session returned hs hphase hsub hall =>
      have hsame : (w.withSession { session with
          phase := .replaying
          pending := replayFills session.cursor returned
          returned := returned }).write? = w.write? := by
        simp [WatcherReplica.write?, hs]
      exact ⟨h.token, hsame ▸ h.write, hsame ▸ h.locked, hsame ▸ h.pending⟩
  | subscribe session hs hw hphase hp => exact .withoutWrite hw h.token
  | message session fills hs hw hphase hsub => exact .withoutWrite hw h.token
  | next session fill rest token hop hs hw hp htoken =>
      refine ⟨h.token, ?_, ?_, ?_⟩
      · rintro _ ⟨⟩
        exact h.token token htoken
      · rintro _ ⟨⟩ hlock
        cases hlock
      · rintro _ ⟨⟩
        trivial
  | fenced session write row hs hw hphase hlease htoken =>
      refine h.atPhase hs hw (fun _ => ?_) trivial
      show s.lease.map LeaseRow.fencingToken = some write.token
      rw [hlease, Option.map_some, htoken]
  | found session write hs hw hstored => exact .withoutWrite rfl h.token
  | missing session write hs hw hphase =>
      exact h.atPhase hs hw (fun _ => h.locked write (hwrite hs hw) (by rw [hphase]; rfl)) trivial
  | flushed session write id causalOrder hs hw hphase hid hnew =>
      refine h.atPhase hs hw (fun _ => h.locked write (hwrite hs hw) (by rw [hphase]; rfl)) ?_
      exact ⟨rfl, rfl, hnew, hid⟩
  | select session write event users hs hw hphase =>
      have hpending := h.pending write (hwrite hs hw)
      rw [hphase] at hpending
      refine h.atPhase hs hw (fun _ => h.locked write (hwrite hs hw) (by rw [hphase]; rfl)) ?_
      exact ⟨hpending, ⟨fun job hjob => by simp at hjob, by simp⟩⟩
  | insertJob session write event jobs user users hs hw hphase =>
      have hpending := h.pending write (hwrite hs hw)
      rw [hphase] at hpending
      refine h.atPhase hs hw (fun _ => h.locked write (hwrite hs hw) (by rw [hphase]; rfl)) ?_
      exact ⟨hpending.1, hpending.2.insertEventJob user⟩

lemma ReplicaMove.holder_eq (hmove : ReplicaMove cfg s now op r w w') : w'.holder = w.holder := by
  cases hmove <;> rfl

/-- A token is issued above those that were issued before. -/
lemma Fenced.acquireRow_token (hf : Fenced s) {holder : HolderName} {ttl : ℕ} {row : LeaseRow}
    (hrow : acquireRow s.lease holder now ttl = some row) :
    row.holder = holder ∧ (∀ k, s.Current k → k < row.fencingToken) ∧
      ∀ p ∈ s.issued, p.1 < row.fencingToken := by
  unfold acquireRow at hrow
  cases hl : s.lease with
  | none =>
      rw [hl] at hrow
      obtain rfl := Option.some.inj hrow
      have hissued := hf.lease
      unfold LeaseIssued at hissued
      rw [hl] at hissued
      refine ⟨rfl, fun k hk => ?_, fun p hp => ?_⟩
      · simp [WatcherState.Current, hl] at hk
      · simp [hissued] at hp
  | some row₀ =>
      have hcur : s.Current row₀.fencingToken := by simp [WatcherState.Current, hl]
      rw [hl] at hrow
      dsimp only at hrow
      split at hrow
      · obtain rfl := Option.some.inj hrow
        refine ⟨rfl, fun k hk => ?_, fun p hp => ?_⟩
        · show k < row₀.fencingToken + 1
          rw [hk.eq hcur]
          exact Nat.lt_succ_self _
        · exact Nat.lt_succ_of_le (hf.issued_le hcur hp)
      · cases hrow

lemma Fenced.acquire (hf : Fenced s) {row : LeaseRow} (hr : s.replicas.lookup r = some w)
    (hfree : s.leaseLocked = false) (hs : w.session = none) {ttl : ℕ}
    (hrow : acquireRow s.lease w.holder now ttl = some row)
    (hw' : w' = w ∨ w' = { w with token := some row.fencingToken, lost := false }) :
    Fenced { s with
      lease := some row
      issued := (row.fencingToken, r) :: s.issued
      replicas := s.replicas.insert r w' } := by
  obtain ⟨hholder, hcurrent, hissued⟩ := hf.acquireRow_token hrow
  have hself : w'.session = none ∧ w'.holder = w.holder := by
    rcases hw' with rfl | rfl
    · exact ⟨hs, rfl⟩
    · exact ⟨hs, rfl⟩
  refine ⟨?_, ?_, ?_, ?_, hf.order, hf.eventIds, hf.ids, hf.jobKeys, hf.jobEvents⟩
  · exact List.pairwise_cons.2 ⟨hissued, hf.decreasing⟩
  · exact ⟨r, w', rfl, by simp, hself.2.trans hholder.symm⟩
  · intro r₁ w₁ hr₁
    rcases Table.lookup_insert_cases hr₁ with ⟨rfl, rfl⟩ | hr₁
    · refine .withoutWrite (by simp [WatcherReplica.write?, hself.1]) fun k hk => ?_
      rcases hw' with rfl | rfl
      · exact List.mem_cons_of_mem _ ((hf.replicas _ _ hr).token k hk)
      · obtain rfl := Option.some.inj hk
        exact List.mem_cons_self
    · have h₁ := hf.replicas r₁ w₁ hr₁
      refine ⟨fun k hk => List.mem_cons_of_mem _ (h₁.token k hk),
        fun write hw => List.mem_cons_of_mem _ (h₁.write write hw), fun write hw hlock => ?_,
        fun write hw => phasePending_of_unlocked (unlocked_of_free hfree hr₁ hw)⟩
      rw [unlocked_of_free hfree hr₁ hw] at hlock
      cases hlock
  · intro e he
    obtain ⟨k, hk, hle⟩ := hf.eventTokens e he
    exact ⟨row.fencingToken, rfl, hle.trans (hcurrent k hk).le⟩

/-- A step that leaves the token, the events and the jobs alone, and changes one replica. -/
lemma Fenced.replica (hf : Fenced s) (hr : s.replicas.lookup r = some w) (hkept : LeaseKept s s')
    (hjobs : s'.jobs = s.jobs) (hlease : LeaseIssued s')
    (hreplicas : s'.replicas = s.replicas.insert r w') (hw' : ReplicaFenced s r w') :
    Fenced s' := by
  have htokens : ∀ k, s.Current k → s'.Current k := fun k hk => hkept.token.trans hk
  refine ⟨hkept.issued ▸ hf.decreasing, hlease, ?_, ?_, hkept.events ▸ hf.order,
    hkept.events ▸ hf.eventIds, hkept.events ▸ hf.ids, hjobs ▸ hf.jobKeys, ?_⟩
  · intro r₁ w₁ hr₁
    rw [hreplicas] at hr₁
    rcases Table.lookup_insert_cases hr₁ with ⟨rfl, rfl⟩ | hr₁
    · exact hw'.of_kept hkept
    · exact (hf.replicas r₁ w₁ hr₁).of_kept hkept
  · intro e he
    rw [hkept.events] at he
    obtain ⟨k, hk, hle⟩ := hf.eventTokens e he
    exact ⟨k, htokens k hk, hle⟩
  · intro job hjob
    rw [hjobs] at hjob
    rw [hkept.events]
    exact hf.jobEvents job hjob

/-- The jobs of a committed event follow those of the events before it. -/
lemma nodup_keys_append {stored jobs : List EventCopyJob} {event : MasterEventRow}
    {events : List MasterEventRow} (hstored : (stored.map EventCopyJob.key).Nodup)
    (hevents : ∀ job ∈ stored, job.masterEventId ∈ events.map (·.id))
    (hnew : event.id ∉ events.map (·.id)) (h : JobsPending event jobs) :
    ((stored ++ jobs).map EventCopyJob.key).Nodup := by
  rw [List.map_append, List.nodup_append]
  refine ⟨hstored, h.nodup, ?_⟩
  intro a ha b hb hab
  obtain ⟨job, hjob, rfl⟩ := List.mem_map.1 ha
  obtain ⟨job', hjob', rfl⟩ := List.mem_map.1 hb
  have hid : job.masterEventId = event.id := by
    have hfst : job.masterEventId = job'.masterEventId := congrArg Prod.fst hab
    rw [hfst, h.event job' hjob']
  exact hnew (hid ▸ hevents job hjob)

lemma Fenced.commit (hf : Fenced s) {session : WatchSession} {write : FillWrite}
    {event : MasterEventRow} {jobs : List EventCopyJob} (hr : s.replicas.lookup r = some w)
    (hs : w.session = some session) (hw : session.write = some write)
    (hphase : write.phase = .inserting event jobs []) :
    Fenced { s with
      events := s.events ++ [event]
      jobs := s.jobs ++ jobs
      replicas := s.replicas.insert r (w.atPhase session write .stored) } := by
  have hwrite : w.write? = some write := by simp [WatcherReplica.write?, hs, hw]
  have hlock : write.phase.holdsLeaseLock = true := by rw [hphase]; rfl
  have hself := hf.replicas r w hr
  have hcur := hself.locked write hwrite hlock
  have hpending := hself.pending write hwrite
  rw [hphase] at hpending
  obtain ⟨hevent, hjobs⟩ := hpending
  have hlease : LeaseIssued { s with
      events := s.events ++ [event]
      jobs := s.jobs ++ jobs
      replicas := s.replicas.insert r (w.atPhase session write .stored) } :=
    hf.lease.of_insert hr rfl rfl rfl (Or.inl rfl)
  refine ⟨hf.decreasing, hlease, ?_, ?_, ?_, ?_, ?_, ?_, ?_⟩
  · intro r₁ w₁ hr₁
    by_cases hkey : r₁ = r
    · subst hkey
      obtain rfl : w.atPhase session write .stored = w₁ := by simpa using hr₁
      refine ⟨hself.token, ?_, ?_, ?_⟩
      · rintro _ ⟨⟩
        exact hself.write write hwrite
      · rintro _ ⟨⟩ hstored
        cases hstored
      · rintro _ ⟨⟩
        trivial
    · have hr₁' : s.replicas.lookup r₁ = some w₁ := by
        rwa [Table.lookup_insert_eq, if_neg hkey] at hr₁
      have h₁ := hf.replicas r₁ w₁ hr₁'
      have hunlocked : ∀ write₁, w₁.write? = some write₁ →
          write₁.phase.holdsLeaseLock = false := by
        intro write₁ hw₁
        by_contra hlock₁
        rw [Bool.not_eq_false] at hlock₁
        exact hkey (hf.lock_unique hr₁' hr hw₁ hwrite hlock₁ hlock)
      exact ⟨h₁.token, h₁.write, h₁.locked,
        fun write₁ hw₁ => phasePending_of_unlocked (hunlocked write₁ hw₁)⟩
  · intro e he
    rcases List.mem_append.1 he with he | he
    · exact hf.eventTokens e he
    · obtain rfl := List.mem_singleton.1 he
      exact ⟨write.token, hcur, hevent.token.le⟩
  · refine List.pairwise_append.2 ⟨hf.order, by simp, ?_⟩
    intro e he e' he'
    obtain rfl := List.mem_singleton.1 he'
    obtain ⟨k, hk, hle⟩ := hf.eventTokens e he
    rw [hevent.token, ← hk.eq hcur]
    exact hle
  · rw [List.map_append, List.nodup_append]
    refine ⟨hf.eventIds, by simp, ?_⟩
    intro a ha b hb hab
    obtain rfl : b = event.exchangeEventId := by simpa using hb
    exact hevent.fresh (hab ▸ ha)
  · rw [List.map_append, List.nodup_append]
    refine ⟨hf.ids, by simp, ?_⟩
    intro a ha b hb hab
    obtain rfl : b = event.id := by simpa using hb
    exact hevent.freshId (hab ▸ ha)
  · exact nodup_keys_append hf.jobKeys hf.jobEvents hevent.freshId hjobs
  · intro job hjob
    rw [List.map_append]
    rcases List.mem_append.1 hjob with hjob | hjob
    · exact List.mem_append_left _ (hf.jobEvents job hjob)
    · refine List.mem_append_right _ ?_
      rw [hjobs.event job hjob]
      exact List.mem_singleton.2 rfl

theorem Fenced.step (hf : Fenced s) (h : WatcherEffect cfg s now op s') : Fenced s' := by
  cases h with
  | idle => exact hf
  | trade fill hlast =>
      have hkept : LeaseKept s { s with exchange := fill :: s.exchange } := ⟨rfl, rfl, rfl⟩
      exact ⟨hf.decreasing, hf.lease, fun r w hr => (hf.replicas r w hr).of_kept hkept,
        hf.eventTokens, hf.order, hf.eventIds, hf.ids, hf.jobKeys, hf.jobEvents⟩
  | acquire r w w' row hr hfree hs hrow hw' => exact hf.acquire hr hfree hs hrow hw'
  | renew expiry =>
      have hkept : LeaseKept s
          { s with lease := s.lease.map fun row => { row with expiresAt := expiry } } :=
        ⟨rfl, by simp [Function.comp_def], rfl⟩
      refine ⟨hf.decreasing, ?_, fun r w hr => (hf.replicas r w hr).of_kept hkept, ?_, hf.order,
        hf.eventIds, hf.ids, hf.jobKeys, hf.jobEvents⟩
      · have hlease := hf.lease
        unfold LeaseIssued at hlease ⊢
        cases hl : s.lease with
        | none => rwa [hl] at hlease
        | some row => rwa [hl] at hlease
      · intro e he
        obtain ⟨k, hk, hle⟩ := hf.eventTokens e he
        exact ⟨k, hkept.token.trans hk, hle⟩
  | lease r w w' expiry hr hholder hsession htoken =>
      have hw' : ReplicaFenced s r w' := by
        have hself := hf.replicas r w hr
        have hsame : w'.write? = w.write? := by simp [WatcherReplica.write?, hsession]
        refine ⟨fun k hk => ?_, hsame ▸ hself.write, hsame ▸ hself.locked, hsame ▸ hself.pending⟩
        rcases htoken with htoken | htoken
        · exact hself.token k (htoken ▸ hk)
        · rw [htoken] at hk
          cases hk
      refine hf.replica hr ⟨rfl, by simp [Function.comp_def], rfl⟩ rfl ?_ rfl hw'
      exact hf.lease.of_insert hr rfl hholder rfl (Or.inr ⟨expiry, rfl⟩)
  | move r w w' hr hmove =>
      refine hf.replica hr ⟨rfl, rfl, rfl⟩ rfl ?_ rfl ((hf.replicas r w hr).move hmove)
      exact hf.lease.of_insert hr rfl hmove.holder_eq rfl (Or.inl rfl)
  | commit r w session write event jobs hop hr hs hw hphase => exact hf.commit hr hs hw hphase
  | checkpoint r w session write timeMs hr hs hw hphase htime =>
      refine hf.replica hr ⟨rfl, rfl, rfl⟩ rfl ?_ rfl
        (.withoutWrite rfl (hf.replicas r w hr).token)
      exact hf.lease.of_insert hr rfl rfl rfl (Or.inl rfl)

lemma fenced_initial (h : WatcherInitial s) : Fenced s where
  decreasing := by simp [h.issued]
  lease := by simp [LeaseIssued, h.lease, h.issued]
  replicas r w hr := by
    have hw := h.replicas r w hr
    refine .withoutWrite (by rw [hw]; rfl) fun k hk => ?_
    rw [hw] at hk
    cases hk
  eventTokens := by simp [h.events]
  order := by simp [h.events]
  eventIds := by simp [h.events]
  ids := by simp [h.events]
  jobKeys := by simp [h.jobs]
  jobEvents := by simp [h.jobs]

lemma fenced_of_run {s₀ : WatcherState} {actions : List WatcherAction} (h₀ : WatcherInitial s₀)
    (hrun : run (watcherStep cfg) s₀ actions = some s) : Fenced s :=
  run_invariant (fun _ _ _ hf hstep => hf.step (watcherStep_effect hstep)) (fenced_initial h₀) hrun

/-- An event is committed by the replica that holds the lease, under its token. -/
def CommittedByHolder (s : WatcherState) (action : WatcherAction) (s' : WatcherState) : Prop :=
  s'.events = s.events ∨ ∃ r w row event, action.op = .commit r ∧
    s'.events = s.events ++ [event] ∧ s.lease = some row ∧
    event.fencingToken = row.fencingToken ∧ s.issued.head? = some (row.fencingToken, r) ∧
    s.replicas.lookup r = some w ∧ w.holder = row.holder

lemma Fenced.committedByHolder (hf : Fenced s) {action : WatcherAction}
    (h : WatcherEffect cfg s action.now action.op s') : CommittedByHolder s action s' := by
  cases h with
  | commit r w session write event jobs hop hr hs hw hphase =>
      have hwrite : w.write? = some write := by simp [WatcherReplica.write?, hs, hw]
      have hself := hf.replicas r w hr
      have hcur := hself.locked write hwrite (by rw [hphase]; rfl)
      have hpending := hself.pending write hwrite
      rw [hphase] at hpending
      obtain ⟨r₁, w₁, row, hlease, htoken, hhead, hr₁, hholder⟩ := hf.current_issued hcur
      obtain rfl : r₁ = r :=
        hf.issued_unique (List.mem_of_mem_head? hhead) (hself.write write hwrite)
      obtain rfl := Option.some.inj (hr.symm.trans hr₁)
      refine Or.inr ⟨r₁, w, row, event, hop, rfl, hlease, ?_, ?_, hr, hholder⟩
      · exact hpending.1.token.trans htoken.symm
      · rw [htoken]
        exact hhead
  | _ => exact Or.inl rfl

end

/-- **Fencing.**  After any run of any number of replicas, tokens have been issued in increasing
order; whatever step commits an event, it is a commit of the replica that holds the current token,
and the event carries that token; the tokens of the events do not decrease in commit order; and the
unique keys hold. -/
theorem watcher_fencing (cfg : WatcherSettings) (s₀ s : WatcherState)
    (actions : List WatcherAction) (h₀ : WatcherInitial s₀)
    (hrun : run (watcherStep cfg) s₀ actions = some s) :
    s.issued.Pairwise (fun newer older => older.1 < newer.1) ∧
      (∀ action s', watcherStep cfg s action = some s' → CommittedByHolder s action s') ∧
      s.events.Pairwise (fun e e' => e.fencingToken ≤ e'.fencingToken) ∧
      (s.events.map MasterEventRow.exchangeEventId).Nodup ∧
      (s.jobs.map EventCopyJob.key).Nodup := by
  have hf := fenced_of_run h₀ hrun
  refine ⟨hf.decreasing, ?_, hf.order, hf.eventIds, hf.jobKeys⟩
  intro action s' hstep
  exact hf.committedByHolder (watcherStep_effect hstep)

/-! ## A hand-over in the middle of a write -/

/-- Leases of 15 s and jobs of 10 min, in milliseconds. -/
def mainnetWatcher : WatcherSettings := ⟨.mainnet, .mainnet, 15000, 600000⟩

/-- A fill of the master. -/
def masterBuy (eventId time : ℕ) : MasterFill := ⟨eventId, 3, true, 1, 0, time⟩

/-- Two replicas of a deployment, before anything has happened. -/
def twoReplicas : WatcherState where
  lease := none
  events := []
  jobs := []
  checkpoint := 0
  exchange := []
  replicas := AList.insert 2 (freshReplica 2) (AList.insert 1 (freshReplica 1) ∅)
  issued := []
  firstCheckpoint := 0

lemma watcherInitial_twoReplicas : WatcherInitial twoReplicas := by
  refine ⟨rfl, rfl, rfl, rfl, rfl, rfl, ?_⟩
  intro r w hr
  have hr' : (AList.insert 2 (freshReplica 2) (AList.insert 1 (freshReplica 1) ∅ :
      Table ReplicaId WatcherReplica)).lookup r = some w := hr
  rcases Table.lookup_insert_cases hr' with ⟨-, rfl⟩ | hr'
  · rfl
  rcases Table.lookup_insert_cases hr' with ⟨-, rfl⟩ | hr'
  · rfl
  · simp at hr'

/-- The first replica is about to write its second fill when its lease runs out; the second one
takes over and writes the fill; the first one then checks the lease. -/
def takeoverRun : List WatcherAction :=
  [⟨10000, .tryAcquire 1 true⟩, ⟨10000, .readCheckpoint 1⟩, ⟨10000, .fetch 1 []⟩,
   ⟨10000, .subscribe 1⟩, ⟨10000, .trade (masterBuy 1 11000)⟩,
   ⟨11000, .message 1 [masterBuy 1 11000]⟩, ⟨11000, .next 1⟩, ⟨11000, .checkLease 1⟩,
   ⟨11000, .selectExisting 1⟩, ⟨11000, .flush 1 1 none⟩,
   ⟨11000, .selectEligible 1 [⟨7, .absent⟩, ⟨7, .known .testnet⟩, ⟨8, .other⟩]⟩,
   ⟨11000, .insertJob 1⟩, ⟨11000, .insertJob 1⟩, ⟨11000, .insertJob 1⟩, ⟨11000, .commit 1⟩,
   ⟨11000, .setCheckpoint 1 11000⟩, ⟨12000, .trade (masterBuy 2 12000)⟩,
   ⟨12000, .message 1 [masterBuy 2 12000]⟩, ⟨12000, .next 1⟩,
   ⟨26000, .tryAcquire 2 true⟩, ⟨26000, .readCheckpoint 2⟩,
   ⟨26000, .fetch 2 [masterBuy 2 12000, masterBuy 1 11000]⟩, ⟨26000, .next 2⟩,
   ⟨26000, .checkLease 2⟩, ⟨26000, .selectExisting 2⟩, ⟨26000, .next 2⟩, ⟨26000, .checkLease 2⟩,
   ⟨26000, .selectExisting 2⟩, ⟨26000, .flush 2 2 none⟩, ⟨26000, .selectEligible 2 [⟨7, .absent⟩]⟩,
   ⟨26000, .commit 2⟩, ⟨27000, .checkLease 1⟩]

lemma takeoverRun_rows :
    (run (watcherStep mainnetWatcher) twoReplicas takeoverRun).map (fun s =>
      (s.events.map (fun e => (e.exchangeEventId, e.fencingToken)), s.jobs.map EventCopyJob.key,
        (s.replicas.lookup 1).map WatcherReplica.session)) =
      some ([(1, 1), (2, 2)], [(1, 7)], some none) := by
  decide +kernel

/-- The first replica is fenced out. -/
theorem watcher_fencing_takeover :
    ∃ s, run (watcherStep mainnetWatcher) twoReplicas takeoverRun = some s ∧
      s.events.map (fun e => (e.exchangeEventId, e.fencingToken)) = [(1, 1), (2, 2)] ∧
      (s.replicas.lookup 1).map WatcherReplica.session = some none ∧
      (s.events.map MasterEventRow.exchangeEventId).Nodup := by
  obtain ⟨s, hrun, hrows⟩ := Option.map_eq_some_iff.1 takeoverRun_rows
  have hfencing :=
    watcher_fencing mainnetWatcher twoReplicas s takeoverRun watcherInitial_twoReplicas hrun
  obtain ⟨hevents, hrest⟩ := Prod.mk.inj hrows
  exact ⟨s, hrun, hevents, (Prod.mk.inj hrest).2, hfencing.2.2.2.1⟩

end HyperCopy

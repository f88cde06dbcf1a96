import HyperCopy.Watcher.Fencing

/-!
# The replay checkpoint

The checkpoint moves with every fill that is stored, so it may only move past a fill whose
predecessors are stored.  `replay` sees to that by sorting its page.  The websocket loop takes the
fills as they come, and so depends on the order of their delivery: `newer_first_skips_fill` is a
message that lists two fills newest first, with a crash between them.  The checkpoint is then past
the older fill, and no replay asks for it again.

`DeliversInOrder` is the condition on the deliveries: a live fill that is new comes after the fills
before it.  It also leaves out the hand-over in which a replica with the very first event, but
without its checkpoint, is overtaken by one that finds no checkpoint to start from.
`checkpoint_sound_of_inOrder` shows that the checkpoint is sound in every run of such deliveries,
whatever the replicas do.
-/

namespace HyperCopy

open Transition WatcherReplica

/-! ## What the checkpoint promises -/

/-- Every fill between the first checkpoint and the checkpoint has its event. -/
def CheckpointSound (s : WatcherState) : Prop :=
  ∀ g ∈ s.exchange, s.firstCheckpoint < g.time → g.time < s.checkpoint → s.Stored g

/-- A replay has left no gap up to what the exchange gave it, from the first checkpoint on; from
its own start on where it found no checkpoint. -/
def ReplayComplete (s : WatcherState) (session : WatchSession) : Prop :=
  ∀ g ∈ s.exchange, (∃ f ∈ session.returned, g = f ∨ g.time < f.time) →
    (if session.start = 0 then session.cursor ≤ g.time else s.firstCheckpoint < g.time) →
    s.Stored g

/-- A replay has returned. -/
def WatchSession.replayed (session : WatchSession) : Prop :=
  session.phase = .replaying ∧ session.pending = [] ∧ session.write = none

/-! ## The condition on the deliveries -/

/-- The fills that a live loop has to have seen before a new one: those since its own start, or
since the first checkpoint where it found none to start from. -/
def WatcherState.expects (s : WatcherState) (session : WatchSession) (g : MasterFill) : Prop :=
  if session.start = 0 then s.firstCheckpoint ≠ 0 ∧ s.firstCheckpoint < g.time
  else session.start ≤ g.time

instance (s : WatcherState) (session : WatchSession) (g : MasterFill) :
    Decidable (s.expects session g) := by
  unfold WatcherState.expects
  infer_instance

/-- A live fill is one that is stored, one from before the checkpoint, or the next one. -/
def ComesInOrder (s : WatcherState) (session : WatchSession) (fill : MasterFill) : Prop :=
  s.Stored fill ∨ fill.time < s.checkpoint ∨
    ∀ g ∈ s.exchange, g.time < fill.time → s.expects session g → g ∈ session.handled

instance (s : WatcherState) (session : WatchSession) (fill : MasterFill) :
    Decidable (ComesInOrder s session fill) :=
  inferInstanceAs (Decidable (_ ∨ _ ∨ _))

/-- The event is committed, the checkpoint is not. -/
def WatcherReplica.checkpointPending (w : WatcherReplica) : Bool :=
  w.write?.any fun write => write.phase = .stored

/-- The live fills come in order, and the first checkpoint is read by one session. -/
def DeliversInOrder (s : WatcherState) (action : WatcherAction) : Prop :=
  match action.op with
  | .next r =>
      match (s.replicas.lookup r).bind WatcherReplica.session with
      | some session =>
          match session.pending with
          | fill :: _ => session.phase = .live → ComesInOrder s session fill
          | [] => True
      | none => True
  | .readCheckpoint _ =>
      s.checkpoint = 0 → Table.any s.replicas (fun _ w => w.checkpointPending) = false
  | _ => True

instance (s : WatcherState) (action : WatcherAction) : Decidable (DeliversInOrder s action) := by
  unfold DeliversInOrder
  split
  · split
    · split <;> infer_instance
    · infer_instance
  · infer_instance
  · infer_instance

/-! ## The invariant -/

/-- The fills before this one have their events. -/
def WatcherState.Before (s : WatcherState) (fill : MasterFill) : Prop :=
  s.firstCheckpoint ≠ 0 →
    ∀ g ∈ s.exchange, s.firstCheckpoint < g.time → g.time < fill.time → s.Stored g

/-- The replica acts under the current token, now or with the write it has begun. -/
def WatcherState.Speaks (s : WatcherState) (w : WatcherReplica) : Prop :=
  ∃ k, s.Current k ∧ (w.token = some k ∨ ∃ write, w.write? = some write ∧ write.token = k)

/-- The unique key has not been tried yet: the event may turn out to be stored. -/
def WritePhase.beforeInsert : WritePhase → Bool
  | opened | fenced | missing => true
  | flushed _ | inserting _ _ _ | stored => false

/-- The fill of a write is the next one, as long as the write can still be committed. -/
structure WriteOrdered (s : WatcherState) (speaks : Prop) (write : FillWrite) : Prop where
  before : speaks ∨ write.phase = .stored →
    s.Before write.fill ∨ write.phase.beforeInsert = true ∧ s.Stored write.fill
  stored : write.phase = .stored → s.Stored write.fill

/-- A replay works through the sorted page it was given. -/
structure ReplayOrdered (s : WatcherState) (session : WatchSession) : Prop where
  returned : ∀ g ∈ session.returned, g ∈ s.exchange
  seen : ∀ g ∈ session.returned, session.cursor ≤ g.time → g ∈ session.handled ∨
    (∃ write, session.write = some write ∧ write.fill = g) ∨ g ∈ session.pending
  late : ∀ g ∈ s.exchange, session.cursor ≤ g.time → g ∉ session.returned →
    ∀ f ∈ session.returned, f.time ≤ g.time
  sorted : session.pending.Pairwise fun f g => f.time ≤ g.time
  pending : ∀ g ∈ session.pending, g ∈ session.returned ∧ session.cursor ≤ g.time
  write : ∀ write, session.write = some write → session.cursor ≤ write.fill.time

/-- What a session has handled, and has before it. -/
structure SessionOrdered (s : WatcherState) (w : WatcherReplica) (session : WatchSession) :
    Prop where
  start : session.start ≤ s.checkpoint
  cursor : session.start ≠ 0 → session.cursor = session.start
  handled : ∀ g ∈ session.handled, s.Stored g
  pending : ∀ g ∈ session.pending, g ∈ s.exchange
  fill : ∀ write, session.write = some write → write.fill ∈ s.exchange
  write : ∀ write, session.write = some write → WriteOrdered s (s.Speaks w) write
  reading : session.phase = .reading → session.pending = [] ∧ session.write = none
  replaying : session.phase = .replaying → ReplayOrdered s session
  /-- without a checkpoint to start from, the first one is set by the session's own first fill -/
  window : session.start = 0 → session.phase ≠ .live → s.Speaks w → s.firstCheckpoint ≠ 0 →
    session.cursor ≤ s.firstCheckpoint + 1

/-- As long as there is no checkpoint, a replica that has yet to write it is the only one whose
session can still write anything. -/
def FirstAlone (s : WatcherState) : Prop :=
  s.checkpoint = 0 → ∀ r w, s.replicas.lookup r = some w → w.checkpointPending = true →
    ∀ r' w', s.replicas.lookup r' = some w' → r' ≠ r → w'.session ≠ none →
      ¬ s.Speaks w' ∧ w'.checkpointPending = false

/-- The invariant of a run in order. -/
structure Ordered (s : WatcherState) : Prop where
  fenced : Fenced s
  unset : s.checkpoint = 0 ↔ s.firstCheckpoint = 0
  reached : s.checkpoint ≠ 0 → ∃ f ∈ s.exchange, s.checkpoint ≤ f.time
  sound : CheckpointSound s
  sessions : ∀ r w session, s.replicas.lookup r = some w → w.session = some session →
    SessionOrdered s w session
  alone : FirstAlone s

section

variable {cfg : WatcherSettings} {s s' : WatcherState} {now : ℕ} {op : WatcherOp}
  {r r' : ReplicaId} {w w' : WatcherReplica} {session : WatchSession} {write : FillWrite}
  {f g : MasterFill}

/-! ## Frames -/

/-- The rows that the order of the fills is about. -/
structure RowsGrow (s s' : WatcherState) : Prop where
  stored : ∀ f, s.Stored f → s'.Stored f
  exchange : s'.exchange = s.exchange
  checkpoint : s.checkpoint ≤ s'.checkpoint

lemma WatcherState.Before.grow (hgrow : RowsGrow s s')
    (hfirst : s'.firstCheckpoint = s.firstCheckpoint) (h : s.Before f) : s'.Before f := by
  intro hset g hg hlow hhigh
  rw [hfirst] at hset hlow
  rw [hgrow.exchange] at hg
  exact hgrow.stored g (h hset g hg hlow hhigh)

lemma WriteOrdered.grow (hgrow : RowsGrow s s')
    (hfirst : s'.firstCheckpoint = s.firstCheckpoint) {speaks speaks' : Prop}
    (hspeaks : speaks' → speaks) (h : WriteOrdered s speaks write) :
    WriteOrdered s' speaks' write where
  before hnew := by
    rcases h.before (hnew.imp_left hspeaks) with hb | ⟨hphase, hstored⟩
    · exact Or.inl (hb.grow hgrow hfirst)
    · exact Or.inr ⟨hphase, hgrow.stored _ hstored⟩
  stored hphase := hgrow.stored _ (h.stored hphase)

lemma ReplayOrdered.grow (hgrow : RowsGrow s s') (h : ReplayOrdered s session) :
    ReplayOrdered s' session :=
  ⟨hgrow.exchange ▸ h.returned, h.seen, hgrow.exchange ▸ h.late, h.sorted, h.pending, h.write⟩

/-- Only the write and the window of a session depend on the first checkpoint and the lease. -/
lemma SessionOrdered.change (hgrow : RowsGrow s s') (h : SessionOrdered s w session)
    (hwrite : ∀ write, session.write = some write → WriteOrdered s' (s'.Speaks w') write)
    (hwindow : session.start = 0 → session.phase ≠ .live → s'.Speaks w' →
      s'.firstCheckpoint ≠ 0 → session.cursor ≤ s'.firstCheckpoint + 1) :
    SessionOrdered s' w' session where
  start := h.start.trans hgrow.checkpoint
  cursor := h.cursor
  handled g hg := hgrow.stored g (h.handled g hg)
  pending := hgrow.exchange ▸ h.pending
  fill := hgrow.exchange ▸ h.fill
  write := hwrite
  reading := h.reading
  replaying hphase := (h.replaying hphase).grow hgrow
  window := hwindow

/-- The session of a replica that is not part of the step. -/
lemma SessionOrdered.grow (hgrow : RowsGrow s s')
    (hfirst : s'.firstCheckpoint = s.firstCheckpoint) (hspeaks : s'.Speaks w' → s.Speaks w)
    (h : SessionOrdered s w session) : SessionOrdered s' w' session := by
  refine h.change hgrow (fun write hw => (h.write write hw).grow hgrow hfirst hspeaks) ?_
  intro hstart hphase hnew hset
  rw [hfirst] at hset ⊢
  exact h.window hstart hphase (hspeaks hnew) hset

/-- The session of a replica that can write nothing any more. -/
lemma SessionOrdered.silent (hgrow : RowsGrow s s') (h : SessionOrdered s w session)
    (hs : w.session = some session) (hspeaks : ¬ s'.Speaks w)
    (hpending : w.checkpointPending = false) : SessionOrdered s' w session := by
  refine h.change hgrow (fun write hw => ?_) fun _ _ hnew => absurd hnew hspeaks
  have hphase : write.phase ≠ .stored := by
    intro hphase
    simp [WatcherReplica.checkpointPending, WatcherReplica.write?, hs, hw, hphase] at hpending
  exact ⟨fun hnew => absurd (hnew.resolve_left hspeaks) hphase, fun h => absurd h hphase⟩

lemma CheckpointSound.grow (hgrow : RowsGrow s s')
    (hfirst : s'.firstCheckpoint = s.firstCheckpoint) (hcheckpoint : s'.checkpoint = s.checkpoint)
    (h : CheckpointSound s) : CheckpointSound s' := by
  intro g hg hlow hhigh
  rw [hgrow.exchange] at hg
  rw [hfirst] at hlow
  rw [hcheckpoint] at hhigh
  exact hgrow.stored g (h g hg hlow hhigh)

/-! ## Who speaks -/

lemma WatcherState.Speaks.of_current (hcur : s'.lease.map LeaseRow.fencingToken =
      s.lease.map LeaseRow.fencingToken) (h : s'.Speaks w) : s.Speaks w := by
  obtain ⟨k, hk, hw⟩ := h
  exact ⟨k, hcur.symm.trans hk, hw⟩

lemma WatcherState.Speaks.of_atPhase {phase : WritePhase} (hs : w.session = some session)
    (hw : session.write = some write) (h : s.Speaks (w.atPhase session write phase)) :
    s.Speaks w := by
  obtain ⟨k, hk, htoken | ⟨_, ⟨⟩, htoken⟩⟩ := h
  · exact ⟨k, hk, Or.inl htoken⟩
  · exact ⟨k, hk, Or.inr ⟨write, by simp [WatcherReplica.write?, hs, hw], htoken⟩⟩

lemma WatcherState.Speaks.of_afterWrite (h : s.Speaks (w.afterWrite session write)) :
    s.Speaks w := by
  obtain ⟨k, hk, htoken | ⟨_, ⟨⟩, -⟩⟩ := h
  exact ⟨k, hk, Or.inl htoken⟩

/-- No step of a session gives its replica a token. -/
lemma ReplicaMove.speaks (hmove : ReplicaMove cfg s now op r w w') (h : s.Speaks w') :
    s.Speaks w := by
  have htokens : ∀ {w' : WatcherReplica}, s.Speaks w' → w'.token = w.token → w'.write? = none →
      s.Speaks w := by
    rintro w' ⟨k, hk, hw | ⟨write, hw, -⟩⟩ htoken hwrite
    · exact ⟨k, hk, Or.inl (htoken ▸ hw)⟩
    · rw [hwrite] at hw
      cases hw
  cases hmove with
  | crash =>
      obtain ⟨k, -, htoken | ⟨_, ⟨⟩, -⟩⟩ := h
      cases htoken
  | stop => exact htokens h rfl rfl
  | begin hop hs => exact htokens h rfl rfl
  | fetch session returned hs hphase hsub hall =>
      obtain ⟨k, hk, htoken | ⟨write, hw, htoken⟩⟩ := h
      · exact ⟨k, hk, Or.inl htoken⟩
      · exact ⟨k, hk, Or.inr ⟨write, by simpa [WatcherReplica.write?, hs] using hw, htoken⟩⟩
  | subscribe session hs hw hphase hp => exact htokens h rfl hw
  | message session fills hs hw hphase hsub => exact htokens h rfl hw
  | next session fill rest token hop hs hw hp htoken =>
      -- the write carries the token the replica has
      obtain ⟨k, hk, htoken' | ⟨_, ⟨⟩, htoken'⟩⟩ := h
      · exact ⟨k, hk, Or.inl htoken'⟩
      · exact ⟨k, hk, Or.inl (htoken.trans (congrArg some htoken'))⟩
  | fenced session write row hs hw hphase hlease htoken => exact h.of_atPhase hs hw
  | found session write hs hw hstored => exact h.of_afterWrite
  | missing session write hs hw hphase => exact h.of_atPhase hs hw
  | flushed session write id causalOrder hs hw hphase hid hnew => exact h.of_atPhase hs hw
  | select session write event users hs hw hphase => exact h.of_atPhase hs hw
  | insertJob session write event jobs user users hs hw hphase => exact h.of_atPhase hs hw

/-! ## The steps of a session -/

/-- A write at a later phase, for the same fill. -/
lemma SessionOrdered.atPhase (h : SessionOrdered s w session) (hs : w.session = some session)
    (hw : session.write = some write) {phase : WritePhase}
    (hbefore : s.Speaks w ∨ phase = .stored →
      s.Before write.fill ∨ phase.beforeInsert = true ∧ s.Stored write.fill)
    (hstored : phase = .stored → s.Stored write.fill) :
    ∀ session', (w.atPhase session write phase).session = some session' →
      SessionOrdered s (w.atPhase session write phase) session' := by
  have hreading : session.phase ≠ .reading := by
    intro hphase
    have hnone := (h.reading hphase).2
    rw [hw] at hnone
    cases hnone
  rintro _ ⟨⟩
  refine ⟨h.start, h.cursor, h.handled, h.pending, ?_, ?_, fun hphase => absurd hphase hreading,
    fun hphase => ?_, fun hstart hphase hnew => h.window hstart hphase (hnew.of_atPhase hs hw)⟩
  · rintro _ ⟨⟩
    exact h.fill write hw
  · rintro _ ⟨⟩
    exact ⟨fun hnew => hbefore (hnew.imp_left fun hspeaks => hspeaks.of_atPhase hs hw), hstored⟩
  · have hreplay := h.replaying hphase
    refine ⟨hreplay.returned, ?_, hreplay.late, hreplay.sorted, hreplay.pending, ?_⟩
    · intro g hg hcursor
      rcases hreplay.seen g hg hcursor with hseen | ⟨write', hw', hfill⟩ | hseen
      · exact Or.inl hseen
      · obtain rfl := Option.some.inj (hw.symm.trans hw')
        exact Or.inr (Or.inl ⟨_, rfl, hfill⟩)
      · exact Or.inr (Or.inr hseen)
    · rintro _ ⟨⟩
      exact hreplay.write write hw

/-- `process_fill` has returned: the fill has its event. -/
lemma SessionOrdered.afterWrite (h : SessionOrdered s w session)
    (hw : session.write = some write) (hstored : s.Stored write.fill) :
    ∀ session', (w.afterWrite session write).session = some session' →
      SessionOrdered s (w.afterWrite session write) session' := by
  rintro _ ⟨⟩
  refine ⟨h.start, h.cursor, ?_, h.pending, ?_, ?_, fun hphase => ⟨(h.reading hphase).1, rfl⟩,
    fun hphase => ?_, fun hstart hphase hnew => h.window hstart hphase hnew.of_afterWrite⟩
  · intro g hg
    rcases List.mem_cons.1 hg with rfl | hg
    · exact hstored
    · exact h.handled g hg
  · intro _ hnone
    cases hnone
  · intro _ hnone
    cases hnone
  · have hreplay := h.replaying hphase
    refine ⟨hreplay.returned, ?_, hreplay.late, hreplay.sorted, hreplay.pending, ?_⟩
    · intro g hg hcursor
      rcases hreplay.seen g hg hcursor with hseen | ⟨write', hw', rfl⟩ | hseen
      · exact Or.inl (List.mem_cons_of_mem _ hseen)
      · obtain rfl := Option.some.inj (hw.symm.trans hw')
        exact Or.inl List.mem_cons_self
      · exact Or.inr (Or.inr hseen)
    · intro _ hnone
      cases hnone

lemma mem_replayFills {cursor : ℕ} {fills : List MasterFill} :
    f ∈ replayFills cursor fills ↔ f ∈ fills ∧ cursor ≤ f.time := by
  simp [replayFills]

lemma sorted_replayFills (cursor : ℕ) (fills : List MasterFill) :
    (replayFills cursor fills).Pairwise fun f g => f.time ≤ g.time := by
  have htotal : Std.Total fun f g : MasterFill => f.time ≤ g.time :=
    ⟨fun f g => Nat.le_total f.time g.time⟩
  have htrans : IsTrans MasterFill fun f g => f.time ≤ g.time :=
    ⟨fun _ _ _ hfg hgh => Nat.le_trans hfg hgh⟩
  exact (List.pairwise_insertionSort _ fills).filter _

/-- The page of a replay. -/
lemma replayOrdered_fetch {returned : List MasterFill} (hw : session.write = none)
    (hsub : ∀ f ∈ returned, f ∈ s.exchange)
    (hall : ∀ f ∈ s.exchange, session.cursor ≤ f.time → f ∈ returned) :
    ReplayOrdered s { session with
      phase := .replaying
      pending := replayFills session.cursor returned
      returned := returned } where
  returned := hsub
  seen g hg hcursor := Or.inr (Or.inr (mem_replayFills.2 ⟨hg, hcursor⟩))
  late g hg hcursor hnew := absurd (hall g hg hcursor) hnew
  sorted := sorted_replayFills _ _
  pending g hg := mem_replayFills.1 hg
  write write hwrite := by
    rw [hw] at hwrite
    cases hwrite

/-- The next fill of a replay comes after the fills before it. -/
lemma SessionOrdered.before_of_replaying (h : SessionOrdered s w session) (hsound : CheckpointSound s)
    (hreplay : ReplayOrdered s session) (hlive : session.phase ≠ .live)
    (hw : session.write = none) {rest : List MasterFill} (hp : session.pending = f :: rest)
    (hspeaks : s.Speaks w) : s.Before f := by
  intro hfirst g hg hlow hhigh
  have hfetched : session.cursor ≤ g.time → s.Stored g := by
    intro hcursor
    have hf := hreplay.pending f (by rw [hp]; exact List.mem_cons_self)
    by_cases hreturned : g ∈ session.returned
    · rcases hreplay.seen g hreturned hcursor with hseen | ⟨write, hwrite, -⟩ | hseen
      · exact h.handled g hseen
      · rw [hw] at hwrite
        cases hwrite
      · -- a fill that is still to come is not older than the next one
        exfalso
        have hsorted := hreplay.sorted
        rw [hp] at hsorted hseen
        rcases List.mem_cons.1 hseen with rfl | hseen
        · exact lt_irrefl _ hhigh
        · have hle := (List.pairwise_cons.1 hsorted).1 g hseen
          omega
    · have hle := hreplay.late g hg hcursor hreturned f hf.1
      omega
  by_cases hstart : session.start = 0
  · have hwindow := h.window hstart hlive hspeaks hfirst
    exact hfetched (by omega)
  · have hcursor := h.cursor hstart
    by_cases hold : g.time < session.start
    · exact hsound g hg hlow (lt_of_lt_of_le hold h.start)
    · exact hfetched (by omega)

/-- A live fill that comes in order. -/
lemma SessionOrdered.before_of_comesInOrder (h : SessionOrdered s w session)
    (hsound : CheckpointSound s) (hcomes : ComesInOrder s session f) :
    s.Before f ∨ s.Stored f := by
  rcases hcomes with hstored | hpast | hnext
  · exact Or.inr hstored
  · refine Or.inl fun _ g hg hlow hhigh => ?_
    exact hsound g hg hlow (hhigh.trans hpast)
  · refine Or.inl fun hfirst g hg hlow hhigh => ?_
    by_cases hold : session.start ≠ 0 ∧ g.time < session.start
    · exact hsound g hg hlow (lt_of_lt_of_le hold.2 h.start)
    · refine h.handled g (hnext g hg hhigh ?_)
      unfold WatcherState.expects
      split
      · exact ⟨hfirst, hlow⟩
      · omega

lemma Ordered.begin (ho : Ordered s) :
    SessionOrdered s w ⟨s.checkpoint, replayCursor s.checkpoint now, .reading, [], none, [], []⟩ where
  start := le_rfl
  cursor hstart := if_neg hstart
  handled := by simp
  pending := by simp
  fill := by simp
  write := by simp
  reading _ := ⟨rfl, rfl⟩
  replaying hphase := by cases hphase
  window hstart _ _ hfirst := absurd (ho.unset.1 hstart) hfirst

/-- A write that has not tried to commit yet, at its next phase. -/
lemma SessionOrdered.atOpenPhase (h : SessionOrdered s w session) (hs : w.session = some session)
    (hw : session.write = some write) {phase : WritePhase} (hopen : phase ≠ .stored)
    (hbefore : s.Before write.fill ∨ write.phase.beforeInsert = true ∧ s.Stored write.fill →
      s.Before write.fill ∨ phase.beforeInsert = true ∧ s.Stored write.fill) :
    ∀ session', (w.atPhase session write phase).session = some session' →
      SessionOrdered s (w.atPhase session write phase) session' := by
  refine h.atPhase hs hw (fun hor => ?_) (fun hstored => absurd hstored hopen)
  have hspeaks : s.Speaks w := hor.resolve_right hopen
  exact hbefore ((h.write write hw).before (Or.inl hspeaks))

/-- A page is handed to a session that has read its cursor. -/
lemma SessionOrdered.fetch (h : SessionOrdered s w session)
    (hphase : session.phase = .reading) {returned : List MasterFill}
    (hsub : ∀ f ∈ returned, f ∈ s.exchange)
    (hall : ∀ f ∈ s.exchange, session.cursor ≤ f.time → f ∈ returned) :
    let fetched := { session with
      phase := .replaying
      pending := replayFills session.cursor returned
      returned := returned }
    SessionOrdered s (w.withSession fetched) fetched := by
  obtain ⟨-, hwrite⟩ := h.reading hphase
  refine ⟨h.start, h.cursor, h.handled, ?_, h.fill, ?_, ?_, fun _ => ?_, ?_⟩
  · intro g hg
    exact hsub g (mem_replayFills.1 hg).1
  · intro write hw
    rw [hwrite] at hw
    cases hw
  · intro hfalse
    cases hfalse
  · exact replayOrdered_fetch hwrite hsub hall
  · rintro hstart - ⟨k, hk, htoken | ⟨write, hw, -⟩⟩
    · exact h.window hstart (by rw [hphase]; decide) ⟨k, hk, Or.inl htoken⟩
    · rw [WatcherReplica.withSession_write, hwrite] at hw
      cases hw

/-- A session that has no write goes live, or stays live with what a message brings. -/
lemma SessionOrdered.live (h : SessionOrdered s w session) (hw : session.write = none)
    {fills : List MasterFill} (hsub : ∀ f ∈ fills, f ∈ s.exchange) :
    let live := { session with phase := .live, pending := fills }
    SessionOrdered s (w.withSession live) live := by
  refine ⟨h.start, h.cursor, h.handled, hsub, h.fill, ?_, ?_, ?_, ?_⟩
  · intro write hwrite
    rw [hw] at hwrite
    cases hwrite
  · intro hfalse
    cases hfalse
  · intro hfalse
    cases hfalse
  · intro _ hlive
    exact absurd rfl hlive

/-- The next pending fill of a replay is written. -/
lemma ReplayOrdered.next (h : ReplayOrdered s session) (hw : session.write = none)
    {rest : List MasterFill} (hp : session.pending = f :: rest) (token : ℕ) (live : Bool) :
    ReplayOrdered s { session with pending := rest, write := some ⟨f, token, live, .opened⟩ } := by
  have hsorted := h.sorted
  rw [hp] at hsorted
  refine ⟨h.returned, ?_, h.late, (List.pairwise_cons.1 hsorted).2, fun g hg => ?_, ?_⟩
  · intro g hg hcursor
    rcases h.seen g hg hcursor with hseen | ⟨write, hwrite, -⟩ | hseen
    · exact Or.inl hseen
    · rw [hw] at hwrite
      cases hwrite
    · rw [hp] at hseen
      rcases List.mem_cons.1 hseen with rfl | hseen
      · exact Or.inr (Or.inl ⟨_, rfl, rfl⟩)
      · exact Or.inr (Or.inr hseen)
  · exact h.pending g (by rw [hp]; exact List.mem_cons_of_mem _ hg)
  · rintro _ ⟨⟩
    exact (h.pending f (by rw [hp]; exact List.mem_cons_self)).2

/-- The next pending fill is written, by a replica that spoke before. -/
lemma SessionOrdered.next (h : SessionOrdered s w session) (hw : session.write = none)
    {rest : List MasterFill} (hp : session.pending = f :: rest) {token : ℕ} {live : Bool}
    (hspeaks : s.Speaks (w.withSession { session with
      pending := rest, write := some ⟨f, token, live, .opened⟩ }) → s.Speaks w)
    (hbefore : s.Speaks w → s.Before f ∨ s.Stored f) :
    let writing := { session with pending := rest, write := some ⟨f, token, live, .opened⟩ }
    SessionOrdered s (w.withSession writing) writing := by
  have hreading : session.phase ≠ .reading := by
    intro hphase
    have hempty := (h.reading hphase).1
    rw [hp] at hempty
    cases hempty
  refine ⟨h.start, h.cursor, h.handled, fun g hg => ?_, ?_, ?_,
    fun hphase => absurd hphase hreading, fun hphase => (h.replaying hphase).next hw hp _ _, ?_⟩
  · exact h.pending g (by rw [hp]; exact List.mem_cons_of_mem _ hg)
  · rintro _ ⟨⟩
    exact h.pending f (by rw [hp]; exact List.mem_cons_self)
  · rintro _ ⟨⟩
    refine ⟨fun hnew => ?_, fun hstored => by cases hstored⟩
    rcases hnew with hnew | hstored
    · exact (hbefore (hspeaks hnew)).imp_right fun hstored => ⟨rfl, hstored⟩
    · cases hstored
  · intro hstart hphase hnew
    exact h.window hstart hphase (hspeaks hnew)

/-- A fill that is next, live or in a replay, has the fills before it handled. -/
lemma Ordered.before_next (ho : Ordered s) (hr : s.replicas.lookup r = some w)
    (hs : w.session = some session) (hmeets : DeliversInOrder s ⟨now, .next r⟩)
    (hw : session.write = none) {rest : List MasterFill} (hp : session.pending = f :: rest)
    (hspeaks : s.Speaks w) : s.Before f ∨ s.Stored f := by
  have h := ho.sessions r w session hr hs
  cases hphase : session.phase with
  | reading =>
      have hempty := (h.reading hphase).1
      rw [hp] at hempty
      cases hempty
  | replaying =>
      have hlive : session.phase ≠ .live := by rw [hphase]; decide
      exact Or.inl (h.before_of_replaying ho.sound (h.replaying hphase) hlive hw hp hspeaks)
  | live =>
      unfold DeliversInOrder at hmeets
      simp only [hr, Option.bind_some, hs, hp] at hmeets
      exact h.before_of_comesInOrder ho.sound (hmeets hphase)

/-- A step of a session changes nothing in what the others rely on. -/
theorem Ordered.move (ho : Ordered s) (hr : s.replicas.lookup r = some w)
    (hmeets : DeliversInOrder s ⟨now, op⟩) (hmove : ReplicaMove cfg s now op r w w') :
    ∀ session', w'.session = some session' → SessionOrdered s w' session' := by
  cases hmove with
  | crash => intro _ hnone; cases hnone
  | stop => intro _ hnone; cases hnone
  | begin hop hs =>
      rintro _ ⟨⟩
      exact ho.begin
  | fetch session returned hs hphase hsub hall =>
      rintro _ ⟨⟩
      exact (ho.sessions r w session hr hs).fetch hphase hsub hall
  | subscribe session hs hw hphase hp =>
      have h := (ho.sessions r w session hr hs).live hw fun f hf =>
        (ho.sessions r w session hr hs).pending f hf
      rintro _ ⟨⟩
      exact h
  | message session fills hs hw hphase hsub =>
      have h := (ho.sessions r w session hr hs).live hw hsub
      rw [← hphase] at h
      rintro _ ⟨⟩
      exact h
  | next session fill rest token hop hs hw hp htoken =>
      have hmove : ReplicaMove cfg s now op r w _ :=
        .next session fill rest token hop hs hw hp htoken
      rw [hop] at hmeets
      rintro _ ⟨⟩
      exact (ho.sessions r w session hr hs).next hw hp hmove.speaks
        (ho.before_next hr hs hmeets hw hp)
  | fenced session write row hs hw hphase hlease htoken =>
      exact (ho.sessions r w session hr hs).atOpenPhase hs hw (by simp)
        fun hbefore => hbefore.imp_right fun hstored => ⟨rfl, hstored.2⟩
  | found session write hs hw hstored => exact (ho.sessions r w session hr hs).afterWrite hw hstored
  | missing session write hs hw hphase =>
      exact (ho.sessions r w session hr hs).atOpenPhase hs hw (by simp)
        fun hbefore => hbefore.imp_right fun hstored => ⟨rfl, hstored.2⟩
  | flushed session write id causalOrder hs hw hphase hid hnew =>
      exact (ho.sessions r w session hr hs).atOpenPhase hs hw (by simp)
        fun hbefore => Or.inl (hbefore.resolve_right fun hstored => hnew hstored.2)
  | select session write event users hs hw hphase
  | insertJob session write event jobs user users hs hw hphase =>
      refine (ho.sessions r w session hr hs).atOpenPhase hs hw (by simp) fun hbefore => ?_
      refine Or.inl (hbefore.resolve_right ?_)
      rw [hphase]
      simp [WritePhase.beforeInsert]

/-! ## The first checkpoint -/

lemma ReplicaMove.pending (hmove : ReplicaMove cfg s now op r w w')
    (h : w'.checkpointPending = true) : w.checkpointPending = true := by
  have hnone : ∀ {w' : WatcherReplica}, w'.checkpointPending = true → w'.write? = none → False := by
    intro w' hpending hwrite
    simp [WatcherReplica.checkpointPending, hwrite] at hpending
  cases hmove with
  | crash => exact (hnone h rfl).elim
  | stop => exact (hnone h rfl).elim
  | begin hop hs => exact (hnone h rfl).elim
  | fetch session returned hs hphase hsub hall =>
      simpa [WatcherReplica.checkpointPending, WatcherReplica.write?, hs] using h
  | subscribe session hs hw hphase hp => exact (hnone h hw).elim
  | message session fills hs hw hphase hsub => exact (hnone h hw).elim
  | found session write hs hw hstored => exact (hnone h rfl).elim
  | next | fenced | missing | flushed | select | insertJob => cases h

/-- A session begins with the read of the checkpoint. -/
lemma ReplicaMove.session_of_ne (hmove : ReplicaMove cfg s now op r w w')
    (hop : op ≠ .readCheckpoint r) (h : w'.session ≠ none) : w.session ≠ none := by
  cases hmove with
  | crash => exact absurd rfl h
  | stop => exact absurd rfl h
  | begin hop' hs => exact absurd hop' hop
  | fetch session returned hs | subscribe session hs | message session fills hs
  | next session fill rest token hop hs | fenced session write row hs | found session write hs
  | missing session write hs | flushed session write id causalOrder hs
  | select session write event users hs | insertJob session write event jobs user users hs =>
      rw [hs]
      exact Option.some_ne_none _

/-- A step of one replica that does not touch the lease and the events. -/
lemma FirstAlone.replica (h : FirstAlone s) (hr : s.replicas.lookup r = some w)
    (hreplicas : s'.replicas = s.replicas.insert r w') (hcheckpoint : s'.checkpoint = s.checkpoint)
    (hspeaks : ∀ w₁, s'.Speaks w₁ → s.Speaks w₁) (hself : s'.Speaks w' → s.Speaks w)
    (hpending : w'.checkpointPending = true → w.checkpointPending = true)
    (hsession : s.checkpoint = 0 → w'.session ≠ none → w.session ≠ none ∨
      ∀ r₁ w₁, s.replicas.lookup r₁ = some w₁ → w₁.checkpointPending = false) :
    FirstAlone s' := by
  intro hzero r₁ w₁ hr₁ hpending₁ r₂ w₂ hr₂ hne hs₂
  rw [hcheckpoint] at hzero
  rw [hreplicas] at hr₁ hr₂
  -- the replica that waits was waiting before
  obtain ⟨w₁', hr₁', hpending₁'⟩ : ∃ w₁', s.replicas.lookup r₁ = some w₁' ∧
      w₁'.checkpointPending = true := by
    rcases Table.lookup_insert_cases hr₁ with ⟨rfl, rfl⟩ | hr₁
    · exact ⟨w, hr, hpending hpending₁⟩
    · exact ⟨w₁, hr₁, hpending₁⟩
  rcases Table.lookup_insert_cases hr₂ with ⟨rfl, rfl⟩ | hr₂
  · rcases hsession hzero hs₂ with hs | hnone
    · obtain ⟨hquiet, hidle⟩ := h hzero r₁ w₁' hr₁' hpending₁' r₂ w hr hne hs
      refine ⟨fun hnew => hquiet (hself hnew), ?_⟩
      by_contra hnew
      rw [hpending (by simpa using hnew)] at hidle
      cases hidle
    · rw [hnone r₁ w₁' hr₁'] at hpending₁'
      cases hpending₁'
  · obtain ⟨hquiet, hidle⟩ := h hzero r₁ w₁' hr₁' hpending₁' r₂ w₂ hr₂ hne hs₂
    exact ⟨fun hnew => hquiet (hspeaks w₂ hnew), hidle⟩

/-- Whoever has a token from before the last acquisition is silent. -/
lemma Fenced.silent_of_acquire (hf : Fenced s) {row : LeaseRow} (hr : s.replicas.lookup r = some w)
    (hlease : s'.lease = some row) (hissued : ∀ p ∈ s.issued, p.1 < row.fencingToken) :
    ¬ s'.Speaks w := by
  rintro ⟨k, hk, hknown⟩
  have hk' : k = row.fencingToken := by
    rw [WatcherState.Current, hlease] at hk
    exact (Option.some.inj hk).symm
  have hmem : (k, r) ∈ s.issued := by
    rcases hknown with htoken | ⟨write, hw, rfl⟩
    · exact (hf.replicas r w hr).token k htoken
    · exact (hf.replicas r w hr).write write hw
  have hlt := hissued _ hmem
  rw [hk'] at hlt
  exact lt_irrefl _ hlt

/-- Two replicas that speak are one. -/
lemma Fenced.speaks_unique (hf : Fenced s) (hr : s.replicas.lookup r = some w)
    (hr' : s.replicas.lookup r' = some w') (h : s.Speaks w) (h' : s.Speaks w') : r = r' := by
  have hissued : ∀ {r₁ : ReplicaId} {w₁ : WatcherReplica}, s.replicas.lookup r₁ = some w₁ →
      ∀ {k : ℕ}, (w₁.token = some k ∨ ∃ write, w₁.write? = some write ∧ write.token = k) →
      (k, r₁) ∈ s.issued := by
    rintro r₁ w₁ hr₁ k (htoken | ⟨write, hw, rfl⟩)
    · exact (hf.replicas r₁ w₁ hr₁).token k htoken
    · exact (hf.replicas r₁ w₁ hr₁).write write hw
  obtain ⟨k, hk, hknown⟩ := h
  obtain ⟨k', hk', hknown'⟩ := h'
  obtain rfl := hk.eq hk'
  exact hf.issued_unique (hissued hr hknown) (hissued hr' hknown')

lemma speaks_of_locked (hf : ReplicaFenced s r w) (hw : w.write? = some write)
    (hlock : write.phase.holdsLeaseLock = true) : s.Speaks w :=
  ⟨write.token, hf.locked write hw hlock, Or.inr ⟨write, hw, rfl⟩⟩

/-! ## The steps -/

/-- The other sessions, when rows have only grown. -/
lemma Ordered.sessions_grow (ho : Ordered s) (hgrow : RowsGrow s s')
    (hfirst : s'.firstCheckpoint = s.firstCheckpoint) (hspeaks : ∀ w₁, s'.Speaks w₁ → s.Speaks w₁)
    (hreplicas : s'.replicas = s.replicas.insert r w')
    (hself : ∀ session, w'.session = some session → SessionOrdered s' w' session) :
    ∀ r₁ w₁ session, s'.replicas.lookup r₁ = some w₁ → w₁.session = some session →
      SessionOrdered s' w₁ session := by
  intro r₁ w₁ session hr₁ hs₁
  rw [hreplicas] at hr₁
  rcases Table.lookup_insert_cases hr₁ with ⟨rfl, rfl⟩ | hr₁
  · exact hself session hs₁
  · exact (ho.sessions r₁ w₁ session hr₁ hs₁).grow hgrow hfirst (hspeaks w₁)

lemma Ordered.trade (ho : Ordered s) {fill : MasterFill}
    (hlast : ∀ f ∈ s.exchange, f.time ≤ fill.time)
    (hfenced : Fenced { s with exchange := fill :: s.exchange }) :
    Ordered { s with exchange := fill :: s.exchange } := by
  have hbefore : ∀ f ∈ s.exchange, s.Before f →
      ({ s with exchange := fill :: s.exchange } : WatcherState).Before f := by
    intro f hf hb hset g hg hlow hhigh
    rcases List.mem_cons.1 hg with rfl | hg
    · have hle := hlast f hf
      omega
    · exact hb hset g hg hlow hhigh
  refine ⟨hfenced, ho.unset, ?_, ?_, ?_, ho.alone⟩
  · intro hset
    obtain ⟨f, hf, hle⟩ := ho.reached hset
    exact ⟨f, List.mem_cons_of_mem _ hf, hle⟩
  · intro g hg hlow hhigh
    rcases List.mem_cons.1 hg with rfl | hg
    · have hlt : g.time < s.checkpoint := hhigh
      obtain ⟨f, hf, hle⟩ := ho.reached (by omega)
      have hlast' := hlast f hf
      omega
    · exact ho.sound g hg hlow hhigh
  · intro r w session hr hs
    have h := ho.sessions r w session hr hs
    refine ⟨h.start, h.cursor, h.handled, fun g hg => List.mem_cons_of_mem _ (h.pending g hg),
      fun write hw => List.mem_cons_of_mem _ (h.fill write hw), ?_, h.reading, fun hphase => ?_,
      h.window⟩
    · intro write hw
      have hold := h.write write hw
      refine ⟨fun hnew => (hold.before hnew).imp_left ?_, hold.stored⟩
      exact hbefore write.fill (h.fill write hw)
    · have hreplay := h.replaying hphase
      refine ⟨fun g hg => List.mem_cons_of_mem _ (hreplay.returned g hg), hreplay.seen, ?_,
        hreplay.sorted, hreplay.pending, hreplay.write⟩
      intro g hg hcursor hnew f hf
      rcases List.mem_cons.1 hg with rfl | hg
      · exact hlast f (hreplay.returned f hf)
      · exact hreplay.late g hg hcursor hnew f hf

lemma Ordered.acquire (ho : Ordered s) {row : LeaseRow} {ttl : ℕ}
    (hr : s.replicas.lookup r = some w) (hs : w.session = none)
    (hrow : acquireRow s.lease w.holder now ttl = some row)
    (hw' : w' = w ∨ w' = { w with token := some row.fencingToken, lost := false })
    (hlease : s'.lease = some row) (hevents : s'.events = s.events)
    (hexchange : s'.exchange = s.exchange) (hcheckpoint : s'.checkpoint = s.checkpoint)
    (hfirst : s'.firstCheckpoint = s.firstCheckpoint)
    (hreplicas : s'.replicas = s.replicas.insert r w') (hf : Fenced s') : Ordered s' := by
  have hgrow : RowsGrow s s' := by
    refine ⟨fun f hstored => ?_, hexchange, hcheckpoint.ge⟩
    rw [WatcherState.Stored, hevents]
    exact hstored
  have hsession : w'.session = none := by
    rcases hw' with rfl | rfl
    · exact hs
    · exact hs
  have hsilent : ∀ r₁ w₁, s.replicas.lookup r₁ = some w₁ → ¬ s'.Speaks w₁ := by
    intro r₁ w₁ hr₁
    exact ho.fenced.silent_of_acquire hr₁ hlease (ho.fenced.acquireRow_token hrow).2.2
  have hold : ∀ r₁ w₁, s'.replicas.lookup r₁ = some w₁ → w₁.session ≠ none →
      s.replicas.lookup r₁ = some w₁ := by
    intro r₁ w₁ hr₁ hs₁
    rw [hreplicas] at hr₁
    rcases Table.lookup_insert_cases hr₁ with ⟨rfl, rfl⟩ | hr₁
    · exact absurd hsession hs₁
    · exact hr₁
  refine ⟨hf, by rw [hcheckpoint, hfirst]; exact ho.unset, ?_, ho.sound.grow hgrow hfirst hcheckpoint,
    ?_, ?_⟩
  · rw [hcheckpoint, hexchange]
    exact ho.reached
  · intro r₁ w₁ session hr₁ hs₁
    have hr₁' := hold r₁ w₁ hr₁ (by rw [hs₁]; exact Option.some_ne_none _)
    refine (ho.sessions r₁ w₁ session hr₁' hs₁).grow hgrow hfirst fun hnew => ?_
    exact absurd hnew (hsilent r₁ w₁ hr₁')
  · intro hzero r₁ w₁ hr₁ hpending r₂ w₂ hr₂ hne hs₂
    rw [hcheckpoint] at hzero
    have hs₁ : w₁.session ≠ none := by
      intro hnone
      simp [WatcherReplica.checkpointPending, WatcherReplica.write?, hnone] at hpending
    have hr₂' := hold r₂ w₂ hr₂ hs₂
    exact ⟨hsilent r₂ w₂ hr₂',
      (ho.alone hzero r₁ w₁ (hold r₁ w₁ hr₁ hs₁) hpending r₂ w₂ hr₂' hne hs₂).2⟩

lemma Ordered.commit (ho : Ordered s) {event : MasterEventRow} {jobs : List EventCopyJob}
    (hr : s.replicas.lookup r = some w) (hs : w.session = some session)
    (hw : session.write = some write) (hphase : write.phase = .inserting event jobs [])
    (hlease : s'.lease = s.lease) (hevents : s'.events = s.events ++ [event])
    (hexchange : s'.exchange = s.exchange) (hcheckpoint : s'.checkpoint = s.checkpoint)
    (hfirst : s'.firstCheckpoint = s.firstCheckpoint)
    (hreplicas : s'.replicas = s.replicas.insert r (w.atPhase session write .stored))
    (hf : Fenced s') : Ordered s' := by
  have hwrite : w.write? = some write := by simp [WatcherReplica.write?, hs, hw]
  have hlock : write.phase.holdsLeaseLock = true := by rw [hphase]; rfl
  have hspeaks : s.Speaks w := speaks_of_locked (ho.fenced.replicas r w hr) hwrite hlock
  have hcurrent : ∀ w₁, s'.Speaks w₁ → s.Speaks w₁ :=
    fun w₁ hnew => hnew.of_current (by rw [hlease])
  have hgrow : RowsGrow s s' := by
    refine ⟨fun f hstored => ?_, hexchange, hcheckpoint.ge⟩
    rw [WatcherState.Stored, hevents, List.map_append]
    exact List.mem_append_left _ hstored
  have hstored : s'.Stored write.fill := by
    have hpending := (ho.fenced.replicas r w hr).pending write hwrite
    rw [hphase] at hpending
    rw [WatcherState.Stored, hevents, List.map_append, ← hpending.1.eventId]
    exact List.mem_append_right _ (List.mem_singleton.2 rfl)
  have h := ho.sessions r w session hr hs
  have hbefore : s.Before write.fill := by
    refine ((h.write write hw).before (Or.inl hspeaks)).resolve_right ?_
    rw [hphase]
    simp [WritePhase.beforeInsert]
  have hself : SessionOrdered s' w session := by
    refine h.change hgrow (fun write' hw' => ?_) fun hstart hlive hnew hset => ?_
    · obtain rfl := Option.some.inj (hw.symm.trans hw')
      exact ⟨fun _ => Or.inl (hbefore.grow hgrow hfirst), fun _ => hstored⟩
    · rw [hfirst] at hset ⊢
      exact h.window hstart hlive hspeaks hset
  refine ⟨hf, by rw [hcheckpoint, hfirst]; exact ho.unset, ?_,
    ho.sound.grow hgrow hfirst hcheckpoint, ?_, ?_⟩
  · rw [hcheckpoint, hexchange]
    exact ho.reached
  · refine ho.sessions_grow hgrow hfirst hcurrent hreplicas ?_
    exact hself.atPhase hs hw (fun _ => Or.inl (hbefore.grow hgrow hfirst)) fun _ => hstored
  · intro hzero r₁ w₁ hr₁ hpending r₂ w₂ hr₂ hne hs₂
    rw [hcheckpoint] at hzero
    rw [hreplicas] at hr₁ hr₂
    -- before the commit no other replica had its checkpoint to write
    have hidle : ∀ r₃ w₃, r₃ ≠ r → s.replicas.lookup r₃ = some w₃ →
        w₃.checkpointPending = false := by
      intro r₃ w₃ hne₃ hr₃
      by_contra hpending₃
      rw [Bool.not_eq_false] at hpending₃
      have hquiet := (ho.alone hzero r₃ w₃ hr₃ hpending₃ r w hr (Ne.symm hne₃)
        (by rw [hs]; exact Option.some_ne_none _)).1
      exact hquiet hspeaks
    obtain rfl : r₁ = r := by
      by_contra hne₁
      rw [Table.lookup_insert_eq, if_neg hne₁] at hr₁
      rw [hidle r₁ w₁ hne₁ hr₁] at hpending
      cases hpending
    rw [Table.lookup_insert_eq, if_neg hne] at hr₂
    refine ⟨fun hnew => hne ?_, hidle r₂ w₂ hne hr₂⟩
    exact ho.fenced.speaks_unique hr₂ hr (hcurrent w₂ hnew) hspeaks

/-- The checkpoint is raised to a fill whose predecessors have their events. -/
lemma CheckpointSound.raise {timeMs : ℕ} (h : CheckpointSound s)
    (hunset : s.checkpoint = 0 ↔ s.firstCheckpoint = 0) (hbefore : s.Before f)
    (htime : timeMs = f.time ∨ timeMs + 1 = f.time) (hgrow : RowsGrow s s')
    (hcheckpoint : s'.checkpoint = if s.checkpoint ≤ timeMs then timeMs else s.checkpoint)
    (hfirst : s'.firstCheckpoint = if s.firstCheckpoint = 0 then timeMs else s.firstCheckpoint) :
    CheckpointSound s' := by
  intro g hg hlow hhigh
  rw [hgrow.exchange] at hg
  rw [hfirst] at hlow
  rw [hcheckpoint] at hhigh
  refine hgrow.stored g ?_
  by_cases hset : s.firstCheckpoint = 0
  · -- the checkpoint is the first one
    rw [if_pos hset] at hlow
    have hzero := hunset.2 hset
    rw [if_pos (by omega)] at hhigh
    omega
  · rw [if_neg hset] at hlow
    by_cases hle : s.checkpoint ≤ timeMs
    · rw [if_pos hle] at hhigh
      exact hbefore hset g hg hlow (by omega)
    · rw [if_neg hle] at hhigh
      exact h g hg hlow hhigh

lemma Ordered.setCheckpoint (ho : Ordered s) {timeMs : ℕ} (hr : s.replicas.lookup r = some w)
    (hs : w.session = some session) (hw : session.write = some write)
    (hphase : write.phase = .stored)
    (htime : timeMs = write.fill.time ∨ timeMs + 1 = write.fill.time)
    (hlease : s'.lease = s.lease) (hevents : s'.events = s.events)
    (hexchange : s'.exchange = s.exchange)
    (hcheckpoint : s'.checkpoint = if s.checkpoint ≤ timeMs then timeMs else s.checkpoint)
    (hfirst : s'.firstCheckpoint = if s.firstCheckpoint = 0 then timeMs else s.firstCheckpoint)
    (hreplicas : s'.replicas = s.replicas.insert r (w.afterWrite session write))
    (hf : Fenced s') : Ordered s' := by
  have h := ho.sessions r w session hr hs
  have hwrite := h.write write hw
  have hpending : w.checkpointPending = true := by
    simp [WatcherReplica.checkpointPending, WatcherReplica.write?, hs, hw, hphase]
  have hcurrent : ∀ w₁, s'.Speaks w₁ → s.Speaks w₁ :=
    fun w₁ hnew => hnew.of_current (by rw [hlease])
  have hgrow : RowsGrow s s' := by
    refine ⟨fun f hstored => ?_, hexchange, ?_⟩
    · rw [WatcherState.Stored, hevents]
      exact hstored
    · rw [hcheckpoint]
      split <;> omega
  have hbefore : s.Before write.fill := by
    refine (hwrite.before (Or.inr hphase)).resolve_right ?_
    rw [hphase]
    simp [WritePhase.beforeInsert]
  have hunset := ho.unset
  refine ⟨hf, ?_, ?_, ?_, ?_, ?_⟩
  · rw [hcheckpoint, hfirst]
    split <;> split <;> omega
  · rw [hcheckpoint, hexchange]
    intro hset
    by_cases hle : s.checkpoint ≤ timeMs
    · rw [if_pos hle]
      exact ⟨write.fill, h.fill write hw, by omega⟩
    · rw [if_neg hle]
      exact ho.reached (by omega)
  · exact ho.sound.raise hunset hbefore htime hgrow hcheckpoint hfirst
  · intro r₁ w₁ session₁ hr₁ hs₁
    rw [hreplicas] at hr₁
    by_cases hkey : r₁ = r
    · subst hkey
      obtain rfl : w.afterWrite session write = w₁ := by simpa using hr₁
      have hafter := h.afterWrite hw (hwrite.stored hphase) session₁ hs₁
      refine hafter.change hgrow (fun write' hw' => ?_) fun hstart hlive hnew hset => ?_
      · cases hs₁
        cases hw'
      · by_cases hold : s.firstCheckpoint = 0
        · -- the first checkpoint is that of the session's own fill
          rw [hfirst, if_pos hold]
          obtain rfl : { session with write := none, handled := write.fill :: session.handled } =
              session₁ := Option.some.inj hs₁
          have hreplaying : session.phase = .replaying := by
            cases hp : session.phase with
            | reading =>
                have hnone := (h.reading hp).2
                rw [hw] at hnone
                cases hnone
            | replaying => rfl
            | live => exact absurd hp hlive
          have hcursor := (h.replaying hreplaying).write write hw
          show session.cursor ≤ timeMs + 1
          omega
        · rw [hfirst, if_neg hold]
          exact hafter.window hstart hlive (hcurrent _ hnew) hold
    · rw [Table.lookup_insert_eq, if_neg hkey] at hr₁
      have h₁ := ho.sessions r₁ w₁ session₁ hr₁ hs₁
      by_cases hold : s.firstCheckpoint = 0
      · obtain ⟨hquiet, hidle⟩ := ho.alone (hunset.2 hold) r w hr hpending r₁ w₁ hr₁ hkey
          (by rw [hs₁]; exact Option.some_ne_none _)
        exact h₁.silent hgrow hs₁ (fun hnew => hquiet (hcurrent w₁ hnew)) hidle
      · exact h₁.grow hgrow (by rw [hfirst, if_neg hold]) (hcurrent w₁)
  · intro hzero r₁ w₁ hr₁ hpending₁ r₂ w₂ hr₂ hne hs₂
    have hzero' : s.checkpoint = 0 := by
      have hle := hgrow.checkpoint
      omega
    rw [hreplicas] at hr₁
    rcases Table.lookup_insert_cases hr₁ with ⟨rfl, rfl⟩ | hr₁'
    · cases hpending₁
    · by_cases hkey : r₁ = r
      · subst hkey
        obtain rfl : w.afterWrite session write = w₁ := by simpa using hr₁
        cases hpending₁
      · have hs₁ : w₁.session ≠ none := by
          intro hnone
          simp [WatcherReplica.checkpointPending, WatcherReplica.write?, hnone] at hpending₁
        rw [(ho.alone hzero' r w hr hpending r₁ w₁ hr₁' hkey hs₁).2] at hpending₁
        cases hpending₁

/-- A step that moves or forgets tokens and moves sessions. -/
lemma Ordered.replica (ho : Ordered s) (hr : s.replicas.lookup r = some w)
    (hreplicas : s'.replicas = s.replicas.insert r w') (hevents : s'.events = s.events)
    (hexchange : s'.exchange = s.exchange) (hcheckpoint : s'.checkpoint = s.checkpoint)
    (hfirst : s'.firstCheckpoint = s.firstCheckpoint)
    (hspeaks : ∀ w₁, s'.Speaks w₁ → s.Speaks w₁) (hself : s.Speaks w' → s.Speaks w)
    (hpending : w'.checkpointPending = true → w.checkpointPending = true)
    (hsession : s.checkpoint = 0 → w'.session ≠ none → w.session ≠ none ∨
      ∀ r₁ w₁, s.replicas.lookup r₁ = some w₁ → w₁.checkpointPending = false)
    (hsessions : ∀ session, w'.session = some session → SessionOrdered s w' session)
    (hf : Fenced s') : Ordered s' := by
  have hgrow : RowsGrow s s' := by
    refine ⟨fun f hstored => ?_, hexchange, hcheckpoint.ge⟩
    rw [WatcherState.Stored, hevents]
    exact hstored
  refine ⟨hf, by rw [hcheckpoint, hfirst]; exact ho.unset, ?_,
    ho.sound.grow hgrow hfirst hcheckpoint, ?_, ?_⟩
  · rw [hcheckpoint, hexchange]
    exact ho.reached
  · refine ho.sessions_grow hgrow hfirst hspeaks hreplicas fun session hs => ?_
    exact (hsessions session hs).grow hgrow hfirst (hspeaks w')
  · exact ho.alone.replica hr hreplicas hcheckpoint hspeaks (fun hnew => hself (hspeaks w' hnew))
      hpending hsession

theorem Ordered.step (ho : Ordered s) (hmeets : DeliversInOrder s ⟨now, op⟩)
    (h : WatcherEffect cfg s now op s') : Ordered s' := by
  have hf := ho.fenced.step h
  cases h with
  | idle => exact ho
  | trade fill hlast => exact ho.trade hlast hf
  | acquire r w w' row hr hfree hs hrow hw' =>
      exact ho.acquire hr hs hrow hw' rfl rfl rfl rfl rfl rfl hf
  | renew expiry =>
      have hcurrent : ∀ w₁, WatcherState.Speaks
          { s with lease := s.lease.map fun row => { row with expiresAt := expiry } } w₁ →
          s.Speaks w₁ :=
        fun w₁ hnew => hnew.of_current (by simp [Function.comp_def])
      have hgrow : RowsGrow s
          { s with lease := s.lease.map fun row => { row with expiresAt := expiry } } :=
        ⟨fun _ hstored => hstored, rfl, le_rfl⟩
      refine ⟨hf, ho.unset, ho.reached, ho.sound, fun r w session hr hs => ?_, ?_⟩
      · have h := ho.sessions r w session hr hs
        exact h.grow hgrow rfl (hcurrent w)
      · intro hzero r₁ w₁ hr₁ hpending r₂ w₂ hr₂ hne hs₂
        obtain ⟨hquiet, hidle⟩ := ho.alone hzero r₁ w₁ hr₁ hpending r₂ w₂ hr₂ hne hs₂
        exact ⟨fun hnew => hquiet (hcurrent w₂ hnew), hidle⟩
  | lease r w w' expiry hr hholder hsession htoken =>
      have hwrite : w'.write? = w.write? := by simp [WatcherReplica.write?, hsession]
      have hself : s.Speaks w' → s.Speaks w := by
        rintro ⟨k, hk, hw | hw⟩
        · rcases htoken with htoken | htoken
          · exact ⟨k, hk, Or.inl (htoken ▸ hw)⟩
          · rw [htoken] at hw
            cases hw
        · exact ⟨k, hk, Or.inr (hwrite ▸ hw)⟩
      refine ho.replica hr rfl rfl rfl rfl rfl ?_ hself ?_ ?_ ?_ hf
      · exact fun w₁ hnew => hnew.of_current (by simp [Function.comp_def])
      · simp [WatcherReplica.checkpointPending, hwrite]
      · exact fun _ hs => Or.inl (hsession ▸ hs)
      · intro session hs
        rw [hsession] at hs
        exact (ho.sessions r w session hr hs).grow ⟨fun _ hstored => hstored, rfl, le_rfl⟩ rfl hself
  | move r w w' hr hmove =>
      refine ho.replica hr rfl rfl rfl rfl rfl (fun _ hnew => hnew) hmove.speaks hmove.pending ?_
        (ho.move hr hmeets hmove) hf
      intro hzero hs
      by_cases hop : op = .readCheckpoint r
      · subst hop
        exact Or.inr fun r₁ w₁ hr₁ => Table.any_eq_false.1 (hmeets hzero) r₁ w₁ hr₁
      · exact Or.inl (hmove.session_of_ne hop hs)
  | commit r w session write event jobs hop hr hs hw hphase =>
      exact ho.commit hr hs hw hphase rfl rfl rfl rfl rfl rfl hf
  | checkpoint r w session write timeMs hr hs hw hphase htime =>
      exact ho.setCheckpoint hr hs hw hphase htime rfl rfl rfl rfl rfl rfl hf

lemma ordered_initial (h : WatcherInitial s) : Ordered s where
  fenced := fenced_initial h
  unset := by simp [h.checkpoint, h.firstCheckpoint]
  reached hset := absurd h.checkpoint hset
  sound g _ _ hhigh := by
    rw [h.checkpoint] at hhigh
    omega
  sessions r w session hr hs := by
    rw [h.replicas r w hr] at hs
    cases hs
  alone _ r w hr hpending := by
    rw [h.replicas r w hr] at hpending
    cases hpending

lemma Ordered.replayComplete (ho : Ordered s) (hr : s.replicas.lookup r = some w)
    (hs : w.session = some session) (hdone : session.replayed) : ReplayComplete s session := by
  obtain ⟨hphase, hpending, hw⟩ := hdone
  have h := ho.sessions r w session hr hs
  have hreplay := h.replaying hphase
  rintro g hg ⟨f, hf, hgf⟩ hfloor
  have hfetched : session.cursor ≤ g.time → s.Stored g := by
    intro hcursor
    by_cases hreturned : g ∈ session.returned
    · rcases hreplay.seen g hreturned hcursor with hseen | ⟨write, hwrite, -⟩ | hseen
      · exact h.handled g hseen
      · rw [hw] at hwrite
        cases hwrite
      · rw [hpending] at hseen
        cases hseen
    · have hle := hreplay.late g hg hcursor hreturned f hf
      rcases hgf with rfl | hlt
      · exact absurd hf hreturned
      · omega
  by_cases hstart : session.start = 0
  · rw [if_pos hstart] at hfloor
    exact hfetched hfloor
  · rw [if_neg hstart] at hfloor
    have hcursor := h.cursor hstart
    by_cases hold : g.time < session.start
    · exact ho.sound g hg hfloor (lt_of_lt_of_le hold h.start)
    · exact hfetched (by omega)

end

/-- **The checkpoint never passes an unstored fill**, in every run whose deliveries are in order;
and every replay that returns leaves no gap. -/
theorem checkpoint_sound_of_inOrder (cfg : WatcherSettings) (s₀ s : WatcherState)
    (actions : List WatcherAction) (h₀ : WatcherInitial s₀)
    (hmeets : RunMeets (watcherStep cfg) DeliversInOrder s₀ actions)
    (hrun : run (watcherStep cfg) s₀ actions = some s) :
    CheckpointSound s ∧ ∀ r w session, s.replicas.lookup r = some w → w.session = some session →
      session.replayed → ReplayComplete s session := by
  have ho : Ordered s := by
    refine run_invariant_of_meets ?_ (ordered_initial h₀) hmeets hrun
    intro s action s' ho hmeets hstep
    exact ho.step hmeets (watcherStep_effect hstep)
  exact ⟨ho.sound, fun r w session hr hs hdone => ho.replayComplete hr hs hdone⟩

lemma takeoverRun_inOrder :
    RunMeets (watcherStep mainnetWatcher) DeliversInOrder twoReplicas takeoverRun := by
  decide +kernel

/-- The deliveries of a hand-over in the middle of a write. -/
theorem checkpoint_sound_of_inOrder_takeover :
    ∃ s, run (watcherStep mainnetWatcher) twoReplicas takeoverRun = some s ∧ CheckpointSound s := by
  obtain ⟨s, hrun, -⟩ := Option.map_eq_some_iff.1 takeoverRun_rows
  exact ⟨s, hrun, (checkpoint_sound_of_inOrder mainnetWatcher twoReplicas s takeoverRun
    watcherInitial_twoReplicas takeoverRun_inOrder hrun).1⟩

/-! ## Two fills, newest first -/

/-- `process_fill` for a new fill without followers. -/
def processLive (r : ReplicaId) (now id time : ℕ) : List WatcherAction :=
  [⟨now, .next r⟩, ⟨now, .checkLease r⟩, ⟨now, .selectExisting r⟩, ⟨now, .flush r id none⟩,
   ⟨now, .selectEligible r []⟩, ⟨now, .commit r⟩, ⟨now, .setCheckpoint r time⟩]

/-- The watcher crashes after the first fill of a message; its replay finds nothing to do. -/
def newerFirstRun : List WatcherAction :=
  [⟨10000, .tryAcquire 1 true⟩, ⟨10000, .readCheckpoint 1⟩, ⟨10000, .fetch 1 []⟩,
   ⟨10000, .subscribe 1⟩, ⟨11000, .trade (masterBuy 1 11000)⟩,
   ⟨11000, .message 1 [masterBuy 1 11000]⟩] ++ processLive 1 11000 1 11000 ++
  [⟨12000, .trade (masterBuy 2 12000)⟩, ⟨13000, .trade (masterBuy 3 13000)⟩,
   ⟨13000, .message 1 [masterBuy 3 13000, masterBuy 2 12000]⟩] ++ processLive 1 13000 3 13000 ++
  [⟨14000, .crash 1⟩, ⟨15000, .tryAcquire 1 true⟩, ⟨15000, .readCheckpoint 1⟩,
   ⟨15000, .fetch 1 [masterBuy 3 13000]⟩, ⟨15000, .next 1⟩, ⟨15000, .checkLease 1⟩,
   ⟨15000, .selectExisting 1⟩, ⟨15000, .subscribe 1⟩]

lemma newerFirstRun_rows :
    (run (watcherStep mainnetWatcher) twoReplicas newerFirstRun).map (fun s =>
      ((s.firstCheckpoint, s.checkpoint), s.exchange.map (fun f => (f.eventId, f.time)),
        s.events.map MasterEventRow.exchangeEventId)) =
      some ((11000, 13000), [(3, 13000), (2, 12000), (1, 11000)], [1, 3]) := by
  decide +kernel

/-- The older fill of the message has no event, and the checkpoint is past it. -/
theorem newer_first_skips_fill :
    ∃ s, run (watcherStep mainnetWatcher) twoReplicas newerFirstRun = some s ∧
      ¬ CheckpointSound s := by
  obtain ⟨s, hrun, hrows⟩ := Option.map_eq_some_iff.1 newerFirstRun_rows
  obtain ⟨hmarks, hlists⟩ := Prod.mk.inj hrows
  obtain ⟨hfirst, hcheckpoint⟩ := Prod.mk.inj hmarks
  obtain ⟨hexchange, hevents⟩ := Prod.mk.inj hlists
  refine ⟨s, hrun, fun hsound => ?_⟩
  have hskipped : (2, 12000) ∈ s.exchange.map fun f => (f.eventId, f.time) := by
    rw [hexchange]
    decide
  obtain ⟨g, hg, hgkey⟩ := List.mem_map.1 hskipped
  obtain ⟨hid, htime⟩ := Prod.mk.inj hgkey
  have hstored := hsound g hg (by omega) (by omega)
  rw [WatcherState.Stored, hevents, hid] at hstored
  revert hstored
  decide

end HyperCopy

import HyperCopy.Destination.Starts
import HyperCopy.Strategy.Intents

/-!
# What a strategy step leaves alone

A job keeps its owner, its market, its creation time and the evidence of its intent; only its
state moves, and its binding from unbound to bound.  Everything an intent is judged by is
therefore the same at every later step (`StrategyJob.EvolvesTo`), and what once made it stale
still does: `Outdated` collects the reasons, `Outdated.step` carries them along, and
`Outdated.not_authorized` is the refusal they end in.
-/

namespace HyperCopy

open Transition

/-! ## Jobs -/

/-- What every step keeps of a job. -/
structure StrategyJob.EvolvesTo (job job' : StrategyJob) : Prop where
  destination : job.toDestinationJob.EvolvesTo job'.toDestinationJob
  row : ∃ state, job'.toStrategyRow = { job.toStrategyRow with state := state }

namespace StrategyJob.EvolvesTo

variable {job job' : StrategyJob}

lemma refl (job : StrategyJob) : job.EvolvesTo job :=
  ⟨.refl _, job.state, rfl⟩

lemma asset (h : job.EvolvesTo job') : job'.asset = job.asset := by
  obtain ⟨state, hrow⟩ := h.row
  rw [hrow]

lemma origin (h : job.EvolvesTo job') : job'.origin = job.origin := by
  obtain ⟨state, hrow⟩ := h.row
  rw [hrow]

lemma intentOrder (h : job.EvolvesTo job') :
    positiveIntentOrder job'.toStrategyRow = positiveIntentOrder job.toStrategyRow := by
  obtain ⟨state, hrow⟩ := h.row
  rw [hrow]
  rfl

lemma evidence (h : job.EvolvesTo job') : jobEvidence job' = jobEvidence job := by
  have hposition : HyperCopy.sourceMasterPosition job'.toStrategyRow =
      HyperCopy.sourceMasterPosition job.toStrategyRow := by
    obtain ⟨state, hrow⟩ := h.row
    rw [hrow]
    rfl
  unfold jobEvidence
  rw [h.destination.network, h.intentOrder, hposition]

lemma newer {current current' : StrategyJob} (h : job.EvolvesTo job')
    (hcurrent : current.EvolvesTo current') {order : ℤ} (hnewer : NewerIntent current order job) :
    NewerIntent current' order job' := by
  unfold NewerIntent at hnewer ⊢
  rw [h.intentOrder, h.destination.createdAt, hcurrent.destination.createdAt]
  exact hnewer

end StrategyJob.EvolvesTo

/-! ## One step -/

/-- What steps can make of the rows. -/
structure StrategyState.EvolvesTo (s s' : StrategyState) : Prop where
  history : JobHistoryInv s'.destination
  epochs : EpochsEvolve s.destination.db s'.destination.db
  users : UsersEvolve s.destination.clock s.destination.db s'.destination.db
  jobs : ∀ j job, s.job j = some job → ∃ job', s'.job j = some job' ∧ job.EvolvesTo job'

/-- Rows that lose nothing but their state. -/
def RowsEvolve (rows rows' : Table JobId StrategyRow) : Prop :=
  ∀ j row, rows.lookup j = some row →
    ∃ state, rows'.lookup j = some { row with state := state }

lemma RowsEvolve.refl (rows : Table JobId StrategyRow) : RowsEvolve rows rows :=
  fun _ row hrow => ⟨row.state, hrow⟩

lemma rowsEvolve_modify (rows : Table JobId StrategyRow) (j : JobId) (state : JobState) :
    RowsEvolve rows (Table.modify rows j fun row => { row with state := state }) := by
  intro k row hrow
  rw [Table.lookup_modify]
  by_cases hk : k = j
  · subst hk
    exact ⟨state, by rw [if_pos rfl, hrow]; rfl⟩
  · exact ⟨row.state, by rw [if_neg hk]; exact hrow⟩

lemma rowsEvolve_flush (marks : List (JobId × StrategyJob)) (rows : Table JobId StrategyRow) :
    RowsEvolve rows (marks.foldl (fun rows entry => markSuperseded rows entry.1) rows) := by
  induction marks generalizing rows with
  | nil => exact .refl rows
  | cons entry marks ih =>
      intro j row hrow
      obtain ⟨state, hmarked⟩ := rowsEvolve_modify rows entry.1 .skipped j row hrow
      obtain ⟨state', hrest⟩ := ih (markSuperseded rows entry.1) j _ hmarked
      exact ⟨state', hrest⟩

/-- A flush leaves every job it marks skipped. -/
lemma flush_skips {marks : List (JobId × StrategyJob)} {rows : Table JobId StrategyRow}
    {j : JobId} {row : StrategyRow}
    (hmem : (∃ entry ∈ marks, entry.1 = j) ∨ row.state = .skipped)
    (hrow : rows.lookup j = some row) :
    ∃ row', (marks.foldl (fun rows entry => markSuperseded rows entry.1) rows).lookup j =
      some row' ∧ row'.state = .skipped := by
  induction marks generalizing rows row with
  | nil =>
      rcases hmem with ⟨entry, hentry, -⟩ | hstate
      · cases hentry
      · exact ⟨row, hrow, hstate⟩
  | cons entry marks ih =>
      show ∃ row', (marks.foldl _ (markSuperseded rows entry.1)).lookup j = some row' ∧ _
      by_cases hj : entry.1 = j
      · have hskipped : (markSuperseded rows entry.1).lookup j =
            some { row with state := .skipped } := by
          rw [markSuperseded, hj, Table.lookup_modify_self, hrow]
          rfl
        exact ih (Or.inr rfl) hskipped
      · have hsame : (markSuperseded rows entry.1).lookup j = some row := by
          rw [markSuperseded, Table.lookup_modify_of_ne _ _ (Ne.symm hj)]
          exact hrow
        refine ih ?_ hsame
        rcases hmem with ⟨found, hfound, hkey⟩ | hstate
        · rcases List.mem_cons.1 hfound with rfl | hrest
          · exact absurd hkey hj
          · exact Or.inl ⟨found, hrest, hkey⟩
        · exact Or.inr hstate

/-- Only the rows changed. -/
lemma evolves_of_rows {s s' : StrategyState} (h : JobHistoryInv s.destination)
    (hdestination : s'.destination = s.destination) (hrows : RowsEvolve s.rows s'.rows) :
    s.EvolvesTo s' := by
  refine ⟨by rw [hdestination]; exact h, by rw [hdestination]; exact .refl _,
    by rw [hdestination]; exact .refl _ _, ?_⟩
  intro j job hjob
  obtain ⟨hd, hrow⟩ := StrategyState.job_eq_some.1 hjob
  obtain ⟨state, hrow'⟩ := hrows j _ hrow
  refine ⟨⟨job.toDestinationJob, { job.toStrategyRow with state := state }⟩, ?_, .refl _, state, rfl⟩
  rw [StrategyState.job_eq_some, hdestination]
  exact ⟨hd, hrow'⟩

/-- **What a step keeps.** -/
theorem strategyStep_evolves {s s' : StrategyState} {op : StrategyOp}
    (h : JobHistoryInv s.destination) (hstep : strategyStep s op = some s') :
    s.EvolvesTo s' := by
  cases op with
  | destination action =>
      obtain ⟨d, hd, rfl⟩ := Option.map_eq_some_iff.1 hstep
      have hevolves := destinationStep_evolves hd
      refine ⟨h.step hd, hevolves.epochs, (h.db.step hd).2, ?_⟩
      intro j job hjob
      obtain ⟨hold, hrow⟩ := StrategyState.job_eq_some.1 hjob
      obtain ⟨new, hnew, hjobEvolves⟩ := hevolves.jobs j _ hold
      exact ⟨⟨new, job.toStrategyRow⟩, StrategyState.job_eq_some.2 ⟨hnew, hrow⟩, hjobEvolves,
        job.state, rfl⟩
  | insert j row =>
      simp only [strategyStep] at hstep
      split_ifs at hstep with hfresh
      obtain rfl := Option.some.inj hstep
      refine evolves_of_rows h rfl fun k old hold => ⟨old.state, ?_⟩
      show (s.rows.insert j row).lookup k = some old
      have hne : k ≠ j := by
        rintro rfl
        simp [hold] at hfresh
      rw [AList.lookup_insert_ne hne]
      exact hold
  | journal cloid execution =>
      simp only [strategyStep] at hstep
      split_ifs at hstep
      obtain rfl := Option.some.inj hstep
      exact evolves_of_rows h rfl (.refl _)
  | write j state =>
      obtain rfl := Option.some.inj hstep
      exact evolves_of_rows h rfl (rowsEvolve_modify _ _ _)
  | readIntents p j =>
      simp only [strategyStep] at hstep
      split at hstep
      · split_ifs at hstep with hjob
        split at hstep
        · cases hstep
        · obtain rfl := Option.some.inj hstep
          exact evolves_of_rows h rfl (.refl _)
      · cases hstep
  | flush p =>
      obtain ⟨task, -, rfl⟩ := Option.map_eq_some_iff.1 hstep
      exact evolves_of_rows h rfl (rowsEvolve_flush _ _)
  | rollback p =>
      obtain rfl := Option.some.inj hstep
      exact evolves_of_rows h rfl (.refl _)
  | authorize cloid network asset provider =>
      simp only [strategyStep] at hstep
      split at hstep <;> (obtain rfl := Option.some.inj hstep; exact evolves_of_rows h rfl (.refl _))

/-! ## Stale intents -/

/-- Why an intent is stale for good: it has no evidence, it is bound to a destination it does not
fit or that is closed, or a newer intent of its market stands in every window that still shows
it. -/
inductive Outdated (s : StrategyState) (j : JobId) (job : StrategyJob) : Prop
  | noEvidence (h : ∀ evidence, jobEvidence job ≠ .ok evidence)
  | foreign {bound : EpochId} {epoch : ExecutionEpoch}
      (hbound : job.executionEpochId = some bound)
      (hepoch : s.destination.db.epochs.lookup bound = some epoch)
      (h : epoch.endedAt ≠ none ∨ job.followerNetworkText ≠ .known epoch.network ∨
        job.createdAt < epoch.startedAt)
  | overtaken {evidence : StrategyIntentEvidence} {k : JobId} {later : StrategyJob} {row : User}
      (hevidence : jobEvidence job = .ok evidence) (hlater : s.job k = some later) (hne : k ≠ j)
      (huser : later.userId = job.userId) (hasset : later.asset = job.asset)
      (horigin : later.origin.isStrategy = true)
      (hnewer : NewerIntent job evidence.intentOrder later)
      (hrow : s.destination.db.users.lookup job.userId = some row)
      (hwindow : row.networkStartedAt ≤ later.createdAt ∨ job.createdAt < row.networkStartedAt)

/-- The job is there and its intent is stale. -/
def Superseded (s : StrategyState) (j : JobId) : Prop :=
  ∃ job, s.job j = some job ∧ Outdated s j job

lemma Superseded.step {s s' : StrategyState} {j : JobId} (h : Superseded s j)
    (hhistory : JobHistoryInv s.destination) (hevolves : s.EvolvesTo s') : Superseded s' j := by
  obtain ⟨job, hjob, hout⟩ := h
  obtain ⟨job', hjob', hkeep⟩ := hevolves.jobs j job hjob
  refine ⟨job', hjob', ?_⟩
  cases hout with
  | noEvidence h => exact .noEvidence fun evidence => by rw [hkeep.evidence]; exact h evidence
  | foreign hbound hepoch h =>
      rename_i bound epoch
      obtain ⟨epoch', hepoch', hsame⟩ := hevolves.epochs bound epoch hepoch
      refine .foreign (hkeep.destination.bound bound hbound) hepoch' ?_
      rw [hkeep.destination.network, hkeep.destination.createdAt, hsame.network, hsame.startedAt]
      exact h.imp_left hsame.closed
  | overtaken hevidence hlater hne huser hasset horigin hnewer hrow hwindow =>
      rename_i evidence k later row
      obtain ⟨later', hlater', hlaterKeep⟩ := hevolves.jobs k later hlater
      obtain ⟨row', hrow', hstart⟩ := hevolves.users job.userId row hrow
      have hrow'' : s'.destination.db.users.lookup job'.userId = some row' := by
        rw [hkeep.destination.userId, hrow']
      refine .overtaken (by rw [hkeep.evidence]; exact hevidence) hlater' hne ?_ ?_ ?_
        (hlaterKeep.newer hkeep hnewer) hrow'' ?_
      · rw [hlaterKeep.destination.userId, hkeep.destination.userId, huser]
      · rw [hlaterKeep.asset, hkeep.asset, hasset]
      · rw [hlaterKeep.origin, horigin]
      · rw [hlaterKeep.destination.createdAt, hkeep.destination.createdAt]
        -- a start that moved lies after everything created so far
        rcases hstart with hstart | hmoved
        · rw [hstart]
          exact hwindow
        · have hcreated := hhistory.created_le j _ (StrategyState.job_eq_some.1 hjob).1
          exact Or.inr (by omega)

/-- The active destination of a user starts with its row. -/
lemma startedAt_of_active {s : DestinationState} (h : JobHistoryInv s) {u : UserId}
    {d : UserDestinationState} (hd : userDestinationState s.db u = .ok d) :
    ∃ row, s.db.users.lookup u = some row ∧ row.networkStartedAt = d.startedAt := by
  obtain ⟨row, e, hrow, hactive, he, -, -, -, -, -, hstart⟩ := userDestinationState_eq_ok.1 hd
  refine ⟨row, hrow, ?_⟩
  rw [hstart, h.db.starts u row d.epochId e hrow hactive he]

/-- The window a user and asset have since the start of a destination fits the scan. -/
def WindowSmall (jobs : List (JobId × StrategyJob)) (u : UserId) (a : Asset) (startedAt : ℕ) :
    Prop :=
  (jobs.filter fun entry => inWindow u a startedAt entry.2).length ≤ intentScanLimit

/-- A stale intent is not the current one of the destination it is bound to. -/
lemma Outdated.not_current {s : StrategyState} (hhistory : JobHistoryInv s.destination)
    {j : JobId} {job : StrategyJob} (h : Outdated s j job) {d : UserDestinationState}
    (hd : userDestinationState s.destination.db job.userId = .ok d)
    (hbound : job.executionEpochId = some d.epochId)
    (hsmall : WindowSmall s.jobs job.userId job.asset d.startedAt)
    {evidence : StrategyIntentEvidence} :
    currentIntent j job d s.jobs ≠ .ok evidence := by
  intro hcurrent
  obtain ⟨hevidence, hnetwork, hcreated, hnewest⟩ := currentIntent_eq_ok hcurrent
  obtain ⟨row, e, -, -, he, hopen, -, -, -, hdNetwork, hdStart⟩ :=
    userDestinationState_eq_ok.1 hd
  cases h with
  | noEvidence h => exact h evidence hevidence
  | foreign hbound' hepoch h =>
      rename_i bound epoch
      obtain rfl : bound = d.epochId := Option.some.inj (hbound'.symm.trans hbound)
      obtain rfl : e = epoch := Option.some.inj (he.symm.trans hepoch)
      rcases h with hclosed | hother | hearlier
      · exact hclosed hopen
      · refine hother ?_
        rw [(jobEvidence_eq_ok hevidence).1, hnetwork, hdNetwork]
      · omega
  | overtaken hevidence' hlater hne huser hasset horigin hnewer hrow hwindow =>
      rename_i evidence' k later row'
      obtain rfl : evidence' = evidence := Except.ok.inj (hevidence'.symm.trans hevidence)
      obtain ⟨row₁, hrow₁, hstart⟩ := startedAt_of_active hhistory hd
      obtain rfl : row' = row₁ := Option.some.inj (hrow.symm.trans hrow₁)
      have hlaterWindow : inWindow job.userId job.asset d.startedAt later = true :=
        inWindow_eq_true.2 ⟨huser, hasset, horigin, by omega⟩
      have hseen := mem_intentRows_of_small hsmall (StrategyState.mem_jobs.2 hlater) hlaterWindow
      exact hnewest (k, later) hseen hne hnewer

end HyperCopy

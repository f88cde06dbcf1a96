import HyperCopy.Risex.SubmissionEffect
import HyperCopy.Risex.Binding

/-!
# At most one POST

The fence of `claim_risex_first_post` judges the instance its session loaded, not the row it has
locked: the locked read does not refresh it.  `FreshClaim` is the condition under which that
makes no difference, and `first_post_at_most_once` is what then holds in every run.  Without it
two attempts that loaded the execution before either claimed it both claim and both post
(`stale_claim_posts_twice`).

`PostFence` is the invariant.  Its centre is `claimedRow`: once a claim is recorded the row can
no longer be claimed, because no flush writes a claimable row.
-/

namespace HyperCopy

open Transition

/-! ## The property -/

/-- The orders handed to the signed transport. -/
def RisexState.posts (s : RisexState) : List (ExecutionId × JobId) :=
  s.events.filterMap fun
    | .posted executionId jobId _ => some (executionId, jobId)
    | .claimed _ _ => none

/-- The attempt has no signed order and never calls the signed transport: it looks at the tables
or settles what the provider reports. -/
def RisexPhase.readsOnly : RisexPhase → Bool
  | .started | .prepared none | .settling _ _ => true
  | .checked | .signed _ _ _ | .prepared (some _) | .loaded _ _ | .claimed _ _ | .posted _ _ =>
      false

/-- The signed transport is called at most once for an execution and at most once for a job, only
after the claim of that execution, and an attempt that begins after a claim never gets to it. -/
structure AtMostOncePost (s : RisexState) : Prop where
  perExecution : (s.posts.map Prod.fst).Nodup
  perJob : (s.posts.map Prod.snd).Nodup
  afterClaim : ∀ later earlier executionId jobId order,
    s.events = later ++ .posted executionId jobId order :: earlier →
      .claimed executionId jobId ∈ earlier
  laterAttempts : ∀ t task, s.tasks.lookup t = some task → task.late = true →
    task.phase.readsOnly = true

/-- The instance that a claim judges is the row it has locked. -/
def FreshClaim (s : RisexState) : RisexOp → Prop
  | .claim t _ => ∀ task ∈ s.tasks.lookup t,
      match task.phase with
      | .loaded seen _ => s.executions.lookup task.jobId = some seen
      | _ => True
  | _ => True

instance (s : RisexState) (op : RisexOp) : Decidable (FreshClaim s op) := by
  cases op <;> unfold FreshClaim <;> try infer_instance
  rename_i t fence
  have (task : RisexTask) : Decidable (match task.phase with
      | .loaded seen _ => s.executions.lookup task.jobId = some seen
      | _ => True) := by
    cases task.phase <;> infer_instance
  infer_instance

/-- No attempt is under way and nothing has been claimed or posted; the executions have distinct
primary keys. -/
structure RisexInitial (s : RisexState) : Prop where
  tasks : s.tasks = ∅
  events : s.events = []
  ids : ∀ j j' r r', s.executions.lookup j = some r → s.executions.lookup j' = some r' →
    r.executionId = r'.executionId → j = j'

/-! ## The invariant -/

/-- The attempt has claimed its POST. -/
def RisexPhase.isClaimed : RisexPhase → Bool
  | .claimed _ _ => true
  | _ => false

/-- An attempt that began after a claim of its job only reads. -/
def LateReads (s : RisexState) (task : RisexTask) : Prop :=
  task.late = true → s.jobClaimed task.jobId = true ∧ task.phase.readsOnly = true

/-- The invariant of a run: a row is claimed once, and posted behind its claim. -/
structure PostFence (s : RisexState) : Prop where
  ids : ∀ j j' r r', s.executions.lookup j = some r → s.executions.lookup j' = some r' →
    r.executionId = r'.executionId → j = j'
  claimedRow : ∀ e j, .claimed e j ∈ s.events →
    ∃ row, s.executions.lookup j = some row ∧ row.executionId = e ∧ ¬row.Claimable
  claimTask : ∀ t task seen submission, s.tasks.lookup t = some task →
    task.phase = .claimed seen submission →
      .claimed submission.executionId task.jobId ∈ s.events ∧
        task.jobId ∉ s.posts.map Prod.snd
  claimUnique : ∀ t t' task task', s.tasks.lookup t = some task →
    s.tasks.lookup t' = some task' → task.phase.isClaimed = true →
    task'.phase.isClaimed = true → task.jobId = task'.jobId → t = t'
  perJob : (s.posts.map Prod.snd).Nodup
  afterClaim : ∀ later earlier e j order, s.events = later ++ .posted e j order :: earlier →
    .claimed e j ∈ earlier
  late : ∀ t task, s.tasks.lookup t = some task → LateReads s task

section

variable {normalized : Symbol → Symbol} {s s' : RisexState} {op : RisexOp} {t t' : RisexTaskId}
  {task task' : RisexTask}

lemma RisexInitial.postFence (h : RisexInitial s) : PostFence s where
  ids := h.ids
  claimedRow e j hmem := by
    rw [h.events] at hmem
    cases hmem
  claimTask t task seen submission htask := by
    rw [h.tasks] at htask
    cases htask
  claimUnique t t' task task' htask := by
    rw [h.tasks] at htask
    cases htask
  perJob := by simp [RisexState.posts, h.events]
  afterClaim later earlier e j order hevents := by
    rw [h.events] at hevents
    simp at hevents
  late t task htask := by
    rw [h.tasks] at htask
    cases htask

lemma jobClaimed_of_mem {e : ExecutionId} {j : JobId} (h : .claimed e j ∈ s.events) :
    s.jobClaimed j = true :=
  List.any_eq_true.2 ⟨_, h, by simp⟩

lemma exists_mem_of_jobClaimed {j : JobId} (h : s.jobClaimed j = true) :
    ∃ e, .claimed e j ∈ s.events := by
  obtain ⟨event, hmem, hevent⟩ := List.any_eq_true.1 h
  cases event with
  | claimed e j' =>
      obtain rfl : j' = j := by simpa using hevent
      exact ⟨e, hmem⟩
  | posted e j' order => cases hevent

lemma mem_posts {p : ExecutionId × JobId} (h : p ∈ s.posts) :
    ∃ order, .posted p.1 p.2 order ∈ s.events := by
  obtain ⟨event, hmem, hevent⟩ := List.mem_filterMap.1 h
  cases event with
  | claimed e j => cases hevent
  | posted e j order =>
      obtain rfl := Option.some.inj hevent
      exact ⟨order, hmem⟩

/-- What was posted was claimed. -/
lemma PostFence.claimed_of_post (hs : PostFence s) {p : ExecutionId × JobId} (h : p ∈ s.posts) :
    .claimed p.1 p.2 ∈ s.events := by
  obtain ⟨order, hmem⟩ := mem_posts h
  obtain ⟨later, earlier, hevents⟩ := List.append_of_mem hmem
  have hclaimed := hs.afterClaim later earlier p.1 p.2 order hevents
  rw [hevents]
  exact List.mem_append_right _ (List.mem_cons_of_mem _ hclaimed)

/-! ## Frames -/

lemma lookup_toPhase (phase : RisexPhase) :
    (s.toPhase t task phase).tasks.lookup t' =
      if t' = t then some { task with phase := phase } else s.tasks.lookup t' :=
  Table.lookup_insert_eq s.tasks t t' _

/-- Rows that are spent stay, and stay spent. -/
def KeepsSpent (s s' : RisexState) : Prop :=
  ∀ j row, s.executions.lookup j = some row → ¬row.Claimable →
    ∃ row', s'.executions.lookup j = some row' ∧ row'.executionId = row.executionId ∧
      ¬row'.Claimable

/-- A flush keeps the primary keys and the spent rows. -/
lemma modify_lookup {executions : RisexExecutions} {jobId : JobId}
    {f : RisexExecution → RisexExecution} (hf : ∀ row, RisexRewrite row (f row)) {j : JobId}
    {row' : RisexExecution} (h : (Table.modify executions jobId f).lookup j = some row') :
    ∃ row, executions.lookup j = some row ∧ row'.executionId = row.executionId := by
  rw [Table.lookup_modify] at h
  split_ifs at h with hj
  · obtain ⟨row, hrow, rfl⟩ := Option.map_eq_some_iff.1 h
    subst hj
    exact ⟨row, hrow, (hf row).executionId⟩
  · exact ⟨row', h, rfl⟩

lemma modify_keepsSpent {jobId : JobId} {f : RisexExecution → RisexExecution}
    (hf : ∀ row, RisexRewrite row (f row)) :
    KeepsSpent s { s with executions := Table.modify s.executions jobId f } := by
  intro j row hrow hspent
  show ∃ row', (Table.modify s.executions jobId f).lookup j = some row' ∧ _
  rw [Table.lookup_modify]
  split_ifs with hj
  · subst hj
    rw [hrow]
    exact ⟨f row, rfl, (hf row).executionId, (hf row).spent⟩
  · exact ⟨row, hrow, rfl, hspent⟩

lemma modify_ids (hs : PostFence s) {jobId : JobId} {f : RisexExecution → RisexExecution}
    (hf : ∀ row, RisexRewrite row (f row)) (j j' : JobId) (r r' : RisexExecution)
    (hr : (Table.modify s.executions jobId f).lookup j = some r)
    (hr' : (Table.modify s.executions jobId f).lookup j' = some r')
    (hid : r.executionId = r'.executionId) : j = j' := by
  obtain ⟨row, hrow, hrowId⟩ := modify_lookup hf hr
  obtain ⟨row', hrow', hrowId'⟩ := modify_lookup hf hr'
  exact hs.ids j j' row row' hrow hrow' (by rw [← hrowId, ← hrowId', hid])

/-- An action that records nothing keeps the invariant when it keeps the keys and the spent rows,
and when the attempts it changes are not at the gates of `place_ioc`. -/
lemma PostFence.frame (hs : PostFence s) (hevents : s'.events = s.events)
    (hids : ∀ j j' r r', s'.executions.lookup j = some r → s'.executions.lookup j' = some r' →
      r.executionId = r'.executionId → j = j')
    (hrows : KeepsSpent s s')
    (htasks : ∀ t task, s'.tasks.lookup t = some task → s.tasks.lookup t = some task ∨
      (task.phase.isClaimed = false ∧ LateReads s task)) : PostFence s' := by
  have hposts : s'.posts = s.posts := by simp [RisexState.posts, hevents]
  have hclaims : ∀ j, s'.jobClaimed j = s.jobClaimed j := by
    intro j
    simp [RisexState.jobClaimed, hevents]
  have hold : ∀ t task, s'.tasks.lookup t = some task → task.phase.isClaimed = true →
      s.tasks.lookup t = some task := by
    intro t task htask hclaimed
    rcases htasks t task htask with h | ⟨hnot, -⟩
    · exact h
    · rw [hclaimed] at hnot
      cases hnot
  refine ⟨hids, ?_, ?_, ?_, ?_, ?_, ?_⟩
  · intro e j hmem
    rw [hevents] at hmem
    obtain ⟨row, hrow, rfl, hspent⟩ := hs.claimedRow e j hmem
    exact hrows j row hrow hspent
  · intro t task seen submission htask hphase
    rw [hevents, hposts]
    exact hs.claimTask t task seen submission (hold t task htask (by rw [hphase]; rfl)) hphase
  · intro t t' task task' htask htask' hclaimed hclaimed'
    exact hs.claimUnique t t' task task' (hold t task htask hclaimed)
      (hold t' task' htask' hclaimed') hclaimed hclaimed'
  · rw [hposts]
    exact hs.perJob
  · rw [hevents]
    exact hs.afterClaim
  · intro t task htask hlate
    rw [hclaims]
    rcases htasks t task htask with h | ⟨-, hreads⟩
    · exact hs.late t task h hlate
    · exact hreads hlate

/-! ## Steps -/

/-- What an attempt becomes when its phase changes, for the frame. -/
lemma toPhase_tasks {phase : RisexPhase} (hnot : phase.isClaimed = false)
    (hlate : LateReads s { task with phase := phase }) (t' : RisexTaskId) (task' : RisexTask)
    (h : (s.toPhase t task phase).tasks.lookup t' = some task') :
    s.tasks.lookup t' = some task' ∨ (task'.phase.isClaimed = false ∧ LateReads s task') := by
  rw [lookup_toPhase] at h
  split_ifs at h with ht
  · obtain rfl := Option.some.inj h
    exact Or.inr ⟨hnot, hlate⟩
  · exact Or.inl h

/-- An attempt in a phase with a signed order did not begin after a claim. -/
lemma PostFence.not_late (hs : PostFence s) (htask : s.tasks.lookup t = some task)
    (hphase : task.phase.readsOnly = false) (phase : RisexPhase) :
    LateReads s { task with phase := phase } := by
  intro hlate
  have hreads := (hs.late t task htask hlate).2
  rw [hphase] at hreads
  cases hreads

/-- An attempt that began after a claim finds the execution, and stays without a signed order. -/
lemma PostFence.move_late (hs : PostFence s) (htask : s.tasks.lookup t = some task)
    {job : RisexJob} {phase : RisexPhase}
    (hmove : PhaseMove s op t task.jobId job task.phase phase) :
    LateReads s { task with phase := phase } := by
  intro hlate
  obtain ⟨hclaimed, hreads⟩ := hs.late t task htask hlate
  refine ⟨hclaimed, ?_⟩
  generalize hfrom : task.phase = from_ at hmove hreads
  cases hmove with
  | found => rfl
  | checked hop hnone hfree =>
      obtain ⟨e, hmem⟩ := exists_mem_of_jobClaimed hclaimed
      obtain ⟨row, hrow, -, -⟩ := hs.claimedRow e task.jobId hmem
      rw [hnone] at hrow
      cases hrow
  | signed intent plan request => cases hreads
  | existing intent plan request submission => cases hreads
  | loaded row submission => cases hreads
  | settling submission row outcome => rfl

lemma PhaseMove.not_claimed {jobId : JobId} {job : RisexJob} {phase phase' : RisexPhase}
    (h : PhaseMove s op t jobId job phase phase') : phase'.isClaimed = false := by
  cases h <;> rfl

/-- A fresh claim is the first of its job. -/
lemma PostFence.no_claim (hs : PostFence s) {row : RisexExecution} {j : JobId}
    (hrow : s.executions.lookup j = some row) (hclaimable : row.Claimable) (e : ExecutionId) :
    .claimed e j ∉ s.events := by
  intro hmem
  obtain ⟨row', hrow', -, hspent⟩ := hs.claimedRow e j hmem
  obtain rfl : row = row' := Option.some.inj (hrow.symm.trans hrow')
  exact hspent hclaimable

lemma PostFence.claim (hs : PostFence s) {row claimed : RisexExecution}
    {submission : RisexSubmission} (htask : s.tasks.lookup t = some task)
    (hphase : task.phase.readsOnly = false)
    (hrow : s.executions.lookup task.jobId = some row) (hclaimable : row.Claimable)
    (hid : row.executionId = submission.executionId)
    (hstatus : claimed.submissionStatus = .postInFlight) :
    PostFence { s.toPhase t task (.claimed claimed submission) with
      executions := Table.modify s.executions task.jobId (writeResponse claimed)
      events := .claimed submission.executionId task.jobId :: s.events } := by
  have hf : ∀ row, RisexRewrite row (writeResponse claimed row) :=
    writeResponse_rewrite (by rw [hstatus]; simp)
  have hnoClaim := hs.no_claim hrow hclaimable
  have hnoPost : task.jobId ∉ s.posts.map Prod.snd := by
    intro hmem
    obtain ⟨p, hp, hpj⟩ := List.mem_map.1 hmem
    have hclaimed := hs.claimed_of_post hp
    rw [hpj] at hclaimed
    exact hnoClaim p.1 hclaimed
  -- no other attempt is at the gates for this job: it would have claimed it
  have hnoTask : ∀ t' task', s.tasks.lookup t' = some task' → task'.phase.isClaimed = true →
      task'.jobId ≠ task.jobId := by
    intro t' task' htask' hclaimed' hjob
    cases hphase' : task'.phase with
    | claimed seen' submission' =>
        have hmem := (hs.claimTask t' task' seen' submission' htask' hphase').1
        rw [hjob] at hmem
        exact hnoClaim _ hmem
    | _ => rw [hphase'] at hclaimed'; cases hclaimed'
  refine ⟨modify_ids hs hf, ?_, ?_, ?_, hs.perJob, ?_, ?_⟩
  · intro e j hmem
    rcases List.mem_cons.1 hmem with heq | hmem
    · obtain ⟨rfl, rfl⟩ := RisexEvent.claimed.inj heq
      refine ⟨writeResponse claimed row, ?_, hid, (hf row).spent⟩
      show (Table.modify s.executions task.jobId _).lookup task.jobId = _
      rw [Table.lookup_modify_self, hrow]
      rfl
    · obtain ⟨row', hrow', rfl, hspent⟩ := hs.claimedRow e j hmem
      exact modify_keepsSpent hf j row' hrow' hspent
  · intro t' task' seen' submission' htask' hphase'
    rw [lookup_toPhase] at htask'
    split_ifs at htask' with ht
    · obtain rfl := Option.some.inj htask'
      obtain ⟨rfl, rfl⟩ := RisexPhase.claimed.inj hphase'
      exact ⟨List.mem_cons_self .., hnoPost⟩
    · obtain ⟨hmem, hpost⟩ := hs.claimTask t' task' seen' submission' htask' hphase'
      exact ⟨List.mem_cons_of_mem _ hmem, hpost⟩
  · intro t₁ t₂ task₁ task₂ htask₁ htask₂ hclaimed₁ hclaimed₂ hjob
    rw [lookup_toPhase] at htask₁ htask₂
    split_ifs at htask₁ htask₂ with h₁ h₂ h₂
    · rw [h₁, h₂]
    · obtain rfl := Option.some.inj htask₁
      exact absurd hjob.symm (hnoTask t₂ task₂ htask₂ hclaimed₂)
    · obtain rfl := Option.some.inj htask₂
      exact absurd hjob (hnoTask t₁ task₁ htask₁ hclaimed₁)
    · exact hs.claimUnique t₁ t₂ task₁ task₂ htask₁ htask₂ hclaimed₁ hclaimed₂ hjob
  · intro later earlier e j order hevents
    cases later with
    | nil => cases hevents
    | cons head later => exact hs.afterClaim later earlier e j order (List.cons.inj hevents).2
  · intro t' task' htask' hlate
    rw [lookup_toPhase] at htask'
    have hmono : ∀ j, s.jobClaimed j = true →
        ({ s with events := .claimed submission.executionId task.jobId :: s.events } :
          RisexState).jobClaimed j = true := by
      intro j hj
      obtain ⟨e, hmem⟩ := exists_mem_of_jobClaimed hj
      exact jobClaimed_of_mem (List.mem_cons_of_mem _ hmem)
    split_ifs at htask' with ht
    · obtain rfl := Option.some.inj htask'
      obtain ⟨-, hreads⟩ := hs.not_late htask hphase (.claimed claimed submission) hlate
      cases hreads
    · obtain ⟨hclaimed, hreads⟩ := hs.late t' task' htask' hlate
      exact ⟨hmono _ hclaimed, hreads⟩

lemma PostFence.post (hs : PostFence s) {seen : RisexExecution} {submission : RisexSubmission}
    (htask : s.tasks.lookup t = some task) (hphase : task.phase = .claimed seen submission)
    (order : RisexPlaceOrder) :
    PostFence { s.toPhase t task (.posted seen submission) with
      events := .posted submission.executionId task.jobId order :: s.events } := by
  obtain ⟨hclaim, hfirst⟩ := hs.claimTask t task seen submission htask hphase
  have hgates : task.phase.isClaimed = true := by
    rw [hphase]
    rfl
  refine ⟨hs.ids, ?_, ?_, ?_, ?_, ?_, ?_⟩
  · intro e j hmem
    rcases List.mem_cons.1 hmem with heq | hmem
    · cases heq
    · exact hs.claimedRow e j hmem
  · intro t' task' seen' submission' htask' hphase'
    rw [lookup_toPhase] at htask'
    split_ifs at htask' with ht
    · obtain rfl := Option.some.inj htask'
      cases hphase'
    · obtain ⟨hmem, hpost⟩ := hs.claimTask t' task' seen' submission' htask' hphase'
      refine ⟨List.mem_cons_of_mem _ hmem, ?_⟩
      have hjob : task'.jobId ≠ task.jobId := by
        intro hjob
        exact ht (hs.claimUnique t' t task' task htask' htask (by rw [hphase']; rfl) hgates hjob)
      show task'.jobId ∉ ((submission.executionId, task.jobId) :: s.posts).map Prod.snd
      simp only [List.map_cons, List.mem_cons, not_or]
      exact ⟨hjob, hpost⟩
  · intro t₁ t₂ task₁ task₂ htask₁ htask₂ hclaimed₁ hclaimed₂ hjob
    rw [lookup_toPhase] at htask₁ htask₂
    split_ifs at htask₁ htask₂ with h₁ h₂ h₂
    · rw [h₁, h₂]
    · obtain rfl := Option.some.inj htask₁
      cases hclaimed₁
    · obtain rfl := Option.some.inj htask₂
      cases hclaimed₂
    · exact hs.claimUnique t₁ t₂ task₁ task₂ htask₁ htask₂ hclaimed₁ hclaimed₂ hjob
  · show (((submission.executionId, task.jobId) :: s.posts).map Prod.snd).Nodup
    rw [List.map_cons]
    exact List.nodup_cons.2 ⟨hfirst, hs.perJob⟩
  · intro later earlier e j order' hevents
    cases later with
    | nil =>
        obtain ⟨hhead, rfl⟩ := List.cons.inj hevents
        obtain ⟨rfl, rfl, -⟩ := RisexEvent.posted.inj hhead
        exact hclaim
    | cons head later => exact hs.afterClaim later earlier e j order' (List.cons.inj hevents).2
  · intro t' task' htask' hlate
    rw [lookup_toPhase] at htask'
    split_ifs at htask' with ht
    · obtain rfl := Option.some.inj htask'
      obtain ⟨-, hreads⟩ := hs.not_late htask (by rw [hphase]; rfl) (.posted seen submission) hlate
      cases hreads
    · obtain ⟨hclaimed, hreads⟩ := hs.late t' task' htask' hlate
      obtain ⟨e, hmem⟩ := exists_mem_of_jobClaimed hclaimed
      exact ⟨jobClaimed_of_mem (List.mem_cons_of_mem _ hmem), hreads⟩

lemma keepsSpent_of_eq (h : s'.executions = s.executions) : KeepsSpent s s' := by
  intro j row hrow hspent
  exact ⟨row, by rw [h]; exact hrow, rfl, hspent⟩

/-- **Step lemma.** -/
theorem PostFence.step (hs : PostFence s) (hfresh : FreshClaim s op)
    (h : risexStep normalized s op = some s') : PostFence s' := by
  cases risexStep_effect h with
  | finished jobs hjobs =>
      exact hs.frame rfl hs.ids (keepsSpent_of_eq rfl) fun _ _ htask => Or.inl htask
  | began t jobId phase hfree hphase =>
      refine hs.frame rfl hs.ids (keepsSpent_of_eq rfl) fun t' task' htask' => ?_
      rcases Table.lookup_insert_cases htask' with ⟨-, rfl⟩ | hold
      · refine Or.inr ⟨?_, fun hlate => ⟨hlate, ?_⟩⟩
        · rcases hphase with rfl | ⟨row, outcome, rfl⟩ <;> rfl
        · rcases hphase with rfl | ⟨row, outcome, rfl⟩ <;> rfl
      · exact Or.inl hold
  | ended t jobs hjobs =>
      exact hs.frame rfl hs.ids (keepsSpent_of_eq rfl)
        fun t' task' htask' => Or.inl (Table.lookup_of_erase htask')
  | moved t task job phase htask hjob hmove =>
      exact hs.frame rfl hs.ids (keepsSpent_of_eq rfl)
        (toPhase_tasks hmove.not_claimed (hs.move_late htask hmove))
  | inserted t task job intent plan request row submission htask hjob hphase hnone hnew =>
      refine hs.frame rfl ?_ ?_ (toPhase_tasks rfl (hs.not_late htask (by rw [hphase]; rfl) _))
      · intro j j' r r' hr hr' hid
        rcases Table.lookup_insert_cases hr with ⟨rfl, rfl⟩ | hold
        · rcases Table.lookup_insert_cases hr' with ⟨rfl, rfl⟩ | hold'
          · rfl
          · exact absurd hid.symm (hnew j' r' hold')
        · rcases Table.lookup_insert_cases hr' with ⟨rfl, rfl⟩ | hold'
          · exact absurd hid (hnew j r hold)
          · exact hs.ids j j' r r' hold hold' hid
      · intro j r hr hspent
        refine ⟨r, ?_, rfl, hspent⟩
        show (s.executions.insert task.jobId row).lookup j = some r
        rw [Table.lookup_insert_eq]
        split_ifs with hj
        · subst hj
          rw [hnone] at hr
          cases hr
        · exact hr
  | claimed t task fence seen claimed row submission htask hop hphase hseen hrow hid hstatus =>
      subst hop
      have hloaded := hfresh task htask
      rw [hphase] at hloaded
      obtain rfl : row = seen := Option.some.inj (hrow.symm.trans hloaded)
      exact hs.claim htask (by rw [hphase]; rfl) hrow hseen hid hstatus
  | posted t task seen submission htask hphase => exact hs.post htask hphase _
  | answered t task seen answered submission outcome htask hphase hstatus =>
      have hf := writeResponse_rewrite hstatus
      exact hs.frame rfl (modify_ids hs hf) (modify_keepsSpent hf)
        (toPhase_tasks rfl (hs.not_late htask (by rw [hphase]; rfl) _))
  | rewritten t task jobs f htask hjobs hf =>
      exact hs.frame rfl (modify_ids hs hf) (modify_keepsSpent hf)
        fun t' task' htask' => Or.inl (Table.lookup_of_erase htask')

lemma PostFence.atMostOncePost (hs : PostFence s) : AtMostOncePost s where
  perExecution := by
    have hjobs : s.posts.Pairwise fun p q => p.2 ≠ q.2 := List.pairwise_map.1 hs.perJob
    refine List.pairwise_map.2 (hjobs.imp_of_mem ?_)
    intro p q hp hq hne hid
    obtain ⟨row, hrow, hrowId, -⟩ := hs.claimedRow p.1 p.2 (hs.claimed_of_post hp)
    obtain ⟨row', hrow', hrowId', -⟩ := hs.claimedRow q.1 q.2 (hs.claimed_of_post hq)
    exact hne (hs.ids p.2 q.2 row row' hrow hrow' (by rw [hrowId, hrowId', hid]))
  perJob := hs.perJob
  afterClaim := hs.afterClaim
  laterAttempts t task htask hlate := (hs.late t task htask hlate).2

end

/-- **RISEx posts at most once, where no claim judges a stale instance.**  In every run of the
attempts of any number of workers on any number of jobs, with crashes and errors anywhere, in
which each claim finds the row as its session loaded it: an execution and a job are posted at
most once, only after the execution was claimed, and an attempt that begins after a claim only
reads. -/
theorem first_post_at_most_once (normalized : Symbol → Symbol) {s₀ s : RisexState}
    {ops : List RisexOp} (hinit : RisexInitial s₀)
    (hfresh : RunMeets (risexStep normalized) FreshClaim s₀ ops)
    (hrun : run (risexStep normalized) s₀ ops = some s) : AtMostOncePost s := by
  have hfence : PostFence s :=
    run_invariant_of_meets (fun _ _ _ hs hop hstep => hs.step hop hstep) hinit.postFence hfresh
      hrun
  exact hfence.atMostOncePost

/-! ## Two attempts on one job -/

/-- One job, no execution. -/
def btcState : RisexState := ⟨(∅ : Table JobId RisexJob).insert 5 btcJob, ∅, ∅, []⟩

lemma btcState_initial : RisexInitial btcState :=
  ⟨rfl, rfl, fun _ _ _ _ hr => by cases hr⟩

/-- The attempt `t` up to the signed order. -/
def signActions (t : RisexTaskId) : List RisexOp :=
  [.check t, .sign t btcReads (btcPreparation true) 1 0]

/-- One attempt posts and never hears of it; the next one finds the execution. -/
def retriedPost : List RisexOp :=
  .begin 1 5 :: signActions 1 ++
    [.persist 1 100, .load 1, .claim 1 btcFence, .post 1, .fail 1, .begin 2 5, .check 2, .load 2]

/-- Two attempts pass the checks before either persists, and load the execution before either
claims it. -/
def racingPosts : List RisexOp :=
  .begin 1 5 :: .begin 2 5 :: .check 1 :: signActions 2 ++
    [.sign 1 btcReads (btcPreparation true) 1 0, .persist 1 100, .persist 2 101, .load 1, .load 2,
      .claim 1 btcFence, .post 1, .claim 2 btcFence, .post 2]

/-- A lost answer: the retry does not post again. -/
theorem first_post_at_most_once_retried :
    ∃ s, run (risexStep asciiUpper) btcState retriedPost = some s ∧ s.posts = [(100, 5)] ∧
      AtMostOncePost s := by
  have hposts : (run (risexStep asciiUpper) btcState retriedPost).map RisexState.posts =
      some [(100, 5)] := by decide +kernel
  have hfresh : RunMeets (risexStep asciiUpper) FreshClaim btcState retriedPost := by
    decide +kernel
  obtain ⟨s, hrun, hs⟩ := Option.map_eq_some_iff.1 hposts
  exact ⟨s, hrun, hs, first_post_at_most_once asciiUpper btcState_initial hfresh hrun⟩

/-- **Two claims, two POSTs.**  The second attempt claims on the instance it loaded before the
first one claimed. -/
theorem stale_claim_posts_twice :
    RisexInitial btcState ∧
      ∃ s, run (risexStep asciiUpper) btcState racingPosts = some s ∧
        s.posts = [(100, 5), (100, 5)] ∧ ¬AtMostOncePost s := by
  have hposts : (run (risexStep asciiUpper) btcState racingPosts).map RisexState.posts =
      some [(100, 5), (100, 5)] := by decide +kernel
  obtain ⟨s, hrun, hs⟩ := Option.map_eq_some_iff.1 hposts
  refine ⟨btcState_initial, s, hrun, hs, fun hpost => ?_⟩
  have hjobs := hpost.perJob
  rw [hs] at hjobs
  simp at hjobs

end HyperCopy

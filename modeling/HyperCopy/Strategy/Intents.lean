import Mathlib.Data.List.Sort
import Mathlib.Data.Rat.Defs
import HyperCopy.Destination.Evolution

/-!
# Strategy intents

`services/strategy_intents.py`: strategy jobs (origins `EVENT` and `RECONCILE`) carry the causal
order of the master observation they were planned from.  `prepare_strategy_job_for_publish` lets
a job into the stream only when no newer intent exists for its user and asset, and skips the
older ones that wait; `current_strategy_intent_for_cloid` makes the same comparison again in
front of the order.

The system interleaves insertions, publishes, authorisations, every destination operation and
whatever else writes a job's state.  A publish is two transactions' worth of time: it reads the
tables (`readIntents`) and flushes what it marked later (`flush`), over whatever was committed in
between.  An authorisation reads one snapshot.
-/

namespace HyperCopy

open Transition

/-! ## Rows -/

/-- The columns of a job, and the keys of its context, that the intent code reads beside the
destination columns.  A number that is missing, blank or not finite is `none`. -/
structure StrategyRow where
  asset : Asset
  origin : JobOrigin
  state : JobState
  masterIntentOrder : Option ℚ
  /-- The outer option is the key itself. -/
  sourceMasterPosition : Option (Option ℚ)
  masterPosition : Option ℚ
deriving DecidableEq, Repr

/-- A `copy_jobs` row. -/
structure StrategyJob extends DestinationJob, StrategyRow
deriving DecidableEq, Repr

/-- An execution, with the destination it was submitted to. -/
structure StrategyExecution where
  copyJobId : JobId
  executionEpochId : Option EpochId
  executionProvider : Option ExecutionProvider
  executionNetwork : Option Network
deriving DecidableEq, Repr

/-! ## Evidence -/

/-- The reasons for which a job is not submitted. -/
inductive IntentRefusal
  | executionMissing
  | jobMissing
  | assetMismatch
  | staleDestination
  | writerMismatch
  | bindingDiverges
  | noNetworkEvidence
  | unversioned
  | noSourcePosition
  | staleNetwork
  | predatesEpoch
  | newerOrder (newer current : ℤ)
  | newerUnversioned
deriving DecidableEq, Repr

/-- `_positive_intent_order`. -/
def positiveIntentOrder (row : StrategyRow) : Option ℤ :=
  row.masterIntentOrder.bind fun q => if 0 < q ∧ q.den = 1 then some q.num else none

/-- `_source_master_position`. -/
def sourceMasterPosition (row : StrategyRow) : Option ℚ :=
  match row.sourceMasterPosition with
  | some value => value
  | none => row.masterPosition

/-- What the order of an intent is decided by. -/
structure StrategyIntentEvidence where
  followerNetwork : Network
  intentOrder : ℤ
  sourceMasterPosition : ℚ
deriving DecidableEq, Repr

/-- `_job_evidence` of a strategy job. -/
def jobEvidence (job : StrategyJob) : Except IntentRefusal StrategyIntentEvidence :=
  match job.followerNetworkText, positiveIntentOrder job.toStrategyRow,
    HyperCopy.sourceMasterPosition job.toStrategyRow with
  | .known network, some order, some position => .ok ⟨network, order, position⟩
  | .known _, some _, none => .error .noSourcePosition
  | .known _, none, _ => .error .unversioned
  | _, _, _ => .error .noNetworkEvidence

/-! ## State -/

/-- The handle of a publish. -/
abbrev PublisherId := ℕ

/-- A publish between its reads and its flush: the job, the destination of its user and the rows
as they were read. -/
structure PublishTask where
  jobId : JobId
  job : StrategyJob
  destination : UserDestinationState
  read : List (JobId × StrategyJob)
deriving DecidableEq, Repr

/-- What is recorded of the past: the jobs marked superseded and the authorised submissions. -/
inductive StrategyEvent
  | superseded (jobId : JobId)
  | authorized (jobId : JobId) (userId : UserId) (asset : Asset) (epochId : EpochId)
      (order : ℤ)
deriving DecidableEq, Repr

/-- The destinations, the strategy rows and executions, the publishes under way, and the submissions
and supersessions so far. -/
structure StrategyState where
  destination : DestinationState
  rows : Table JobId StrategyRow
  executions : Table ExecutionId StrategyExecution
  publishers : Table PublisherId PublishTask
  /-- Newest first. -/
  events : List StrategyEvent

namespace StrategyState

/-- A job that is in the table. -/
def job (s : StrategyState) (jobId : JobId) : Option StrategyJob :=
  (s.destination.jobs.lookup jobId).bind fun d =>
    (s.rows.lookup jobId).map fun row => ⟨d, row⟩

/-- The strategy jobs with all their columns. -/
def jobs (s : StrategyState) : List (JobId × StrategyJob) :=
  s.rows.entries.filterMap fun entry => (s.job entry.1).map fun job => (entry.1, job)

end StrategyState

/-- The strategy jobs of a user and asset since the start of an epoch. -/
def inWindow (userId : UserId) (asset : Asset) (startedAt : ℕ) (job : StrategyJob) : Bool :=
  job.userId = userId && job.asset = asset && job.origin.isStrategy && startedAt ≤ job.createdAt

/-- `_INTENT_SCAN_LIMIT`. -/
def intentScanLimit : ℕ := 512

/-- `_intent_rows`: the newest rows of the window, up to the scan limit. -/
def intentRows (jobs : List (JobId × StrategyJob)) (userId : UserId) (asset : Asset)
    (startedAt : ℕ) : List (JobId × StrategyJob) :=
  ((jobs.filter fun entry => inWindow userId asset startedAt entry.2).insertionSort
    fun a b => b.2.createdAt ≤ a.2.createdAt).take intentScanLimit

/-- `_newer_intent_reason`. -/
def newerIntentReason (jobId : JobId) (current : StrategyJob) (order : ℤ)
    (rows : List (JobId × StrategyJob)) : Option IntentRefusal :=
  rows.findSome? fun entry =>
    if entry.1 = jobId then none
    else
      match positiveIntentOrder entry.2.toStrategyRow with
      | some candidate =>
          if order < candidate then some (.newerOrder candidate order) else none
      | none =>
          if current.createdAt < entry.2.createdAt then some .newerUnversioned else none

/-- The checks a publish and an authorisation share: the intent is of the current network and
epoch and no newer one exists. -/
def currentIntent (jobId : JobId) (job : StrategyJob) (destination : UserDestinationState)
    (jobs : List (JobId × StrategyJob)) : Except IntentRefusal StrategyIntentEvidence :=
  match jobEvidence job with
  | .error reason => .error reason
  | .ok evidence =>
      if evidence.followerNetwork ≠ destination.network then .error .staleNetwork
      else if job.createdAt < destination.startedAt then .error .predatesEpoch
      else
        match newerIntentReason jobId job evidence.intentOrder
          (intentRows jobs job.userId job.asset destination.startedAt) with
        | some reason => .error reason
        | none => .ok evidence

/-! ## Publishing -/

/-- `_ACTIVE_SUPERSEDE_STATES`. -/
def JobState.waiting : JobState → Bool
  | .queued | .retrying => true
  | .processing | .done | .skipped | .dead => false

/-- A candidate is older than the job that is published. -/
def olderIntent (job : StrategyJob) (order : ℤ) (candidate : StrategyJob) : Bool :=
  match positiveIntentOrder candidate.toStrategyRow with
  | some candidateOrder => candidateOrder < order
  | none => candidate.createdAt ≤ job.createdAt

/-- The verdict of `prepare_strategy_job_for_publish` over what it read. -/
def publishVerdict (task : PublishTask) : Except IntentRefusal StrategyIntentEvidence :=
  currentIntent task.jobId task.job task.destination task.read

/-- The jobs a publish marks superseded, with the rows it read of them: itself when it is
refused, and the older ones that wait when it is not. -/
def publishMarks (task : PublishTask) : List (JobId × StrategyJob) :=
  match publishVerdict task with
  | .error _ => [(task.jobId, task.job)]
  | .ok evidence =>
      (intentRows task.read task.job.userId task.job.asset task.destination.startedAt).filter
        fun entry => entry.1 ≠ task.jobId && entry.2.state.waiting &&
          olderIntent task.job evidence.intentOrder entry.2

/-- `_mark_superseded`, as it is flushed: the state is written whatever it has become. -/
def markSuperseded (rows : Table JobId StrategyRow) (jobId : JobId) : Table JobId StrategyRow :=
  Table.modify rows jobId fun row => { row with state := .skipped }

/-! ## Authorisation -/

/-- `current_strategy_intent_for_cloid`; `none` for a job that is no strategy job. -/
def currentStrategyIntentForCloid (s : StrategyState) (cloid : ExecutionId) (network : Network)
    (asset : Asset) (provider : ExecutionProvider) :
    Except IntentRefusal (Option (JobId × StrategyJob × UserDestinationState ×
      StrategyIntentEvidence)) :=
  match s.executions.lookup cloid with
  | none => .error .executionMissing
  | some execution =>
    match s.job execution.copyJobId with
    | none => .error .jobMissing
    | some job =>
      if job.asset ≠ asset then .error .assetMismatch
      else if !jobMatchesActiveDestination s.destination.db job.toDestinationJob then
        .error .staleDestination
      else if job.executionProvider ≠ some provider ∨ job.executionNetwork ≠ some network then
        .error .writerMismatch
      else if execution.executionEpochId ≠ job.executionEpochId ∨
          execution.executionProvider ≠ job.executionProvider ∨
          execution.executionNetwork ≠ job.executionNetwork then .error .bindingDiverges
      else if !job.origin.isStrategy then .ok none
      else
        match userDestinationState s.destination.db job.userId with
        | .error _ => .error .staleDestination
        | .ok destination =>
          match currentIntent execution.copyJobId job destination s.jobs with
          | .error reason => .error reason
          | .ok evidence =>
            if evidence.followerNetwork ≠ network then .error .staleNetwork
            else .ok (some (execution.copyJobId, job, destination, evidence))

/-! ## Actions -/

/-- What publishers and executors do. -/
inductive StrategyOp
  /-- Any operation on destinations, epochs and the binding of jobs. -/
  | destination (action : DestinationAction)
  /-- The remaining columns of a job that was created. -/
  | insert (jobId : JobId) (row : StrategyRow)
  /-- The row of an order, before its submission. -/
  | journal (cloid : ExecutionId) (execution : StrategyExecution)
  /-- Any other writer changes the state of a job. -/
  | write (jobId : JobId) (state : JobState)
  /-- A publish of a bound job reads. -/
  | readIntents (publisher : PublisherId) (jobId : JobId)
  | flush (publisher : PublisherId)
  /-- A publish is rolled back. -/
  | rollback (publisher : PublisherId)
  | authorize (cloid : ExecutionId) (network : Network) (asset : Asset) (provider : ExecutionProvider)

/-- What a flush writes and records. -/
def flushPublish (s : StrategyState) (publisher : PublisherId) (task : PublishTask) :
    StrategyState :=
  { s with
    rows := (publishMarks task).foldl (fun rows entry => markSuperseded rows entry.1) s.rows
    publishers := s.publishers.erase publisher
    events := (publishMarks task).map (fun entry => .superseded entry.1) ++ s.events }

/-- One step. -/
def strategyStep (s : StrategyState) : StrategyOp → Option StrategyState
  | .destination action =>
      (destinationStep s.destination action).map fun d => { s with destination := d }
  | .insert jobId row =>
      if (s.destination.jobs.lookup jobId).isSome && (s.rows.lookup jobId).isNone then
        some { s with rows := s.rows.insert jobId row }
      else none
  | .journal cloid execution =>
      if (s.executions.lookup cloid).isNone then
        some { s with executions := s.executions.insert cloid execution }
      else none
  | .write jobId state =>
      some { s with rows := Table.modify s.rows jobId fun row => { row with state := state } }
  | .readIntents publisher jobId =>
      match s.publishers.lookup publisher, s.job jobId with
      | none, some job =>
          if job.origin.isStrategy ∧ job.executionEpochId.isSome then
            match userDestinationState s.destination.db job.userId with
            | .error _ => none
            | .ok destination =>
                let task : PublishTask := ⟨jobId, job, destination, s.jobs⟩
                some { s with publishers := s.publishers.insert publisher task }
          else none
      | _, _ => none
  | .flush publisher => (s.publishers.lookup publisher).map (flushPublish s publisher)
  | .rollback publisher => some { s with publishers := s.publishers.erase publisher }
  | .authorize cloid network asset provider =>
      match currentStrategyIntentForCloid s cloid network asset provider with
      | .error _ => some s
      | .ok none => some s
      | .ok (some (jobId, job, destination, evidence)) =>
          some { s with
            events := .authorized jobId job.userId job.asset destination.epochId
              evidence.intentOrder :: s.events }

/-- Empty tables. -/
def StrategyState.initial : StrategyState := ⟨.initial, ∅, ∅, ∅, []⟩

/-! ## What the reads say -/

namespace StrategyState

variable {s : StrategyState} {j : JobId} {job : StrategyJob}

lemma job_eq_some : s.job j = some job ↔
    s.destination.jobs.lookup j = some job.toDestinationJob ∧
      s.rows.lookup j = some job.toStrategyRow := by
  unfold StrategyState.job
  constructor
  · intro h
    obtain ⟨d, hd, h⟩ := Option.bind_eq_some_iff.1 h
    obtain ⟨row, hrow, rfl⟩ := Option.map_eq_some_iff.1 h
    exact ⟨hd, hrow⟩
  · rintro ⟨hd, hrow⟩
    rw [hd, hrow]
    rfl

lemma mem_jobs : (j, job) ∈ s.jobs ↔ s.job j = some job := by
  unfold StrategyState.jobs
  rw [List.mem_filterMap]
  constructor
  · rintro ⟨entry, -, h⟩
    obtain ⟨job', hjob', heq⟩ := Option.map_eq_some_iff.1 h
    obtain ⟨hj, rfl⟩ := Prod.mk.inj heq
    rw [← hj]
    exact hjob'
  · intro h
    have hrow : ⟨j, job.toStrategyRow⟩ ∈ s.rows.entries :=
      AList.mem_lookup_iff.1 (job_eq_some.1 h).2
    exact ⟨_, hrow, by rw [h]; rfl⟩

end StrategyState

/-- With no more rows than the limit the scan sees the whole window. -/
lemma mem_intentRows_of_small {jobs : List (JobId × StrategyJob)} {u : UserId} {a : Asset}
    {startedAt : ℕ}
    (hsmall : (jobs.filter fun entry => inWindow u a startedAt entry.2).length ≤ intentScanLimit)
    {entry : JobId × StrategyJob} (hmem : entry ∈ jobs)
    (hwindow : inWindow u a startedAt entry.2 = true) : entry ∈ intentRows jobs u a startedAt := by
  unfold intentRows
  rw [List.take_of_length_le (by rw [List.length_insertionSort]; exact hsmall),
    List.mem_insertionSort, List.mem_filter]
  exact ⟨hmem, hwindow⟩

lemma of_mem_intentRows {jobs : List (JobId × StrategyJob)} {u : UserId} {a : Asset}
    {startedAt : ℕ} {entry : JobId × StrategyJob} (h : entry ∈ intentRows jobs u a startedAt) :
    entry ∈ jobs ∧ inWindow u a startedAt entry.2 = true := by
  have hsorted := List.mem_of_mem_take h
  rw [List.mem_insertionSort, List.mem_filter] at hsorted
  exact hsorted

lemma inWindow_eq_true {u : UserId} {a : Asset} {startedAt : ℕ} {job : StrategyJob} :
    inWindow u a startedAt job = true ↔ job.userId = u ∧ job.asset = a ∧
      job.origin.isStrategy = true ∧ startedAt ≤ job.createdAt := by
  simp [inWindow, and_assoc]

/-- A row that keeps an intent of order `order` from being the current one. -/
def NewerIntent (current : StrategyJob) (order : ℤ) (candidate : StrategyJob) : Prop :=
  match positiveIntentOrder candidate.toStrategyRow with
  | some candidateOrder => order < candidateOrder
  | none => current.createdAt < candidate.createdAt

/-- The scan refuses exactly when it meets a newer intent of another job. -/
lemma newerIntentReason_ne_none {j : JobId} {current : StrategyJob} {order : ℤ}
    {rows : List (JobId × StrategyJob)} :
    newerIntentReason j current order rows ≠ none ↔
      ∃ entry ∈ rows, entry.1 ≠ j ∧ NewerIntent current order entry.2 := by
  unfold newerIntentReason
  rw [← Option.isSome_iff_ne_none, List.findSome?_isSome_iff]
  refine exists_congr fun entry => and_congr_right fun _ => ?_
  unfold NewerIntent
  by_cases hj : entry.1 = j
  · simp [hj]
  · cases horder : positiveIntentOrder entry.2.toStrategyRow with
    | some candidate => by_cases hlt : order < candidate <;> simp [hj, hlt]
    | none => by_cases hlt : current.createdAt < entry.2.createdAt <;> simp [hj, hlt]

lemma jobEvidence_eq_ok {job : StrategyJob} {evidence : StrategyIntentEvidence}
    (h : jobEvidence job = .ok evidence) :
    job.followerNetworkText = .known evidence.followerNetwork ∧
      positiveIntentOrder job.toStrategyRow = some evidence.intentOrder := by
  unfold jobEvidence at h
  split at h
  · rename_i network order position hnetwork horder hposition
    obtain rfl := Except.ok.inj h
    exact ⟨hnetwork, horder⟩
  · cases h
  · cases h
  · cases h

/-- An accepted intent is of the destination's network and epoch, and nothing the scan saw is
newer. -/
lemma currentIntent_eq_ok {j : JobId} {job : StrategyJob} {d : UserDestinationState}
    {jobs : List (JobId × StrategyJob)} {evidence : StrategyIntentEvidence}
    (h : currentIntent j job d jobs = .ok evidence) :
    jobEvidence job = .ok evidence ∧ evidence.followerNetwork = d.network ∧
      d.startedAt ≤ job.createdAt ∧
      ∀ entry ∈ intentRows jobs job.userId job.asset d.startedAt, entry.1 ≠ j →
        ¬ NewerIntent job evidence.intentOrder entry.2 := by
  unfold currentIntent at h
  split at h
  · cases h
  · rename_i evidence' hevidence
    split_ifs at h with hnetwork hcreated
    split at h
    · cases h
    · rename_i hnone
      obtain rfl := Except.ok.inj h
      refine ⟨hevidence, not_not.1 hnetwork, Nat.le_of_not_lt hcreated, ?_⟩
      intro entry hentry hne hnewer
      exact newerIntentReason_ne_none.2 ⟨entry, hentry, hne, hnewer⟩ hnone

/-- Why an intent is refused. -/
lemma currentIntent_eq_error {j : JobId} {job : StrategyJob} {d : UserDestinationState}
    {jobs : List (JobId × StrategyJob)} {reason : IntentRefusal}
    (h : currentIntent j job d jobs = .error reason) :
    (∀ evidence, jobEvidence job ≠ .ok evidence) ∨
      job.followerNetworkText ≠ .known d.network ∨ job.createdAt < d.startedAt ∨
      ∃ evidence, jobEvidence job = .ok evidence ∧
        ∃ entry ∈ intentRows jobs job.userId job.asset d.startedAt, entry.1 ≠ j ∧
          NewerIntent job evidence.intentOrder entry.2 := by
  unfold currentIntent at h
  split at h
  · rename_i hevidence
    exact Or.inl fun evidence hok => by rw [hevidence] at hok; cases hok
  · rename_i evidence hevidence
    split_ifs at h with hnetwork hcreated
    · refine Or.inr (Or.inl fun htext => hnetwork ?_)
      rw [(jobEvidence_eq_ok hevidence).1] at htext
      exact ContextText.known.inj htext
    · exact Or.inr (Or.inr (Or.inl hcreated))
    · split at h
      · rename_i found hfound
        have hexists := newerIntentReason_ne_none.1 (by rw [hfound]; simp)
        exact Or.inr (Or.inr (Or.inr ⟨evidence, hevidence, hexists⟩))
      · cases h

lemma executionEpochId_of_matches {db : DestinationDb} {job : DestinationJob}
    {d : UserDestinationState} (h : jobMatchesActiveDestination db job = true)
    (hd : userDestinationState db job.userId = .ok d) : job.executionEpochId = some d.epochId := by
  unfold jobMatchesActiveDestination at h
  split at h
  · rename_i epochId provider network hepoch hprovider hnetwork
    rw [hd] at h
    simp only [Bool.and_eq_true, decide_eq_true_eq] at h
    rw [hepoch, h.1.1]
  · cases h

/-- An authorised strategy job is bound to the active epoch of its user and its intent is the
current one. -/
lemma currentStrategyIntentForCloid_eq_ok {s : StrategyState} {cloid : ExecutionId}
    {network : Network} {asset : Asset} {provider : ExecutionProvider} {j : JobId}
    {job : StrategyJob} {d : UserDestinationState} {evidence : StrategyIntentEvidence}
    (h : currentStrategyIntentForCloid s cloid network asset provider =
      .ok (some (j, job, d, evidence))) :
    s.job j = some job ∧ userDestinationState s.destination.db job.userId = .ok d ∧
      job.executionEpochId = some d.epochId ∧ job.origin.isStrategy = true ∧
      currentIntent j job d s.jobs = .ok evidence := by
  unfold currentStrategyIntentForCloid at h
  split at h
  · cases h
  · rename_i execution hexecution
    split at h
    · cases h
    · rename_i job' hjob
      split_ifs at h with hasset hmatches hwriter hbinding horigin
      · simp at h
      · split at h
        · cases h
        · rename_i d' hd
          split at h
          · cases h
          · rename_i evidence' hcurrent
            split_ifs at h with hnetwork
            simp only [Except.ok.injEq, Option.some.injEq, Prod.mk.injEq] at h
            obtain ⟨hj, rfl, rfl, rfl⟩ := h
            rw [← hj]
            have hbound := executionEpochId_of_matches (by simpa using hmatches) hd
            exact ⟨hjob, hd, hbound, by simpa using horigin, hcurrent⟩

end HyperCopy

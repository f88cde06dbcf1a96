import Mathlib.Data.List.Basic

/-!
# Job and execution states

The two durable state machines of `engine/states.py`: the transition tables of a copy job and of
an execution, and the guard that the ORM runs on every assignment of either state.  Writing the
state a row already has is always accepted; any other assignment must be an entry of the table.

Four execution states are terminal.  `ExecutionState.assign_of_terminal` is the fact the
executor, the resolver and the reconciler all lean on: a terminal outcome is never overwritten.
-/

namespace HyperCopy

/-! ## Identifiers

Primary keys and names are only ever compared. -/

/-- The primary key of a user. -/
abbrev UserId := ℕ

/-- The primary key of an execution epoch. -/
abbrev EpochId := ℕ

/-- The primary key of a job. -/
abbrev JobId := ℕ

/-- The primary key of an execution. -/
abbrev ExecutionId := ℕ

/-- The address of a linked account. -/
abbrev AccountAddress := ℕ

/-- A market, by its index. -/
abbrev Asset := ℕ

/-! ## Origins of jobs -/

/-- Where a job comes from. -/
inductive JobOrigin
  | event
  | reconcile
  | closeAll
  | aiProfitExit
deriving DecidableEq, Repr

/-- The origins that follow the master. -/
def JobOrigin.isStrategy : JobOrigin → Bool
  | event | reconcile => true
  | closeAll | aiProfitExit => false

/-! ## The copy state of a user -/

/-- `CopyState`. -/
inductive CopyState
  | shadow
  | active
  | paused
deriving DecidableEq, Repr

/-! ## The two state machines -/

/-- `JobState`. -/
inductive JobState
  | queued
  | retrying
  | processing
  | done
  | skipped
  | dead
deriving DecidableEq, Repr

/-- `ExecutionState`. -/
inductive ExecutionState
  | submitting
  | unknown
  | quarantined
  | filled
  | rejected
  | canceled
deriving DecidableEq, Repr

namespace JobState

/-- `JOB_TRANSITIONS`. -/
def transitions : JobState → List JobState
  | queued => [processing, skipped, dead]
  | retrying => [processing, dead, skipped]
  | processing => [done, retrying, dead, skipped]
  | done => []
  | skipped => []
  | dead => [queued]

/-- The ORM guard on `CopyJob.state`: `none` when the assignment is refused. -/
def assign (old new : JobState) : Option JobState :=
  if old = new ∨ new ∈ old.transitions then some new else none

/-- The states of a job that can still be claimed or is being worked on. -/
def active : JobState → Bool
  | queued | processing | retrying => true
  | done | skipped | dead => false

lemma assign_eq_some {old new s : JobState} :
    assign old new = some s ↔ s = new ∧ (old = new ∨ new ∈ old.transitions) := by
  unfold assign
  split_ifs with h
  · simp [h, eq_comm]
  · simp [h]

end JobState

namespace ExecutionState

/-- `EXECUTION_TRANSITIONS`. -/
def transitions : ExecutionState → List ExecutionState
  | submitting => [unknown, quarantined, filled, rejected, canceled]
  | unknown => [quarantined, filled, rejected, canceled]
  | quarantined | filled | rejected | canceled => []

/-- The ORM guard on `Execution.state`. -/
def assign (old new : ExecutionState) : Option ExecutionState :=
  if old = new ∨ new ∈ old.transitions then some new else none

/-- `TERMINAL_EXEC`. -/
def terminal : ExecutionState → Bool
  | filled | rejected | canceled | quarantined => true
  | submitting | unknown => false

/-- The external effect of the order is not known yet. -/
def unresolved (s : ExecutionState) : Bool := !s.terminal

lemma assign_eq_some {old new s : ExecutionState} :
    assign old new = some s ↔ s = new ∧ (old = new ∨ new ∈ old.transitions) := by
  unfold assign
  split_ifs with h
  · simp [h, eq_comm]
  · simp [h]

/-- A terminal state is never overwritten by another one. -/
lemma assign_of_terminal {old new s : ExecutionState} (hterminal : old.terminal = true)
    (h : assign old new = some s) : s = old := by
  obtain ⟨rfl, rfl | hmem⟩ := assign_eq_some.1 h
  · rfl
  · cases old <;> simp_all [terminal, transitions]

/-- A row that is unresolved after an assignment was unresolved before it. -/
lemma unresolved_of_assign {old new s : ExecutionState} (h : assign old new = some s)
    (hs : s.unresolved) : old.unresolved := by
  cases hold : old.terminal with
  | false => simp [unresolved, hold]
  | true =>
      rw [assign_of_terminal hold h] at hs
      exact hs

/-- An execution never returns to `SUBMITTING`. -/
lemma ne_submitting_of_assign {old new s : ExecutionState} (h : assign old new = some s)
    (hne : old ≠ submitting) : s ≠ submitting := by
  obtain ⟨rfl, rfl | hmem⟩ := assign_eq_some.1 h
  · exact hne
  · rintro rfl
    cases old <;> simp [transitions] at hmem

end ExecutionState

end HyperCopy

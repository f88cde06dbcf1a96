import HyperCopy.Engine.States
import HyperCopy.Leverage.Accounting

/-!
# Repair jobs and their accounts

`services/queue.py`: a reconciliation job that brings the leverage of a master position back, or
closes a position, is a repair of the missing leverage.  Its evidence is the causal order its
master snapshot was started at.  Published through the stream, the repair is recorded by the script
that publishes it; taken from the database while Redis is away, the job is marked as pending first,
and a later pass of `repair_stream` records the repair.

The marks live in the context of the job, beside the keys the evidence is read from.  No mark
changes the evidence (`evidence_markPending`, `evidence_markAccounted`).
-/

namespace HyperCopy

/-- `job.origin`: the origins of copy jobs and the two of the administration. -/
inductive QueueOrigin
  | copy (origin : JobOrigin)
  | adminReconcile
  | adminLeverageSync
deriving DecidableEq, Repr

/-- What `Decimal(str(raw))` makes of a key of the context; a key that is missing, `None` or blank
is `missing`. -/
inductive ContextNumber
  | missing
  | number (value : ℚ)
  | nonFinite
  | malformed
deriving DecidableEq, Repr

/-- The keys of a job's context that the accounts read and write. -/
structure RepairContext where
  masterPosition : ContextNumber
  masterLeverage : ContextNumber
  masterSnapshotStartedOrder : ContextNumber
  /-- `hf006_repair_pending`. -/
  repairPending : Option Bool
  /-- `hf006_repair_accounted_order`. -/
  repairAccountedOrder : Option ℤ
deriving DecidableEq, Repr

/-- `_parsed_master_leverage`: the number is truncated towards zero. -/
def parsedMasterLeverage (ctx : RepairContext) : Option ℤ :=
  match ctx.masterLeverage with
  | .number value => some (max 1 (value.num.tdiv value.den))
  | .missing | .nonFinite | .malformed => none

/-- `reconcile_job_repairs_missing_leverage`. -/
def reconcileJobRepairsMissingLeverage (origin : QueueOrigin) (ctx : RepairContext) : Bool :=
  if origin ≠ .copy .reconcile then false
  else
    match ctx.masterPosition with
    | .malformed => false
    | .missing => true
    | .number value => value = 0 || (parsedMasterLeverage ctx).isSome
    | .nonFinite => (parsedMasterLeverage ctx).isSome

/-- `reconcile_job_repair_evidence`. -/
def reconcileJobRepairEvidence (origin : QueueOrigin) (ctx : RepairContext) : Option ℤ :=
  if !reconcileJobRepairsMissingLeverage origin ctx then none
  else
    match ctx.masterSnapshotStartedOrder with
    | .number value => if 0 < value ∧ value.den = 1 then some value.num else none
    | .missing | .nonFinite | .malformed => none

/-- `hf006_repair_pending`. -/
def RepairContext.pending (ctx : RepairContext) : Bool := ctx.repairPending = some true

/-- `mark_hf006_repair_pending`. -/
def markRepairPending (origin : QueueOrigin) (ctx : RepairContext) : RepairContext :=
  match reconcileJobRepairEvidence origin ctx with
  | none => ctx
  | some _ =>
    if ctx.pending then ctx
    else { ctx with repairPending := some true, repairAccountedOrder := none }

/-- `mark_hf006_repair_accounted`. -/
def markRepairAccounted (ctx : RepairContext) (evidenceOrder : ℤ) : RepairContext :=
  { ctx with repairPending := some false, repairAccountedOrder := some evidenceOrder }

/-- The keys that no mark changes. -/
structure RepairContext.SameKeys (ctx ctx' : RepairContext) : Prop where
  masterPosition : ctx'.masterPosition = ctx.masterPosition
  masterLeverage : ctx'.masterLeverage = ctx.masterLeverage
  masterSnapshotStartedOrder :
    ctx'.masterSnapshotStartedOrder = ctx.masterSnapshotStartedOrder

section

variable {origin : QueueOrigin} {ctx ctx' ctx'' : RepairContext} {order : ℤ}

lemma RepairContext.SameKeys.refl (ctx : RepairContext) : ctx.SameKeys ctx := ⟨rfl, rfl, rfl⟩

lemma RepairContext.SameKeys.symm (h : ctx.SameKeys ctx') : ctx'.SameKeys ctx :=
  ⟨h.1.symm, h.2.symm, h.3.symm⟩

lemma RepairContext.SameKeys.trans (h : ctx.SameKeys ctx') (h' : ctx'.SameKeys ctx'') :
    ctx.SameKeys ctx'' :=
  ⟨h'.1.trans h.1, h'.2.trans h.2, h'.3.trans h.3⟩

lemma RepairContext.SameKeys.evidence (h : ctx.SameKeys ctx') :
    reconcileJobRepairEvidence origin ctx' = reconcileJobRepairEvidence origin ctx := by
  unfold reconcileJobRepairEvidence reconcileJobRepairsMissingLeverage parsedMasterLeverage
  rw [h.masterPosition, h.masterLeverage, h.masterSnapshotStartedOrder]

lemma sameKeys_markRepairPending : ctx.SameKeys (markRepairPending origin ctx) := by
  unfold markRepairPending
  split
  · exact .refl ctx
  · split_ifs
    · exact .refl ctx
    · exact ⟨rfl, rfl, rfl⟩

lemma sameKeys_markRepairAccounted : ctx.SameKeys (markRepairAccounted ctx order) :=
  ⟨rfl, rfl, rfl⟩

/-- A repair with evidence is pending once it is marked. -/
lemma pending_markRepairPending (h : reconcileJobRepairEvidence origin ctx = some order) :
    (markRepairPending origin ctx).pending = true := by
  unfold markRepairPending
  rw [h]
  dsimp only
  split_ifs with hpending
  · exact hpending
  · rfl

/-- A mark does not take the obligation of a pending job away. -/
lemma pending_markRepairPending_of_pending (h : ctx.pending = true) :
    (markRepairPending origin ctx).pending = true := by
  unfold markRepairPending
  split
  · exact h
  · rw [if_pos h]
    exact h

/-- What a mark leaves pending has evidence. -/
lemma evident_markRepairPending
    (h : ctx.pending = true → (reconcileJobRepairEvidence origin ctx).isSome = true)
    (hpending : (markRepairPending origin ctx).pending = true) :
    (reconcileJobRepairEvidence origin ctx).isSome = true := by
  cases hevidence : reconcileJobRepairEvidence origin ctx with
  | some order => rfl
  | none =>
      unfold markRepairPending at hpending
      rw [hevidence] at hpending
      rw [hevidence] at h
      exact h hpending

@[simp] lemma pending_markRepairAccounted : (markRepairAccounted ctx order).pending = false := rfl

/-- Evidence is a positive causal order of a reconciliation job. -/
lemma evidence_pos (h : reconcileJobRepairEvidence origin ctx = some order) :
    origin = .copy .reconcile ∧ 0 < order := by
  unfold reconcileJobRepairEvidence at h
  split_ifs at h with hrepairs
  have horigin : origin = .copy .reconcile := by
    by_contra hne
    simp [reconcileJobRepairsMissingLeverage, hne] at hrepairs
  refine ⟨horigin, ?_⟩
  cases hkey : ctx.masterSnapshotStartedOrder with
  | missing | nonFinite | malformed => simp [hkey] at h
  | number value =>
      simp only [hkey] at h
      split_ifs at h with hpos
      obtain rfl := Option.some.inj h
      exact Rat.num_pos.2 hpos.1

end

end HyperCopy

import FlowOffload.Ledger.Basic

/-!
# What the engine helpers do to the ledger

One lemma per helper.  Accounting, fences, history and the cached demand leave
the ledger alone; the rest are the ledger functions of the same name.
-/

namespace FlowOffload

open Foundation
open Std (ExtTreeMap)

namespace Impl

variable (s : Impl)

/-! ## Helpers that leave the ledger alone -/

@[simp] theorem ledger_persistLocked (answer : Status) :
    (s.persistLocked answer).1.ledger = s.ledger := by
  unfold persistLocked
  split
  · rfl
  · split <;> rfl

@[simp] theorem ledger_persistThen (answer : Status) (outcome : ReasonCode) :
    (s.persistThen answer outcome).1.ledger = s.ledger := by
  have h := ledger_persistLocked s answer
  unfold persistThen
  split
  next persisted heq =>
    rw [heq] at h
    split <;> exact h

@[simp] theorem ledger_persistedAbort (answer : Status) :
    (s.persistedAbort answer).1.ledger = s.ledger := by
  have h := ledger_persistLocked s answer
  unfold persistedAbort
  split
  next persisted heq =>
    rw [heq] at h
    split <;> exact h

@[simp] theorem ledger_recordRefusalLocked (code : ReasonCode) :
    (s.recordRefusalLocked code).ledger = s.ledger := rfl

@[simp] theorem ledger_issueFenceLocked (flow : FlowId) (target : TargetId)
    (reason : ReasonCode) (instant : Timestamp) :
    (s.issueFenceLocked flow target reason instant).1.ledger = s.ledger := rfl

@[simp] theorem ledger_fenceAllActiveLocked (instant : Timestamp) :
    (s.fenceAllActiveLocked instant).ledger = s.ledger := rfl

@[simp] theorem ledger_evictHistoryLocked :
    s.evictHistoryLocked.ledger = s.ledger := rfl

@[simp] theorem ledger_releaseFence (fence : FenceId) (reason : ReasonCode) :
    (s.releaseFence fence reason).ledger = s.ledger := rfl

/-- Charging an assignment touches only the cached demand. -/
theorem descriptor_chargeAssignment
    (flows : ExtTreeMap FlowId FlowDescriptor)
    (targets : ExtTreeMap TargetId TargetState)
    (entry : FlowId × Assignment) (id : TargetId) :
    (lookup (chargeAssignment flows targets entry) id).map
        TargetState.descriptor =
      (lookup targets id).map TargetState.descriptor := by
  unfold chargeAssignment
  split
  next state flow hstate hflow =>
    by_cases hid : id = entry.2.target
    · subst hid
      have hstate' : lookup targets entry.2.target = some state := hstate
      simp [hstate']
    · simp [hid]
  next => rfl

theorem descriptor_foldl_chargeAssignment
    (flows : ExtTreeMap FlowId FlowDescriptor)
    (entries : List (FlowId × Assignment))
    (targets : ExtTreeMap TargetId TargetState) (id : TargetId) :
    (lookup (entries.foldl (chargeAssignment flows) targets) id).map
        TargetState.descriptor =
      (lookup targets id).map TargetState.descriptor := by
  induction entries generalizing targets with
  | nil => rfl
  | cons entry entries ih =>
      rw [List.foldl_cons, ih, descriptor_chargeAssignment]

@[simp] theorem ledger_recomputeScheduledLocked :
    s.recomputeScheduledLocked.ledger = s.ledger := by
  have htarget : ∀ id, (lookup s.recomputeScheduledLocked.targets id).map
      TargetState.descriptor =
        (lookup s.targets id).map TargetState.descriptor := by
    intro id
    change (lookup (List.foldl _ _ _) id).map _ = _
    rw [descriptor_foldl_chargeAssignment]
    simp only [lookup_map, Option.map_map]
    rfl
  unfold ledger
  congr 1
  funext id
  exact htarget id

@[simp] theorem ledger_invalidateOlder (keep : TargetId → Bool)
    (generation : TopologyGeneration) :
    (s.invalidateOlder keep generation).ledger = s.ledger := by
  unfold ledger
  congr 1
  funext id
  simp only [invalidateOlder, lookup_map, Option.map_map]
  congr 1
  funext state
  simp only [Function.comp_apply]
  split <;> rfl

@[simp] theorem ledger_finishDeclaration (target : TargetDescriptor)
    (answer : Status) (outcome : ReasonCode) :
    (s.finishDeclaration target answer outcome).1.ledger = s.ledger := by
  unfold finishDeclaration
  simp only [ledger_persistThen, ledger_recomputeScheduledLocked]
  split
  · exact ledger_invalidateOlder s _ _
  · rfl

/-! ## Helpers that are changes of the ledger -/

@[simp] theorem ledger_fenceAttempts (ends : MigrationRecord → Bool)
    (reason : ReasonCode) :
    (s.fenceAttempts ends reason).ledger =
      s.ledger.endAttempts ends .fenced reason := by
  simp [ledger, fenceAttempts, Ledger.endAttempts]

@[simp] theorem ledger_abortAttempts (ends : MigrationRecord → Bool)
    (reason : ReasonCode) :
    (s.abortAttempts ends reason).ledger =
      s.ledger.endAttempts ends .aborted reason := by
  simp [ledger, abortAttempts, Ledger.endAttempts]

@[simp] theorem ledger_demoteEffects (target : TargetId) :
    (s.demoteEffects target).ledger = s.ledger.demoteOn target := by
  simp only [ledger, demoteEffects, Ledger.demoteOn, lookup_map]
  rfl

@[simp] theorem ledger_setEffect (flow : FlowId) (effect : EffectState) :
    (s.setEffect flow effect).ledger = s.ledger.setEffect flow effect := by
  simp [ledger, setEffect, Ledger.setEffect]

theorem ledger_setTarget {id : TargetId} {state : TargetState}
    (h : state.descriptor.target = id) :
    (s.setTarget id state).ledger = s.ledger.setTarget state.descriptor := by
  subst h
  simp only [ledger, setTarget, Ledger.setTarget, lookup_insert]
  congr 1
  funext id
  by_cases hid : id = state.descriptor.target
  · subst hid
    simp
  · simp [hid]

theorem ledger_setAttempt {attempt : MigrationAttemptId}
    {record : MigrationRecord} (h : record.intent.attempt = attempt) :
    (s.setAttempt attempt record).ledger = s.ledger.setAttempt record := by
  subst h
  simp [ledger, setAttempt, Ledger.setAttempt]

@[simp] theorem ledger_mapHolders (f : StateHolder → StateHolder) :
    (s.mapHolders f).ledger = s.ledger.mapHolders f := by
  simp [ledger, mapHolders, Ledger.mapHolders]

@[simp] theorem ledger_clearHandoff (attempt : MigrationAttemptId) :
    (s.clearHandoff attempt).ledger = s.ledger.mapHolders
      (clearPending fun pending => pending = attempt) :=
  ledger_mapHolders s _

@[simp] theorem ledger_holdState (flow : FlowId) (holder : StateHolder) :
    (s.holdState flow holder).ledger = s.ledger.hold flow holder := by
  have hflow : s.ledger.flow flow = s.flows[flow]? := rfl
  unfold holdState Ledger.hold
  rw [hflow]
  cases s.flows[flow]? with
  | none => rfl
  | some descriptor =>
      by_cases hstateful : descriptor.statefulness = .stateful
      · simp [hstateful, ledger]
      · simp [hstateful]

@[simp] theorem ledger_moveAssignment (intent : MigrationIntent)
    (observation : EffectObservation) :
    (s.moveAssignment intent observation).ledger =
      s.ledger.move intent observation s.nextAssignment := by
  have hassignment : s.ledger.assignment intent.flow =
      s.assignments[intent.flow]? := rfl
  unfold moveAssignment Ledger.move
  rw [hassignment]
  cases s.assignments[intent.flow]? with
  | none => rfl
  | some previous =>
      simp only [ledger_holdState]
      congr 1
      simp [ledger]

theorem lookup_withoutHolder
    (holders : ExtTreeMap ExclusiveStateKeyId StateHolder)
    (old : FlowDescriptor) (flow : FlowId) (key : ExclusiveStateKeyId) :
    lookup (withoutHolder holders old flow) key =
      if old.statefulness = .stateful ∧ key = old.exclusiveStateKey then
        (lookup holders key).filter fun holder => holder.flow ≠ flow
      else lookup holders key := by
  unfold withoutHolder
  by_cases hstateful : old.statefulness = .stateful
  · simp only [hstateful, if_true, true_and]
    by_cases hkey : key = old.exclusiveStateKey
    · subst hkey
      simp only [if_true]
      cases hholder : holders[old.exclusiveStateKey]? with
      | none =>
          have hnone : lookup holders old.exclusiveStateKey = none := hholder
          simp [hnone]
      | some holder =>
          have hsome : lookup holders old.exclusiveStateKey = some holder :=
            hholder
          by_cases hflow : holder.flow = flow
          · simp [hsome, hflow, Option.filter]
          · simp [hsome, hflow, Option.filter]
    · simp only [hkey, if_false]
      split
      · split
        · simp [hkey]
        · rfl
      · rfl
  · simp [hstateful]

theorem ledger_releaseHolder (old : FlowDescriptor) (flow : FlowId) :
    (s.releaseHolder old flow).ledger =
      { s.ledger with
        holder := fun key =>
          if old.statefulness = .stateful ∧ key = old.exclusiveStateKey then
            (s.ledger.holder key).filter fun holder => holder.flow ≠ flow
          else s.ledger.holder key } := by
  unfold ledger
  congr 1
  funext key
  exact lookup_withoutHolder s.holders old flow key

@[simp] theorem ledger_releaseAssignment (flow : FlowId) :
    (s.releaseAssignment flow).ledger =
      { s.ledger with
        assignment := Function.update s.ledger.assignment flow none } := by
  unfold releaseAssignment
  split
  next =>
    rw [ledger_recomputeScheduledLocked]
    simp [ledger]
  next hmem =>
    have hnone : lookup s.assignments flow = none := by
      rw [lookup]
      exact ExtTreeMap.getElem?_eq_none (by simpa using hmem)
    unfold ledger
    congr 1
    rw [← hnone, Function.update_eq_self]

end Impl

end FlowOffload

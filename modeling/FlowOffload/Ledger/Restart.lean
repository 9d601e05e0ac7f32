import FlowOffload.Ledger.Attempts
import FlowOffload.Ledger.Batch

/-!
# Restarts

What the engine hands to the store, and what recovering it makes of the
ledger: flows, targets, placements and contracts come back, every attempt in
flight is fenced, and the holders are claimed again from the placements.
-/

namespace FlowOffload

open Foundation
open Std (ExtTreeMap)

namespace Impl

variable {s : Impl}

/-! ## Claiming exclusive state -/

/-- The flow of the entry holds the key by its own placement. -/
structure Claims (flows : ExtTreeMap FlowId FlowDescriptor)
    (key : ExclusiveStateKeyId) (entry : FlowId × Assignment) : Prop where
  flow : ∃ flow, lookup flows entry.1 = some flow ∧
    flow.statefulness = .stateful ∧ flow.exclusiveStateKey = key ∧
    key.isValid = true

theorem lookup_claimState_of_claims {flows : ExtTreeMap FlowId FlowDescriptor}
    {holders : ExtTreeMap ExclusiveStateKeyId StateHolder}
    {entry : FlowId × Assignment} {key : ExclusiveStateKeyId}
    (h : Claims flows key entry) :
    lookup (claimState flows holders entry) key =
      some (holderOf entry.1 entry.2) := by
  obtain ⟨flow, hflow, hstateful, rfl, hvalid⟩ := h.flow
  have hlookup : flows[entry.1]? = some flow := hflow
  unfold claimState
  rw [hlookup]
  simp [hstateful, hvalid]

theorem lookup_claimState_of_not_claims
    {flows : ExtTreeMap FlowId FlowDescriptor}
    {holders : ExtTreeMap ExclusiveStateKeyId StateHolder}
    {entry : FlowId × Assignment} {key : ExclusiveStateKeyId}
    (h : ¬ Claims flows key entry) :
    lookup (claimState flows holders entry) key = lookup holders key := by
  unfold claimState
  cases hlookup : flows[entry.1]? with
  | none => rfl
  | some flow =>
      dsimp only
      split
      next hclaims =>
        simp only [Bool.and_eq_true, decide_eq_true_eq] at hclaims
        have hne : key ≠ flow.exclusiveStateKey := by
          rintro rfl
          exact h ⟨flow, hlookup, hclaims.1, rfl, hclaims.2⟩
        rw [lookup_insert, Function.update_of_ne hne]
      · rfl

/-- A holder found by the rebuild loop comes from an entry that claims it. -/
theorem lookup_foldl_claimState (flows : ExtTreeMap FlowId FlowDescriptor)
    (entries : List (FlowId × Assignment)) (key : ExclusiveStateKeyId)
    (holders : ExtTreeMap ExclusiveStateKeyId StateHolder) :
    (lookup (entries.foldl (claimState flows) holders) key = lookup holders key
        ∧ ∀ entry ∈ entries, ¬ Claims flows key entry) ∨
      ∃ entry ∈ entries, Claims flows key entry ∧
        lookup (entries.foldl (claimState flows) holders) key =
          some (holderOf entry.1 entry.2) := by
  induction entries generalizing holders with
  | nil => exact Or.inl ⟨rfl, by simp⟩
  | cons entry entries ih =>
      rw [List.foldl_cons]
      rcases ih (claimState flows holders entry) with
        ⟨heq, hnone⟩ | ⟨later, hlater, hclaims, heq⟩
      · by_cases hclaims : Claims flows key entry
        · refine Or.inr ⟨entry, List.mem_cons_self, hclaims, ?_⟩
          rw [heq, lookup_claimState_of_claims hclaims]
        · refine Or.inl ⟨?_, ?_⟩
          · rw [heq, lookup_claimState_of_not_claims hclaims]
          · intro other hother
            rcases List.mem_cons.mp hother with rfl | hother
            · exact hclaims
            · exact hnone other hother
      · exact Or.inr ⟨later, List.mem_cons_of_mem _ hlater, hclaims, heq⟩

theorem mem_of_lookup_indexBy {κ ν : Type} [Ord κ] [Std.TransOrd κ]
    [Std.LawfulEqOrd κ] [DecidableEq κ] {key : ν → κ} {values : List ν}
    {k : κ} {v : ν} (h : lookup (indexBy key values) k = some v) :
    v ∈ values ∧ key v = k := by
  have hfold : ∀ (values : List ν) (m : Std.ExtTreeMap κ ν),
      lookup (values.foldl (fun entries x => entries.insert (key x) x) m) k =
        some v → (v ∈ values ∧ key v = k) ∨ lookup m k = some v := by
    intro values
    induction values with
    | nil => exact fun m h => Or.inr h
    | cons value values ih =>
        intro m h
        rcases ih _ h with ⟨hmem, hkey⟩ | hold
        · exact Or.inl ⟨List.mem_cons_of_mem _ hmem, hkey⟩
        · rw [lookup_insert] at hold
          by_cases hk : k = key value
          · subst hk
            rw [Function.update_self] at hold
            cases hold
            exact Or.inl ⟨List.mem_cons_self, rfl⟩
          · rw [Function.update_of_ne hk] at hold
            exact Or.inr hold
  rcases hfold values ∅ h with hfound | hempty
  · exact hfound
  · simp at hempty

/-! ## The recovered ledger -/

def restoredLedger (state : DurableState) : Ledger :=
  ((init {} []).restoreLocked state).ledger

/-- Recovery depends on the recovered state alone. -/
theorem ledger_restoreLocked (s : Impl) (state : DurableState) :
    (s.restoreLocked state).ledger = restoredLedger state := rfl

theorem sortByKey_perm {α κ : Type} [Ord κ] (key : α → κ) (items : List α) :
    (sortByKey key items).Perm items :=
  canonicalSort_perm _ items

theorem durableAssignment_idem (a : Assignment) :
    durableAssignment (durableAssignment a) = durableAssignment a := by
  unfold durableAssignment
  split
  · simp
  · rfl

theorem flow_durableAssignment (a : Assignment) :
    (durableAssignment a).flow = a.flow := by
  unfold durableAssignment
  split <;> rfl

theorem target_durableAssignment (a : Assignment) :
    (durableAssignment a).target = a.target := by
  unfold durableAssignment
  split <;> rfl

theorem generation_durableAssignment (a : Assignment) :
    (durableAssignment a).flowGeneration = a.flowGeneration := by
  unfold durableAssignment
  split <;> rfl

/-- The table a recovery fills from the records of a committed one. -/
theorem lookup_indexBy_sortByKey {κ ν ν' : Type} [Ord κ] [Std.TransOrd κ]
    [Std.LawfulEqOrd κ] [DecidableEq κ] {key : ν' → κ} {g : ν → ν'}
    {m : ExtTreeMap κ ν} {values : List ν'}
    (hvalues : values.Perm (m.toList.map fun entry => g entry.2))
    (hkey : ∀ k v, lookup m k = some v → key (g v) = k) (k : κ) :
    lookup (indexBy key values) k = (lookup m k).map g :=
  lookup_foldl_insert_values hvalues hkey k

theorem restored_flow (hkeyed : s.ledger.Keyed) :
    (restoredLedger s.buildDurableLocked).flow = s.ledger.flow := by
  funext k
  refine (lookup_indexBy_sortByKey (g := id) (m := s.flows)
    (sortByKey_perm _ _) ?_ k).trans Option.map_id_apply
  exact hkeyed.flow

theorem restored_contract (hkeyed : s.ledger.Keyed) :
    (restoredLedger s.buildDurableLocked).contract = s.ledger.contract := by
  funext k
  refine (lookup_indexBy_sortByKey (g := id) (m := s.contracts)
    (sortByKey_perm _ _) ?_ k).trans Option.map_id_apply
  exact hkeyed.contract

theorem restored_target (hkeyed : s.ledger.Keyed) (id : TargetId) :
    (restoredLedger s.buildDurableLocked).target id =
      (s.ledger.target id).map fun target =>
        { target with lifecycle := .unknown } := by
  refine (congrFun (congrArg Ledger.target (Eq.trans (ledger_mapHolders _ _)
    (congrArg (Ledger.mapHolders · _) ((ledger_fenceAttempts _ _ _).trans
      (congrArg (Ledger.endAttempts · _ _ _)
        (ledger_recomputeScheduledLocked _)))))) id).trans ?_
  have htargets : lookup (indexBy (fun target => target.descriptor.target)
      (s.buildDurableLocked.targets.map fun descriptor =>
        ({ descriptor := descriptor } : TargetState))) id =
      (lookup s.targets id).map fun state =>
        { descriptor := durableTarget state } := by
    refine lookup_indexBy_sortByKey
      (((sortByKey_perm _ _).map _).trans (by rw [List.map_map]; rfl)) ?_ id
    intro k state hstate
    exact hkeyed.target k state.descriptor (ledger_target_of_lookup hstate)
  refine (congrArg (Option.map TargetState.descriptor) htargets).trans ?_
  change _ = ((lookup s.targets id).map TargetState.descriptor).map _
  rw [Option.map_map, Option.map_map]
  rfl

theorem restored_assignment (hkeyed : s.ledger.Keyed) (flow : FlowId) :
    (restoredLedger s.buildDurableLocked).assignment flow =
      (s.ledger.assignment flow).map durableAssignment := by
  refine lookup_indexBy_sortByKey (m := s.assignments)
    (((sortByKey_perm _ _).map durableAssignment).trans ?_) ?_ flow
  · rw [List.map_map]
    refine List.Perm.of_eq (List.map_congr_left fun entry _ => ?_)
    exact durableAssignment_idem entry.2
  · intro k a ha
    rw [flow_durableAssignment]
    exact hkeyed.assignment k a ha

theorem restored_attempt (hkeyed : s.ledger.Keyed)
    (k : MigrationAttemptId) :
    (restoredLedger s.buildDurableLocked).attempt k =
      (s.ledger.attempt k).map
        (endAttempt (fun _ => true) .fenced .rejectedFencedByRestart) := by
  change lookup (ExtTreeMap.map _ (indexBy _ _)) k = _
  rw [lookup_map]
  refine congrArg (Option.map _) ?_
  refine (lookup_indexBy_sortByKey (g := id) (m := s.migrations)
    (sortByKey_perm _ _) ?_ k).trans Option.map_id_apply
  exact hkeyed.attempt

/-- The holders of a recovered ledger are claimed by its placements. -/
theorem restored_holder (state : DurableState) (key : ExclusiveStateKeyId) :
    (((restoredLedger state).holder key = none) ∧
        ∀ flow descriptor assignment,
          (restoredLedger state).flow flow = some descriptor →
          descriptor.statefulness = .stateful →
          descriptor.exclusiveStateKey = key → key.isValid = true →
          (restoredLedger state).assignment flow ≠ some assignment) ∨
      ∃ flow descriptor assignment,
        (restoredLedger state).flow flow = some descriptor ∧
        descriptor.statefulness = .stateful ∧
        descriptor.exclusiveStateKey = key ∧ key.isValid = true ∧
        (restoredLedger state).assignment flow = some assignment ∧
        (restoredLedger state).holder key =
          some (holderOf flow assignment) := by
  have hholder : ∀ found, lookup
      ((indexBy Assignment.flow
        (state.assignments.map durableAssignment)).toList.foldl
        (claimState (indexBy FlowDescriptor.flow state.flows)) ∅) key =
          found →
      (restoredLedger state).holder key = found.map fun holder =>
        { holder with handoffPending := false, pendingAttempt := {} } := by
    intro found hfound
    change lookup (ExtTreeMap.map _ (List.foldl _ _ _)) key = _
    rw [lookup_map]
    exact congrArg (Option.map _) hfound
  rcases lookup_foldl_claimState (indexBy FlowDescriptor.flow state.flows)
    (indexBy Assignment.flow
      (state.assignments.map durableAssignment)).toList key ∅ with
    ⟨heq, hnone⟩ | ⟨entry, hentry, hclaims, heq⟩
  · refine Or.inl ⟨by rw [hholder _ heq, lookup_empty]; rfl, ?_⟩
    intro flow descriptor assignment hflow hstateful hkey hvalid hassigned
    exact hnone (flow, assignment)
      (lookup_eq_some_iff_mem_toList.mp hassigned)
      ⟨descriptor, hflow, hstateful, hkey, hvalid⟩
  · obtain ⟨descriptor, hflow, hstateful, hkey, hvalid⟩ := hclaims.flow
    exact Or.inr ⟨entry.1, descriptor, entry.2, hflow, hstateful, hkey, hvalid,
      lookup_eq_some_iff_mem_toList.mpr hentry, hholder _ heq⟩

theorem restarted (hkeyed : s.ledger.Keyed) :
    Ledger.Restarted s.ledger (restoredLedger s.buildDurableLocked) where
  flow := restored_flow hkeyed
  target := restored_target hkeyed
  assignment := restored_assignment hkeyed
  attempt := restored_attempt hkeyed
  contract := restored_contract hkeyed
  holder_spec := by
    intro key holder hholder
    rcases restored_holder s.buildDurableLocked key with
      ⟨hnone, -⟩ | ⟨flow, descriptor, assignment, hflow, hstateful, hkey, -,
        hassigned, heq⟩
    · rw [hnone] at hholder
      cases hholder
    · rw [heq] at hholder
      cases hholder
      rw [restored_flow hkeyed] at hflow
      exact ⟨descriptor, assignment, hflow, hstateful, hkey, hassigned, rfl⟩
  holder_exists := by
    intro flow descriptor assignment hflow hstateful hvalid hassigned
    rw [← restored_flow hkeyed] at hflow
    rcases restored_holder s.buildDurableLocked descriptor.exclusiveStateKey
      with ⟨-, hnone⟩ | ⟨_, _, _, -, -, -, -, -, heq⟩
    · exact absurd hassigned
        (hnone flow descriptor assignment hflow hstateful rfl hvalid)
    · exact ⟨_, heq⟩

end Impl

end FlowOffload

import FlowOffload.Engine.State
import FlowOffload.Foundation.OrdSum

/-!
# Scheduled demand

What `recomputeScheduledLocked` writes into each target: the demands of the
flows assigned to it, summed up with saturation.  The sum depends only on the
total in each dimension.
-/

namespace FlowOffload

open Foundation
open Std (ExtTreeMap)

namespace CapacityVector

/-- The total of a list of demands in one dimension. -/
def total (demands : List CapacityVector) (d : Dimension) : Nat :=
  (demands.map fun demand => demand.part d).sum

@[simp] theorem total_nil (d : Dimension) : total [] d = 0 := rfl

@[simp] theorem total_cons (demand : CapacityVector)
    (demands : List CapacityVector) (d : Dimension) :
    total (demand :: demands) d = demand.part d + total demands d := rfl

/-- Demands added one after the other; an overflow saturates the sum. -/
def charge (demands : List CapacityVector) : CapacityVector :=
  demands.foldl addOrSaturate zero

theorem saturated_addOrSaturate (v : CapacityVector) :
    addOrSaturate saturated v = saturated := by
  by_cases hzero : ∀ d, v.part d = 0
  · have hv : v = zero := ext_part fun d => by rw [hzero d, part_zero]
    rw [hv, addOrSaturate_zero]
  · obtain ⟨d, hd⟩ := not_forall.mp hzero
    have hmax := part_saturated d
    exact addOrSaturate_of_overflow (d := d) (by omega)

theorem foldl_addOrSaturate_saturated (demands : List CapacityVector) :
    demands.foldl addOrSaturate saturated = saturated := by
  induction demands with
  | nil => rfl
  | cons demand demands ih =>
      rw [List.foldl_cons, saturated_addOrSaturate, ih]

theorem part_foldl_addOrSaturate {v : CapacityVector}
    {demands : List CapacityVector}
    (h : ∀ d, v.part d + total demands d < 2 ^ 64) (d : Dimension) :
    (demands.foldl addOrSaturate v).part d = v.part d + total demands d := by
  induction demands generalizing v with
  | nil => rfl
  | cons demand demands ih =>
      have hfits : ∀ d, v.part d + demand.part d < 2 ^ 64 := by
        intro d
        have := h d
        rw [total_cons] at this
        omega
      have hpart := part_addOrSaturate_of_fits hfits
      rw [List.foldl_cons, ih]
      · rw [hpart, total_cons]
        omega
      · intro d
        have := h d
        rw [total_cons] at this
        rw [hpart]
        omega

theorem foldl_addOrSaturate_of_overflow {v : CapacityVector}
    {demands : List CapacityVector} {d : Dimension}
    (h : 2 ^ 64 ≤ v.part d + total demands d) :
    demands.foldl addOrSaturate v = saturated := by
  induction demands generalizing v with
  | nil =>
      have := part_lt v d
      rw [total_nil] at h
      omega
  | cons demand demands ih =>
      rw [List.foldl_cons]
      by_cases hfits : ∀ d, v.part d + demand.part d < 2 ^ 64
      · apply ih
        rw [part_addOrSaturate_of_fits hfits]
        rw [total_cons] at h
        omega
      · obtain ⟨d', hd'⟩ := not_forall.mp hfits
        rw [addOrSaturate_of_overflow (d := d') (by omega)]
        exact foldl_addOrSaturate_saturated demands

theorem part_charge {demands : List CapacityVector}
    (h : ∀ d, total demands d < 2 ^ 64) (d : Dimension) :
    (charge demands).part d = total demands d := by
  rw [charge, part_foldl_addOrSaturate]
  · simp
  · simpa using h

theorem charge_of_overflow {demands : List CapacityVector} {d : Dimension}
    (h : 2 ^ 64 ≤ total demands d) : charge demands = saturated :=
  foldl_addOrSaturate_of_overflow (d := d) (by simpa using h)

theorem charge_append_one (demands : List CapacityVector)
    (demand : CapacityVector) :
    charge (demands ++ [demand]) = addOrSaturate (charge demands) demand := by
  rw [charge, List.foldl_append, List.foldl_cons, List.foldl_nil]
  rfl

theorem total_append_one (demands : List CapacityVector)
    (demand : CapacityVector) (d : Dimension) :
    total (demands ++ [demand]) d = total demands d + demand.part d := by
  rw [total, List.map_append, List.sum_append, List.map_singleton,
    List.sum_singleton]
  rfl

/-- Equal totals give equal sums, saturated or not. -/
theorem charge_congr {demands demands' : List CapacityVector}
    (h : ∀ d, total demands d = total demands' d) :
    charge demands = charge demands' := by
  by_cases hfits : ∀ d, total demands d < 2 ^ 64
  · apply ext_part
    intro d
    rw [part_charge hfits, part_charge fun d => h d ▸ hfits d, h]
  · obtain ⟨d, hd⟩ := not_forall.mp hfits
    rw [charge_of_overflow (d := d) (by omega),
      charge_of_overflow (d := d) (by rw [← h]; omega)]

end CapacityVector

namespace Impl

/-- `sum_demands` stops at the first overflow; the sum stays saturated. -/
theorem sumDemands_eq_foldl (v : CapacityVector)
    (demands : List CapacityVector) :
    sumDemands v demands = demands.foldl CapacityVector.addOrSaturate v := by
  induction demands generalizing v with
  | nil => rfl
  | cons demand demands ih =>
      rw [sumDemands, List.foldl_cons, CapacityVector.addOrSaturate]
      cases CapacityVector.checkedAdd v demand with
      | none =>
          exact (CapacityVector.foldl_addOrSaturate_saturated demands).symm
      | some sum => exact ih sum

/-- The demand that the current assignments put on a target. -/
def due (s : Impl) (id : TargetId) : CapacityVector :=
  CapacityVector.charge (demandsOn s.flows s.assignments id)

theorem committedDemandForLocked_eq (s : Impl) (id : TargetId) :
    s.committedDemandForLocked id = s.due id :=
  sumDemands_eq_foldl _ _

/-- The demand of one assignment, when it is charged to the target. -/
def chargedTo (flows : ExtTreeMap FlowId FlowDescriptor) (id : TargetId)
    (entry : FlowId × Assignment) : Option CapacityVector :=
  if entry.2.target = id then (flows[entry.1]?).map FlowDescriptor.demand
  else none

/-- A target with further demands added to its cached vector. -/
def addDemands (demands : List CapacityVector) (state : TargetState) :
    TargetState :=
  { state with
    scheduled := demands.foldl CapacityVector.addOrSaturate state.scheduled }

@[simp] theorem addDemands_nil : addDemands [] = id := rfl

theorem addDemands_one (demand : CapacityVector) (state : TargetState) :
    addDemands [demand] state =
      { state with
        scheduled := CapacityVector.addOrSaturate state.scheduled demand } := by
  rw [addDemands, List.foldl_cons, List.foldl_nil]

theorem addDemands_append (demands more : List CapacityVector) :
    addDemands (demands ++ more) = addDemands more ∘ addDemands demands := by
  funext state
  simp only [addDemands, Function.comp_apply, List.foldl_append]

theorem lookup_chargeAssignment (flows : ExtTreeMap FlowId FlowDescriptor)
    (targets : ExtTreeMap TargetId TargetState)
    (entry : FlowId × Assignment) (id : TargetId) :
    lookup (chargeAssignment flows targets entry) id =
      (lookup targets id).map
        (addDemands (chargedTo flows id entry).toList) := by
  unfold chargeAssignment chargedTo
  split
  next state flow hstate hflow =>
    by_cases htarget : entry.2.target = id
    · subst htarget
      have hlookup : lookup targets entry.2.target = some state := hstate
      rw [if_pos rfl, lookup_insert, Function.update_self, hlookup, hflow,
        Option.map_some, Option.map_some, Option.toList_some, addDemands_one]
    · rw [if_neg htarget, lookup_insert,
        Function.update_of_ne (Ne.symm htarget), Option.toList_none,
        addDemands_nil, Option.map_id]
      rfl
  next hmissing =>
    by_cases htarget : entry.2.target = id
    · subst htarget
      rw [if_pos rfl]
      cases hstate : lookup targets entry.2.target with
      | none => rfl
      | some state =>
          cases hflow : flows[entry.1]? with
          | none =>
              rw [Option.map_none, Option.toList_none, addDemands_nil,
                Option.map_id]
              rfl
          | some flow => exact absurd hflow (hmissing state flow hstate)
    · rw [if_neg htarget, Option.toList_none, addDemands_nil, Option.map_id]
      rfl

theorem lookup_foldl_chargeAssignment
    (flows : ExtTreeMap FlowId FlowDescriptor)
    (entries : List (FlowId × Assignment))
    (targets : ExtTreeMap TargetId TargetState) (id : TargetId) :
    lookup (entries.foldl (chargeAssignment flows) targets) id =
      (lookup targets id).map
        (addDemands (entries.filterMap (chargedTo flows id))) := by
  induction entries generalizing targets with
  | nil =>
      rw [List.foldl_nil, List.filterMap_nil, addDemands_nil, Option.map_id]
      rfl
  | cons entry entries ih =>
      have hsplit : (entry :: entries).filterMap (chargedTo flows id) =
          (chargedTo flows id entry).toList ++
            entries.filterMap (chargedTo flows id) := by
        cases hcharged : chargedTo flows id entry <;> simp [hcharged]
      rw [List.foldl_cons, ih, lookup_chargeAssignment, Option.map_map, hsplit,
        addDemands_append]

theorem lookup_recomputeScheduledLocked (s : Impl) (id : TargetId) :
    lookup s.recomputeScheduledLocked.targets id =
      (lookup s.targets id).map fun state : TargetState =>
        { state with scheduled := s.due id } := by
  have hfold := lookup_foldl_chargeAssignment s.flows s.assignments.toList
    (s.targets.map fun _ state =>
      { state with scheduled := CapacityVector.zero }) id
  rw [lookup_map, Option.map_map] at hfold
  exact hfold

/-- The weight of one assignment in the total of a target. -/
def demandWeight (flows : ExtTreeMap FlowId FlowDescriptor) (id : TargetId)
    (d : Dimension) (flow : FlowId) (a : Assignment) : Nat :=
  if a.target = id then
    ((lookup flows flow).map fun descriptor => descriptor.demand.part d).getD 0
  else 0

theorem total_demandsOn (flows : ExtTreeMap FlowId FlowDescriptor)
    (assignments : ExtTreeMap FlowId Assignment) (id : TargetId)
    (d : Dimension) :
    CapacityVector.total (demandsOn flows assignments id) d =
      sumOver (demandWeight flows id d) assignments := by
  unfold demandsOn sumOver
  induction assignments.toList with
  | nil => rfl
  | cons entry entries ih =>
      rw [List.map_cons, List.sum_cons, ← ih, demandWeight]
      by_cases htarget : entry.2.target = id
      · rw [if_pos htarget]
        cases hflow : flows[entry.1]? with
        | none =>
            have hlookup : lookup flows entry.1 = none := hflow
            simp [htarget, hflow, hlookup]
        | some descriptor =>
            have hlookup : lookup flows entry.1 = some descriptor := hflow
            simp [htarget, hflow, hlookup]
      · simp [htarget]

/-- A flow that comes to a target adds its demand. -/
theorem charge_insert_arriving {flows : ExtTreeMap FlowId FlowDescriptor}
    {assignments : ExtTreeMap FlowId Assignment} {k : FlowId}
    {a : Assignment} {flow : FlowDescriptor}
    (hflow : lookup flows k = some flow)
    (hothers : ∀ old : Assignment, lookup assignments k = some old →
      old.target ≠ a.target) :
    CapacityVector.charge (demandsOn flows (assignments.insert k a) a.target) =
      CapacityVector.addOrSaturate
        (CapacityVector.charge (demandsOn flows assignments a.target))
        flow.demand := by
  rw [← CapacityVector.charge_append_one]
  refine CapacityVector.charge_congr fun d => ?_
  rw [CapacityVector.total_append_one, total_demandsOn, total_demandsOn]
  have hsum := sumOver_insert (demandWeight flows a.target d) assignments k a
  have hbefore :
      weightAt (demandWeight flows a.target d) assignments k = 0 := by
    cases hold : lookup assignments k with
    | none => simp [weightAt, hold]
    | some old => simp [weightAt, hold, demandWeight, hothers old hold]
  have hafter :
      demandWeight flows a.target d k a = flow.demand.part d := by
    simp [demandWeight, hflow]
  omega

/-- A flow that stays on its target adds nothing to any. -/
theorem charge_insert_staying {flows : ExtTreeMap FlowId FlowDescriptor}
    {assignments : ExtTreeMap FlowId Assignment} {k : FlowId}
    {a old : Assignment} (hold : lookup assignments k = some old)
    (hsame : old.target = a.target) (id : TargetId) :
    CapacityVector.charge (demandsOn flows (assignments.insert k a) id) =
      CapacityVector.charge (demandsOn flows assignments id) := by
  refine CapacityVector.charge_congr fun d => ?_
  rw [total_demandsOn, total_demandsOn]
  have hsum := sumOver_insert (demandWeight flows id d) assignments k a
  have hweight : weightAt (demandWeight flows id d) assignments k =
      demandWeight flows id d k a := by
    simp [weightAt, hold, demandWeight, hsame]
  omega

end Impl

end FlowOffload

import FlowOffload.Laws.Batches
import FlowOffload.Laws.Visibility

/-!
# Placement without evidence

A policy may place a flow on a target whose load is not known.  The target then
counts as empty, with everything that is committed to it, so the capacity of a
batch holds only where the load is known or the commitments leave room.
-/

namespace FlowOffload

open Foundation
open Std (ExtTreeMap)

namespace Impl

variable {s : Impl} {request : PlacementRequest} {plan : BatchPlan}

/-- There is room for the flow above what is scheduled. -/
def leavesRoom (flow : FlowDescriptor) (state : TargetState) : Bool :=
  dimensions.all fun d =>
    state.scheduled.part d + flow.demand.part d ≤
      state.descriptor.capacity.part d

/-- The item is refused, keeps its target, or goes to a target whose load is
known or whose commitments leave room for it. -/
def itemCounts (s : Impl) (request : PlacementRequest) (plan : BatchPlan)
    (item : PlacementItem) : Bool :=
  match s.decideItem request plan item with
  | .refused _ _ => true
  | .accepted flow current chosen _ _ =>
      stickyOn s.policy current chosen ||
        (s.targets[chosen.target]?).all fun state =>
          (s.effectiveLoadLocked (plannedTarget plan chosen.target state)
            request.evaluationInstant).known ||
            leavesRoom flow (plannedTarget plan chosen.target state)

/-- No item of the batch is placed as if its target were empty when it has no
room left. -/
def commitmentsCount (s : Impl) (request : PlacementRequest) :
    BatchPlan → List PlacementItem → Bool
  | _, [] => true
  | plan, item :: items =>
      s.itemCounts request plan item &&
        s.commitmentsCount request (s.planItem request plan item) items

theorem roomFor_of_itemCounts
    (hkeyed : ∀ k target, lookup s.targets k = some target →
      target.descriptor.target = k)
    (hmodel : s.policy.loadModel = .scheduledOnly ∨
      s.policy.loadModel = .sumConservative ∨
      s.policy.loadModel = .maximumOfBoth)
    {item : PlacementItem} (h : s.itemCounts request plan item = true) :
    s.RoomFor request plan item := by
  intro flow current chosen fallback placement hdecide hmoves state hstate d
  have heligible := (accepts_of_decideItem hdecide).passes hkeyed hstate
  have hget : s.targets[chosen.target]? = some state := hstate
  unfold itemCounts at h
  rw [hdecide] at h
  dsimp only at h
  rw [hmoves, Bool.false_or, hget, Option.all_some, Bool.or_eq_true] at h
  rcases h with hknown | hroom
  · exact room_of_known hmodel hknown heligible d
  · rw [leavesRoom, List.all_eq_true] at hroom
    exact of_decide_eq_true (hroom d (mem_dimensions d))

/--
From a state whose cached demand is exact, an accepted batch keeps every target
that it placed a flow on within its capacity, also on the targets whose load it
does not know, if no sum overflows and no flow is placed where the commitments
leave no room.
-/
theorem opt_in_keeps_capacity (request : PlacementRequest) (answer : Status)
    (hkeyed : s.ledger.Keyed) (hexact : s.ScheduledExact)
    (hmodel : s.policy.loadModel = .scheduledOnly ∨
      s.policy.loadModel = .sumConservative ∨
      s.policy.loadModel = .maximumOfBoth)
    (hwet : request.dryRun = false)
    (hfits : s.sumsFit request s.initialPlan (itemsOf request) = true)
    (hcounts : s.commitmentsCount request s.initialPlan (itemsOf request) =
      true)
    (haccepted : (s.placeLocked request answer).2.accepted = true) :
    ∀ placement ∈ (s.placeLocked request answer).2.placements,
      placement.accepted = true → placement.retained = false →
        (s.placeLocked request answer).1.WithinCapacity placement.target := by
  refine withinCapacity_of_tallied request answer ?_ hwet haccepted
  refine @tallied_planOf s request hkeyed hexact.covers.bounded
    (fun plan items => s.sumsFit request plan items = true ∧
      s.commitmentsCount request plan items = true) ?_ ⟨hfits, hcounts⟩
  rintro plan item items htallied ⟨hsums, hitems⟩
  rw [sumsFit, Bool.and_eq_true] at hsums
  rw [commitmentsCount, Bool.and_eq_true] at hitems
  exact ⟨seatFits_of_roomFor hexact.covers htallied hsums.1
    (roomFor_of_itemCounts (targets_of_keyed hkeyed) hmodel hitems.1),
    hsums.2, hitems.2⟩

/-! ## Runs -/

/-- One host of which nothing is observed, and two flows. -/
def unobservedPair (demand : UInt64) : List Op :=
  [.openEngine {} committed,
    .setPolicy
      { samplePolicy false with
        loadModel := .sumConservative
        allowPlacementWithoutLoadEvidence := true } committed,
    .declareTarget (sampleHost 1) committed,
    .registerFlow (plainFlow 1 demand) committed,
    .registerFlow (plainFlow 2 demand) committed]

example : (engine.run (init sampleConfig [])
    (unobservedPair 40)).counters.flowsRegistered = 2 := by
  decide +kernel

/-- Two flows that fit on the host together. -/
theorem unobserved_host_holds_both :
    (((engine.run (init sampleConfig []) (unobservedPair 40)).placeLocked
        (sampleRequest 1 1 [1, 2]) committed).2.placements.map
          fun placement => (placement.accepted, placement.target)) =
      [(true, ⟨1⟩), (true, ⟨1⟩)] ∧
    ∀ placement ∈ ((engine.run (init sampleConfig [])
        (unobservedPair 40)).placeLocked (sampleRequest 1 1 [1, 2])
          committed).2.placements,
      placement.accepted = true → placement.retained = false →
        ((engine.run (init sampleConfig []) (unobservedPair 40)).placeLocked
          (sampleRequest 1 1 [1, 2]) committed).1.WithinCapacity
            placement.target := by
  have hkeyed : (engine.run (init sampleConfig [])
      (unobservedPair 40)).ledger.Keyed :=
    @keyed_of_run (fun _ _ => True) sampleConfig _ (by decide +kernel)
  refine ⟨by decide +kernel, ?_⟩
  exact opt_in_keeps_capacity (sampleRequest 1 1 [1, 2]) committed hkeyed
    (by decide +kernel) (by decide +kernel) rfl (by decide +kernel)
    (by decide +kernel) (by decide +kernel)

/-- Two flows of which each fits on the empty host, and both do not. -/
theorem unobserved_host_is_overcommitted :
    (engine.run (init sampleConfig []) (unobservedPair 60)).ScheduledExact ∧
      (engine.run (init sampleConfig [])
        (unobservedPair 60)).policy.loadModel = .sumConservative ∧
      (engine.run (init sampleConfig []) (unobservedPair
        60)).policy.allowPlacementWithoutLoadEvidence = true ∧
      ¬ ∀ placement ∈ ((engine.run (init sampleConfig [])
          (unobservedPair 60)).placeLocked (sampleRequest 1 1 [1, 2])
            committed).2.placements,
        placement.accepted = true → placement.retained = false →
          ((engine.run (init sampleConfig []) (unobservedPair
            60)).placeLocked (sampleRequest 1 1 [1, 2])
              committed).1.WithinCapacity placement.target := by
  refine ⟨by decide +kernel, by decide +kernel, by decide +kernel, ?_⟩
  generalize hafter : (engine.run (init sampleConfig [])
    (unobservedPair 60)).placeLocked (sampleRequest 1 1 [1, 2]) committed =
      after
  intro h
  have hplaced : (after.2.placements.any fun placement =>
      placement.accepted && !placement.retained &&
        placement.target = ⟨1⟩) = true := by
    rw [← hafter]
    decide +kernel
  have hover : ((lookup after.1.targets ⟨1⟩).any fun state =>
      state.descriptor.capacity.part .packetsPerSecond <
        CapacityVector.total (demandsOn after.1.flows after.1.assignments ⟨1⟩)
          .packetsPerSecond) = true := by
    rw [← hafter]
    decide +kernel
  obtain ⟨placement, hmem, hplacement⟩ := List.any_eq_true.mp hplaced
  simp only [Bool.and_eq_true, Bool.not_eq_true', decide_eq_true_eq]
    at hplacement
  have hwithin := h placement hmem hplacement.1.1 hplacement.1.2
  rw [hplacement.2] at hwithin
  cases hstate : lookup after.1.targets ⟨1⟩ with
  | none => simp [hstate] at hover
  | some state =>
      rw [hstate, Option.any_some, decide_eq_true_eq] at hover
      exact Nat.not_lt.mpr (hwithin state hstate .packetsPerSecond) hover

end Impl

end FlowOffload

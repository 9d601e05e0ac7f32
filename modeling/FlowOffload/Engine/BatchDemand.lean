import FlowOffload.Engine.EffectiveLoad

/-!
# Demand within a batch

While a batch is planned, the demand of every target is what was committed, plus
what the batch has added to it, less what it has released from it.  The three
are kept in separate sums, and only the first two can overflow together.
-/

namespace FlowOffload

open Foundation
open Std (ExtTreeMap)

namespace Impl

/-! ## Seats -/

/-- Where each flow is placed. -/
def seats (assignments : ExtTreeMap FlowId Assignment) :
    ExtTreeMap FlowId TargetId :=
  assignments.map fun _ a => a.target

/-- What a flow weighs on a target when it is seated there. -/
def seatWeight (flows : ExtTreeMap FlowId FlowDescriptor) (id : TargetId)
    (d : Dimension) (flow : FlowId) (target : TargetId) : Nat :=
  if target = id then
    ((lookup flows flow).map fun descriptor => descriptor.demand.part d).getD 0
  else 0

/-- The demand of everything that is seated on a target. -/
def seated (flows : ExtTreeMap FlowId FlowDescriptor)
    (taken : ExtTreeMap FlowId TargetId) (id : TargetId) (d : Dimension) :
    Nat :=
  sumOver (seatWeight flows id d) taken

theorem total_demandsOn_eq_seated (flows : ExtTreeMap FlowId FlowDescriptor)
    (assignments : ExtTreeMap FlowId Assignment) (id : TargetId)
    (d : Dimension) :
    CapacityVector.total (demandsOn flows assignments id) d =
      seated flows (seats assignments) id d := by
  rw [total_demandsOn, seated, seats, sumOver_map]
  rfl

/-- What the seat of one flow weighs on a target. -/
def seatOf (flows : ExtTreeMap FlowId FlowDescriptor)
    (taken : ExtTreeMap FlowId TargetId) (flow : FlowId) (id : TargetId)
    (d : Dimension) : Nat :=
  weightAt (seatWeight flows id d) taken flow

variable {flows : ExtTreeMap FlowId FlowDescriptor}
  {taken : ExtTreeMap FlowId TargetId} {flow : FlowDescriptor} {k : FlowId}
  {id : TargetId} {d : Dimension}

/-- The seat that a flow takes is added to the target, and the one it had is
gone. -/
theorem seated_insert (taken : ExtTreeMap FlowId TargetId)
    (hflow : lookup flows k = some flow) (target id : TargetId)
    (d : Dimension) :
    seated flows (taken.insert k target) id d + seatOf flows taken k id d =
      seated flows taken id d +
        if target = id then flow.demand.part d else 0 := by
  have hsum := sumOver_insert (seatWeight flows id d) taken k target
  rw [show seatWeight flows id d k target =
    if target = id then flow.demand.part d else 0 by
      simp [seatWeight, hflow]] at hsum
  exact hsum

theorem seated_erase (flows : ExtTreeMap FlowId FlowDescriptor)
    (taken : ExtTreeMap FlowId TargetId) (k : FlowId) (id : TargetId)
    (d : Dimension) :
    seated flows (taken.erase k) id d + seatOf flows taken k id d =
      seated flows taken id d :=
  sumOver_erase (seatWeight flows id d) taken k

theorem seatOf_eq (hflow : lookup flows k = some flow) :
    seatOf flows taken k id d =
      if lookup taken k = some id then flow.demand.part d else 0 := by
  unfold seatOf weightAt
  cases hseat : lookup taken k with
  | none => simp
  | some target => simp [seatWeight, hflow]

theorem seatOf_congr {taken' : ExtTreeMap FlowId TargetId}
    (h : lookup taken' k = lookup taken k) :
    seatOf flows taken' k id d = seatOf flows taken k id d := by
  rw [seatOf, seatOf, weightAt, weightAt, h]

/-! ## Planned amounts -/

/-- What a plan has added to a target, or released from it. -/
def planned (amounts : ExtTreeMap TargetId CapacityVector) (id : TargetId)
    (d : Dimension) : Nat :=
  ((lookup amounts id).map fun amount => amount.part d).getD 0

theorem planned_addPlanned_self
    {amounts : ExtTreeMap TargetId CapacityVector} {target : TargetId}
    {demand : CapacityVector}
    (hfits : ∀ d, planned amounts target d + demand.part d < 2 ^ 64)
    (d : Dimension) :
    planned (addPlanned amounts target demand) target d =
      planned amounts target d + demand.part d := by
  unfold addPlanned
  split
  next sum hsum =>
    have hfound : lookup amounts target = some sum := hsum
    have hparts : ∀ d, sum.part d + demand.part d < 2 ^ 64 := by
      intro d
      have := hfits d
      rw [planned, hfound] at this
      exact this
    simp [planned, hfound, CapacityVector.part_addOrSaturate_of_fits hparts]
  next hnone =>
    have hfound : lookup amounts target = none := hnone
    simp [planned, hfound]

theorem lookup_addPlanned_of_ne
    {amounts : ExtTreeMap TargetId CapacityVector} {target : TargetId}
    (h : id ≠ target) (demand : CapacityVector) :
    lookup (addPlanned amounts target demand) id = lookup amounts id := by
  unfold addPlanned
  split <;> simp [h]

theorem planned_addPlanned_of_ne
    {amounts : ExtTreeMap TargetId CapacityVector} {target : TargetId}
    (h : id ≠ target) (demand : CapacityVector) (d : Dimension) :
    planned (addPlanned amounts target demand) id d =
      planned amounts id d := by
  rw [planned, lookup_addPlanned_of_ne h, planned]

theorem lookup_addPlanned_ne_none
    {amounts : ExtTreeMap TargetId CapacityVector} {target : TargetId}
    (demand : CapacityVector) (h : lookup amounts id ≠ none ∨ id = target) :
    lookup (addPlanned amounts target demand) id ≠ none := by
  by_cases hid : id = target
  · subst hid
    unfold addPlanned
    split <;> simp
  · rw [lookup_addPlanned_of_ne hid]
    exact h.resolve_right hid

/-- The sum of what is cached for a target and what is added to it does not
overflow. -/
def addsUp (plan : BatchPlan) (id : TargetId) (state : TargetState) : Bool :=
  (plan.plannedAdd[id]?).all fun add =>
    (CapacityVector.checkedAdd state.scheduled add).isSome

/-- What a target is evaluated with, when the sum does not overflow. -/
theorem scheduled_plannedTarget {plan : BatchPlan} {state : TargetState}
    (h : addsUp plan id state = true) (d : Dimension) :
    (plannedTarget plan id state).scheduled.part d =
      state.scheduled.part d + planned plan.plannedAdd id d -
        planned plan.plannedRelease id d := by
  have hsum : ∀ add, plan.plannedAdd[id]? = some add →
      (CapacityVector.addOrSaturate state.scheduled add).part d =
        state.scheduled.part d + add.part d := by
    intro add hadd
    rw [addsUp, hadd, Option.all_some] at h
    obtain ⟨sum, hsum⟩ := Option.isSome_iff_exists.mp h
    rw [CapacityVector.addOrSaturate, hsum]
    exact CapacityVector.checkedAdd_eq_some_iff.mp hsum d
  have hadds : planned plan.plannedAdd id d =
      ((plan.plannedAdd[id]?).map fun amount => amount.part d).getD 0 := rfl
  have hreleases : planned plan.plannedRelease id d =
      ((plan.plannedRelease[id]?).map fun amount => amount.part d).getD 0 :=
    rfl
  rw [hadds, hreleases]
  unfold plannedTarget
  dsimp only
  cases hadd : plan.plannedAdd[id]? with
  | none =>
      cases plan.plannedRelease[id]? <;>
        simp [CapacityVector.part_saturatingSub]
  | some add =>
      cases plan.plannedRelease[id]? <;>
        simp [CapacityVector.part_saturatingSub, hsum add hadd]

/-! ## The tally of a batch -/

/-- A flow that is placed anew takes its seat. -/
def takeSeat (taken : ExtTreeMap FlowId TargetId) (pending : PendingCommit) :
    ExtTreeMap FlowId TargetId :=
  if pending.retained then taken
  else taken.insert pending.flow pending.target

def leaveSeat (taken : ExtTreeMap FlowId TargetId) (pending : PendingCommit) :
    ExtTreeMap FlowId TargetId :=
  if pending.retained then taken else taken.erase pending.flow

/-- The seats once the batch is committed. -/
def seatsAfter (s : Impl) (commits : List PendingCommit) :
    ExtTreeMap FlowId TargetId :=
  commits.foldl takeSeat (seats s.assignments)

/-- The seats that the batch has left as they were. -/
def seatsKept (s : Impl) (commits : List PendingCommit) :
    ExtTreeMap FlowId TargetId :=
  commits.foldl leaveSeat (seats s.assignments)

theorem lookup_seatsAfter (s : Impl) {commits : List PendingCommit}
    (h : ∀ pending ∈ commits, pending.flow ≠ k) :
    lookup (s.seatsAfter commits) k = lookup (seats s.assignments) k := by
  unfold seatsAfter
  induction commits using List.reverseRecOn with
  | nil => rfl
  | append_singleton commits pending ih =>
      have hne : k ≠ pending.flow := fun heq => h pending (by simp) heq.symm
      rw [List.foldl_concat, ← ih fun p hp => h p (by simp [hp]), takeSeat]
      split
      · rfl
      · rw [lookup_insert, Function.update_of_ne hne]

theorem lookup_seatsKept (s : Impl) {commits : List PendingCommit}
    (h : ∀ pending ∈ commits, pending.flow ≠ k) :
    lookup (s.seatsKept commits) k = lookup (seats s.assignments) k := by
  unfold seatsKept
  induction commits using List.reverseRecOn with
  | nil => rfl
  | append_singleton commits pending ih =>
      have hne : k ≠ pending.flow := fun heq => h pending (by simp) heq.symm
      rw [List.foldl_concat, ← ih fun p hp => h p (by simp [hp]), leaveSeat]
      split
      · rfl
      · rw [lookup_erase, Function.update_of_ne hne]

/-- What is cached for each target is what is committed to it, exactly. -/
def ScheduledExact (s : Impl) : Prop :=
  ∀ id state, lookup s.targets id = some state → ∀ d,
    state.scheduled.part d =
      CapacityVector.total (demandsOn s.flows s.assignments id) d

/-- What is cached for each target is no less than what is committed to it. -/
def ScheduledCovers (s : Impl) : Prop :=
  ∀ id state, lookup s.targets id = some state → ∀ d,
    CapacityVector.total (demandsOn s.flows s.assignments id) d ≤
      state.scheduled.part d

theorem ScheduledExact.covers {s : Impl} (h : s.ScheduledExact) :
    s.ScheduledCovers :=
  fun id state hstate d => Nat.le_of_eq (h id state hstate d).symm

/-- What is committed to each known target fits in a number. -/
def DemandBounded (s : Impl) : Prop :=
  ∀ id state, lookup s.targets id = some state → ∀ d,
    CapacityVector.total (demandsOn s.flows s.assignments id) d < 2 ^ 64

theorem ScheduledCovers.bounded {s : Impl} (h : s.ScheduledCovers) :
    s.DemandBounded :=
  fun id state hstate d => Nat.lt_of_le_of_lt (h id state hstate d)
    (CapacityVector.part_lt state.scheduled d)

/-- The sums of a plan account for every target that is known. -/
structure Tallied (s : Impl) (plan : BatchPlan) : Prop where
  arrived : ∀ id state, lookup s.targets id = some state → ∀ d,
    seated s.flows (s.seatsAfter plan.commits) id d =
      planned plan.plannedAdd id d +
        seated s.flows (s.seatsKept plan.commits) id d
  released : ∀ id state, lookup s.targets id = some state → ∀ d,
    seated s.flows (seats s.assignments) id d =
      planned plan.plannedRelease id d +
        seated s.flows (s.seatsKept plan.commits) id d
  within : ∀ id state, lookup s.targets id = some state →
    lookup plan.plannedAdd id ≠ none → ∀ d,
      seated s.flows (s.seatsAfter plan.commits) id d ≤
        state.descriptor.capacity.part d
  placed : ∀ placement ∈ plan.placements, placement.accepted = true →
    placement.retained = false →
      lookup plan.plannedAdd placement.target ≠ none

variable {s : Impl} {plan : BatchPlan} {state : TargetState}

/-- Every dimension of a vector. -/
def dimensions : List Dimension :=
  [.packetsPerSecond, .bytesPerSecond, .stateBytes, .tableEntries]

theorem mem_dimensions (d : Dimension) : d ∈ dimensions := by
  cases d <;> simp [dimensions]

theorem scheduledExact_iff : s.ScheduledExact ↔
    ∀ entry ∈ s.targets.toList, ∀ d ∈ dimensions,
      entry.2.scheduled.part d =
        CapacityVector.total (demandsOn s.flows s.assignments entry.1) d := by
  constructor
  · intro h entry hentry d _
    exact h entry.1 entry.2 (lookup_eq_some_iff_mem_toList.mpr hentry) d
  · intro h id state hstate d
    exact h (id, state) (lookup_eq_some_iff_mem_toList.mp hstate) d
      (mem_dimensions d)

instance (s : Impl) : Decidable s.ScheduledExact :=
  decidable_of_iff _ scheduledExact_iff.symm

theorem ScheduledExact.seated (h : s.ScheduledExact)
    (hstate : lookup s.targets id = some state) (d : Dimension) :
    state.scheduled.part d = Impl.seated s.flows (seats s.assignments) id d := by
  rw [h id state hstate d, total_demandsOn_eq_seated]

theorem tallied_initialPlan (s : Impl) : s.Tallied s.initialPlan where
  arrived := by
    intro id state _ d
    simp [initialPlan, planned, seatsAfter, seatsKept]
  released := by
    intro id state _ d
    simp [initialPlan, planned, seatsKept]
  within := by
    intro id state _ hadded
    simp [initialPlan] at hadded
  placed := by
    intro placement hmem
    simp [initialPlan] at hmem

/-- What the target of an item is evaluated with is no less than what the batch
so far leaves on it, if what is cached for it covers what is committed. -/
theorem Tallied.scheduled (h : s.Tallied plan)
    (hstate : lookup s.targets id = some state)
    (hcovers : ∀ d, CapacityVector.total
      (demandsOn s.flows s.assignments id) d ≤ state.scheduled.part d)
    (hadds : addsUp plan id state = true) (d : Dimension) :
    seated s.flows (s.seatsAfter plan.commits) id d ≤
      (plannedTarget plan id state).scheduled.part d := by
  have harrived := h.arrived id state hstate d
  have hreleased := h.released id state hstate d
  have hcached := hcovers d
  rw [total_demandsOn_eq_seated] at hcached
  rw [scheduled_plannedTarget hadds]
  omega

theorem Tallied.refuse (h : s.Tallied plan) {placement : FlowPlacement}
    (hrefused : placement.accepted = false) (reason : ReasonCode) :
    s.Tallied (plan.refuse placement reason) := by
  refine ⟨h.arrived, h.released, h.within, ?_⟩
  intro other hother haccepted
  rcases List.mem_append.mp hother with hmem | hmem
  · exact h.placed other hmem haccepted
  · rw [List.mem_singleton] at hmem
    subst hmem
    exact absurd (hrefused.symm.trans haccepted) (by decide)

section Accept

variable {current : Option Assignment} {chosen : CandidateView}
  {fallback : Bool} {placement : FlowPlacement}

/-- A flow that keeps its target changes no sum. -/
theorem Tallied.retain (h : s.Tallied plan)
    (hretained : stickyOn s.policy current chosen = true) :
    s.Tallied (plan.accept s.policy flow current chosen fallback
      placement) := by
  obtain ⟨pending, hcommits, -, -, -, -, -, hpending⟩ :=
    commits_accept plan s.policy flow current chosen fallback placement
  rw [hretained] at hpending
  have hadd : (plan.accept s.policy flow current chosen fallback
      placement).plannedAdd = plan.plannedAdd := by
    simp [BatchPlan.accept, hretained]
  have hrelease : (plan.accept s.policy flow current chosen fallback
      placement).plannedRelease = plan.plannedRelease := by
    simp [BatchPlan.accept, hretained]
  have hafter : s.seatsAfter (plan.commits ++ [pending]) =
      s.seatsAfter plan.commits := by
    rw [seatsAfter, List.foldl_concat, takeSeat, if_pos hpending]
    rfl
  have hkept : s.seatsKept (plan.commits ++ [pending]) =
      s.seatsKept plan.commits := by
    rw [seatsKept, List.foldl_concat, leaveSeat, if_pos hpending]
    rfl
  refine ⟨?_, ?_, ?_, ?_⟩
  · rw [hcommits, hadd, hafter, hkept]
    exact h.arrived
  · rw [hcommits, hrelease, hkept]
    exact h.released
  · rw [hcommits, hadd, hafter]
    exact h.within
  · rw [hadd]
    intro other hother haccepted hanew
    rcases List.mem_append.mp hother with hmem | hmem
    · exact h.placed other hmem haccepted hanew
    · rw [List.mem_singleton] at hmem
      subst hmem
      exact absurd (hretained.symm.trans hanew) (by decide)

/-- A seat that a batch has not touched yet. -/
theorem seatOf_untouched (hflow : lookup s.flows flow.flow = some flow)
    (hcurrent : current = lookup s.assignments flow.flow)
    {later : ExtTreeMap FlowId TargetId}
    (hlater : lookup later flow.flow =
      lookup (seats s.assignments) flow.flow) (id : TargetId)
    (d : Dimension) :
    seatOf s.flows later flow.flow id d =
      if current.map Assignment.target = some id then flow.demand.part d
      else 0 := by
  rw [seatOf_eq hflow, hlater, hcurrent, seats, lookup_map]

/-- The demand released from the target that a flow leaves. -/
theorem planned_released {amounts : ExtTreeMap TargetId CapacityVector}
    (hfits : current.map Assignment.target = some id →
      ∀ d, planned amounts id d + flow.demand.part d < 2 ^ 64)
    (d : Dimension) :
    planned (current.elim amounts fun a =>
      addPlanned amounts a.target flow.demand) id d =
      planned amounts id d +
        if current.map Assignment.target = some id then flow.demand.part d
        else 0 := by
  cases current with
  | none => simp
  | some a =>
      by_cases hid : a.target = id
      · subst hid
        rw [Option.map_some, if_pos rfl]
        exact planned_addPlanned_self (hfits rfl) d
      · have hne : id ≠ a.target := fun heq => hid heq.symm
        have hsome : ¬ Option.map Assignment.target (some a) = some id := by
          simpa using hid
        rw [if_neg hsome]
        exact planned_addPlanned_of_ne hne flow.demand d

/-- A flow that is placed anew moves its demand in every sum at once. -/
theorem Tallied.seat (h : s.Tallied plan) (hbounded : s.DemandBounded)
    (hretained : stickyOn s.policy current chosen = false)
    (hflow : lookup s.flows flow.flow = some flow)
    (hcurrent : current = lookup s.assignments flow.flow)
    (huntouched : ∀ pending ∈ plan.commits, pending.flow ≠ flow.flow)
    (hroom : ∀ state, lookup s.targets chosen.target = some state → ∀ d,
      seated s.flows (s.seatsAfter plan.commits) chosen.target d +
        flow.demand.part d ≤ state.descriptor.capacity.part d) :
    s.Tallied (plan.accept s.policy flow current chosen fallback
      placement) := by
  obtain ⟨pending, hcommits, hpflow, -, hptarget, -, -, hpending⟩ :=
    commits_accept plan s.policy flow current chosen fallback placement
  have hanew : ¬ pending.retained = true := by simp [hpending, hretained]
  have hadd : (plan.accept s.policy flow current chosen fallback
      placement).plannedAdd =
        addPlanned plan.plannedAdd chosen.target flow.demand := by
    simp [BatchPlan.accept, hretained]
  have hrelease : (plan.accept s.policy flow current chosen fallback
      placement).plannedRelease =
        current.elim plan.plannedRelease fun a =>
          addPlanned plan.plannedRelease a.target flow.demand := by
    cases current <;> simp [BatchPlan.accept, hretained]
  have hafter : s.seatsAfter (plan.commits ++ [pending]) =
      (s.seatsAfter plan.commits).insert flow.flow chosen.target := by
    rw [seatsAfter, List.foldl_concat, takeSeat, if_neg hanew, hpflow,
      hptarget]
    rfl
  have hkept : s.seatsKept (plan.commits ++ [pending]) =
      (s.seatsKept plan.commits).erase flow.flow := by
    rw [seatsKept, List.foldl_concat, leaveSeat, if_neg hanew, hpflow]
    rfl
  have hleaves := fun (id : TargetId) (d : Dimension) =>
    seatOf_untouched hflow hcurrent (lookup_seatsAfter s huntouched) id d
  have hleaves' := fun (id : TargetId) (d : Dimension) =>
    seatOf_untouched hflow hcurrent (lookup_seatsKept s huntouched) id d
  -- what a flow weighs where it is now was counted as kept so far
  have hseats := fun (id : TargetId) (d : Dimension) =>
    seated_insert (s.seatsAfter plan.commits) hflow chosen.target id d
  have hgone := fun (id : TargetId) (d : Dimension) =>
    seated_erase s.flows (s.seatsKept plan.commits) flow.flow id d
  have hcapacity := fun (state : TargetState) (d : Dimension) =>
    CapacityVector.part_lt state.descriptor.capacity d
  have hplanned : ∀ id state, lookup s.targets id = some state → ∀ d,
      planned (addPlanned plan.plannedAdd chosen.target flow.demand) id d =
        planned plan.plannedAdd id d +
          if chosen.target = id then flow.demand.part d else 0 := by
    intro id state hstate d
    by_cases hid : chosen.target = id
    · subst hid
      rw [if_pos rfl]
      refine planned_addPlanned_self (fun d => ?_) d
      have harrived := h.arrived chosen.target state hstate d
      have hfull := hroom state hstate d
      have := hcapacity state d
      omega
    · have hne : id ≠ chosen.target := fun heq => hid heq.symm
      rw [if_neg hid, planned_addPlanned_of_ne hne]
      rfl
  refine ⟨?_, ?_, ?_, ?_⟩
  · intro id state hstate d
    have harrived := h.arrived id state hstate d
    have hseat := hseats id d
    have hleft := hgone id d
    rw [hleaves] at hseat
    rw [hleaves'] at hleft
    rw [hcommits, hadd, hafter, hkept, hplanned id state hstate]
    omega
  · intro id state hstate d
    have hfits : current.map Assignment.target = some id → ∀ d,
        planned plan.plannedRelease id d + flow.demand.part d < 2 ^ 64 := by
      intro hid d
      have hreleased := h.released id state hstate d
      have hleft := hgone id d
      rw [hleaves', if_pos hid] at hleft
      have hlimit := hbounded id state hstate d
      rw [total_demandsOn_eq_seated] at hlimit
      omega
    have hreleased := h.released id state hstate d
    have hleft := hgone id d
    rw [hleaves'] at hleft
    rw [hcommits, hrelease, hkept, planned_released hfits]
    omega
  · intro id state hstate hadded d
    have hseat := hseats id d
    rw [hcommits, hafter]
    by_cases hid : chosen.target = id
    · subst hid
      have hfull := hroom state hstate d
      rw [if_pos rfl] at hseat
      omega
    · have hne : id ≠ chosen.target := fun heq => hid heq.symm
      rw [hadd, lookup_addPlanned_of_ne hne] at hadded
      have hwithin := h.within id state hstate hadded d
      rw [if_neg hid] at hseat
      omega
  · rw [hadd]
    intro other hother haccepted hother'
    refine lookup_addPlanned_ne_none flow.demand ?_
    rcases List.mem_append.mp hother with hmem | hmem
    · exact Or.inl (h.placed other hmem haccepted hother')
    · rw [List.mem_singleton] at hmem
      subst hmem
      exact Or.inr rfl

end Accept

end Impl

end FlowOffload

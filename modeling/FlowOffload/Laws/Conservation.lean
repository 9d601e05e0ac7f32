import FlowOffload.Engine.Generations
import FlowOffload.Laws.Batches
import FlowOffload.Laws.Declared

/-!
# Capacity across requests

Once flows are placed, only a batch adds demand to a target.  A batch checks
capacity against what is cached for the target, and the cache is refreshed
before a batch is committed, not after; so capacity is conserved over a run as
long as no flow is placed on a target whose cache is behind its commitments.
-/

namespace FlowOffload

open Foundation
open Std (ExtTreeMap)

namespace Impl

variable {s t : Impl} {request : PlacementRequest} {plan : BatchPlan}

/-! ## Where the cache is read -/

/-- What is cached for the target is no less than what is committed to it. -/
def cacheCovers (s : Impl) (id : TargetId) (state : TargetState) : Bool :=
  dimensions.all fun d =>
    CapacityVector.total (demandsOn s.flows s.assignments id) d ≤
      state.scheduled.part d

/-- The item is refused, keeps its target, or goes to a target whose cache is
not behind, and whose sum does not overflow. -/
def itemSeesDemand (s : Impl) (request : PlacementRequest) (plan : BatchPlan)
    (item : PlacementItem) : Bool :=
  match s.decideItem request plan item with
  | .refused _ _ => true
  | .accepted _ current chosen _ _ =>
      stickyOn s.policy current chosen ||
        (s.targets[chosen.target]?).all fun state =>
          s.cacheCovers chosen.target state && addsUp plan chosen.target state

/-- No item of the batch is placed against less than what is committed. -/
def demandSeen (s : Impl) (request : PlacementRequest) :
    BatchPlan → List PlacementItem → Bool
  | _, [] => true
  | plan, item :: items =>
      s.itemSeesDemand request plan item &&
        s.demandSeen request (s.planItem request plan item) items

theorem seatFits_of_seesDemand (hkeyed : s.ledger.Keyed)
    (hpolicy : s.policy.countsScheduled = true) (htallied : s.Tallied plan)
    {item : PlacementItem}
    (h : s.itemSeesDemand request plan item = true) :
    s.SeatFits request plan item := by
  intro flow current chosen fallback placement hdecide hmoves state hstate d
  have hget : s.targets[chosen.target]? = some state := hstate
  unfold itemSeesDemand at h
  rw [hdecide] at h
  dsimp only at h
  rw [hmoves, Bool.false_or, hget, Option.all_some, Bool.and_eq_true] at h
  obtain ⟨hcovers, hadds⟩ := h
  rw [cacheCovers, List.all_eq_true] at hcovers
  have hscheduled := htallied.scheduled hstate
    (fun d => of_decide_eq_true (hcovers d (mem_dimensions d))) hadds d
  have hroom := roomFor_of_countsScheduled (targets_of_keyed hkeyed) hpolicy
    plan item _ _ _ _ _ hdecide hmoves state hstate d
  exact Nat.le_trans (Nat.add_le_add_right hscheduled _) hroom

/-! ## One step -/

/-- Every target is within its capacity. -/
def Conserves (s : Impl) : Prop := ∀ id, s.WithinCapacity id

theorem Conserves.bounded (h : s.Conserves) : s.DemandBounded :=
  fun id state hstate d => Nat.lt_of_le_of_lt (h id state hstate d)
    (CapacityVector.part_lt state.descriptor.capacity d)

/-- Every placed flow was placed there before, with the demand it has. -/
def Lightens (s t : Impl) : Prop :=
  ∀ k a, lookup t.assignments k = some a →
    (∃ old, lookup s.assignments k = some old ∧ old.target = a.target) ∧
      lookup t.flows k = lookup s.flows k

theorem Conserves.lightens (h : s.Conserves)
    (htargets : t.ledger.target = s.ledger.target)
    (hlightens : s.Lightens t) : t.Conserves := by
  intro id state hstate d
  have hdescriptor : s.ledger.target id = some state.descriptor := by
    rw [← htargets]
    exact ledger_target_of_lookup hstate
  obtain ⟨before, hbefore, hsame⟩ := Option.map_eq_some_iff.mp hdescriptor
  have hwithin := h id before hbefore d
  rw [hsame] at hwithin
  refine Nat.le_trans ?_ hwithin
  rw [total_demandsOn, total_demandsOn]
  refine sumOver_le fun k => ?_
  cases ha : lookup t.assignments k with
  | none => simp [weightAt, ha]
  | some a =>
      obtain ⟨⟨old, hold, htarget⟩, hflow⟩ := hlightens k a ha
      simp [weightAt, ha, hold, demandWeight, htarget, hflow]

/-- Registering a flow places nothing. -/
theorem Conserves.registerFlow (h : s.Conserves)
    (hformed : s.ledger.WellFormed) (flow : FlowDescriptor)
    (answer : Status) : (s.step (.registerFlow flow answer)).Conserves := by
  have hsteps : s.Steps (.registerFlow flow answer)
      (s.step (.registerFlow flow answer)).ledger :=
    steps_registerFlow flow answer
  have hkeeps : ∀ {event : Ledger.Event}, event.declares = none →
      (event.apply s.ledger).target = s.ledger.target := by
    intro event hnone
    funext id
    rw [Ledger.target_apply, hnone]
  rcases hsteps with hsame | ⟨event, hproduces, henabled, hchange⟩
  · refine h.lightens (congrArg Ledger.target hsame) fun k a ha => ?_
    have hassignment := congrFun (congrArg Ledger.assignment hsame) k
    have hflow := congrFun (congrArg Ledger.flow hsame) k
    exact ⟨⟨a, hassignment.symm.trans ha, rfl⟩, hflow⟩
  · cases hproduces with
    | register =>
        refine h.lightens ?_ fun k a ha => ?_
        · rw [hchange, hkeeps rfl]
        have hplaced : s.ledger.assignment k = some a := by
          have hassignment := congrFun (congrArg Ledger.assignment hchange) k
          exact hassignment.symm.trans ha
        refine ⟨⟨a, hplaced, rfl⟩, ?_⟩
        -- a flow that is registered anew is not placed
        obtain ⟨⟨descriptor, hregistered, -⟩, -⟩ := hformed.placed k a hplaced
        have hne : k ≠ flow.flow := by
          rintro rfl
          rw [henabled.1] at hregistered
          cases hregistered
        have hflow := congrFun (congrArg Ledger.flow hchange) k
        refine hflow.trans ?_
        exact Function.update_of_ne hne _ _
    | @supersede old _ _ =>
        refine h.lightens ?_ fun k a ha => ?_
        · rw [hchange, hkeeps rfl]
        have hassignment := congrFun (congrArg Ledger.assignment hchange) k
        obtain ⟨hplaced, hne⟩ := Ledger.assignment_release old
          .rejectedStaleFlowGeneration (hassignment.symm.trans ha)
        have hflow := congrFun (congrArg Ledger.flow hchange) k
        refine ⟨⟨a, hplaced, rfl⟩, hflow.trans ?_⟩
        exact Function.update_of_ne hne _ _

/-- A batch that sees the demand of every target that it places flows on. -/
theorem Conserves.place (h : s.Conserves) (hkeyed : s.ledger.Keyed)
    (hpolicy : s.policy.countsScheduled = true) (answer : Status)
    (hseen : s.executes request = true →
      s.demandSeen request s.initialPlan (itemsOf request) = true) :
    (s.step (.place request answer)).Conserves := by
  change (s.placeLocked request answer).1.Conserves
  rcases placeLocked_cases s request answer with
    ⟨counters, refusals, heq⟩ | ⟨hexecutes, hcommitted⟩
  · rw [heq]
    exact h
  · have htallied : s.Tallied (s.planOf request) := by
      refine @tallied_planOf s request hkeyed h.bounded
        (fun plan items => s.demandSeen request plan items = true) ?_
        (hseen hexecutes)
      intro plan item items htallied hitems
      rw [demandSeen, Bool.and_eq_true] at hitems
      exact ⟨seatFits_of_seesDemand hkeyed hpolicy htallied hitems.1,
        hitems.2⟩
    intro id
    by_cases hadded : lookup (s.planOf request).plannedAdd id = none
    · -- nothing was placed here, so the demand is what has stayed
      intro state hstate d
      obtain ⟨hflows, hseats⟩ := hcommitted.seats
      have hentry := hcommitted.sameTargets id
      rw [hstate, Option.map_some, eq_comm, Option.map_eq_some_iff] at hentry
      obtain ⟨before, hbefore, hsame⟩ := hentry
      have hdescriptor : before.descriptor = state.descriptor :=
        (TargetState.mk.inj hsame).1
      have hwithin := h id before hbefore d
      rw [total_demandsOn_eq_seated] at hwithin
      rw [total_demandsOn_eq_seated, hflows, hseats, ← hdescriptor]
      have harrived := htallied.arrived id before hbefore d
      have hreleased := htallied.released id before hbefore d
      have hnone : planned (s.planOf request).plannedAdd id d = 0 := by
        simp [planned, hadded]
      omega
    · exact hcommitted.withinCapacity htallied hadded

/-! ## Before the first placement -/

/-- Every operation but a placement. -/
def Op.prepares : Op → Bool
  | .place _ _ => false
  | _ => true

/-- Nothing but a placement places a flow. -/
theorem unplaced_law : Law (fun _ op => Op.prepares op = true)
    fun l => ∀ k, l.assignment k = none where
  empty := fun _ => rfl
  event := by
    intro s op event _ hnone hprepares hproduces _ k
    cases ha : (event.apply s.ledger).assignment k with
    | none => rfl
    | some a =>
        rcases Ledger.assignment_apply ha with
          ⟨old, -, hold, -⟩ | ⟨batch, rfl, -⟩ | ⟨-, -, -, old, -, -, hold, -⟩
        · rw [hnone] at hold
          cases hold
        · cases hproduces
          cases hprepares
        · rw [hnone] at hold
          cases hold
  restart := by
    intro l l' _ hnone hrestart k
    rw [hrestart.assignment, hnone]
    rfl

theorem conserves_of_unplaced (h : ∀ k, lookup s.assignments k = none) :
    s.Conserves := by
  intro id state _ d
  have hcovers : ∀ k a, lookup s.assignments k = some a →
      k ∈ (∅ : Finset FlowId) := by
    intro k a ha
    rw [h] at ha
    cases ha
  rw [total_demandsOn, sumOver_eq_sum _ _ hcovers, Finset.sum_empty]
  exact Nat.zero_le _

/-! ## In every run -/

/-- Flows are registered and placed, and no batch places a flow against less
than what is committed. -/
def keepsUp (s : Impl) : Op → Bool
  | .registerFlow _ _ => true
  | .place request _ => !s.executes request ||
      s.demandSeen request s.initialPlan (itemsOf request)
  | _ => false

theorem conserves_step {op : Op} (hformed : s.ledger.WellFormed)
    (hpolicy : s.policy.countsScheduled = true) (h : s.Conserves)
    (hop : s.keepsUp op = true) :
    (s.step op).policy.countsScheduled = true ∧ (s.step op).Conserves := by
  cases op with
  | registerFlow flow answer =>
      have hstep : HeaderStep (.registerFlow flow answer) s.header
          (s.step (.registerFlow flow answer)).header := headerStep_step rfl
      have hsame := hstep.policy_eq fun _ _ => nofun
      refine ⟨?_, h.registerFlow hformed flow answer⟩
      exact (congrArg Policy.countsScheduled hsame).trans hpolicy
  | place request answer =>
      have hstep : HeaderStep (.place request answer) s.header
          (s.step (.place request answer)).header := headerStep_step rfl
      have hsame := hstep.policy_eq fun _ _ => nofun
      refine ⟨(congrArg Policy.countsScheduled hsame).trans hpolicy, ?_⟩
      refine h.place hformed.toKeyed hpolicy answer fun hexecutes => ?_
      rw [keepsUp, hexecutes, Bool.not_true, Bool.false_or] at hop
      exact hop
  | _ => cases hop

/--
Targets and evidence come first, and then flows are registered and placed, any
number of times.  Under a policy that counts what is scheduled every target
stays within its capacity, as long as no flow is placed on a target whose cached
demand is behind what is committed to it.
-/
theorem requests_conserve_capacity (config : EngineConfig)
    (setup work : List Op)
    (hsetup : engine.Admits (fun _ op => Op.prepares op = true)
      (init config []) setup)
    (hpolicy : (engine.run (init config []) setup).policy.countsScheduled =
      true)
    (hwork : engine.Admits (fun s op => s.keepsUp op = true)
      (engine.run (init config []) setup) work) :
    (engine.run (init config []) (setup ++ work)).Conserves := by
  rw [engine.run_append]
  have hformed := unplaced_law.preserved.run hsetup
  refine (hwork.invariant (P := fun s => Sound Ledger.WellFormed s ∧
    s.policy.countsScheduled = true ∧ s.Conserves) ?_ ⟨?_, hpolicy, ?_⟩).2.2
  · rintro s op ⟨hsound, hcounts, hconserves⟩ hallowed hop
    have hstep := (law_true fun _ _ => True).preserved.step
      ⟨⟨hsound.now, trivial⟩, fun state hstate =>
        ⟨hsound.later state hstate, trivial⟩⟩ hallowed trivial
    exact ⟨⟨hstep.now.1, fun state hstate => (hstep.later state hstate).1⟩,
      conserves_step hsound.now hcounts hconserves hop⟩
  · exact ⟨hformed.now.1, fun state hstate => (hformed.later state hstate).1⟩
  · exact conserves_of_unplaced hformed.now.2

/-! ## Runs -/

/-- Two hosts, the second of which alone can do what the second flow needs. -/
def threeToPlace (demand : UInt64) : List Op :=
  [.openEngine {} committed, .setPolicy (samplePolicy true) committed,
    .declareTarget (sampleHost 1) committed,
    .declareTarget
      { sampleHost 2 with costClass := .premium, capabilities := 1 } committed,
    .registerFlow (plainFlow 1 60) committed,
    .registerFlow { plainFlow 2 60 with requiredCapabilities := 1 } committed,
    .registerFlow (plainFlow 3 demand) committed]

/-- The second request refreshes what is cached for the first host. -/
theorem refreshed_host_is_filled :
    (((engine.run (init sampleConfig []) (threeToPlace 40 ++
        [.place (sampleRequest 1 1 [1]) committed,
          .place (sampleRequest 2 1 [2]) committed,
          .place (sampleRequest 3 1 [3]) committed])).assignments.toList.map
            fun entry => (entry.1, entry.2.target)) =
      [(⟨1⟩, ⟨1⟩), (⟨2⟩, ⟨2⟩), (⟨3⟩, ⟨1⟩)]) ∧
      (engine.run (init sampleConfig []) (threeToPlace 40 ++
        [.place (sampleRequest 1 1 [1]) committed,
          .place (sampleRequest 2 1 [2]) committed,
          .place (sampleRequest 3 1 [3]) committed])).Conserves := by
  refine ⟨by decide +kernel, ?_⟩
  exact requests_conserve_capacity sampleConfig (threeToPlace 40)
    [.place (sampleRequest 1 1 [1]) committed,
      .place (sampleRequest 2 1 [2]) committed,
      .place (sampleRequest 3 1 [3]) committed]
    (by decide +kernel) (by decide +kernel) (by decide +kernel)

/-- The third flow is placed against what was cached before the first one was
committed. -/
theorem stale_cache_overcommits :
    engine.Admits (fun _ op => Op.prepares op = true) (init sampleConfig [])
        (threeToPlace 60) ∧
      (engine.run (init sampleConfig [])
        (threeToPlace 60)).policy.countsScheduled = true ∧
      ¬ (engine.run (init sampleConfig []) (threeToPlace 60 ++
        [.place (sampleRequest 1 1 [1]) committed,
          .place (sampleRequest 3 1 [3]) committed])).Conserves := by
  refine ⟨by decide +kernel, by decide +kernel, ?_⟩
  generalize hafter : engine.run (init sampleConfig []) (threeToPlace 60 ++
    [.place (sampleRequest 1 1 [1]) committed,
      .place (sampleRequest 3 1 [3]) committed]) = after
  intro h
  have hover : ((lookup after.targets ⟨1⟩).any fun state =>
      state.descriptor.capacity.part .packetsPerSecond <
        CapacityVector.total (demandsOn after.flows after.assignments ⟨1⟩)
          .packetsPerSecond) = true := by
    rw [← hafter]
    decide +kernel
  obtain ⟨state, hstate, hless⟩ := (Option.any_eq_true ..).mp hover
  exact Nat.not_lt.mpr (h ⟨1⟩ state hstate .packetsPerSecond)
    (of_decide_eq_true hless)

end Impl

end FlowOffload

import FlowOffload.Engine.BatchDemand
import FlowOffload.Laws.Conservative
import FlowOffload.Laws.Durability

/-!
# Capacity of a batch

A batch never places more on a target than the target has capacity for, as long
as what is committed to the target and what the batch adds to it can be summed
up.  When they cannot, the sum saturates, what was released is taken off the
saturated sum, and room appears that does not exist.
-/

namespace FlowOffload

open Foundation
open Std (ExtTreeMap)

namespace Impl

variable {s : Impl} {request : PlacementRequest} {plan : BatchPlan}

/-! ## Planning -/

/-- The item is refused, keeps its target, or goes to a target whose sum does
not overflow. -/
def itemAddsUp (s : Impl) (request : PlacementRequest) (plan : BatchPlan)
    (item : PlacementItem) : Bool :=
  match s.decideItem request plan item with
  | .refused _ _ => true
  | .accepted _ current chosen _ _ =>
      stickyOn s.policy current chosen ||
        (s.targets[chosen.target]?).all (addsUp plan chosen.target)

/-- No sum overflows for the target that an item is placed on. -/
def sumsFit (s : Impl) (request : PlacementRequest) :
    BatchPlan → List PlacementItem → Bool
  | _, [] => true
  | plan, item :: items =>
      s.itemAddsUp request plan item &&
        s.sumsFit request (s.planItem request plan item) items

/-- An item that is placed anew fits on top of what is scheduled on its target
so far. -/
def RoomFor (s : Impl) (request : PlacementRequest) (plan : BatchPlan)
    (item : PlacementItem) : Prop :=
  ∀ flow current chosen fallback placement,
    s.decideItem request plan item =
      .accepted flow current chosen fallback placement →
    stickyOn s.policy current chosen = false →
    ∀ state, lookup s.targets chosen.target = some state → ∀ d,
      (plannedTarget plan chosen.target state).scheduled.part d +
        flow.demand.part d ≤ state.descriptor.capacity.part d

/-- The target of an accepted item passes, with what is planned so far. -/
theorem Accepts.passes {item : PlacementItem} {flow : FlowDescriptor}
    {current : Option Assignment} {chosen : CandidateView}
    {state : TargetState}
    (hkeyed : ∀ k target, lookup s.targets k = some target →
      target.descriptor.target = k)
    (h : s.Accepts request plan item flow current chosen)
    (hstate : lookup s.targets chosen.target = some state) :
    (s.evaluateTargetLocked flow (plannedTarget plan chosen.target state)
      request.evaluationInstant).1 = .ok := by
  obtain ⟨id, other, hother, heligible, hdescribes⟩ := h.exists_target
  have hid : chosen.target = id := by
    rw [hdescribes.target, hkeyed id other hother]
  subst hid
  rw [hother, Option.some.injEq] at hstate
  rw [← hstate]
  exact heligible

/-- Under a policy that counts what is scheduled there is room for every item
that is placed. -/
theorem roomFor_of_countsScheduled
    (hkeyed : ∀ k target, lookup s.targets k = some target →
      target.descriptor.target = k)
    (hpolicy : s.policy.countsScheduled = true) (plan : BatchPlan)
    (item : PlacementItem) : s.RoomFor request plan item := by
  intro flow current chosen fallback placement hdecide _ state hstate d
  exact room_of_evaluateTargetLocked hpolicy
    ((accepts_of_decideItem hdecide).passes hkeyed hstate) d

/-- An item that is placed anew fits on top of what the batch so far leaves on
its target. -/
def SeatFits (s : Impl) (request : PlacementRequest) (plan : BatchPlan)
    (item : PlacementItem) : Prop :=
  ∀ flow current chosen fallback placement,
    s.decideItem request plan item =
      .accepted flow current chosen fallback placement →
    stickyOn s.policy current chosen = false →
    ∀ state, lookup s.targets chosen.target = some state → ∀ d,
      seated s.flows (s.seatsAfter plan.commits) chosen.target d +
        flow.demand.part d ≤ state.descriptor.capacity.part d

/-- With exact sums there is room where there seems to be. -/
theorem seatFits_of_roomFor (hcovers : s.ScheduledCovers)
    (htallied : s.Tallied plan) {item : PlacementItem}
    (hadds : s.itemAddsUp request plan item = true)
    (hroom : s.RoomFor request plan item) : s.SeatFits request plan item := by
  intro flow current chosen fallback placement hdecide hmoves state hstate d
  have hget : s.targets[chosen.target]? = some state := hstate
  unfold itemAddsUp at hadds
  rw [hdecide] at hadds
  dsimp only at hadds
  rw [hmoves, Bool.false_or, hget, Option.all_some] at hadds
  have hscheduled :=
    htallied.scheduled hstate (hcovers _ state hstate) hadds d
  exact Nat.le_trans (Nat.add_le_add_right hscheduled _)
    (hroom _ _ _ _ _ hdecide hmoves state hstate d)

theorem tallied_planItem (hkeyed : s.ledger.Keyed)
    (hbounded : s.DemandBounded) (htallied : s.Tallied plan)
    {item : PlacementItem}
    (huntouched : ∀ pending ∈ plan.commits, pending.flow ≠ item.flow)
    (hfits : s.SeatFits request plan item) :
    s.Tallied (s.planItem request plan item) := by
  unfold planItem
  cases hdecide : s.decideItem request plan item with
  | refused placement reason =>
      exact htallied.refuse (accepted_of_refused hdecide) reason
  | accepted flow current chosen fallback placement =>
      have haccepts := accepts_of_decideItem hdecide
      cases hretained : stickyOn s.policy current chosen with
      | true => exact htallied.retain hretained
      | false =>
          have hflow : flow.flow = item.flow :=
            hkeyed.flow _ _ haccepts.registered
          have hregistered := haccepts.registered
          rw [← hflow] at hregistered huntouched
          exact htallied.seat hbounded hretained hregistered
            haccepts.current_eq huntouched
            (hfits _ _ _ _ _ hdecide hretained)

/-- The commits of a plan are about items that were planned. -/
theorem flow_commits_planItem (hkeyed : s.ledger.Keyed)
    {item : PlacementItem} {pending : PendingCommit}
    (h : pending ∈ (s.planItem request plan item).commits) :
    pending ∈ plan.commits ∨ pending.flow = item.flow := by
  rcases commits_planItem s request plan item with heq | ⟨added, hadded, heq⟩
  · rw [heq] at h
    exact Or.inl h
  · rw [heq] at h
    rcases List.mem_append.mp h with hmem | hmem
    · exact Or.inl hmem
    · rw [List.mem_singleton] at hmem
      subst hmem
      obtain ⟨flow, current, chosen, haccepts, hflow, -⟩ := hadded.accepted
      rw [hflow]
      exact Or.inr (hkeyed.flow _ _ haccepts.registered)

theorem tallied_foldl_planItem (hkeyed : s.ledger.Keyed)
    (hbounded : s.DemandBounded) {items : List PlacementItem}
    {fits : BatchPlan → List PlacementItem → Prop}
    (hfits : ∀ plan item items, s.Tallied plan → fits plan (item :: items) →
      s.SeatFits request plan item ∧
        fits (s.planItem request plan item) items)
    (htallied : s.Tallied plan)
    (hnodup : (items.map PlacementItem.flow).Nodup)
    (huntouched : ∀ item ∈ items, ∀ pending ∈ plan.commits,
      pending.flow ≠ item.flow)
    (h : fits plan items) :
    s.Tallied (items.foldl (s.planItem request) plan) := by
  induction items generalizing plan with
  | nil => exact htallied
  | cons item items ih =>
      obtain ⟨hseat, hrest⟩ := hfits plan item items htallied h
      rw [List.map_cons, List.nodup_cons] at hnodup
      refine ih ?_ hnodup.2 ?_ hrest
      · exact tallied_planItem hkeyed hbounded htallied
          (huntouched item List.mem_cons_self) hseat
      · intro other hother pending hpending hsame
        rcases flow_commits_planItem hkeyed hpending with hold | hnew
        · exact huntouched other (List.mem_cons_of_mem _ hother) pending hold
            hsame
        · refine hnodup.1 ?_
          rw [← hnew, hsame]
          exact List.mem_map_of_mem hother

/-- The sums of a whole batch, when what fits of it fits item by item. -/
theorem tallied_planOf (hkeyed : s.ledger.Keyed)
    (hbounded : s.DemandBounded)
    {fits : BatchPlan → List PlacementItem → Prop}
    (hfits : ∀ plan item items, s.Tallied plan → fits plan (item :: items) →
      s.SeatFits request plan item ∧
        fits (s.planItem request plan item) items)
    (h : fits s.initialPlan (itemsOf request)) :
    s.Tallied (s.planOf request) := by
  refine tallied_foldl_planItem hkeyed hbounded hfits (tallied_initialPlan s)
    (nodup_flow_itemsOf request) ?_ h
  intro item hitem pending hpending
  simp [initialPlan] at hpending

theorem sumsFit_cons (hkeyed : ∀ k target, lookup s.targets k = some target →
      target.descriptor.target = k)
    (hcovers : s.ScheduledCovers)
    (hpolicy : s.policy.countsScheduled = true) (plan : BatchPlan)
    (item : PlacementItem) (items : List PlacementItem)
    (htallied : s.Tallied plan)
    (h : s.sumsFit request plan (item :: items) = true) :
    s.SeatFits request plan item ∧
      s.sumsFit request (s.planItem request plan item) items = true := by
  rw [sumsFit, Bool.and_eq_true] at h
  exact ⟨seatFits_of_roomFor hcovers htallied h.1
    (roomFor_of_countsScheduled hkeyed hpolicy plan item), h.2⟩

/-! ## Room for the sums -/

/-- The demand that an item can release is that of its seat. -/
theorem seatsKept_planItem (hkeyed : s.ledger.Keyed) {item : PlacementItem}
    (huntouched : ∀ pending ∈ plan.commits, pending.flow ≠ item.flow)
    (id : TargetId) (d : Dimension) :
    seated s.flows (s.seatsKept plan.commits) id d ≤
      seated s.flows (s.seatsKept (s.planItem request plan item).commits) id
        d + seatOf s.flows (seats s.assignments) item.flow id d := by
  rcases commits_planItem s request plan item with
    heq | ⟨pending, hpending, heq⟩
  · rw [heq]
    exact Nat.le_add_right _ _
  · obtain ⟨flow, current, chosen, haccepts, hflow, -⟩ := hpending.accepted
    have hitem : pending.flow = item.flow :=
      hflow.trans (hkeyed.flow _ _ haccepts.registered)
    rw [heq, seatsKept, seatsKept, List.foldl_concat, leaveSeat]
    split
    · exact Nat.le_add_right _ _
    · have hgone := seated_erase s.flows (s.seatsKept plan.commits) item.flow
        id d
      rw [seatOf_congr (lookup_seatsKept s huntouched)] at hgone
      rw [hitem]
      exact Nat.le_of_eq hgone.symm

/-- The demand of flows of a batch that are on a target before it. -/
def leaving (s : Impl) (items : List PlacementItem) (id : TargetId)
    (d : Dimension) : Nat :=
  (items.map fun item =>
    seatOf s.flows (seats s.assignments) item.flow id d).sum

/-- There is room for the capacity of a target on top of what may leave it. -/
theorem addsUp_of_room (hexact : s.ScheduledExact)
    (htallied : s.Tallied plan) {id : TargetId} {state : TargetState}
    (hstate : lookup s.targets id = some state) {left : Dimension → Nat}
    (hleft : ∀ d, seated s.flows (seats s.assignments) id d ≤
      seated s.flows (s.seatsKept plan.commits) id d + left d)
    (hroom : ∀ d, state.descriptor.capacity.part d + left d < 2 ^ 64) :
    addsUp plan id state = true := by
  unfold addsUp
  cases hadd : plan.plannedAdd[id]? with
  | none => rfl
  | some add =>
      have hfound : lookup plan.plannedAdd id = some add := hadd
      rw [Option.all_some, CapacityVector.checkedAdd_isSome_iff]
      intro d
      have hwithin := htallied.within id state hstate (by simp [hfound]) d
      have harrived := htallied.arrived id state hstate d
      have hcached := hexact.seated hstate d
      have hsum := hleft d
      have hlimit := hroom d
      simp only [planned, hfound, Option.map_some, Option.getD_some]
        at harrived
      omega

theorem itemAddsUp_of_addsUp {item : PlacementItem}
    (h : ∀ id state, lookup s.targets id = some state →
      addsUp plan id state = true) :
    s.itemAddsUp request plan item = true := by
  unfold itemAddsUp
  cases s.decideItem request plan item with
  | refused placement reason => rfl
  | accepted flow current chosen fallback placement =>
      dsimp only
      cases hfound : s.targets[chosen.target]? with
      | none => simp
      | some state => simp [h chosen.target state hfound]

theorem sumsFit_of_room (hkeyed : s.ledger.Keyed) (hexact : s.ScheduledExact)
    (hpolicy : s.policy.countsScheduled = true)
    {items : List PlacementItem} (htallied : s.Tallied plan)
    (hnodup : (items.map PlacementItem.flow).Nodup)
    (huntouched : ∀ item ∈ items, ∀ pending ∈ plan.commits,
      pending.flow ≠ item.flow)
    {left : TargetId → Dimension → Nat}
    (hleft : ∀ id d, seated s.flows (seats s.assignments) id d ≤
      seated s.flows (s.seatsKept plan.commits) id d + left id d)
    (hroom : ∀ id state, lookup s.targets id = some state → ∀ d,
      state.descriptor.capacity.part d + left id d + s.leaving items id d <
        2 ^ 64) :
    s.sumsFit request plan items = true := by
  induction items generalizing plan left with
  | nil => rfl
  | cons item items ih =>
      rw [List.map_cons, List.nodup_cons] at hnodup
      have hitem : s.itemAddsUp request plan item = true := by
        refine itemAddsUp_of_addsUp fun id state hstate => ?_
        refine addsUp_of_room hexact htallied hstate (hleft id) fun d => ?_
        have := hroom id state hstate d
        omega
      have hfirst := huntouched item List.mem_cons_self
      rw [sumsFit, hitem, Bool.true_and]
      have htallied := tallied_planItem hkeyed hexact.covers.bounded htallied
        hfirst (seatFits_of_roomFor hexact.covers htallied hitem
          (roomFor_of_countsScheduled (targets_of_keyed hkeyed) hpolicy plan
            item))
      refine @ih _ htallied hnodup.2 ?_ (fun id d => left id d +
        seatOf s.flows (seats s.assignments) item.flow id d) ?_ ?_
      · intro other hother pending hpending hsame
        rcases flow_commits_planItem hkeyed hpending with hold | hnew
        · exact huntouched other (List.mem_cons_of_mem _ hother) pending hold
            hsame
        · refine hnodup.1 ?_
          rw [← hnew, hsame]
          exact List.mem_map_of_mem hother
      · intro id d
        have hbefore := hleft id d
        have hstep := @seatsKept_planItem _ request _ hkeyed _ hfirst id d
        omega
      · intro id state hstate d
        have hlimit := hroom id state hstate d
        simp only [leaving, List.map_cons, List.sum_cons] at hlimit
        simp only [leaving]
        omega

/-- The sums fit when the capacity of every target, and the demand of the
flows of the batch that are on it, fit in one number together. -/
theorem sumsFit_of_leaving (hkeyed : s.ledger.Keyed)
    (hexact : s.ScheduledExact) (hpolicy : s.policy.countsScheduled = true)
    (h : ∀ id state, lookup s.targets id = some state → ∀ d,
      state.descriptor.capacity.part d + s.leaving (itemsOf request) id d <
        2 ^ 64) :
    s.sumsFit request s.initialPlan (itemsOf request) = true := by
  refine @sumsFit_of_room _ _ _ hkeyed hexact hpolicy _
    (tallied_initialPlan s) (nodup_flow_itemsOf request) ?_ (fun _ _ => 0) ?_ ?_
  · intro item hitem pending hpending
    simp [initialPlan] at hpending
  · intro id d
    simp [initialPlan, seatsKept]
  · intro id state hstate d
    have := h id state hstate d
    omega

/-! ## Committing -/

theorem seats_commitPending (published : ScheduleGeneration)
    (state : Impl × List FlowPlacement) (pending : PendingCommit) :
    seats (commitPending request published state pending).1.assignments =
      takeSeat (seats state.1.assignments) pending := by
  unfold commitPending commitAssignment holdState takeSeat
  dsimp only
  have hinsert : ∀ a : Assignment, a.target = pending.target →
      seats (state.1.assignments.insert pending.flow a) =
        (seats state.1.assignments).insert pending.flow pending.target := by
    intro a ha
    refine ExtTreeMap.ext_getElem? fun k => ?_
    change lookup (seats _) k = lookup _ k
    rw [seats, lookup_map, lookup_insert, lookup_insert, seats]
    by_cases hk : k = pending.flow
    · subst hk
      simp [ha]
    · simp [hk]
  split
  · rfl
  · split
    · split <;> exact hinsert _ rfl
    · exact hinsert _ rfl

/-- Committing a plan seats its flows. -/
theorem seats_foldl_commitPending (published : ScheduleGeneration)
    (commits : List PendingCommit) (state : Impl × List FlowPlacement) :
    seats (commits.foldl (commitPending request published)
        state).1.assignments =
      commits.foldl takeSeat (seats state.1.assignments) := by
  induction commits generalizing state with
  | nil => rfl
  | cons pending commits ih =>
      rw [List.foldl_cons, List.foldl_cons, ih, seats_commitPending]

/-- The committed demand of the target is within its capacity, in every
dimension and without saturation. -/
def WithinCapacity (s : Impl) (id : TargetId) : Prop :=
  ∀ state, lookup s.targets id = some state → ∀ d,
    CapacityVector.total (demandsOn s.flows s.assignments id) d ≤
      state.descriptor.capacity.part d

theorem scheduledFor_tables (s : Impl) (request : PlacementRequest)
    (published : ScheduleGeneration) :
    (s.scheduledFor request published).flows = s.flows ∧
      (s.scheduledFor request published).assignments = s.assignments := by
  unfold scheduledFor
  split <;> exact ⟨rfl, rfl⟩

/-- A committed batch leaves the flows and seats what was planned. -/
theorem Committed.seats {answer : Status} {t : Impl}
    (h : s.Committed request answer t) :
    t.flows = s.flows ∧
      Impl.seats t.assignments = s.seatsAfter (s.planOf request).commits := by
  obtain ⟨published, result, rfl⟩ := h
  obtain ⟨hflows, hassignments⟩ := scheduledFor_tables s request published
  obtain ⟨_, _, _, _, _, _, heq⟩ := foldl_commitPending_eq request published
    (s.planOf request).commits
    (s.scheduledFor request published, (s.planOf request).placements)
  have hrecorded : ∀ u : Impl,
      (u.recordRequest request result answer).flows = u.flows ∧
        (u.recordRequest request result answer).assignments =
          u.assignments := by
    intro u
    unfold recordRequest
    dsimp only
    obtain ⟨_, _, hpersisted⟩ := persistLocked_fst
      (Impl.evictHistoryLocked { u with
        requests := u.requests.insert request.request
          { request := request.request
            requestDigest := placementRequestDigest request
            resultDigest := result.digest
            scheduleGeneration := result.scheduleGeneration
            outcome := result.status } }) answer
    rw [hpersisted]
    exact ⟨rfl, rfl⟩
  obtain ⟨hflows', hassignments'⟩ := hrecorded
    ((s.scheduledFor request published).commitBatch request published
      (s.planOf request)).1
  rw [hflows', hassignments']
  constructor
  · have hloop := congrArg Impl.flows heq
    exact hloop.trans hflows
  · unfold commitBatch
    rw [seats_foldl_commitPending, hassignments]
    rfl

theorem Committed.withinCapacity {answer : Status} {t : Impl}
    (h : s.Committed request answer t)
    (htallied : s.Tallied (s.planOf request)) {id : TargetId}
    (hadded : lookup (s.planOf request).plannedAdd id ≠ none) :
    t.WithinCapacity id := by
  intro state hstate d
  obtain ⟨hflows, hseats⟩ := h.seats
  have hentry := h.sameTargets id
  rw [hstate, Option.map_some, eq_comm, Option.map_eq_some_iff] at hentry
  obtain ⟨before, hbefore, hsame⟩ := hentry
  have hdescriptor : before.descriptor = state.descriptor :=
    (TargetState.mk.inj hsame).1
  rw [total_demandsOn_eq_seated, hflows, hseats, ← hdescriptor]
  exact htallied.within id before hbefore hadded d

/-- A request that is accepted and is no dry run has committed its plan. -/
theorem committed_executeRequest {result : PlacementResult} {answer : Status}
    (hwet : request.dryRun = false) (hresult : result.accepted = false)
    (h : (s.executeRequest request (itemsOf request) result
      answer).2.accepted = true) :
    s.Committed request answer
      (s.executeRequest request (itemsOf request) result answer).1 := by
  unfold executeRequest at h ⊢
  dsimp only at h ⊢
  rw [← planOf] at h ⊢
  simp only [hwet, Bool.not_false, Bool.and_true, Bool.false_eq_true,
    if_false] at h ⊢
  cases hchange : (s.planOf request).anyChange with
  | true =>
      simp only [hchange, Bool.true_and, if_true] at h ⊢
      split at h
      · exact absurd (hresult.symm.trans h) (by decide)
      next hvalid =>
        rw [if_neg hvalid]
        simp only [Committed, scheduledFor, hchange, if_true]
        exact ⟨_, _, rfl⟩
  | false =>
      simp only [Bool.false_and, Bool.false_eq_true, if_false]
      simp only [Committed, scheduledFor, hchange, Bool.false_eq_true,
        if_false]
      exact ⟨_, _, rfl⟩

/-- What a request reports was planned. -/
theorem planned_executeRequest {result : PlacementResult} {answer : Status}
    {placement : FlowPlacement}
    (h : placement ∈ (s.executeRequest request (itemsOf request) result
      answer).2.placements) :
    ∃ old ∈ (s.planOf request).placements, placement =
      { old with
        recommendation := placement.recommendation
        assignment := placement.assignment } := by
  unfold executeRequest at h
  dsimp only at h
  rw [← planOf] at h
  generalize ((s.planOf request).anyChange && !request.dryRun) = changes at h
  generalize (if changes then _ else _) = published at h
  split at h
  · exact ⟨placement, h, rfl⟩
  · split at h
    · exact ⟨placement, h, rfl⟩
    · generalize (if changes then _ else _) = scheduled at h
      exact @mem_foldl_commitPending _ _ _ (scheduled, _) _ h

/-- Every target that a batch placed a flow on is within its capacity, if the
sums of its plan are right. -/
theorem withinCapacity_of_tallied (request : PlacementRequest)
    (answer : Status) (htallied : s.Tallied (s.planOf request))
    (hwet : request.dryRun = false)
    (haccepted : (s.placeLocked request answer).2.accepted = true) :
    ∀ placement ∈ (s.placeLocked request answer).2.placements,
      placement.accepted = true → placement.retained = false →
        (s.placeLocked request answer).1.WithinCapacity placement.target := by
  intro placement hmem hplaced hanew
  generalize hafter : s.placeLocked request answer = after
    at haccepted hmem ⊢
  unfold placeLocked at hafter
  dsimp only at hafter
  split at hafter
  · subst hafter
    cases haccepted
  · split at hafter
    · subst hafter
      cases haccepted
    · split at hafter
      · split at hafter
        · subst hafter
          cases haccepted
        · -- a repeated request reports every placement as retained
          subst hafter
          simp only [replayRequest, List.mem_filterMap,
            Option.map_eq_some_iff] at hmem
          obtain ⟨item, -, flow, -, rfl⟩ := hmem
          unfold replayedPlacement at hplaced hanew
          cases hfound : s.assignments[item.flow]? with
          | none => simp [hfound] at hplaced
          | some a => simp [hfound] at hanew
      · split at hafter
        · subst hafter
          cases haccepted
        · subst hafter
          have hcommitted := committed_executeRequest hwet rfl haccepted
          obtain ⟨old, hold, heq⟩ := planned_executeRequest hmem
          rw [heq] at hplaced hanew ⊢
          exact hcommitted.withinCapacity htallied
            (htallied.placed old hold hplaced hanew)

/--
From a state whose cached demand is exact, an accepted batch in which no sum
overflows for a target that it places a flow on keeps every target that it
placed a flow on within its capacity.
-/
theorem batch_keeps_capacity (request : PlacementRequest) (answer : Status)
    (hkeyed : s.ledger.Keyed) (hexact : s.ScheduledExact)
    (hpolicy : s.policy.countsScheduled = true)
    (hwet : request.dryRun = false)
    (hfits : s.sumsFit request s.initialPlan (itemsOf request) = true)
    (haccepted : (s.placeLocked request answer).2.accepted = true) :
    ∀ placement ∈ (s.placeLocked request answer).2.placements,
      placement.accepted = true → placement.retained = false →
        (s.placeLocked request answer).1.WithinCapacity placement.target :=
  withinCapacity_of_tallied request answer
    (@tallied_planOf s request hkeyed hexact.covers.bounded
      (fun plan items => s.sumsFit request plan items = true)
      (sumsFit_cons (targets_of_keyed hkeyed) hexact.covers hpolicy) hfits)
    hwet haccepted

/-- A host without a free unit, and one that the first flow fits on. -/
def crowdedHosts (capacity demand : UInt64) : List Op :=
  [.openEngine {} committed, .setPolicy (samplePolicy false) committed,
    .declareTarget
      { sampleHost 1 with
        capacity := ⟨capacity, capacity, capacity, capacity⟩ } committed,
    .registerFlow (plainFlow 1 5) committed,
    .registerFlow (plainFlow 2 5) committed,
    .registerFlow (plainFlow 3 4) committed,
    .registerFlow (plainFlow 9 demand) committed,
    .place (sampleRequest 1 1 [1, 9]) committed,
    .declareTarget { sampleHost 2 with capacity := ⟨5, 5, 5, 5⟩ } committed]

/-- One flow moves away, and another takes the room it leaves. -/
theorem batch_takes_the_room_released :
    (((engine.run (init sampleConfig []) (crowdedHosts 100 95)).placeLocked
        (sampleRequest 2 1 [1, 2, 3]) committed).2.placements.map
          fun placement => (placement.accepted, placement.target)) =
      [(true, ⟨2⟩), (true, ⟨1⟩), (false, {})] ∧
    ∀ placement ∈ ((engine.run (init sampleConfig [])
        (crowdedHosts 100 95)).placeLocked (sampleRequest 2 1 [1, 2, 3])
          committed).2.placements,
      placement.accepted = true → placement.retained = false →
        ((engine.run (init sampleConfig []) (crowdedHosts 100
          95)).placeLocked (sampleRequest 2 1 [1, 2, 3])
            committed).1.WithinCapacity placement.target := by
  have hadmits : engine.Admits (fun _ _ => True) (init sampleConfig [])
      (crowdedHosts 100 95) := by decide +kernel
  have hkeyed : (engine.run (init sampleConfig [])
      (crowdedHosts 100 95)).ledger.Keyed :=
    keyed_run (Disk.synced_start sampleConfig []).keyed hadmits
  generalize hbefore : engine.run (init sampleConfig [])
    (crowdedHosts 100 95) = s at hkeyed
  have hall : s.ScheduledExact ∧ s.policy.countsScheduled = true ∧
      s.sumsFit (sampleRequest 2 1 [1, 2, 3]) s.initialPlan
        (itemsOf (sampleRequest 2 1 [1, 2, 3])) = true ∧
      (s.placeLocked (sampleRequest 2 1 [1, 2, 3]) committed).2.accepted =
        true ∧
      ((s.placeLocked (sampleRequest 2 1 [1, 2, 3])
        committed).2.placements.map fun placement =>
          (placement.accepted, placement.target)) =
        [(true, ⟨2⟩), (true, ⟨1⟩), (false, {})] := by
    rw [← hbefore]
    decide +kernel
  obtain ⟨hexact, hpolicy, hfits, haccepted, hlisted⟩ := hall
  exact ⟨hlisted, batch_keeps_capacity (sampleRequest 2 1 [1, 2, 3]) committed
    hkeyed hexact hpolicy rfl hfits haccepted⟩

/--
The capacity is two below the largest number.  The third flow is placed against
a saturated sum, from which the room of the first is taken once more.
-/
theorem saturated_sum_overcommits :
    (engine.run (init sampleConfig []) (crowdedHosts 0xFFFFFFFFFFFFFFFE
        0xFFFFFFFFFFFFFFF9)).ScheduledExact ∧
      (engine.run (init sampleConfig []) (crowdedHosts 0xFFFFFFFFFFFFFFFE
        0xFFFFFFFFFFFFFFF9)).policy.countsScheduled = true ∧
      ((engine.run (init sampleConfig []) (crowdedHosts 0xFFFFFFFFFFFFFFFE
        0xFFFFFFFFFFFFFFF9)).placeLocked (sampleRequest 2 1 [1, 2, 3])
          committed).2.accepted = true ∧
      ¬ ∀ placement ∈ ((engine.run (init sampleConfig []) (crowdedHosts
          0xFFFFFFFFFFFFFFFE 0xFFFFFFFFFFFFFFF9)).placeLocked
            (sampleRequest 2 1 [1, 2, 3]) committed).2.placements,
        placement.accepted = true → placement.retained = false →
          ((engine.run (init sampleConfig []) (crowdedHosts
            0xFFFFFFFFFFFFFFFE 0xFFFFFFFFFFFFFFF9)).placeLocked
              (sampleRequest 2 1 [1, 2, 3])
                committed).1.WithinCapacity placement.target := by
  generalize hbefore : engine.run (init sampleConfig []) (crowdedHosts
    0xFFFFFFFFFFFFFFFE 0xFFFFFFFFFFFFFFF9) = s
  have hall : s.ScheduledExact ∧ s.policy.countsScheduled = true ∧
      (s.placeLocked (sampleRequest 2 1 [1, 2, 3]) committed).2.accepted =
        true ∧
      ((s.placeLocked (sampleRequest 2 1 [1, 2, 3])
        committed).2.placements.any fun placement =>
          placement.accepted && !placement.retained &&
            placement.target = ⟨1⟩) = true ∧
      ((lookup (s.placeLocked (sampleRequest 2 1 [1, 2, 3])
        committed).1.targets ⟨1⟩).any fun state =>
          state.descriptor.capacity.part .packetsPerSecond <
            CapacityVector.total (demandsOn
              (s.placeLocked (sampleRequest 2 1 [1, 2, 3]) committed).1.flows
              (s.placeLocked (sampleRequest 2 1 [1, 2, 3])
                committed).1.assignments ⟨1⟩) .packetsPerSecond) = true := by
    rw [← hbefore]
    decide +kernel
  obtain ⟨hexact, hpolicy, haccepted, hplaced, hover⟩ := hall
  refine ⟨hexact, hpolicy, haccepted, ?_⟩
  generalize s.placeLocked (sampleRequest 2 1 [1, 2, 3]) committed = after
    at hplaced hover ⊢
  intro h
  obtain ⟨placement, hmem, hplacement⟩ := List.any_eq_true.mp hplaced
  simp only [Bool.and_eq_true, Bool.not_eq_true', decide_eq_true_eq]
    at hplacement
  have hwithin := h placement hmem hplacement.1.1 hplacement.1.2
  rw [hplacement.2] at hwithin
  cases hstate : lookup after.1.targets ⟨1⟩ with
  | none => simp [hstate] at hover
  | some state =>
      rw [hstate, Option.any_some, decide_eq_true_eq] at hover
      exact Nat.not_lt.mpr (hwithin state hstate .packetsPerSecond) hover

end Impl

end FlowOffload

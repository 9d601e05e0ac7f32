import FlowOffload.Engine.Liveness

/-!
# What a placement reports

Every placement that a request reports as accepted is on a live target, unless
the request was executed before: then the committed assignments are reported
again and nothing is planned.
-/

namespace FlowOffload

open Foundation

namespace Impl

variable {s : Impl} {request : PlacementRequest}

/-! ## Eligible targets -/

theorem ready_of_lifecycleRefusal {target : TargetState}
    (h : lifecycleRefusal target = none) :
    target.declared = true ∧ target.descriptor.lifecycle = .ready := by
  unfold lifecycleRefusal at h
  cases hdeclared : target.declared with
  | false => simp [hdeclared] at h
  | true =>
      refine ⟨rfl, ?_⟩
      cases hlifecycle : target.descriptor.lifecycle <;>
        simp_all

/-- A target is evaluated further only when it is declared and ready. -/
theorem ready_of_evaluateTargetLocked {flow : FlowDescriptor}
    {target : TargetState} {instant : Timestamp}
    (h : (s.evaluateTargetLocked flow target instant).1 = .ok) :
    target.declared = true ∧ target.descriptor.lifecycle = .ready :=
  ready_of_lifecycleRefusal (admitted_of_evaluateTargetLocked h).1

/-- An accepted placement is on a target that passed the evaluation. -/
structure Passed (s : Impl) (instant : Timestamp) (placement : FlowPlacement)
    (state : TargetState) : Prop where
  target : lookup s.targets placement.target = some state
  incarnation : placement.incarnation = state.descriptor.incarnation
  capability : placement.capabilityGeneration =
    state.descriptor.capabilityGeneration
  eligible : ∃ flow scheduled, (s.evaluateTargetLocked flow
    { state with scheduled := scheduled } instant).1 = .ok

theorem Passed.ready {instant : Timestamp} {placement : FlowPlacement}
    {state : TargetState} (h : s.Passed instant placement state) :
    state.declared = true ∧ state.descriptor.lifecycle = .ready := by
  obtain ⟨flow, scheduled, heligible⟩ := h.eligible
  have hready := ready_of_evaluateTargetLocked heligible
  exact hready

theorem Passed.live {instant : Timestamp} {placement : FlowPlacement}
    {state : TargetState} (h : s.Passed instant placement state) :
    s.Live placement.target := by
  obtain ⟨hdeclared, hready⟩ := h.ready
  refine ⟨state, h.target, hdeclared, ?_⟩
  simp [hready]

/-- The target an item is accepted on has passed. -/
theorem Accepts.passed {plan : BatchPlan} {item : PlacementItem}
    {flow : FlowDescriptor} {current : Option Assignment}
    {chosen : CandidateView} (hkeyed : ∀ k target,
      lookup s.targets k = some target → target.descriptor.target = k)
    (h : s.Accepts request plan item flow current chosen)
    {placement : FlowPlacement} (htarget : placement.target = chosen.target)
    (hincarnation : placement.incarnation = chosen.incarnation)
    (hcapability : placement.capabilityGeneration =
      chosen.capabilityGeneration) :
    ∃ state, s.Passed request.evaluationInstant placement state := by
  obtain ⟨id, state, hfound, heligible, hdescribes⟩ := h.exists_target
  have hid : placement.target = id := by
    rw [htarget, hdescribes.target, hkeyed id state hfound]
  refine ⟨state, ?_, ?_, ?_, flow, _, heligible⟩
  · rw [hid]
    exact hfound
  · rw [hincarnation, hdescribes.incarnation]
  · rw [hcapability, hdescribes.capability]

/-! ## Planned placements -/

theorem accepted_of_refused {plan : BatchPlan} {item : PlacementItem}
    {placement : FlowPlacement} {reason : ReasonCode}
    (h : s.decideItem request plan item = .refused placement reason) :
    placement.accepted = false := by
  unfold decideItem at h
  split at h
  · cases h
    rfl
  · split at h
    · cases h
      rfl
    · dsimp only at h
      split at h
      · cases h
        rfl
      · unfold decideFlow at h
        dsimp only at h
        split at h
        · cases h
        · cases h
          rfl

/-- The accepted placements of a list are on targets that passed. -/
def AllPassed (s : Impl) (instant : Timestamp)
    (placements : List FlowPlacement) : Prop :=
  ∀ placement ∈ placements, placement.accepted = true →
    ∃ state, s.Passed instant placement state

theorem AllPassed.append {instant : Timestamp}
    {placements : List FlowPlacement} {placement : FlowPlacement}
    (h : s.AllPassed instant placements)
    (hplacement : placement.accepted = true →
      ∃ state, s.Passed instant placement state) :
    s.AllPassed instant (placements ++ [placement]) := by
  intro other hother haccepted
  rcases List.mem_append.mp hother with hmem | hmem
  · exact h other hmem haccepted
  · rw [List.mem_singleton] at hmem
    subst hmem
    exact hplacement haccepted

theorem allPassed_planItem (hkeyed : ∀ k target,
      lookup s.targets k = some target → target.descriptor.target = k)
    {plan : BatchPlan}
    (h : s.AllPassed request.evaluationInstant plan.placements)
    (item : PlacementItem) : s.AllPassed request.evaluationInstant
      (s.planItem request plan item).placements := by
  unfold planItem
  cases hdecide : s.decideItem request plan item with
  | refused placement reason =>
      refine h.append fun haccepted => ?_
      have hrefused := accepted_of_refused hdecide
      exact absurd (hrefused.symm.trans haccepted) (by decide)
  | accepted flow current chosen fallback placement =>
      have haccepts := accepts_of_decideItem hdecide
      exact h.append fun _ => haccepts.passed hkeyed rfl rfl rfl

theorem allPassed_foldl_planItem (hkeyed : ∀ k target,
      lookup s.targets k = some target → target.descriptor.target = k)
    (items : List PlacementItem) {plan : BatchPlan}
    (h : s.AllPassed request.evaluationInstant plan.placements) :
    s.AllPassed request.evaluationInstant
      (items.foldl (s.planItem request) plan).placements := by
  induction items generalizing plan with
  | nil => exact h
  | cons item items ih => exact ih (allPassed_planItem hkeyed h item)

/-! ## Reported placements -/

/-- A report names what was planned; committing adds only identities. -/
theorem mem_foldl_commitPending {published : ScheduleGeneration}
    {commits : List PendingCommit} {state : Impl × List FlowPlacement}
    {placement : FlowPlacement}
    (h : placement ∈
      (commits.foldl (commitPending request published) state).2) :
    ∃ old ∈ state.2, placement =
      { old with
        recommendation := placement.recommendation
        assignment := placement.assignment } := by
  induction commits generalizing state with
  | nil => exact ⟨placement, h, rfl⟩
  | cons pending commits ih =>
      obtain ⟨next, hnext, heq⟩ := ih h
      obtain ⟨i, hi⟩ := List.mem_iff_getElem?.mp hnext
      simp only [commitPending, List.getElem?_modify, Option.map_eq_map,
        Option.map_eq_some_iff] at hi
      obtain ⟨old, hold, rfl⟩ := hi
      refine ⟨old, List.mem_of_getElem? hold, ?_⟩
      rw [heq]
      split <;> rfl

/-- Committing writes identities into a report and nothing else. -/
theorem allPassed_foldl_commitPending {instant : Timestamp}
    {published : ScheduleGeneration} (commits : List PendingCommit)
    (state : Impl × List FlowPlacement) (h : s.AllPassed instant state.2) :
    s.AllPassed instant
      (commits.foldl (commitPending request published) state).2 := by
  intro placement hmem haccepted
  obtain ⟨old, hold, heq⟩ := mem_foldl_commitPending hmem
  rw [heq] at haccepted ⊢
  obtain ⟨target, hpassed⟩ := h old hold haccepted
  exact ⟨target, hpassed.target, hpassed.incarnation, hpassed.capability,
    hpassed.eligible⟩

/-- The request was executed before, and an assignment is reported again. -/
structure Replays (s : Impl) (request : PlacementRequest) (answer : Status)
    (placement : FlowPlacement) : Prop where
  known : s.repeats (.place request answer) = true
  counted : s.Counted (s.placeLocked request answer).1
  assignment : ∃ a, lookup s.assignments placement.flow = some a ∧
    a.target = placement.target ∧ a.incarnation = placement.incarnation ∧
    a.assignment = placement.assignment

theorem allPassed_executeRequest (hkeyed : ∀ k target,
      lookup s.targets k = some target → target.descriptor.target = k)
    (items : List PlacementItem) (result : PlacementResult)
    (answer : Status) : s.AllPassed request.evaluationInstant
      (s.executeRequest request items result answer).2.placements := by
  have hplan : s.AllPassed request.evaluationInstant
      (s.planBatch request items).placements :=
    allPassed_foldl_planItem hkeyed items (by simp [AllPassed, initialPlan])
  unfold executeRequest
  dsimp only
  generalize ((s.planBatch request items).anyChange && !request.dryRun) =
    changes
  generalize (if changes then _ else _) = published
  split
  · exact hplan
  · split
    · exact hplan
    · generalize (if changes then _ else _) = scheduled
      exact allPassed_foldl_commitPending _ (scheduled, _) hplan

theorem assignment_of_replayed {record : RequestRecord}
    {result : PlacementResult} {placement : FlowPlacement}
    (hmem : placement ∈ (s.replayRequest request record result).2.placements)
    (haccepted : placement.accepted = true) :
    ∃ a, lookup s.assignments placement.flow = some a ∧
      a.target = placement.target ∧ a.incarnation = placement.incarnation ∧
      a.assignment = placement.assignment := by
  simp only [replayRequest, List.mem_filterMap, Option.map_eq_some_iff] at hmem
  obtain ⟨item, -, flow, -, rfl⟩ := hmem
  unfold replayedPlacement at haccepted ⊢
  cases ha : s.assignments[item.flow]? with
  | none => simp [ha] at haccepted
  | some a => exact ⟨a, ha, rfl, rfl, rfl⟩

/-- A request reports what passed, or repeats what was committed before. -/
theorem passed_or_replays (hkeyed : ∀ k target,
      lookup s.targets k = some target → target.descriptor.target = k)
    {answer : Status} {placement : FlowPlacement}
    (hmem : placement ∈ (s.placeLocked request answer).2.placements)
    (haccepted : placement.accepted = true) :
    (∃ state, s.Passed request.evaluationInstant placement state) ∨
      (s.placeLocked request answer).2.duplicate = true ∧
        s.Replays request answer placement := by
  generalize hplaced : s.placeLocked request answer = placed at hmem
  have hplace := hplaced
  unfold placeLocked at hplace
  dsimp only at hplace
  split at hplace
  · subst hplace
    cases hmem
  · split at hplace
    · subst hplace
      cases hmem
    · split at hplace
      next record hrecord =>
        split at hplace
        · subst hplace
          cases hmem
        next hdigest =>
          refine Or.inr ⟨?_, ?_, ?_, ?_⟩
          · rw [← hplace]
            rfl
          · simpa [repeats, hrecord] using hdigest
          · rw [hplaced, ← hplace]
            exact ⟨_, _, rfl⟩
          · subst hplace
            exact assignment_of_replayed hmem haccepted
      · split at hplace
        · subst hplace
          cases hmem
        · subst hplace
          exact Or.inl (allPassed_executeRequest hkeyed _ _ _ placement hmem
            haccepted)

theorem live_or_replays (hkeyed : ∀ k target,
      lookup s.targets k = some target → target.descriptor.target = k)
    {answer : Status} {placement : FlowPlacement}
    (hmem : placement ∈ (s.placeLocked request answer).2.placements)
    (haccepted : placement.accepted = true) :
    s.Live placement.target ∨ s.Replays request answer placement := by
  rcases passed_or_replays hkeyed hmem haccepted with
    ⟨state, hpassed⟩ | ⟨-, hreplays⟩
  · exact Or.inl hpassed.live
  · exact Or.inr hreplays

end Impl

end FlowOffload

import FlowOffload.Ledger.Steps

/-!
# A placement request as one event

The commit loop writes one assignment per item that was accepted and not
retained.  What planning checked about an item in the state before the request
is what makes its assignment `Placeable`.
-/

namespace FlowOffload

open Foundation
open Std (ExtTreeMap)

namespace Impl

variable {s : Impl}

/-- The assignment that a commit of the plan gives rise to. -/
structure Records (a : Assignment) (pending : PendingCommit) : Prop where
  flow : a.flow = pending.flow
  generation : a.flowGeneration = pending.generation
  target : a.target = pending.target
  incarnation : a.incarnation = pending.incarnation
  capability : a.capabilityGeneration = pending.capability
  effect : a.effect = .unknown

theorem ledger_commitPending (request : PlacementRequest)
    (published : ScheduleGeneration) (state : Impl × List FlowPlacement)
    (pending : PendingCommit) :
    (commitPending request published state pending).1.ledger =
      if pending.retained then state.1.ledger
      else state.1.ledger.commit
        (state.1.pendingAssignment request published pending) := by
  unfold commitPending commitAssignment
  dsimp only
  split
  · rfl
  · refine (ledger_holdState _ _ _).trans ?_
    unfold Ledger.commit
    congr 1
    simp only [ledger, lookup_insert]
    rfl

/-- The commit loop as a fold over the ledger. -/
theorem ledger_foldl_commitPending (request : PlacementRequest)
    (published : ScheduleGeneration) (commits : List PendingCommit)
    (state : Impl × List FlowPlacement) :
    ∃ batch : List Assignment,
      (commits.foldl (commitPending request published) state).1.ledger =
          batch.foldl Ledger.commit state.1.ledger ∧
        List.Forall₂ Records batch
          (commits.filter fun pending => !pending.retained) := by
  induction commits generalizing state with
  | nil => exact ⟨[], rfl, List.Forall₂.nil⟩
  | cons pending commits ih =>
      obtain ⟨batch, hledger, hrecords⟩ :=
        ih (commitPending request published state pending)
      rw [List.foldl_cons, hledger, ledger_commitPending]
      cases hretained : pending.retained with
      | true =>
          refine ⟨batch, by simp, ?_⟩
          rw [List.filter_cons_of_neg (by simp [hretained])]
          exact hrecords
      | false =>
          refine ⟨state.1.pendingAssignment request published pending :: batch,
            by simp, ?_⟩
          rw [List.filter_cons_of_pos (by simp [hretained])]
          exact List.Forall₂.cons ⟨rfl, rfl, rfl, rfl, rfl, rfl⟩ hrecords

/-- Every commit of a plan belongs to an item of the request. -/
theorem planned_of_mem_commits {request : PlacementRequest}
    {pending : PendingCommit} (h : pending ∈ (s.planOf request).commits) :
    ∃ before item after, itemsOf request = before ++ item :: after ∧
      s.Planned request (s.planBatch request before) item pending := by
  obtain ⟨added, hcommits, -, hplanned⟩ :=
    commits_foldl_planItem s request (itemsOf request) s.initialPlan
  have hmem : pending ∈ added.map Prod.snd := by
    have hall : (s.planOf request).commits = [] ++ added.map Prod.snd :=
      hcommits
    rw [hall, List.nil_append] at h
    exact h
  obtain ⟨pair, hpair, rfl⟩ := List.mem_map.mp hmem
  obtain ⟨before, after, heq, hp⟩ := hplanned pair hpair
  exact ⟨before, pair.1, after, heq, hp⟩

theorem Planned.flow_eq (hkeyed : s.ledger.Keyed)
    {request : PlacementRequest} {plan : BatchPlan} {item : PlacementItem}
    {pending : PendingCommit} (h : s.Planned request plan item pending) :
    pending.flow = item.flow := by
  obtain ⟨flow, current, chosen, haccepts, hflow, -⟩ := h.accepted
  rw [hflow]
  exact hkeyed.flow _ _ haccepts.registered

theorem nodup_flow_commits (hkeyed : s.ledger.Keyed)
    (request : PlacementRequest) :
    ((s.planOf request).commits.map PendingCommit.flow).Nodup := by
  obtain ⟨added, hcommits, hsub, hplanned⟩ :=
    commits_foldl_planItem s request (itemsOf request) s.initialPlan
  have hall : (s.planOf request).commits = [] ++ added.map Prod.snd := hcommits
  have hflows : (s.planOf request).commits.map PendingCommit.flow =
      (added.map Prod.fst).map PlacementItem.flow := by
    rw [hall, List.nil_append, List.map_map, List.map_map]
    apply List.map_congr_left
    intro pair hpair
    obtain ⟨before, after, -, hp⟩ := hplanned pair hpair
    exact hp.flow_eq hkeyed
  rw [hflows]
  exact (nodup_flow_itemsOf request).sublist (hsub.map _)

/-- What planning checked is what the ledger asks of a new assignment. -/
theorem Planned.placeable (hkeyed : s.ledger.Keyed)
    {request : PlacementRequest} {plan : BatchPlan} {item : PlacementItem}
    {pending : PendingCommit} (h : s.Planned request plan item pending)
    {a : Assignment} (ha : Records a pending) :
    Ledger.Placeable s.ledger a := by
  obtain ⟨flow, current, chosen, haccepts, hflow, hgeneration, htarget,
    hincarnation, hcapability, -⟩ := h.accepted
  have hid := hkeyed.flow _ _ haccepts.registered
  obtain ⟨id, state, hstate, -, hdescribes⟩ := haccepts.exists_target
  have hlookup : s.ledger.target id = some state.descriptor :=
    ledger_target_of_lookup hstate
  refine ⟨ha.effect, ⟨flow, ?_, ?_, ?_⟩, ⟨state.descriptor, ?_, ?_, ?_⟩⟩
  · rw [ha.flow, hflow, hid]
    exact haccepts.registered
  · rw [ha.generation, hgeneration]
  · intro hstateful holder hholder
    have hfree := haccepts.holder
    unfold conflictingHolder at hfree
    have hfind : s.findHolderLocked flow.exclusiveStateKey = some holder :=
      hholder
    rw [if_pos hstateful, hfind] at hfree
    rw [ha.flow, hflow]
    by_contra hne
    simp [hne] at hfree
  · rw [ha.target, htarget, hdescribes.target, hkeyed.target _ _ hlookup]
    exact hlookup
  · rw [ha.incarnation, hincarnation, hdescribes.incarnation]
  · rw [ha.capability, hcapability, hdescribes.capability]

theorem map_flow_of_records {batch : List Assignment}
    {commits : List PendingCommit} (h : List.Forall₂ Records batch commits) :
    batch.map Assignment.flow = commits.map PendingCommit.flow := by
  induction h with
  | nil => rfl
  | cons hhead _ ih => rw [List.map_cons, List.map_cons, hhead.flow, ih]

theorem exists_of_mem_records {batch : List Assignment}
    {commits : List PendingCommit} (h : List.Forall₂ Records batch commits)
    {a : Assignment} (ha : a ∈ batch) :
    ∃ pending ∈ commits, Records a pending := by
  induction h with
  | nil => cases ha
  | cons hhead _ ih =>
      rcases List.mem_cons.mp ha with rfl | ha
      · exact ⟨_, List.mem_cons_self, hhead⟩
      · obtain ⟨pending, hpending, hrecords⟩ := ih ha
        exact ⟨pending, List.mem_cons_of_mem _ hpending, hrecords⟩

@[simp] theorem ledger_scheduledFor (s : Impl) (request : PlacementRequest)
    (published : ScheduleGeneration) :
    (s.scheduledFor request published).ledger = s.ledger := by
  unfold scheduledFor
  split
  · exact ledger_recomputeScheduledLocked _
  · rfl

theorem ledger_recordRequest (s : Impl) (request : PlacementRequest)
    (result : PlacementResult) (answer : Status) :
    (s.recordRequest request result answer).ledger = s.ledger :=
  ledger_persistLocked _ _

theorem steps_placeLocked (hkeyed : s.ledger.Keyed)
    (request : PlacementRequest) (answer : Status) :
    s.Steps (.place request answer)
      (s.placeLocked request answer).1.ledger := by
  rcases placeLocked_cases s request answer with
    ⟨counters, refusals, heq⟩ | ⟨hexecutes, published, result, heq⟩
  · rw [heq]
    exact .stay rfl
  · obtain ⟨batch, hledger, hrecords⟩ := ledger_foldl_commitPending request
      published (s.planOf request).commits
      (s.scheduledFor request published, (s.planOf request).placements)
    rw [heq, ledger_recordRequest, commitBatch, hledger, ledger_scheduledFor]
    refine .move (.place batch) (.place hexecutes ?_) ⟨?_, ?_⟩ rfl
    · intro a ha
      obtain ⟨pending, hpending, hr⟩ := exists_of_mem_records hrecords ha
      exact ⟨pending, hpending, hr.flow, hr.target⟩
    · rw [map_flow_of_records hrecords]
      exact (nodup_flow_commits hkeyed request).sublist
        (List.filter_sublist.map _)
    · intro a ha
      obtain ⟨pending, hpending, hr⟩ := exists_of_mem_records hrecords ha
      obtain ⟨before, item, after, -, hplanned⟩ :=
        planned_of_mem_commits (List.mem_of_mem_filter hpending)
      exact hplanned.placeable hkeyed hr

end Impl

end FlowOffload

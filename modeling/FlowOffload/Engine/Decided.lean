import FlowOffload.Engine.Survey

/-!
# What is decided of an item

A request that is no duplicate reports one placement for each item, in
canonical order, and each is decided against the plan of the items before it.
-/

namespace FlowOffload

open Foundation
open Std (ExtTreeMap)

namespace Impl

variable {s : Impl} {request : PlacementRequest} {plan : BatchPlan}
  {item : PlacementItem} {answer : Status} {p : FlowPlacement}

/-! ## One item -/

/-- The placement that planning reports for an accepted item. -/
def acceptedPlacement (policy : Policy) (current : Option Assignment)
    (chosen : CandidateView) (fallback : Bool) (placement : FlowPlacement) :
    FlowPlacement :=
  let retained := stickyOn policy current chosen
  let outcome := acceptedOutcome policy chosen fallback retained
  { placement with
    accepted := true
    fallback := fallback
    retained := retained
    outcome := outcome
    target := chosen.target
    incarnation := chosen.incarnation
    capabilityGeneration := chosen.capabilityGeneration
    domain := chosen.domain
    changed := !retained
    assignment := match retained, current with
      | true, some assignment => assignment.assignment
      | _, _ => {}
    explanation.primary := outcome
    explanation.target := chosen.target
    explanation.incarnation := chosen.incarnation
    explanation.accepted := acceptedSteps chosen }

/-- The placement that planning reports for an item. -/
def placementFor (s : Impl) (request : PlacementRequest) (plan : BatchPlan)
    (item : PlacementItem) : FlowPlacement :=
  match s.decideItem request plan item with
  | .refused placement reason => { placement with outcome := reason }
  | .accepted _ current chosen fallback placement =>
      acceptedPlacement s.policy current chosen fallback placement

theorem placements_planItem (s : Impl) (request : PlacementRequest)
    (plan : BatchPlan) (item : PlacementItem) :
    (s.planItem request plan item).placements =
      plan.placements ++ [s.placementFor request plan item] := by
  unfold planItem placementFor
  cases s.decideItem request plan item with
  | refused placement reason => rfl
  | accepted flow current chosen fallback placement => rfl

/-- A plan changes something when it accepts an item that is not retained. -/
theorem anyChange_planItem_eq (plan : BatchPlan)
    (item : PlacementItem) :
    (s.planItem request plan item).anyChange =
      (plan.anyChange || ((s.placementFor request plan item).accepted &&
        !(s.placementFor request plan item).retained)) := by
  unfold planItem placementFor
  cases hdecide : s.decideItem request plan item with
  | refused placement reason =>
      have hrefused := accepted_of_refused hdecide
      simp [BatchPlan.refuse, hrefused]
  | accepted flow current chosen fallback placement => rfl

/-- Whether the chosen candidate is a fallback is read off its rank. -/
theorem fallback_of_chooseCandidate {policy : Policy}
    {ranked : List RankedCandidate} {chosen : CandidateView} {fallback : Bool}
    (h : chooseCandidate policy (rankCandidates ranked) =
      some (chosen, fallback)) :
    ∃ first ∈ ranked, chosen = { first.view with rank := 0 } ∧
      fallback = decide (first.key.domainRank ≠ 0) := by
  unfold rankCandidates at h
  cases hsorted : sortRanked ranked with
  | nil =>
      rw [hsorted] at h
      cases h
  | cons first rest =>
      rw [hsorted, List.mapIdx_cons] at h
      simp only [chooseCandidate] at h
      split at h
      · cases h
      · simp only [Option.some.injEq, Prod.mk.injEq] at h
        refine ⟨first, ?_, h.1.symm, h.2.symm⟩
        rw [← mem_canonicalSort, ← sortRanked, hsorted]
        exact List.mem_cons_self

/-- A target is a fallback when it is not in the preferred domain. -/
theorem fallback_of_accepted {flow : FlowDescriptor}
    {current : Option Assignment} {chosen : CandidateView} {fallback : Bool}
    {placement : FlowPlacement}
    (h : s.decideItem request plan item =
      .accepted flow current chosen fallback placement) :
    fallback = decide (chosen.domain ≠ preferredDomain s.policy) := by
  unfold decideItem at h
  split at h
  · cases h
  · split at h
    · cases h
    · dsimp only at h
      split at h
      · cases h
      · unfold decideFlow at h
        dsimp only at h
        split at h
        next view chosenFallback hchoose =>
          cases h
          obtain ⟨first, hfirst, rfl, rfl⟩ :=
            fallback_of_chooseCandidate hchoose
          obtain ⟨id, state, -, hcandidate⟩ :=
            candidate_of_mem_surveyTargets hfirst
          rw [hcandidate.key_eq]
          dsimp only
          split
          next hsame => simp [hsame]
          next hother => simp [hother]
        · cases h

/-- A decision keeps the flow of its item, and its registered generation. -/
theorem placement_of_accepted {flow : FlowDescriptor}
    {current : Option Assignment} {chosen : CandidateView} {fallback : Bool}
    {placement : FlowPlacement}
    (h : s.decideItem request plan item =
      .accepted flow current chosen fallback placement) :
    placement.flow = item.flow ∧
      placement.flowGeneration = flow.generation := by
  unfold decideItem at h
  split at h
  · cases h
  · split at h
    · cases h
    · dsimp only at h
      split at h
      · cases h
      · unfold decideFlow at h
        dsimp only at h
        split at h
        · cases h
          exact ⟨rfl, rfl⟩
        · cases h

theorem flow_of_refused {placement : FlowPlacement} {reason : ReasonCode}
    (h : s.decideItem request plan item = .refused placement reason) :
    placement.flow = item.flow := by
  unfold decideItem at h
  split at h
  · cases h
    rfl
  · split at h
    · cases h
      rfl
    · dsimp only at h
      split at h
      · cases h
        rfl
      · unfold decideFlow at h
        dsimp only at h
        split at h
        · cases h
        · cases h
          rfl

theorem flow_placementFor (s : Impl) (request : PlacementRequest)
    (plan : BatchPlan) (item : PlacementItem) :
    (s.placementFor request plan item).flow = item.flow := by
  unfold placementFor
  cases hdecide : s.decideItem request plan item with
  | refused placement reason =>
      have hflow := flow_of_refused hdecide
      exact hflow
  | accepted flow current chosen fallback placement =>
      have hflow := (placement_of_accepted hdecide).1
      exact hflow

/-- The item passes the checks that come before the targets are looked at. -/
structure Checked (s : Impl) (item : PlacementItem) (flow : FlowDescriptor) :
    Prop where
  registered : lookup s.flows item.flow = some flow
  generation : item.flowGeneration.isValid = true →
    item.flowGeneration = flow.generation
  holder : s.conflictingHolder flow = none

theorem decideItem_of_checked {flow : FlowDescriptor}
    (h : s.Checked item flow) : s.decideItem request plan item =
      s.decideFlow request plan (s.explainedPlacement request item flow)
        flow := by
  have hflow : s.flows[item.flow]? = some flow := h.registered
  have hgeneration : (item.flowGeneration.isValid &&
      decide (item.flowGeneration ≠ flow.generation)) = false := by
    cases hvalid : item.flowGeneration.isValid with
    | false => rfl
    | true => simp [h.generation hvalid]
  unfold decideItem
  rw [hflow]
  dsimp only
  rw [hgeneration, h.holder]
  rfl

theorem mem_sortRanked {ranked : List RankedCandidate}
    {candidate : RankedCandidate} :
    candidate ∈ sortRanked ranked ↔ candidate ∈ ranked :=
  mem_canonicalSort

/-- The first candidate in rank order. -/
theorem exists_head_sortRanked {ranked : List RankedCandidate}
    (h : ranked ≠ []) :
    ∃ first ∈ (sortRanked ranked).head?, first ∈ ranked ∧
      Best ranked first := by
  cases hsorted : sortRanked ranked with
  | nil =>
      obtain ⟨candidate, hcandidate⟩ := List.exists_mem_of_ne_nil ranked h
      rw [← mem_sortRanked, hsorted] at hcandidate
      cases hcandidate
  | cons first rest =>
      refine ⟨first, rfl, ?_, best_of_sortRanked hsorted⟩
      rw [← mem_sortRanked, hsorted]
      exact List.mem_cons_self

theorem chooseCandidate_isSome_iff {policy : Policy}
    {ranked : List RankedCandidate} :
    (chooseCandidate policy (rankCandidates ranked)).isSome = true ↔
      ∃ first ∈ (sortRanked ranked).head?, Offered policy first := by
  unfold rankCandidates chooseCandidate
  cases sortRanked ranked with
  | nil => simp
  | cons first rest =>
      simp only [List.mapIdx_cons, List.head?_cons, Option.mem_def,
        Option.some.injEq, exists_eq_left']
      unfold Offered
      by_cases hrank : first.key.domainRank = 0
      · simp [hrank]
      · by_cases hallowed : fallbackAllowed policy (preferredDomain policy)
            first.view.domain = true
        · simp [hallowed]
        · simp [hrank, hallowed]

/-- A checked item is accepted exactly when the policy takes the candidate of
the lowest rank. -/
theorem accepted_placementFor_iff {flow : FlowDescriptor}
    (h : s.Checked item flow) :
    (s.placementFor request plan item).accepted = true ↔
      ∃ first ∈ (sortRanked ((s.eligibles plan flow
        (lookup s.assignments flow.flow) request.evaluationInstant).take
          kMaxRankedCandidates)).head?, Offered s.policy first := by
  rw [← ranked_surveyTargets, ← chooseCandidate_isSome_iff]
  unfold placementFor
  rw [decideItem_of_checked h]
  unfold decideFlow
  dsimp only
  rw [show s.assignments[flow.flow]? = lookup s.assignments flow.flow from rfl]
  cases chooseCandidate s.policy (rankCandidates (s.surveyTargets plan flow
      (lookup s.assignments flow.flow) request.evaluationInstant).ranked) with
  | none => simp [explainedPlacement]
  | some chosen => simp [acceptedPlacement]

/-! ## The items of a batch -/

/-- Without a conflict only repetitions of an item are left out. -/
theorem mem_uniqueItems {items : List PlacementItem}
    (hagree : conflictingItems items = false) (h : item ∈ items) :
    item ∈ uniqueItems items := by
  induction items with
  | nil => cases h
  | cons first items ih =>
      have hhead : ∀ second rest, uniqueItems items = second :: rest →
          ∃ more, items = second :: more := by
        intro second rest hunique
        cases items with
        | nil => cases hunique
        | cons next more =>
            rw [uniqueItems] at hunique
            split at hunique
            · split at hunique <;> exact ⟨more, by cases hunique; rfl⟩
            · exact ⟨more, by cases hunique; rfl⟩
      have hrest : conflictingItems items = false := by
        cases items with
        | nil => rfl
        | cons next more =>
            rw [conflictingItems, Bool.or_eq_false_iff] at hagree
            exact hagree.2
      rw [uniqueItems]
      split
      next second rest hunique =>
        obtain ⟨more, rfl⟩ := hhead second rest hunique
        rw [hunique] at ih
        split
        next hflow =>
          have hsame : first = second := by
            rw [conflictingItems, Bool.or_eq_false_iff] at hagree
            have hgeneration : second.flowGeneration =
                first.flowGeneration := by
              simpa [hflow] using hagree.1
            cases first
            cases second
            simp_all
          rcases List.mem_cons.mp h with rfl | hmem
          · exact List.mem_cons_self
          · rw [hsame]
            exact ih hrest hmem
        next =>
          rcases List.mem_cons.mp h with rfl | hmem
          · exact List.mem_cons_self
          · exact List.mem_cons_of_mem _ (ih hrest hmem)
      next hunique =>
        rw [hunique] at ih
        rcases List.mem_cons.mp h with rfl | hmem
        · exact List.mem_singleton.mpr rfl
        · cases ih hrest hmem

/-! ## The plan at an item -/

/-- What the items before a flow have planned. -/
def planBefore (s : Impl) (request : PlacementRequest) (flow : FlowId) :
    BatchPlan :=
  ((itemsOf request).takeWhile fun item => item.flow ≠ flow).foldl
    (s.planItem request) s.initialPlan

theorem takeWhile_flow {before after : List PlacementItem}
    (hnodup : ((before ++ item :: after).map PlacementItem.flow).Nodup) :
    (before ++ item :: after).takeWhile
      (fun other => other.flow ≠ item.flow) = before := by
  rw [List.map_append, List.map_cons, List.nodup_append] at hnodup
  have hbefore : ∀ other ∈ before, other.flow ≠ item.flow := by
    intro other hother
    exact hnodup.2.2 other.flow (List.mem_map_of_mem hother) item.flow
      List.mem_cons_self
  rw [List.takeWhile_append_of_pos (fun other hother => by
    simpa using hbefore other hother)]
  simp

theorem planBefore_eq {before after : List PlacementItem}
    (h : itemsOf request = before ++ item :: after) :
    s.planBefore request item.flow =
      before.foldl (s.planItem request) s.initialPlan := by
  have hnodup := nodup_flow_itemsOf request
  rw [h] at hnodup
  rw [planBefore, h, takeWhile_flow hnodup]

theorem placements_foldl_planItem {items : List PlacementItem}
    (h : p ∈ (items.foldl (s.planItem request) plan).placements) :
    p ∈ plan.placements ∨ ∃ before item after,
      items = before ++ item :: after ∧
        p = s.placementFor request
          (before.foldl (s.planItem request) plan) item := by
  induction items generalizing plan with
  | nil => exact Or.inl h
  | cons item items ih =>
      rcases ih h with hmem | ⟨before, other, after, heq, hp⟩
      · rw [placements_planItem, List.mem_append, List.mem_singleton] at hmem
        rcases hmem with hmem | rfl
        · exact Or.inl hmem
        · exact Or.inr ⟨[], item, items, rfl, rfl⟩
      · exact Or.inr ⟨item :: before, other, after, by rw [heq]; rfl, hp⟩

/-- A placement of the plan of a request is that of one of its items. -/
theorem placements_planOf (h : p ∈ (s.planOf request).placements) :
    ∃ item ∈ itemsOf request, p.flow = item.flow ∧
      p = s.placementFor request (s.planBefore request item.flow) item := by
  rcases placements_foldl_planItem h with hmem | ⟨before, item, after, heq, hp⟩
  · cases hmem
  · rw [← planBefore_eq heq] at hp
    refine ⟨item, ?_, ?_, hp⟩
    · rw [heq]
      exact List.mem_append_right _ List.mem_cons_self
    · rw [hp]
      exact flow_placementFor s request _ item

theorem placements_mono {items : List PlacementItem}
    (h : p ∈ plan.placements) :
    p ∈ (items.foldl (s.planItem request) plan).placements := by
  induction items generalizing plan with
  | nil => exact h
  | cons item items ih =>
      refine ih ?_
      rw [placements_planItem]
      exact List.mem_append_left _ h

/-- Every item of a request has its placement in the plan. -/
theorem mem_placements_planOf (h : item ∈ itemsOf request) :
    s.placementFor request (s.planBefore request item.flow) item ∈
      (s.planOf request).placements := by
  obtain ⟨before, after, heq⟩ := List.append_of_mem h
  rw [planBefore_eq heq, planOf, planBatch, heq, List.foldl_append,
    List.foldl_cons]
  refine placements_mono ?_
  rw [placements_planItem]
  exact List.mem_append_right _ (List.mem_singleton.mpr rfl)

/-! ## What a request reports -/

/-- A placement as planned for an item, with the identities that committing
gave it. -/
structure Reported (s : Impl) (request : PlacementRequest)
    (item : PlacementItem) (p : FlowPlacement) : Prop where
  mem : item ∈ itemsOf request
  flow : p.flow = item.flow
  planned : p =
    { s.placementFor request (s.planBefore request item.flow) item with
      recommendation := p.recommendation
      assignment := p.assignment }

theorem reported_executeRequest {result : PlacementResult}
    (hmem : p ∈ (s.executeRequest request (itemsOf request) result
      answer).2.placements) :
    ∃ item, s.Reported request item p := by
  have hplan : ∀ {p : FlowPlacement}, p ∈ (s.planOf request).placements →
      ∃ item, s.Reported request item p := by
    intro p hp
    obtain ⟨item, hitem, hflow, heq⟩ := placements_planOf hp
    exact ⟨item, hitem, hflow, by rw [← heq]⟩
  have hcommit : ∀ {published : ScheduleGeneration}
      {commits : List PendingCommit} {t : Impl},
      p ∈ (commits.foldl (commitPending request published)
        (t, (s.planOf request).placements)).2 →
        ∃ item, s.Reported request item p := by
    intro published commits t hp
    obtain ⟨old, hold, heq⟩ := mem_foldl_commitPending hp
    obtain ⟨item, hreported⟩ := hplan hold
    refine ⟨item, hreported.mem, ?_, ?_⟩
    · rw [heq]
      exact hreported.flow
    · rw [heq, hreported.planned]
  unfold executeRequest at hmem
  dsimp only at hmem
  rw [← planOf] at hmem
  generalize ((s.planOf request).anyChange && !request.dryRun) = changes
    at hmem
  generalize (if changes then _ else _) = published at hmem
  split at hmem
  · exact hplan hmem
  · split at hmem
    · exact hplan hmem
    · exact hcommit hmem

/-- A request that is no duplicate reports what it planned. -/
theorem reported_of_placeLocked
    (hmem : p ∈ (s.placeLocked request answer).2.placements)
    (hfresh : (s.placeLocked request answer).2.duplicate = false) :
    ∃ item, s.Reported request item p := by
  generalize hplaced : s.placeLocked request answer = placed at hmem hfresh
  unfold placeLocked at hplaced
  dsimp only at hplaced
  split at hplaced
  · subst hplaced
    cases hmem
  · split at hplaced
    · subst hplaced
      cases hmem
    · split at hplaced
      · split at hplaced
        · subst hplaced
          cases hmem
        · subst hplaced
          cases hfresh
      · split at hplaced
        · subst hplaced
          cases hmem
        · subst hplaced
          exact reported_executeRequest hmem

/-- What is known of an accepted placement of a request. -/
structure Chosen (s : Impl) (request : PlacementRequest) (p : FlowPlacement)
    (flow : FlowDescriptor) (chosen : CandidateView) : Prop where
  registered : lookup s.flows p.flow = some flow
  accepts : ∃ item, s.Accepts request (s.planBefore request p.flow) item flow
    (lookup s.assignments flow.flow) chosen
  generation : p.flowGeneration = flow.generation
  fallback : p.fallback =
    decide (chosen.domain ≠ preferredDomain s.policy)
  target : p.target = chosen.target
  incarnation : p.incarnation = chosen.incarnation
  capability : p.capabilityGeneration = chosen.capabilityGeneration
  domain : p.domain = chosen.domain
  retained : p.retained =
    stickyOn s.policy (lookup s.assignments flow.flow) chosen
  outcome : p.outcome =
    acceptedOutcome s.policy chosen p.fallback p.retained

theorem Reported.chosen (h : s.Reported request item p)
    (haccepted : p.accepted = true) :
    ∃ flow chosen, s.Chosen request p flow chosen := by
  have hplanned := h.planned
  unfold placementFor at hplanned
  cases hdecide : s.decideItem request (s.planBefore request item.flow) item
    with
  | refused placement reason =>
      simp only [hdecide] at hplanned
      rw [hplanned] at haccepted
      exact absurd ((accepted_of_refused hdecide).symm.trans haccepted)
        (by decide)
  | accepted flow current chosen fallback placement =>
      simp only [hdecide] at hplanned
      have haccepts := accepts_of_decideItem hdecide
      have hcurrent := haccepts.current_eq
      subst hcurrent
      refine ⟨flow, chosen, ?_, ⟨item, ?_⟩, ?_, ?_, ?_, ?_, ?_, ?_, ?_, ?_⟩
      · rw [h.flow]
        exact haccepts.registered
      · rw [h.flow]
        exact haccepts
      · rw [hplanned]
        exact (placement_of_accepted hdecide).2
      · rw [hplanned]
        exact fallback_of_accepted hdecide
      all_goals rw [hplanned]; rfl

/-- An accepted placement of a request that is no duplicate was chosen. -/
theorem chosen_of_placeLocked
    (hmem : p ∈ (s.placeLocked request answer).2.placements)
    (hfresh : (s.placeLocked request answer).2.duplicate = false)
    (haccepted : p.accepted = true) :
    ∃ flow chosen, s.Chosen request p flow chosen := by
  obtain ⟨item, hreported⟩ := reported_of_placeLocked hmem hfresh
  exact hreported.chosen haccepted

/-- The chosen target is a candidate of the item. -/
theorem Chosen.evaluated (hkeyed : ∀ k target,
      lookup s.targets k = some target → target.descriptor.target = k)
    {flow : FlowDescriptor} {chosen : CandidateView}
    (h : s.Chosen request p flow chosen) :
    ∃ state own, lookup s.targets p.target = some state ∧
      s.candidateOf (s.planBefore request p.flow) flow
        (lookup s.assignments flow.flow) request.evaluationInstant
        (p.target, state) = some own ∧
      chosen = { own.view with rank := 0 } := by
  obtain ⟨item, haccepts⟩ := h.accepts
  obtain ⟨own, rest, hsorted, -, hchosen⟩ := haccepts.candidate
  have hmem : own ∈ s.eligibles (s.planBefore request p.flow) flow
      (lookup s.assignments flow.flow) request.evaluationInstant := by
    refine List.mem_of_mem_take (i := kMaxRankedCandidates) ?_
    rw [← ranked_surveyTargets, ← mem_sortRanked, hsorted]
    exact List.mem_cons_self
  obtain ⟨id, state, hfound, hcandidate⟩ := mem_eligibles_iff.mp hmem
  have hid : p.target = id := by
    rw [h.target, hchosen]
    exact (candidate_of_candidateOf hcandidate).describes.target.trans
      (hkeyed id state hfound)
  rw [hid]
  exact ⟨state, own, hfound, hcandidate, hchosen⟩

/-! ## Planned and reported -/

/-- A placement without the identities that committing gives it. -/
def decision (p : FlowPlacement) : FlowPlacement :=
  { p with recommendation := {}, assignment := {} }

theorem map_modify_of_eq {α β : Type} {f : α → α} {g : α → β}
    (h : ∀ a, g (f a) = g a) (values : List α) (i : Nat) :
    (values.modify i f).map g = values.map g := by
  refine List.ext_getElem? fun j => ?_
  rw [List.getElem?_map, List.getElem?_map, List.getElem?_modify]
  cases values[j]? with
  | none => rfl
  | some value =>
      simp only [Option.map_eq_map, Option.map_some]
      split
      · rw [h]
      · rfl

/-- Committing changes nothing else in a report. -/
theorem map_decision_foldl_commitPending (published : ScheduleGeneration)
    (commits : List PendingCommit) (state : Impl × List FlowPlacement) :
    (commits.foldl (commitPending request published) state).2.map decision =
      state.2.map decision := by
  induction commits generalizing state with
  | nil => rfl
  | cons pending commits ih =>
      rw [List.foldl_cons, ih]
      refine map_modify_of_eq (fun p => ?_) state.2 pending.index
      rfl

/-- The request is neither refused nor a duplicate, and its items are
planned. -/
def plans (s : Impl) (request : PlacementRequest) : Bool :=
  s.isOpen && (s.requestRefusal request).isNone &&
    (s.requests[request.request]?).isNone &&
    !conflictingItems (sortItems request.items)

theorem placeLocked_of_plans (h : s.plans request = true) (answer : Status) :
    s.placeLocked request answer = s.executeRequest request (itemsOf request)
      { request := request.request, dryRun := request.dryRun } answer := by
  simp only [plans, Bool.and_eq_true, Option.isNone_iff_eq_none,
    Bool.not_eq_true'] at h
  obtain ⟨⟨⟨hopen, hchecked⟩, hfresh⟩, hagree⟩ := h
  unfold placeLocked
  dsimp only
  rw [hchecked, hfresh, hopen]
  simp only [Bool.not_true, Bool.false_eq_true, if_false, hagree]
  rfl

/-- Every item of a planned request is one of those that are planned. -/
theorem mem_itemsOf_of_plans (h : s.plans request = true)
    (hitem : item ∈ request.items) : item ∈ itemsOf request := by
  simp only [plans, Bool.and_eq_true, Bool.not_eq_true'] at h
  refine mem_uniqueItems h.2 ?_
  rw [sortItems, mem_canonicalSort]
  exact hitem

theorem duplicate_of_plans (h : s.plans request = true) :
    (s.placeLocked request answer).2.duplicate = false := by
  rw [placeLocked_of_plans h]
  unfold executeRequest
  dsimp only
  generalize ((s.planBatch request _).anyChange && !request.dryRun) = changes
  generalize (if changes then _ else _) = published
  split
  · rfl
  · split <;> rfl

/-- What is decided of the items is what was planned of them. -/
theorem map_decision_executeRequest (result : PlacementResult) :
    (s.executeRequest request (itemsOf request) result
        answer).2.placements.map decision =
      (s.planOf request).placements.map decision := by
  unfold executeRequest
  dsimp only
  rw [← planOf]
  generalize ((s.planOf request).anyChange && !request.dryRun) = changes
  generalize (if changes then _ else _) = published
  split
  · rfl
  · split
    · rfl
    · exact map_decision_foldl_commitPending published _ (_, _)

/-- Every item of a planned request is reported. -/
theorem reported_of_plans (h : s.plans request = true)
    (hitem : item ∈ itemsOf request) (answer : Status) :
    ∃ p ∈ (s.placeLocked request answer).2.placements,
      s.Reported request item p := by
  have hmem := List.mem_map_of_mem (f := decision)
    (@mem_placements_planOf s _ _ hitem)
  rw [← @map_decision_executeRequest _ _ answer
    { request := request.request, dryRun := request.dryRun }] at hmem
  rw [placeLocked_of_plans h]
  obtain ⟨p, hp, hdecision⟩ := List.mem_map.mp hmem
  refine ⟨p, hp, hitem, ?_, ?_⟩
  · have hflow := congrArg FlowPlacement.flow hdecision
    exact hflow.trans (flow_placementFor s request _ item)
  · have hsame := congrArg (fun decided : FlowPlacement =>
      { decided with
        recommendation := p.recommendation
        assignment := p.assignment }) hdecision
    exact hsame

theorem Reported.accepted (h : s.Reported request item p) :
    p.accepted = (s.placementFor request (s.planBefore request item.flow)
      item).accepted := by
  rw [h.planned]

end Impl

end FlowOffload

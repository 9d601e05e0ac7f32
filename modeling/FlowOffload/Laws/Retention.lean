import FlowOffload.Engine.Generations
import FlowOffload.Laws.Locality
import FlowOffload.Laws.Watermarks

/-!
# Placing a flow again

A flow that a sticky policy has placed keeps its target when it is placed
again and nothing about the two has changed: it is then looked up first, and
its target is given up only to another holder of its state or to a locality
that has moved on.
-/

namespace FlowOffload

open Foundation
open Std (ExtTreeMap)

namespace Impl

variable {s t : Impl} {request : PlacementRequest} {p : FlowPlacement}
  {answer : Status} {flow : FlowDescriptor} {state : TargetState}

/-! ## What was placed, and what has not changed since -/

/-- The placement is one that a real request has made. -/
structure Made (s : Impl) (request : PlacementRequest) (answer : Status)
    (p : FlowPlacement) : Prop where
  wet : request.dryRun = false
  accepted : (s.placeLocked request answer).2.accepted = true
  fresh : (s.placeLocked request answer).2.duplicate = false
  mem : p ∈ (s.placeLocked request answer).2.placements
  placed : p.accepted = true

/-- What a target declares of itself, and whether it has in this
incarnation. -/
def declaration (state : TargetState) : Bool × TargetDescriptor :=
  (state.declared, state.descriptor)

/-- The policy, the flow with its assignment, and the declaration of the
target are as they were. -/
structure Undisturbed (s t : Impl) (flow : FlowId) (target : TargetId) :
    Prop where
  policy : t.policy = s.policy
  assignment : lookup t.assignments flow = lookup s.assignments flow
  registration : lookup t.flows flow = lookup s.flows flow
  declaration : (lookup t.targets target).map declaration =
    (lookup s.targets target).map declaration

instance (s t : Impl) (flow : FlowId) (target : TargetId) :
    Decidable (Undisturbed s t flow target) :=
  decidable_of_iff
    (t.policy = s.policy ∧
      lookup t.assignments flow = lookup s.assignments flow ∧
      lookup t.flows flow = lookup s.flows flow ∧
      (lookup t.targets target).map declaration =
        (lookup s.targets target).map declaration)
    ⟨fun h => ⟨h.1, h.2.1, h.2.2.1, h.2.2.2⟩,
      fun h => ⟨h.policy, h.assignment, h.registration, h.declaration⟩⟩

/-- The flow is on the target, and the target passes the checks that look at
neither its load nor other flows. -/
structure Seated (s : Impl) (flow : FlowDescriptor) (state : TargetState) :
    Prop where
  registered : lookup s.flows flow.flow = some flow
  found : lookup s.targets state.descriptor.target = some state
  assigned : ∃ a, lookup s.assignments flow.flow = some a ∧
    a.target = state.descriptor.target ∧
    a.incarnation = state.descriptor.incarnation
  ready : lifecycleRefusal state = none
  permitted : policyRefusal s.policy flow state.descriptor = none
  offered : state.descriptor.domain = preferredDomain s.policy ∨
    fallbackAllowed s.policy (preferredDomain s.policy)
      state.descriptor.domain = true

theorem lifecycleRefusal_congr {a b : TargetState}
    (h : declaration a = declaration b) :
    lifecycleRefusal a = lifecycleRefusal b := by
  obtain ⟨hdeclared, hdescriptor⟩ := Prod.mk.injEq .. ▸ h
  unfold lifecycleRefusal
  rw [show a.declared = b.declared from hdeclared,
    show a.descriptor = b.descriptor from hdescriptor]

theorem policy_placeLocked (s : Impl) (request : PlacementRequest)
    (answer : Status) :
    (s.placeLocked request answer).1.policy = s.policy := by
  have hstep : HeaderStep (.place request answer) s.header
      (s.placeLocked request answer).1.header :=
    headerStep_placeLocked s request answer
  exact hstep.policy_eq fun _ _ => nofun

/-- A candidate is a fallback when its target is not in the preferred
domain. -/
theorem offered_iff {plan : BatchPlan} {current : Option Assignment}
    {instant : Timestamp} {entry : TargetId × TargetState}
    {candidate : RankedCandidate}
    (h : s.Candidate plan flow current instant entry candidate) :
    Offered s.policy candidate ↔
      entry.2.descriptor.domain = preferredDomain s.policy ∨
        fallbackAllowed s.policy (preferredDomain s.policy)
          entry.2.descriptor.domain = true := by
  have hdomain := h.describes.domain
  rw [Offered, h.key_eq, hdomain]
  dsimp only
  by_cases hpreferred :
      entry.2.descriptor.domain = preferredDomain s.policy
  · simp [hpreferred]
  · simp [hpreferred]

/-- The domain of a chosen target is one that the policy takes. -/
theorem Chosen.offered (hkeyed : ∀ k target,
      lookup s.targets k = some target → target.descriptor.target = k)
    {chosen : CandidateView} (h : s.Chosen request p flow chosen)
    (hfound : lookup s.targets p.target = some state) :
    state.descriptor.domain = preferredDomain s.policy ∨
      fallbackAllowed s.policy (preferredDomain s.policy)
        state.descriptor.domain = true := by
  obtain ⟨own, hown, -, -, hoffered⟩ := h.kept hkeyed
  have hget : s.targets[p.target]? = some state := hfound
  have hflow : s.flows[p.flow]? = some flow := h.registered
  rw [offer, hflow, Option.bind_some, hget, Option.bind_some] at hown
  exact (offered_iff (candidate_of_candidateOf hown)).mp hoffered

/-- The assignment that an accepted placement leaves its flow with. -/
theorem Made.assigned (hkeyed : s.ledger.Keyed)
    (h : s.Made request answer p) :
    ∃ a, lookup (s.placeLocked request answer).1.assignments p.flow = some a ∧
      a.target = p.target ∧ a.incarnation = p.incarnation := by
  obtain ⟨hwet, haccepted, hnew, hmem, hplaced⟩ := h
  obtain ⟨pending, hpending, hannounces, -⟩ :=
    announced_of_placeLocked hkeyed hwet haccepted hnew hmem hplaced
  obtain ⟨flow, chosen, hchosen⟩ := chosen_of_placeLocked hmem hnew hplaced
  obtain ⟨hretains, hreplaces⟩ := @lookup_assignments_of_mem request
    (s.publishedBy request) pending _
    (s.scheduledFor request (s.publishedBy request),
      (s.planOf request).placements)
    (nodup_flow_commits hkeyed request) hpending
  have hassignments : lookup (s.placeLocked request answer).1.assignments =
      lookup ((s.scheduledFor request (s.publishedBy request)).commitBatch
        request (s.publishedBy request)
          (s.planOf request)).1.assignments := by
    rw [(executed_of_accepted hwet haccepted hnew).state]
    exact congrArg Ledger.assignment (ledger_recordRequest _ _ _ _)
  rw [hassignments, hannounces.flow]
  cases hretained : pending.retained with
  | false =>
      obtain ⟨a, ha, hrecords⟩ := hreplaces hretained
      exact ⟨a, ha, hrecords.target.trans hannounces.target.symm,
        hrecords.incarnation.trans hannounces.incarnation.symm⟩
  | true =>
      have hkept := hretains hretained
      rw [(scheduledFor_counters _).2] at hkept
      have hsticky := hchosen.retained.symm.trans
        (hannounces.retained.trans hretained)
      rw [hkeyed.flow _ _ hchosen.registered, hannounces.flow] at hsticky
      cases ha : lookup s.assignments pending.flow with
      | none =>
          rw [ha] at hsticky
          cases hsticky
      | some a =>
          rw [ha] at hsticky
          simp only [stickyOn, Bool.and_eq_true, decide_eq_true_eq] at hsticky
          exact ⟨a, hkept.trans ha, hsticky.1.2.trans hchosen.target.symm,
            hsticky.2.trans hchosen.incarnation.symm⟩

/-- Where an accepted placement leaves its flow. -/
theorem Made.seated (hkeyed : s.ledger.Keyed)
    (h : s.Made request answer p) :
    ∃ flow state, flow.flow = p.flow ∧ flow.generation = p.flowGeneration ∧
      state.descriptor.target = p.target ∧
      (s.placeLocked request answer).1.Seated flow state := by
  have htargets := targets_of_keyed hkeyed
  have hcommitted : s.Committed request answer
      (s.placeLocked request answer).1 :=
    ⟨_, _, (executed_of_accepted h.wet h.accepted h.fresh).state⟩
  obtain ⟨flow, chosen, hchosen⟩ :=
    chosen_of_placeLocked h.mem h.fresh h.placed
  obtain ⟨state, own, hfound, hcandidate, hview⟩ := hchosen.evaluated htargets
  have hevaluated := candidate_of_candidateOf hcandidate
  have hadmitted := admitted_of_evaluateTargetLocked hevaluated.eligible
  have hflow : flow.flow = p.flow := hkeyed.flow _ _ hchosen.registered
  have htarget : state.descriptor.target = p.target := htargets _ _ hfound
  -- the targets are the same up to their cached demand
  obtain ⟨after, hafter, hsame⟩ : ∃ after,
      lookup (s.placeLocked request answer).1.targets p.target = some after ∧
        unscheduled after = unscheduled state := by
    have hentry := hcommitted.sameTargets p.target
    rw [hfound, Option.map_some] at hentry
    exact Option.map_eq_some_iff.mp hentry
  have hdeclared : declaration after = declaration state := by
    have hboth := congrArg declaration hsame
    exact hboth
  have hdescriptor : after.descriptor = state.descriptor :=
    congrArg Prod.snd hdeclared
  refine ⟨flow, after, hflow, hchosen.generation.symm, ?_, ?_⟩
  · rw [hdescriptor, htarget]
  constructor
  case registered =>
    rw [hcommitted.seats.1, hflow]
    exact hchosen.registered
  case found =>
    rw [hdescriptor, htarget]
    exact hafter
  case assigned =>
    obtain ⟨a, ha, hhome, hincarnation⟩ := h.assigned hkeyed
    rw [hdescriptor, hflow, htarget]
    refine ⟨a, ha, hhome, hincarnation.trans ?_⟩
    rw [hchosen.incarnation, hview]
    exact hevaluated.describes.incarnation
  case ready =>
    rw [lifecycleRefusal_congr hdeclared]
    exact hadmitted.1
  case permitted =>
    rw [policy_placeLocked, hdescriptor]
    exact hadmitted.2.1
  case offered =>
    rw [policy_placeLocked, hdescriptor]
    exact hchosen.offered htargets hfound

/-- What has not changed keeps the flow where it is. -/
theorem Seated.of_undisturbed (h : s.Seated flow state)
    (hsame : Undisturbed s t flow.flow state.descriptor.target) :
    ∃ later, later.descriptor = state.descriptor ∧ t.Seated flow later := by
  obtain ⟨later, hlater, hdeclared⟩ : ∃ later,
      lookup t.targets state.descriptor.target = some later ∧
        declaration later = declaration state := by
    have hentry := hsame.declaration
    rw [h.found, Option.map_some] at hentry
    exact Option.map_eq_some_iff.mp hentry
  have hdescriptor : later.descriptor = state.descriptor :=
    congrArg Prod.snd hdeclared
  refine ⟨later, hdescriptor, ?_⟩
  constructor
  case registered => rw [hsame.registration, h.registered]
  case found => rw [hdescriptor, hlater]
  case assigned =>
    rw [hsame.assignment, hdescriptor]
    exact h.assigned
  case ready => rw [lifecycleRefusal_congr hdeclared, h.ready]
  case permitted => rw [hsame.policy, hdescriptor, h.permitted]
  case offered =>
    rw [hsame.policy, hdescriptor]
    exact h.offered

/-! ## One flow alone -/

/-- The request is planned, and it is for the flow alone. -/
structure AsksFor (s : Impl) (request : PlacementRequest) (flow : FlowId)
    (generation : FlowGeneration) : Prop where
  plans : s.plans request = true
  alone : ∃ item, itemsOf request = [item] ∧ item.flow = flow ∧
    (item.flowGeneration.isValid = true → item.flowGeneration = generation)

/-- The flow is retained on the target, and nothing is published. -/
structure Retains (s : Impl) (request : PlacementRequest) (answer : Status)
    (flow : FlowId) (target : TargetId) : Prop where
  accepted : (s.placeLocked request answer).2.accepted = true
  placement : ∃ q ∈ (s.placeLocked request answer).2.placements,
    q.flow = flow ∧ q.accepted = true ∧
      q.outcome = .acceptedStickyRetention ∧ q.target = target
  schedule : (s.placeLocked request answer).1.scheduleGeneration =
    s.scheduleGeneration

/-- The load of the target is known, or need not be, and leaves room for the
flow on top of it. -/
structure HasRoom (s : Impl) (flow : FlowDescriptor) (state : TargetState)
    (instant : Timestamp) : Prop where
  known : (s.effectiveLoadLocked state instant).known = true ∨
    s.policy.allowPlacementWithoutLoadEvidence = true
  fits : ∃ utilisation, capacityVerdict s.policy flow state.descriptor
    (s.assumedLoad state instant) = .ok utilisation

instance (s : Impl) (flow : FlowDescriptor) (state : TargetState)
    (instant : Timestamp) : Decidable (s.HasRoom flow state instant) :=
  decidable_of_iff
    (((s.effectiveLoadLocked state instant).known = true ∨
        s.policy.allowPlacementWithoutLoadEvidence = true) ∧
      (capacityVerdict s.policy flow state.descriptor
        (s.assumedLoad state instant)).toBool = true) (by
    constructor
    · rintro ⟨hknown, hfits⟩
      refine ⟨hknown, ?_⟩
      cases hverdict : capacityVerdict s.policy flow state.descriptor
          (s.assumedLoad state instant) with
      | error reason =>
          rw [hverdict] at hfits
          cases hfits
      | ok utilisation => exact ⟨utilisation, rfl⟩
    · rintro ⟨hknown, utilisation, hverdict⟩
      rw [hverdict]
      exact ⟨hknown, rfl⟩)

@[simp] theorem plannedTarget_initialPlan (id : TargetId)
    (state : TargetState) :
    plannedTarget s.initialPlan id state = state := by
  simp [plannedTarget, initialPlan]

theorem planBefore_of_alone {item : PlacementItem}
    (h : itemsOf request = [item]) :
    s.planBefore request item.flow = s.initialPlan :=
  @planBefore_eq s request item [] [] h

/-- The target of the flow is a candidate again when its locality holds. -/
theorem Seated.offer_isSome_iff (h : s.Seated flow state)
    (halone : s.planBefore request flow.flow = s.initialPlan)
    (hroom : s.HasRoom flow state request.evaluationInstant) :
    (s.offer request flow.flow state.descriptor.target).isSome = true ↔
      s.localityRefusal flow state.descriptor = none := by
  have hget : s.targets[state.descriptor.target]? = some state := h.found
  have hflow : s.flows[flow.flow]? = some flow := h.registered
  rw [offer, hflow, Option.bind_some, hget, Option.bind_some,
    candidateOf_isSome_iff, halone, plannedTarget_initialPlan,
    evaluateTargetLocked_eq_ok_iff]
  exact ⟨fun hok => hok.1.2.2, fun hlocality =>
    ⟨⟨h.ready, h.permitted, hlocality⟩, hroom.known, hroom.fits⟩⟩

/-- If the target of the flow is a candidate, the policy takes it. -/
theorem Seated.offered_of_offer (h : s.Seated flow state)
    {own : RankedCandidate}
    (hown : own ∈ s.offer request flow.flow state.descriptor.target) :
    Offered s.policy own := by
  have hget : s.targets[state.descriptor.target]? = some state := h.found
  have hflow : s.flows[flow.flow]? = some flow := h.registered
  rw [offer, hflow, Option.bind_some, hget, Option.bind_some] at hown
  exact (offered_iff (candidate_of_candidateOf hown)).mpr h.offered

/-- Under a sticky policy the target of a flow is its one sticky candidate. -/
theorem Seated.sticky_iff (h : s.Seated flow state)
    (hsticky : s.policy.sticky = true)
    (hkeyed : ∀ k target,
      lookup s.targets k = some target → target.descriptor.target = k)
    {own : RankedCandidate} (hown : own ∈ s.offers request flow.flow) :
    own.key.sticky = 0 ↔ own.view.target = state.descriptor.target := by
  obtain ⟨a, ha, hhome, hincarnation⟩ := h.assigned
  obtain ⟨id, hoffer⟩ := mem_offers_iff.mp hown
  have hid := (target_of_offer hkeyed hoffer).1
  have hflow : s.flows[flow.flow]? = some flow := h.registered
  rw [offer, hflow, Option.bind_some] at hoffer
  obtain ⟨found, hfound, hcandidate⟩ := Option.bind_eq_some_iff.mp hoffer
  have hcandidate := candidate_of_candidateOf hcandidate
  have hview : stickyOn s.policy s.assignments[flow.flow]? own.view =
      (decide (a.target = own.view.target) &&
        decide (a.incarnation = own.view.incarnation)) := by
    rw [show s.assignments[flow.flow]? = some a from ha]
    simp [stickyOn, hsticky]
  rw [hcandidate.key_eq, hview, hhome, hincarnation]
  constructor
  · intro hzero
    by_contra hne
    simp [Ne.symm hne] at hzero
  · intro hsame
    have hstate : found = state := by
      have hfound : lookup s.targets id = some found := hfound
      rw [← hid, hsame, h.found, Option.some.injEq] at hfound
      exact hfound.symm
    have hdescribes := hcandidate.describes.incarnation
    rw [hstate] at hdescribes
    simp [hsame, hdescribes]

/-- Among the kept candidates the sticky one comes first. -/
theorem Seated.eq_of_best (h : s.Seated flow state)
    (hsticky : s.policy.sticky = true)
    (hkeyed : ∀ k target,
      lookup s.targets k = some target → target.descriptor.target = k)
    {own first : RankedCandidate}
    (hown : own ∈ s.offer request flow.flow state.descriptor.target)
    (hkept : own ∈ (s.offers request flow.flow).take kMaxRankedCandidates)
    (hfirst : first ∈ (s.offers request flow.flow).take kMaxRankedCandidates)
    (hbest : Best ((s.offers request flow.flow).take kMaxRankedCandidates)
      first) : first = own := by
  have howns := List.mem_of_mem_take hkept
  have hfirsts := List.mem_of_mem_take hfirst
  have hzero : own.key.sticky = 0 :=
    (h.sticky_iff hsticky hkeyed howns).mpr (target_of_offer hkeyed hown).1
  have hfirstZero : first.key.sticky = 0 := by
    by_contra hne
    exact hbest own hkept
      (compareRank_neg_iff.mpr (rankWeight_lt_of_sticky hzero hne))
  have htarget := (h.sticky_iff hsticky hkeyed hfirsts).mp hfirstZero
  refine offer_eq_of_target hkeyed hfirsts howns ?_
  obtain ⟨id, hoffer⟩ := mem_offers_iff.mp hfirsts
  have hid := target_of_offer hkeyed hoffer
  rw [(target_of_offer hkeyed hown).2, hid.2, ← htarget, hid.1]

/-- A planned request that changes nothing is accepted, and publishes
nothing. -/
theorem schedule_of_unchanged (h : s.plans request = true)
    (hchange : (s.planOf request).anyChange = false) (answer : Status) :
    (s.placeLocked request answer).2.accepted = true ∧
      (s.placeLocked request answer).1.scheduleGeneration =
        s.scheduleGeneration := by
  rw [placeLocked_of_plans h]
  unfold executeRequest
  dsimp only
  rw [← planOf, hchange]
  simp only [Bool.false_and, Bool.false_eq_true, if_false]
  split
  · exact ⟨rfl, rfl⟩
  · refine ⟨rfl, ?_⟩
    have hscheduled : s.withPlan (s.planOf request) =
        s.scheduledFor request s.scheduleGeneration := by
      simp [scheduledFor, hchange]
    rw [hscheduled]
    generalize batchResult _ _ _ _ _ = result
    have hcommitted : s.Committed request answer
        (((s.scheduledFor request s.scheduleGeneration).commitBatch request
          s.scheduleGeneration (s.planOf request)).1.recordRequest request
            result answer) := ⟨_, _, rfl⟩
    exact congrArg DurableState.scheduleGeneration
      (hcommitted.content_eq hchange)

/--
A flow that a sticky policy has on a target with room for it is retained there
when it is placed again alone, exactly when no other flow holds its state and
its locality still asks for that target.
-/
theorem Seated.retains_iff (hkeyed : s.ledger.Keyed)
    (h : s.Seated flow state) (hsticky : s.policy.sticky = true)
    (hasks : s.AsksFor request flow.flow flow.generation)
    (hroom : s.HasRoom flow state request.evaluationInstant)
    (hkept : ∀ own ∈ s.offer request flow.flow state.descriptor.target,
      own ∈ (s.offers request flow.flow).take kMaxRankedCandidates) :
    s.Retains request answer flow.flow state.descriptor.target ↔
      s.conflictingHolder flow = none ∧
        s.localityRefusal flow state.descriptor = none := by
  have htargets := targets_of_keyed hkeyed
  obtain ⟨item, halone, hflow, hgeneration⟩ := hasks.alone
  have hbefore : s.planBefore request flow.flow = s.initialPlan := by
    rw [← hflow]
    exact planBefore_of_alone halone
  have hnew := @duplicate_of_plans s request answer hasks.plans
  constructor
  · intro hretains
    obtain ⟨q, hmem, hid, hplaced, -, htarget⟩ := hretains.placement
    obtain ⟨registered, chosen, hchosen⟩ :=
      chosen_of_placeLocked hmem hnew hplaced
    have hsame : registered = flow := by
      have hregistered := hchosen.registered
      rw [hid, h.registered, Option.some.injEq] at hregistered
      exact hregistered.symm
    subst hsame
    obtain ⟨other, haccepts⟩ := hchosen.accepts
    refine ⟨haccepts.holder, ?_⟩
    obtain ⟨own, hown, -⟩ := hchosen.kept htargets
    rw [hid, htarget] at hown
    refine (h.offer_isSome_iff hbefore hroom).mp ?_
    rw [hown]
    rfl
  · rintro ⟨hholder, hlocality⟩
    obtain ⟨own, hown⟩ := Option.isSome_iff_exists.mp
      ((h.offer_isSome_iff hbefore hroom).mpr hlocality)
    have hchecked : s.Checked item flow :=
      ⟨by rw [hflow]; exact h.registered, hgeneration, hholder⟩
    have hmemItem : item ∈ itemsOf request := by
      rw [halone]
      exact List.mem_singleton.mpr rfl
    obtain ⟨q, hmem, hreported⟩ :=
      @reported_of_plans s request item hasks.plans hmemItem answer
    have hoffers := @offers_eq s request flow _ h.registered
    have hfirst : own ∈ (sortRanked ((s.offers request flow.flow).take
        kMaxRankedCandidates)).head? := by
      obtain ⟨first, hhead, hfirst, hbest⟩ :=
        exists_head_sortRanked (List.ne_nil_of_mem (hkept own hown))
      rw [← h.eq_of_best hsticky htargets hown (hkept own hown) hfirst hbest]
      exact hhead
    have hplaced : q.accepted = true := by
      rw [hreported.accepted, accepted_placementFor_iff hchecked, hflow,
        ← hoffers]
      exact ⟨own, hfirst, h.offered_of_offer hown⟩
    obtain ⟨registered, chosen, hchosen⟩ := hreported.chosen hplaced
    have hid : q.flow = flow.flow := hreported.flow.trans hflow
    -- the sticky candidate is kept, so the flow stays
    have hretained : q.retained = true := by
      rw [hchosen.retained_eq htargets, hid, stays, List.any_eq_true]
      refine ⟨own, hkept own hown, decide_eq_true ?_⟩
      exact (h.sticky_iff hsticky htargets
        (List.mem_of_mem_take (hkept own hown))).mpr
          (target_of_offer htargets hown).1
    have htarget : q.target = state.descriptor.target := by
      obtain ⟨first, hoffer, hmember, hbest, -⟩ := hchosen.kept htargets
      rw [hid] at hoffer hmember hbest
      have hsame := h.eq_of_best hsticky htargets hown (hkept own hown)
        hmember hbest
      rw [← (target_of_offer htargets hoffer).1, hsame,
        (target_of_offer htargets hown).1]
    have hchange : (s.planOf request).anyChange = false := by
      have hplanned := hreported.planned
      rw [hflow, hbefore] at hplanned
      have hkeeps : (s.placementFor request s.initialPlan item).retained =
          true := by
        rw [← hretained, hplanned]
      rw [planOf, planBatch, halone, List.foldl_cons, List.foldl_nil,
        anyChange_planItem_eq, hkeeps]
      simp [initialPlan]
    obtain ⟨haccepted, hschedule⟩ :=
      schedule_of_unchanged hasks.plans hchange answer
    refine ⟨haccepted, ⟨q, hmem, hid, hplaced, ?_, htarget⟩, hschedule⟩
    rw [hchosen.outcome, hretained]
    rfl

/-! ## In every run -/

/-- A flow was placed under a sticky policy, it and its target are as they
were, and it is asked for again. -/
structure PlacedAgain (s t : Impl) (first again : PlacementRequest)
    (answer : Status) (p : FlowPlacement) : Prop where
  made : s.Made first answer p
  undisturbed : Undisturbed (s.placeLocked first answer).1 t p.flow p.target
  sticky : t.policy.sticky = true
  asks : t.AsksFor again p.flow p.flowGeneration

/--
A flow that is placed again, with nothing changed about it and its target, is
retained there exactly when no other flow holds its state and its locality
still asks for that target; as long as its target has room for the flow on top
of the load it is taken to have, and is one of the candidates that the loop
keeps.
-/
theorem placed_again_is_retained_iff (config : EngineConfig)
    (before later : List Op) (first again : PlacementRequest)
    (answer repeated : Status) (p : FlowPlacement) (s t : Impl)
    (h : engine.Admits (fun _ _ => True) (init config [])
      (before ++ .place first answer :: later))
    (hs : engine.run (init config []) before = s)
    (ht : engine.run (init config []) (before ++ .place first answer :: later) =
      t)
    (hagain : PlacedAgain s t first again answer p)
    (flow : FlowDescriptor) (state : TargetState)
    (hflow : lookup t.flows p.flow = some flow)
    (hstate : lookup t.targets p.target = some state)
    (hroom : t.HasRoom flow state again.evaluationInstant)
    (hkept : ∀ own ∈ t.offer again p.flow p.target,
      own ∈ (t.offers again p.flow).take kMaxRankedCandidates) :
    t.Retains again repeated p.flow p.target ↔
      t.conflictingHolder flow = none ∧
        t.localityRefusal flow state.descriptor = none := by
  obtain ⟨hmade, hsame, hsticky, hasks⟩ := hagain
  have hkeyed : s.ledger.Keyed := by
    rw [← hs]
    exact keyed_of_run (engine.admits_append.mp h).1
  have hkeyed' : t.ledger.Keyed := by
    rw [← ht]
    exact keyed_of_run h
  obtain ⟨registered, seat, hid, hgeneration, htarget, hseated⟩ :=
    hmade.seated hkeyed
  rw [← hid, ← htarget] at hsame
  obtain ⟨after, hdescriptor, hafter⟩ := hseated.of_undisturbed hsame
  rw [← hdescriptor] at htarget
  have hregistered : registered = flow := by
    have hfound := hafter.registered
    rw [hid, hflow, Option.some.injEq] at hfound
    exact hfound.symm
  have hseat : after = state := by
    have hfound := hafter.found
    rw [htarget, hstate, Option.some.injEq] at hfound
    exact hfound.symm
  subst hregistered hseat
  rw [← hid, ← hgeneration] at hasks
  rw [← hid, ← htarget] at hkept ⊢
  exact hafter.retains_iff hkeyed' hsticky hasks hroom hkept

/-! ## Runs -/

/-- A flow and a host with fresh evidence. -/
def freshHost (demand : UInt64) : List Op :=
  [.openEngine {} committed, .setPolicy (samplePolicy true) committed,
    .declareTarget (sampleHost 1) committed,
    .registerFlow (plainFlow 1 demand) committed,
    .ingestLoad (Feed.sampleLoad 1 1)]

/-- The flow is placed, and another host is declared. -/
def hostJoins (demand : UInt64) : List Op :=
  freshHost demand ++ .place (sampleRequest 1 1 [1]) committed ::
    [.declareTarget (sampleHost 2) committed]

def beforeSeat : Impl := engine.run (init sampleConfig []) (freshHost 10)

def afterJoin : Impl := engine.run (init sampleConfig []) (hostJoins 10)

/-- There is room on the host for the flow twice. -/
theorem light_flow_is_retained :
    afterJoin.Retains (sampleRequest 2 1 [1]) committed ⟨1⟩ ⟨1⟩ := by
  obtain ⟨hadmits, haccepted, hfresh, ⟨p, hmem, hplaced, hflow, htarget⟩,
    hsame, hsticky, hplans, halone, hregistered, hstate, hroom, hlocality,
    hkept⟩ :
      engine.Admits (fun _ _ => True) (init sampleConfig [])
          (freshHost 10 ++ .place (sampleRequest 1 1 [1]) committed ::
            [.declareTarget (sampleHost 2) committed]) ∧
        (beforeSeat.placeLocked (sampleRequest 1 1 [1])
          committed).2.accepted = true ∧
        (beforeSeat.placeLocked (sampleRequest 1 1 [1])
          committed).2.duplicate = false ∧
        (∃ p ∈ (beforeSeat.placeLocked (sampleRequest 1 1 [1])
            committed).2.placements,
          p.accepted = true ∧ p.flow = ⟨1⟩ ∧ p.target = ⟨1⟩) ∧
        Undisturbed (beforeSeat.placeLocked (sampleRequest 1 1 [1])
          committed).1 afterJoin ⟨1⟩ ⟨1⟩ ∧
        afterJoin.policy.sticky = true ∧
        afterJoin.plans (sampleRequest 2 1 [1]) = true ∧
        itemsOf (sampleRequest 2 1 [1]) = [{ flow := ⟨1⟩ }] ∧
        lookup afterJoin.flows ⟨1⟩ = some (plainFlow 1 10) ∧
        (lookup afterJoin.targets ⟨1⟩).isSome = true ∧
        ((lookup afterJoin.targets ⟨1⟩).all fun state =>
          afterJoin.HasRoom (plainFlow 1 10) state ⟨1⟩) = true ∧
        ((lookup afterJoin.targets ⟨1⟩).all fun state =>
          afterJoin.localityRefusal (plainFlow 1 10) state.descriptor =
            none) = true ∧
        ∀ own ∈ afterJoin.offer (sampleRequest 2 1 [1]) ⟨1⟩ ⟨1⟩,
          own ∈ (afterJoin.offers (sampleRequest 2 1 [1]) ⟨1⟩).take
            kMaxRankedCandidates := by
    decide +kernel
  obtain ⟨state, hstate⟩ := Option.isSome_iff_exists.mp hstate
  rw [hstate, Option.all_some, decide_eq_true_eq] at hroom hlocality
  rw [← hflow] at halone
  rw [← hflow, ← htarget] at hsame hkept ⊢
  rw [← hflow] at hregistered
  rw [← htarget] at hstate
  exact (placed_again_is_retained_iff sampleConfig (freshHost 10)
    [.declareTarget (sampleHost 2) committed] (sampleRequest 1 1 [1])
    (sampleRequest 2 1 [1]) committed committed p beforeSeat afterJoin hadmits
    rfl rfl ⟨⟨rfl, haccepted, hfresh, hmem, hplaced⟩, hsame, hsticky, hplans,
      _, halone, rfl, nofun⟩ (plainFlow 1 10) state hregistered hstate hroom
    hkept).mpr ⟨rfl, hlocality⟩

/-- The other assignments on a target. -/
def neighbours (s : Impl) (flow : FlowId) (target : TargetId) :
    List (FlowId × Assignment) :=
  s.assignments.toList.filter fun entry =>
    entry.1 ≠ flow && entry.2.target = target

/-- The load evidence of the target is as it was and still fresh, and so are
the other assignments on it. -/
structure AsBefore (s t : Impl) (instant : Timestamp) (p : FlowPlacement) :
    Prop where
  evidence : (lookup t.targets p.target).map unscheduled =
    (lookup s.targets p.target).map unscheduled
  neighbours : t.neighbours p.flow p.target = s.neighbours p.flow p.target
  current : ∃ state, lookup t.targets p.target = some state ∧
    t.Current state instant

/-- A flow that is placed again as it was is not retained. -/
def Unseats (before later : List Op) (first again : PlacementRequest) :
    Prop :=
  engine.Admits (fun _ _ => True) (init sampleConfig [])
      (before ++ .place first committed :: later) ∧
    ∃ p, PlacedAgain (engine.run (init sampleConfig []) before)
        (engine.run (init sampleConfig [])
          (before ++ .place first committed :: later)) first again
        committed p ∧
      AsBefore ((engine.run (init sampleConfig []) before).placeLocked first
          committed).1
        (engine.run (init sampleConfig [])
          (before ++ .place first committed :: later))
        again.evaluationInstant p ∧
      ¬ (engine.run (init sampleConfig [])
          (before ++ .place first committed :: later)).Retains again committed
        p.flow p.target

/-- A flow is next to its anchor, on another target of the same host. -/
def besideAnchor : List Op :=
  [.openEngine {} committed, .setPolicy (samplePolicy true) committed,
    .declareTarget { sampleHost 1 with costClass := .premium } committed,
    .registerFlow (plainFlow 1 10) committed,
    .place (sampleRequest 1 1 [1]) committed,
    .declareTarget { sampleHost 2 with
      host := ⟨1⟩
      costClass := .standard } committed,
    .registerFlow anchoredFlow committed,
    .ingestLoad { Feed.sampleLoad 1 1 with target := ⟨2⟩ }]

/-- The target of the anchor is drained, and the anchor moves to a host that
has joined. -/
def anchorLeaves : List Op :=
  [.declareTarget (sampleHost 3) committed,
    .declareTarget { sampleHost 1 with
      costClass := .premium
      lifecycle := .draining } committed,
    .place (sampleRequest 3 1 [1]) committed]

/-- What there is to check of such a run. -/
theorem unseats_of_checks {before later : List Op}
    {first again : PlacementRequest} {item : PlacementItem}
    {target : TargetId} {s t : Impl}
    (hs : engine.run (init sampleConfig []) before = s)
    (ht : engine.run (init sampleConfig [])
      (before ++ .place first committed :: later) = t)
    (h : engine.Admits (fun _ _ => True) (init sampleConfig [])
        (before ++ .place first committed :: later) ∧
      first.dryRun = false ∧
      (s.placeLocked first committed).2.accepted = true ∧
      (s.placeLocked first committed).2.duplicate = false ∧
      (∃ p ∈ (s.placeLocked first committed).2.placements,
        p.accepted = true ∧ p.flow = item.flow ∧ p.target = target) ∧
      Undisturbed (s.placeLocked first committed).1 t item.flow target ∧
      t.policy.sticky = true ∧ t.plans again = true ∧
      itemsOf again = [item] ∧ item.flowGeneration.isValid = false ∧
      (lookup t.targets target).map unscheduled =
        (lookup (s.placeLocked first committed).1.targets target).map
          unscheduled ∧
      t.neighbours item.flow target =
        (s.placeLocked first committed).1.neighbours item.flow target ∧
      ((lookup t.targets target).any fun state =>
        t.observedKnown state again.evaluationInstant) = true ∧
      ((t.placeLocked again committed).2.placements.all fun q =>
        q.target ≠ target) = true) :
    Unseats before later first again := by
  obtain ⟨hadmits, hwet, haccepted, hfresh, ⟨p, hmem, hplaced, hflow, rfl⟩,
    hsame, hsticky, hplans, halone, hany, hevidence, hneighbours, hcurrent,
    hmoved⟩ := h
  rw [← hflow] at hsame hneighbours
  subst hs ht
  refine ⟨hadmits, p, ⟨⟨hwet, haccepted, hfresh, hmem, hplaced⟩, hsame,
    hsticky, hplans, item, halone, hflow.symm, ?_⟩,
    ⟨hevidence, hneighbours, ?_⟩, ?_⟩
  · rw [hany]
    exact nofun
  · obtain ⟨state, hstate, hknown⟩ := (Option.any_eq_true ..).mp hcurrent
    exact ⟨state, hstate, current_of_observedKnown hknown⟩
  · intro hretains
    obtain ⟨q, hq, -, -, -, htarget⟩ := hretains.placement
    have hne := List.all_eq_true.mp hmoved q hq
    simp [htarget] at hne

/-- A host that holds the flow once has no room for it twice, and a flow leaves
its target for the host of its anchor. -/
theorem unchanged_flows_are_moved :
    Unseats (freshHost 60) [.declareTarget (sampleHost 2) committed]
        (sampleRequest 1 1 [1]) (sampleRequest 2 1 [1]) ∧
      Unseats besideAnchor anchorLeaves (sampleRequest 2 1 [2])
        (sampleRequest 4 1 [2]) := by
  constructor
  · refine @unseats_of_checks _ _ _ _ { flow := ⟨1⟩ } ⟨1⟩ _ _ rfl rfl ?_
    decide +kernel
  · refine @unseats_of_checks _ _ _ _ { flow := ⟨2⟩ } ⟨2⟩ _ _ rfl rfl ?_
    decide +kernel

end Impl

end FlowOffload

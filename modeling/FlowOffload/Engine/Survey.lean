import FlowOffload.Engine.Reports

/-!
# The candidates of an item

The candidate loop looks at every target in identity order and keeps the first
ones that evaluate to `Ok`, up to the bound on ranked candidates.  What a
request reports of a flow is decided against the plan of the items before it.
-/

namespace FlowOffload

open Foundation
open Std (ExtTreeMap)

namespace Impl

variable {s : Impl} {request : PlacementRequest} {plan : BatchPlan}
  {flow : FlowDescriptor} {current : Option Assignment} {instant : Timestamp}

/-! ## One target -/

/-- The view of a target as the loop records it. -/
def surveyedView (s : Impl) (plan : BatchPlan) (flow : FlowDescriptor)
    (instant : Timestamp) (entry : TargetId × TargetState) : CandidateView :=
  let evaluated := s.evaluateTargetLocked flow
    (plannedTarget plan entry.1 entry.2) instant
  { evaluated.2 with
    eligible := evaluated.1 = ReasonCode.ok
    reason := evaluated.1 }

/-- The candidate that a target is for a flow, if it evaluates to `Ok`. -/
def candidateOf (s : Impl) (plan : BatchPlan) (flow : FlowDescriptor)
    (current : Option Assignment) (instant : Timestamp)
    (entry : TargetId × TargetState) : Option RankedCandidate :=
  let view := s.surveyedView plan flow instant entry
  if view.eligible then
    (keyFor view (stickyOn s.policy current view)
      (preferredDomain s.policy)).map fun key => ⟨key, view⟩
  else none

/-- The candidates of a flow in identity order, however many there are. -/
def eligibles (s : Impl) (plan : BatchPlan) (flow : FlowDescriptor)
    (current : Option Assignment) (instant : Timestamp) :
    List RankedCandidate :=
  s.targets.toList.filterMap (s.candidateOf plan flow current instant)

theorem costClass_evaluateCapacity (policy : Policy) (flow : FlowDescriptor)
    (descriptor : TargetDescriptor) (used : CapacityVector)
    (view : CandidateView) :
    (evaluateCapacity policy flow descriptor used view).2.costClass =
      view.costClass := by
  unfold evaluateCapacity
  split <;> rfl

theorem costClass_evaluateTargetLocked (s : Impl) (flow : FlowDescriptor)
    (target : TargetState) (instant : Timestamp) :
    (s.evaluateTargetLocked flow target instant).2.costClass =
      target.descriptor.costClass := by
  unfold evaluateTargetLocked
  dsimp only
  split
  · rfl
  · split
    · rfl
    · exact costClass_evaluateCapacity _ _ _ _ _

/-- A check that refuses is passed when its condition does not hold. -/
theorem passes_iff {c : Prop} [Decidable c] {code : ReasonCode}
    {rest : Option ReasonCode} :
    (if c then some code else rest) = none ↔ ¬ c ∧ rest = none := by
  split
  next h => simp [h]
  next h => simp [h]

theorem costClass_of_policyRefusal {policy : Policy}
    {descriptor : TargetDescriptor}
    (h : policyRefusal policy flow descriptor = none) :
    descriptor.costClass ≠ .unknown := by
  simp only [policyRefusal, passes_iff] at h
  intro hunknown
  simp [hunknown] at h

/-- A target is a candidate exactly when it evaluates to `Ok`. -/
theorem candidateOf_isSome_iff {entry : TargetId × TargetState} :
    (s.candidateOf plan flow current instant entry).isSome = true ↔
      (s.evaluateTargetLocked flow (plannedTarget plan entry.1 entry.2)
        instant).1 = .ok := by
  unfold candidateOf surveyedView
  dsimp only
  constructor
  · intro h
    split at h
    next heligible => simpa using heligible
    next => cases h
  · intro hok
    obtain ⟨-, hpolicy, -⟩ := admitted_of_evaluateTargetLocked hok
    have hcost := costClass_of_policyRefusal hpolicy
    rw [if_pos (by simpa using hok), Option.isSome_map, keyFor, if_neg]
    · rfl
    · rw [costClass_evaluateTargetLocked]
      exact hcost

/-- The fields of a candidate that come from its target. -/
theorem candidate_of_candidateOf {entry : TargetId × TargetState}
    {candidate : RankedCandidate}
    (h : s.candidateOf plan flow current instant entry = some candidate) :
    s.Candidate plan flow current instant entry candidate := by
  have hdescribes := describes_evaluateTargetLocked s flow
    (plannedTarget plan entry.1 entry.2) instant
  unfold candidateOf at h
  dsimp only at h
  split at h
  next heligible =>
    obtain ⟨key, hkey, rfl⟩ := Option.map_eq_some_iff.mp h
    refine ⟨by simpa [surveyedView] using heligible, ?_, hkey⟩
    exact ⟨hdescribes.target, hdescribes.incarnation, hdescribes.capability,
      hdescribes.domain⟩
  next => cases h

theorem costClass_of_candidateOf {entry : TargetId × TargetState}
    {candidate : RankedCandidate}
    (h : s.candidateOf plan flow current instant entry = some candidate) :
    candidate.view.costClass = entry.2.descriptor.costClass := by
  have hcost := costClass_evaluateTargetLocked s flow
    (plannedTarget plan entry.1 entry.2) instant
  unfold candidateOf at h
  dsimp only at h
  split at h
  · obtain ⟨key, hkey, rfl⟩ := Option.map_eq_some_iff.mp h
    exact hcost
  · cases h

/-- The rank key of a candidate. -/
theorem Candidate.key_eq {entry : TargetId × TargetState}
    {candidate : RankedCandidate}
    (h : s.Candidate plan flow current instant entry candidate) :
    candidate.key =
      { sticky := if stickyOn s.policy current candidate.view then 0 else 1
        domainRank :=
          if candidate.view.domain = preferredDomain s.policy then 0 else 1
        costRank := EnumTraits.wire candidate.view.costClass
        utilisationPpm := candidate.view.utilisationPpm
        target := candidate.view.target.value } := by
  have hkey := h.key
  unfold keyFor at hkey
  split at hkey
  · cases hkey
  · exact (Option.some.inj hkey).symm

/-! ## The loop -/

theorem surveyTarget_eq (survey : Survey) (entry : TargetId × TargetState) :
    s.surveyTarget plan flow current instant survey entry =
      if (s.surveyedView plan flow instant entry).eligible then
        match keyFor (s.surveyedView plan flow instant entry)
            (stickyOn s.policy current
              (s.surveyedView plan flow instant entry))
            (preferredDomain s.policy) with
        | none => survey.refuse
            { s.surveyedView plan flow instant entry with
              eligible := false
              reason := .rejectedPolicyCostClass }
        | some key =>
            if survey.ranked.length < kMaxRankedCandidates then
              { survey with
                ranked := survey.ranked ++
                  [⟨key, s.surveyedView plan flow instant entry⟩] }
            else survey
      else survey.refuse (s.surveyedView plan flow instant entry) := rfl

/-- One iteration takes the candidate of its target while there is room. -/
theorem ranked_surveyTarget_eq (survey : Survey)
    (entry : TargetId × TargetState) :
    (s.surveyTarget plan flow current instant survey entry).ranked =
      match s.candidateOf plan flow current instant entry with
      | none => survey.ranked
      | some candidate =>
          if survey.ranked.length < kMaxRankedCandidates then
            survey.ranked ++ [candidate]
          else survey.ranked := by
  rw [surveyTarget_eq]
  unfold candidateOf
  dsimp only
  cases heligible : (s.surveyedView plan flow instant entry).eligible with
  | false =>
      simp only [Bool.false_eq_true, if_false]
      exact ranked_refuse _ _
  | true =>
      simp only [if_true]
      cases hkey : keyFor (s.surveyedView plan flow instant entry)
          (stickyOn s.policy current (s.surveyedView plan flow instant entry))
          (preferredDomain s.policy) with
      | none => exact ranked_refuse _ _
      | some key =>
          simp only [Option.map_some]
          split <;> rfl

theorem ranked_foldl_surveyTarget (entries : List (TargetId × TargetState))
    (survey : Survey) :
    (entries.foldl (s.surveyTarget plan flow current instant) survey).ranked =
      survey.ranked ++ (entries.filterMap
        (s.candidateOf plan flow current instant)).take
          (kMaxRankedCandidates - survey.ranked.length) := by
  induction entries generalizing survey with
  | nil => simp
  | cons entry entries ih =>
      rw [List.foldl_cons, ih, ranked_surveyTarget_eq, List.filterMap_cons]
      cases s.candidateOf plan flow current instant entry with
      | none => rfl
      | some candidate =>
          dsimp only
          split
          next hroom =>
            obtain ⟨room, hroom⟩ : ∃ room, kMaxRankedCandidates -
                survey.ranked.length = room + 1 :=
              ⟨kMaxRankedCandidates - survey.ranked.length - 1, by omega⟩
            have hless : kMaxRankedCandidates -
                (survey.ranked ++ [candidate]).length = room := by
              rw [List.length_append, List.length_singleton]
              omega
            rw [hless, hroom, List.take_succ_cons, List.append_assoc,
              List.singleton_append]
          next hfull =>
            have hnone : kMaxRankedCandidates - survey.ranked.length = 0 := by
              omega
            rw [hnone, List.take_zero, List.take_zero]

/-- The loop ranks the first candidates in identity order, up to the bound. -/
theorem ranked_surveyTargets (s : Impl) (plan : BatchPlan)
    (flow : FlowDescriptor) (current : Option Assignment)
    (instant : Timestamp) :
    (s.surveyTargets plan flow current instant).ranked =
      (s.eligibles plan flow current instant).take kMaxRankedCandidates := by
  rw [surveyTargets, ranked_foldl_surveyTarget]
  rfl

theorem mem_eligibles_iff {candidate : RankedCandidate} :
    candidate ∈ s.eligibles plan flow current instant ↔
      ∃ id state, lookup s.targets id = some state ∧
        s.candidateOf plan flow current instant (id, state) =
          some candidate := by
  rw [eligibles, List.mem_filterMap]
  constructor
  · rintro ⟨entry, hentry, hcandidate⟩
    exact ⟨entry.1, entry.2, lookup_eq_some_iff_mem_toList.mpr hentry,
      hcandidate⟩
  · rintro ⟨id, state, hfound, hcandidate⟩
    exact ⟨(id, state), lookup_eq_some_iff_mem_toList.mp hfound, hcandidate⟩

end Impl

end FlowOffload

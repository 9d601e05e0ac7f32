import FlowOffload.Laws.Ranking

/-!
# Fallback

The fallback policy is applied to the best candidate only.  Stickiness ranks
before the execution domain, so a flow that is on a target outside the domains
it may use is refused rather than moved, as long as that target is eligible.
-/

namespace FlowOffload

open Foundation

namespace Impl

variable {s : Impl} {request : PlacementRequest} {item : PlacementItem}
  {flow : FlowDescriptor}

/-! ## Admissible domains -/

/-- The domain is the preferred one, or the policy allows to fall back to
it. -/
def admissible (policy : Policy) (domain : ExecutionDomain) : Bool :=
  domain = preferredDomain policy ||
    fallbackAllowed policy (preferredDomain policy) domain

/-- The policy takes the candidates in admissible domains. -/
theorem offered_iff_admissible {plan : BatchPlan} {current : Option Assignment}
    {instant : Timestamp} {entry : TargetId × TargetState}
    {candidate : RankedCandidate}
    (h : s.Candidate plan flow current instant entry candidate) :
    Offered s.policy candidate ↔
      admissible s.policy candidate.view.domain = true := by
  rw [Offered, h.key_eq, admissible, Bool.or_eq_true, decide_eq_true_eq]
  refine or_congr ?_ Iff.rfl
  dsimp only
  split
  next hpreferred => simp [hpreferred]
  next hother => simp [hother]

/-- Two domains that are known and not preferred are one domain, or every
domain is admissible. -/
theorem admissible_congr {policy : Policy} {a b : ExecutionDomain}
    (ha : a ≠ .unknown) (hb : b ≠ .unknown) (ha' : a ≠ preferredDomain policy)
    (hb' : b ≠ preferredDomain policy) :
    admissible policy a = admissible policy b := by
  unfold admissible fallbackAllowed
  generalize preferredDomain policy = preferred at ha' hb' ⊢
  cases preferred <;> cases a <;> cases b <;> simp_all

/-- The domain ranks above all that follows it. -/
theorem rankWeight_lt_of_domain {a b : RankKey} (hsticky : b.sticky = 1)
    (ha : a.domainRank = 0 ∧ a.sticky ≤ 1) (hb : b.domainRank = 1) :
    rankWeight a < rankWeight b := by
  have hcost := a.costRank.toNat_lt
  have hload := a.utilisationPpm.toNat_lt
  have htarget := a.target.toNat_lt
  have hkept := UInt8.le_iff_toNat_le.mp ha.2
  have hone : (1 : UInt8).toNat = 1 := rfl
  have hzero : (0 : UInt8).toNat = 0 := rfl
  unfold rankWeight
  rw [hsticky, ha.1, hb]
  omega

/-! ## Offers -/

/-- An offer is the candidate of a target that may be used. -/
structure Offers (s : Impl) (request : PlacementRequest) (id : FlowId)
    (flow : FlowDescriptor) (candidate : RankedCandidate) : Prop where
  domain : candidate.view.domain ≠ .unknown
  candidate : ∃ entry, s.Candidate (s.planBefore request id) flow
    (lookup s.assignments flow.flow) request.evaluationInstant entry candidate

theorem offers_of_mem (hdeclares : s.DeclaresDescribed) {id : FlowId}
    (hflow : lookup s.flows id = some flow) {candidate : RankedCandidate}
    (h : candidate ∈ s.offers request id) :
    s.Offers request id flow candidate := by
  rw [offers_eq hflow, mem_eligibles_iff] at h
  obtain ⟨target, state, hfound, hcandidate⟩ := h
  have hof := candidate_of_candidateOf hcandidate
  refine ⟨?_, _, hof⟩
  rw [hof.describes.domain]
  have hready := ready_of_evaluateTargetLocked hof.eligible
  exact (hdeclares.described hfound hready).domain

/--
When the best offer is not taken, it is on the target that the flow is on, or
no other offer is better in its domain.
-/
theorem offered_of_best (hdeclares : s.DeclaresDescribed) {id : FlowId}
    (hflow : lookup s.flows id = some flow) {leader other : RankedCandidate}
    (hleader : leader ∈ s.offers request id)
    (hbest : Best (s.offers request id) leader)
    (hsticky : stickyOn s.policy (lookup s.assignments flow.flow)
      leader.view = true → admissible s.policy leader.view.domain = true)
    (hother : other ∈ s.offers request id)
    (hadmissible : admissible s.policy other.view.domain = true) :
    admissible s.policy leader.view.domain = true := by
  obtain ⟨hknown, entry, hof⟩ := offers_of_mem hdeclares hflow hleader
  obtain ⟨hknown', entry', hof'⟩ := offers_of_mem hdeclares hflow hother
  have hless := hbest other hother
  rw [compareRank_neg_iff] at hless
  by_cases hkeeps : stickyOn s.policy (lookup s.assignments flow.flow)
      leader.view = true
  · exact hsticky hkeeps
  · by_cases hpreferred : leader.view.domain = preferredDomain s.policy
    · simp [admissible, hpreferred]
    · by_cases hpreferred' : other.view.domain = preferredDomain s.policy
      · refine absurd (rankWeight_lt_of_domain ?_ ?_ ?_) hless
        · rw [hof.key_eq]
          simp [hkeeps]
        · rw [hof'.key_eq]
          refine ⟨by simp [hpreferred'], ?_⟩
          dsimp only
          split <;> decide
        · rw [hof.key_eq]
          simp [hpreferred]
      · rw [admissible_congr hknown hknown' hpreferred hpreferred']
        exact hadmissible

/--
A flow is placed in an admissible domain when some target there evaluates to
`Ok`, unless the target that it keeps evaluates to `Ok` outside of them.
-/
theorem admissible_target_is_taken (config : EngineConfig) (inputs : List Op)
    (h : engine.Admits (fun _ _ => True) (init config []) inputs)
    (request : PlacementRequest) (answer : Status) (item : PlacementItem)
    (flow : FlowDescriptor)
    (hplans : (engine.run (init config []) inputs).plans request = true)
    (hitem : item ∈ request.items)
    (hchecked : (engine.run (init config []) inputs).Checked item flow)
    (hkept : (engine.run (init config []) inputs).LeaderKept request item.flow)
    (hsticky : ∀ own ∈ (engine.run (init config []) inputs).offers request
        item.flow,
      stickyOn (engine.run (init config []) inputs).policy
        (lookup (engine.run (init config []) inputs).assignments flow.flow)
        own.view = true →
      admissible (engine.run (init config []) inputs).policy own.view.domain =
        true)
    (hadmissible : ∃ target, ∃ other ∈ (engine.run (init config [])
        inputs).offer request item.flow target,
      admissible (engine.run (init config []) inputs).policy
        other.view.domain = true) :
    ∃ p ∈ ((engine.run (init config []) inputs).placeLocked request
        answer).2.placements, p.flow = item.flow ∧ p.accepted = true ∧
      ∃ own ∈ (engine.run (init config []) inputs).offer request item.flow
          p.target,
        admissible (engine.run (init config []) inputs).policy
          own.view.domain = true := by
  have hdeclares := declaresDescribed_run h
  have htargets := targets_of_keyed (keyed_of_run h)
  generalize engine.run (init config []) inputs = s at *
  obtain ⟨target, other, hother, hadmissible⟩ := hadmissible
  have hmem := mem_offers_iff.mpr ⟨target, hother⟩
  obtain ⟨leader, -, hleader, hbest⟩ :=
    exists_head_sortRanked (List.ne_nil_of_mem hmem)
  have htaken := offered_of_best hdeclares hchecked.registered hleader hbest
    (hsticky leader hleader) hmem hadmissible
  obtain ⟨p, hp, hreported⟩ := reported_of_plans hplans
    (mem_itemsOf_of_plans hplans hitem) answer
  have hfirst := head_of_leaderKept htargets hkept hleader hbest
  have haccepted : p.accepted = true := by
    rw [hreported.accepted, accepted_placementFor_iff hchecked,
      ← offers_eq hchecked.registered]
    obtain ⟨-, entry, hof⟩ :=
      offers_of_mem hdeclares hchecked.registered hleader
    exact ⟨leader, hfirst, (offered_iff_admissible hof).mpr htaken⟩
  obtain ⟨chosenFlow, chosen, hchosen⟩ := hreported.chosen haccepted
  obtain ⟨own, hown, -, -, hoffered⟩ := hchosen.kept htargets
  obtain ⟨-, entry, hof⟩ := offers_of_mem hdeclares hchosen.registered
    (mem_offers_iff.mpr ⟨p.target, hown⟩)
  refine ⟨p, hp, hreported.flow, haccepted, own, ?_, ?_⟩
  · rw [← hreported.flow]
    exact hown
  · exact (offered_iff_admissible hof).mp hoffered

/-! ## Runs -/

def sampleDevice (id : UInt64) : TargetDescriptor :=
  { sampleHost id with
    domain := .offloadDevice
    kind := .dpu
    device := ⟨id⟩ }

/-- A flow is placed on a device because there is no host; then fallback is
forbidden and a host is declared. -/
def leftAbroad (sticky : Bool) : List Op :=
  [.openEngine {} committed, .setPolicy (samplePolicy sticky) committed,
    .declareTarget (sampleDevice 1) committed,
    .registerFlow (plainFlow 1 10) committed,
    .place (sampleRequest 1 1 [1]) committed,
    .setPolicy { samplePolicy sticky with
      generation := ⟨2⟩
      fallback := .forbid } committed,
    .declareTarget (sampleHost 2) committed]

/-- The host is there, and the flow that keeps its device is refused. -/
theorem kept_device_refuses_the_flow :
    engine.Admits (fun _ _ => True) (init sampleConfig []) (leftAbroad true) ∧
      (engine.run (init sampleConfig []) (leftAbroad true)).plans
        (sampleRequest 2 2 [1]) = true ∧
      (engine.run (init sampleConfig []) (leftAbroad true)).Checked
        { flow := ⟨1⟩ } (plainFlow 1 10) ∧
      ((engine.run (init sampleConfig []) (leftAbroad true)).offer
        (sampleRequest 2 2 [1]) ⟨1⟩ ⟨2⟩).any (fun other =>
          other.view.domain = preferredDomain
            (engine.run (init sampleConfig []) (leftAbroad true)).policy) =
              true ∧
      ((engine.run (init sampleConfig []) (leftAbroad true)).placeLocked
        (sampleRequest 2 2 [1]) committed).2.placements.map
          (fun p => p.accepted) = [false] := by
  refine ⟨by decide +kernel, ?_⟩
  generalize hrun : engine.run (init sampleConfig []) (leftAbroad true) = s
  have hall : s.plans (sampleRequest 2 2 [1]) = true ∧
      lookup s.flows ⟨1⟩ = some (plainFlow 1 10) ∧
      s.conflictingHolder (plainFlow 1 10) = none ∧
      (s.offer (sampleRequest 2 2 [1]) ⟨1⟩ ⟨2⟩).any (fun other =>
        other.view.domain = preferredDomain s.policy) = true ∧
      (s.placeLocked (sampleRequest 2 2 [1]) committed).2.placements.map
        (fun p => p.accepted) = [false] := by
    rw [← hrun]
    decide +kernel
  obtain ⟨hplans, hflow, hholder, hoffer, hrefused⟩ := hall
  exact ⟨hplans, ⟨hflow, nofun, hholder⟩, hoffer, hrefused⟩

/-- A flow that keeps nothing goes to the host. -/
theorem flow_returns_to_a_host :
    ∃ p ∈ ((engine.run (init sampleConfig []) (leftAbroad false)).placeLocked
        (sampleRequest 2 2 [1]) committed).2.placements,
      p.flow = ⟨1⟩ ∧ p.accepted = true ∧
      ∃ own ∈ (engine.run (init sampleConfig []) (leftAbroad false)).offer
          (sampleRequest 2 2 [1]) ⟨1⟩ p.target,
        admissible (engine.run (init sampleConfig [])
          (leftAbroad false)).policy own.view.domain = true := by
  have htaken := admissible_target_is_taken sampleConfig (leftAbroad false)
    (by decide +kernel) (sampleRequest 2 2 [1]) committed { flow := ⟨1⟩ }
    (plainFlow 1 10)
  generalize hrun : engine.run (init sampleConfig []) (leftAbroad false) = s
    at htaken ⊢
  have hall : s.plans (sampleRequest 2 2 [1]) = true ∧
      lookup s.flows ⟨1⟩ = some (plainFlow 1 10) ∧
      s.conflictingHolder (plainFlow 1 10) = none ∧
      (s.offer (sampleRequest 2 2 [1]) ⟨1⟩ ⟨2⟩).any (fun other =>
        admissible s.policy other.view.domain) = true := by
    rw [← hrun]
    decide +kernel
  obtain ⟨hplans, hflow, hholder, hoffer⟩ := hall
  obtain ⟨other, hother, hadmissible⟩ := Option.any_eq_true _ _ |>.mp hoffer
  refine htaken hplans (by decide) ⟨hflow, nofun, hholder⟩ ?_ ?_
    ⟨⟨2⟩, other, hother, hadmissible⟩
  all_goals
    rw [← hrun]
    decide +kernel

end Impl

end FlowOffload

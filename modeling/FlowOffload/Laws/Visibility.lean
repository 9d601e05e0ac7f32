import FlowOffload.Engine.EffectiveLoad
import FlowOffload.Laws.Ranking

/-!
# What is reported of missing evidence

A policy may place flows on targets whose load is not known, and a placement
reports when it was made so.  Stickiness and fallback are reported first, and
without a freshness horizon no evidence counts as fresh.
-/

namespace FlowOffload

open Foundation

namespace Impl

variable {s : Impl} {request : PlacementRequest} {p : FlowPlacement}

/-! ## Fresh evidence -/

/-- The evidence of a target is fresh, as a view reports it. -/
def evidenceFresh (s : Impl) (state : TargetState) (instant : Timestamp) :
    Bool :=
  (s.effectiveLoadLocked state instant).known &&
    (state.hasLoad && !state.conflicting) &&
    s.config.evidenceFreshness.nanos > 0 &&
    (saturatingElapsed instant state.load.observedAt).nanos ≤
      s.config.evidenceFreshness.nanos

theorem loadEvidenceFresh_evaluateCapacity (policy : Policy)
    (flow : FlowDescriptor) (descriptor : TargetDescriptor)
    (used : CapacityVector) (view : CandidateView) :
    (evaluateCapacity policy flow descriptor used view).2.loadEvidenceFresh =
      view.loadEvidenceFresh := by
  unfold evaluateCapacity
  split <;> rfl

theorem loadEvidenceFresh_of_candidateOf {plan : BatchPlan}
    {flow : FlowDescriptor} {current : Option Assignment}
    {instant : Timestamp} {entry : TargetId × TargetState}
    {candidate : RankedCandidate}
    (h : s.candidateOf plan flow current instant entry = some candidate) :
    candidate.view.loadEvidenceFresh =
      s.evidenceFresh (plannedTarget plan entry.1 entry.2) instant := by
  have hpasses := (candidate_of_candidateOf h).eligible
  have hadmitted := admitted_of_evaluateTargetLocked hpasses
  have hfresh : (s.evaluateTargetLocked flow
      (plannedTarget plan entry.1 entry.2) instant).2.loadEvidenceFresh =
        s.evidenceFresh (plannedTarget plan entry.1 entry.2) instant := by
    unfold evaluateTargetLocked admissionRefusal
    rw [hadmitted.1, hadmitted.2.1, hadmitted.2.2]
    dsimp only [Option.or]
    split
    · rfl
    · exact loadEvidenceFresh_evaluateCapacity _ _ _ _ _
  unfold candidateOf at h
  dsimp only at h
  split at h
  · obtain ⟨key, hkey, rfl⟩ := Option.map_eq_some_iff.mp h
    exact hfresh
  · cases h

/-- Evidence that is used is fresh, unless there is no horizon. -/
theorem evidenceFresh_of_observedKnown {state : TargetState}
    {instant : Timestamp}
    (hknown : (s.effectiveLoadLocked state instant).known = true)
    (h : s.observedKnown state instant = true) :
    s.evidenceFresh state instant =
      decide (s.config.evidenceFreshness.nanos > 0) := by
  have hcurrent := current_of_observedKnown h
  unfold evidenceFresh
  rw [hknown, hcurrent.loaded, hcurrent.agreed]
  by_cases hhorizon : s.config.evidenceFreshness.nanos > 0
  · simp [hhorizon, hcurrent.recent hhorizon]
  · simp [hhorizon]

/-! ## Placements -/

/-- The target of a placement, with what the items before it have planned. -/
def targetAt (s : Impl) (request : PlacementRequest) (p : FlowPlacement) :
    Option TargetState :=
  (s.targets[p.target]?).map
    (plannedTarget (s.planBefore request p.flow) p.target)

/-- The load of the target of a placement is not known. -/
def loadUnknown (s : Impl) (request : PlacementRequest) (p : FlowPlacement) :
    Bool :=
  (s.targetAt request p).any fun state =>
    !(s.effectiveLoadLocked state request.evaluationInstant).known

/-- The load is known, and so is what was observed of the target. -/
def loadObserved (s : Impl) (request : PlacementRequest)
    (p : FlowPlacement) : Bool :=
  (s.targetAt request p).any fun state =>
    (s.effectiveLoadLocked state request.evaluationInstant).known &&
      s.observedKnown state request.evaluationInstant

/-- The flow is on the target of the placement, under a sticky policy. -/
def staysOn (s : Impl) (p : FlowPlacement) : Bool :=
  (s.targets[p.target]?).any fun state =>
    (s.assignments[p.flow]?).any fun current =>
      s.policy.sticky && current.target = p.target &&
        current.incarnation = state.descriptor.incarnation

/-- The target of the placement is not in the preferred domain. -/
def fallsBackOn (s : Impl) (p : FlowPlacement) : Bool :=
  (s.targets[p.target]?).any fun state =>
    state.descriptor.domain ≠ preferredDomain s.policy

/-- A placement says so when the load of its target is not known, and does not
when the load was observed. -/
def ShowsEvidence (s : Impl) (request : PlacementRequest)
    (p : FlowPlacement) : Prop :=
  (s.loadUnknown request p = true →
    p.outcome = .acceptedWithoutLoadEvidence) ∧
  (s.loadObserved request p = true →
    p.outcome ≠ .acceptedWithoutLoadEvidence)

instance (s : Impl) (request : PlacementRequest) (p : FlowPlacement) :
    Decidable (s.ShowsEvidence request p) :=
  inferInstanceAs (Decidable (_ ∧ _))

/-- Nothing else is reported of the placement first, and evidence counts as
fresh. -/
def EvidenceCounts (s : Impl) (request : PlacementRequest)
    (p : FlowPlacement) : Prop :=
  (s.loadUnknown request p = true →
    s.staysOn p = false ∧ s.fallsBackOn p = false) ∧
  (s.loadObserved request p = true →
    s.staysOn p = true ∨ s.fallsBackOn p = true ∨
      s.config.evidenceFreshness.nanos > 0)

instance (s : Impl) (request : PlacementRequest) (p : FlowPlacement) :
    Decidable (s.EvidenceCounts request p) :=
  inferInstanceAs (Decidable (_ ∧ _))

theorem acceptedOutcome_eq_without_iff {policy : Policy}
    {chosen : CandidateView} {fallback retained : Bool}
    (hallow : policy.allowPlacementWithoutLoadEvidence = true) :
    acceptedOutcome policy chosen fallback retained =
        .acceptedWithoutLoadEvidence ↔
      retained = false ∧ fallback = false ∧
        chosen.loadEvidenceFresh = false := by
  have hdomain : ∀ back, domainOutcome chosen.domain back ≠
      .acceptedWithoutLoadEvidence := by
    intro back
    unfold domainOutcome
    repeat' split
    all_goals simp
  unfold acceptedOutcome
  rw [hallow]
  cases retained with
  | true => simp
  | false =>
      cases fallback with
      | true => simpa using hdomain true
      | false =>
          cases hfresh : chosen.loadEvidenceFresh with
          | true => simpa [hfresh] using hdomain false
          | false => simp

/-- What is read off a placement about its target. -/
theorem Chosen.target_reads (hkeyed : s.ledger.Keyed)
    {flow : FlowDescriptor} {chosen : CandidateView}
    (h : s.Chosen request p flow chosen) :
    ∃ state, s.targetAt request p = some state ∧
      chosen.loadEvidenceFresh =
        s.evidenceFresh state request.evaluationInstant ∧
      p.retained = s.staysOn p ∧ p.fallback = s.fallsBackOn p := by
  obtain ⟨state, own, hfound, hcandidate, hchosen⟩ :=
    h.evaluated (targets_of_keyed hkeyed)
  have hget : s.targets[p.target]? = some state := hfound
  have hof := candidate_of_candidateOf hcandidate
  have hflow : flow.flow = p.flow := hkeyed.flow _ _ h.registered
  refine ⟨plannedTarget (s.planBefore request p.flow) p.target state, ?_, ?_,
    ?_, ?_⟩
  · rw [targetAt, hget, Option.map_some]
  · rw [hchosen]
    exact loadEvidenceFresh_of_candidateOf hcandidate
  · have hincarnation : chosen.incarnation = state.descriptor.incarnation := by
      rw [hchosen]
      exact hof.describes.incarnation
    rw [h.retained, hflow, staysOn, hget, Option.any_some]
    rw [show s.assignments[p.flow]? = lookup s.assignments p.flow from rfl]
    cases lookup s.assignments p.flow with
    | none => rfl
    | some current =>
        rw [Option.any_some, stickyOn, ← h.target, hincarnation]
  · have hdomain : chosen.domain = state.descriptor.domain := by
      rw [hchosen]
      exact hof.describes.domain
    rw [h.fallback, hdomain, fallsBackOn, hget, Option.any_some]

theorem Chosen.showsEvidence_iff (hkeyed : s.ledger.Keyed)
    (hallow : s.policy.allowPlacementWithoutLoadEvidence = true)
    {flow : FlowDescriptor} {chosen : CandidateView}
    (h : s.Chosen request p flow chosen) :
    s.ShowsEvidence request p ↔ s.EvidenceCounts request p := by
  obtain ⟨state, htarget, hfresh, hretained, hfallback⟩ :=
    h.target_reads hkeyed
  have houtcome : p.outcome = .acceptedWithoutLoadEvidence ↔
      s.staysOn p = false ∧ s.fallsBackOn p = false ∧
        s.evidenceFresh state request.evaluationInstant = false := by
    rw [h.outcome, acceptedOutcome_eq_without_iff hallow, hretained,
      hfallback, hfresh]
  unfold ShowsEvidence EvidenceCounts
  refine and_congr (imp_congr_right fun hunknown => ?_)
    (imp_congr_right fun hobserved => ?_)
  · rw [loadUnknown, htarget, Option.any_some, Bool.not_eq_true'] at hunknown
    have hstale : s.evidenceFresh state request.evaluationInstant = false := by
      rw [evidenceFresh, hunknown]
      rfl
    rw [houtcome, hstale]
    simp
  · rw [loadObserved, htarget, Option.any_some, Bool.and_eq_true] at hobserved
    rw [Ne, houtcome, evidenceFresh_of_observedKnown hobserved.1 hobserved.2]
    cases s.staysOn p <;> cases s.fallsBackOn p <;>
      simp [UInt64.pos_iff_ne_zero]

/--
A placement shows whether the load of its target was known, exactly when
neither stickiness nor fallback is reported of it instead, and there is a
freshness horizon for what is known to be called fresh.
-/
theorem missing_evidence_shows_iff (config : EngineConfig) (inputs : List Op)
    (h : engine.Admits (fun _ _ => True) (init config []) inputs)
    (hallow : (engine.run (init config [])
      inputs).policy.allowPlacementWithoutLoadEvidence = true)
    (request : PlacementRequest) (answer : Status) (p : FlowPlacement)
    (hmem : p ∈ ((engine.run (init config []) inputs).placeLocked request
      answer).2.placements)
    (hfresh : ((engine.run (init config []) inputs).placeLocked request
      answer).2.duplicate = false)
    (haccepted : p.accepted = true) :
    (engine.run (init config []) inputs).ShowsEvidence request p ↔
      (engine.run (init config []) inputs).EvidenceCounts request p := by
  obtain ⟨flow, chosen, hchosen⟩ :=
    chosen_of_placeLocked hmem hfresh haccepted
  exact hchosen.showsEvidence_iff (keyed_of_run h) hallow

/-! ## Runs -/

/-- A policy that needs no evidence. -/
def lenientPolicy (sticky : Bool) : Policy :=
  { samplePolicy sticky with
    loadModel := .observedOnly
    allowPlacementWithoutLoadEvidence := true }

/-- A host of which nothing is observed, and one flow. -/
def unobservedHost (sticky : Bool) : List Op :=
  [.openEngine {} committed, .setPolicy (lenientPolicy sticky) committed,
    .declareTarget (sampleHost 1) committed,
    .registerFlow (plainFlow 1 10) committed]

theorem unobserved_placement_shows :
    ∃ p ∈ ((engine.run (init sampleConfig []) (unobservedHost true)).placeLocked
        (sampleRequest 1 1 [1]) committed).2.placements,
      p.accepted = true ∧ (engine.run (init sampleConfig [])
        (unobservedHost true)).loadUnknown (sampleRequest 1 1 [1]) p = true ∧
      (engine.run (init sampleConfig []) (unobservedHost true)).ShowsEvidence
        (sampleRequest 1 1 [1]) p := by
  obtain ⟨p, hp, haccepted, hunknown, hcounts⟩ :
      ∃ p ∈ ((engine.run (init sampleConfig [])
      (unobservedHost true)).placeLocked (sampleRequest 1 1 [1])
        committed).2.placements,
      p.accepted = true ∧ (engine.run (init sampleConfig [])
        (unobservedHost true)).loadUnknown (sampleRequest 1 1 [1]) p = true ∧
      (engine.run (init sampleConfig []) (unobservedHost true)).EvidenceCounts
        (sampleRequest 1 1 [1]) p := by
    decide +kernel
  exact ⟨p, hp, haccepted, hunknown, (missing_evidence_shows_iff sampleConfig
    (unobservedHost true) (by decide +kernel) (by decide +kernel) _ committed p
    hp (by decide +kernel) haccepted).mpr hcounts⟩

/-- The flow is placed, and requested again while nothing is observed. -/
def placedUnobserved : List Op :=
  unobservedHost true ++ [.place (sampleRequest 1 1 [1]) committed]

/-- Its host is observed, by an engine without a freshness horizon. -/
def observedForever : List Op :=
  unobservedHost false ++ [.ingestLoad (Feed.sampleLoad 1 1)]

/-- Retention hides that nothing is known, and without a horizon known load is
reported as missing. -/
theorem retention_hides_missing_evidence :
    (engine.Admits (fun _ _ => True) (init sampleConfig []) placedUnobserved ∧
      ∃ p ∈ ((engine.run (init sampleConfig []) placedUnobserved).placeLocked
          (sampleRequest 2 2 [1]) committed).2.placements,
        p.accepted = true ∧
          (engine.run (init sampleConfig []) placedUnobserved).loadUnknown
            (sampleRequest 2 2 [1]) p = true ∧
          p.outcome = .acceptedStickyRetention) ∧
    engine.Admits (fun _ _ => True)
      (init { sampleConfig with evidenceFreshness := ⟨0⟩ } [])
        observedForever ∧
      ∃ p ∈ ((engine.run (init { sampleConfig with evidenceFreshness := ⟨0⟩ }
          []) observedForever).placeLocked (sampleRequest 1 1 [1])
            committed).2.placements,
        p.accepted = true ∧
          (engine.run (init { sampleConfig with evidenceFreshness := ⟨0⟩ }
            []) observedForever).loadObserved (sampleRequest 1 1 [1]) p =
              true ∧
          p.outcome = .acceptedWithoutLoadEvidence := by
  refine ⟨⟨by decide +kernel, ?_⟩, by decide +kernel, ?_⟩
  · decide +kernel
  · decide +kernel

end Impl

end FlowOffload

import FlowOffload.Laws.Attempts

/-!
# Targets that can run their flows

A placement is evaluated against the whole descriptor of its target.  An intent
names its destination itself, and all that is checked of the destination are
its lifecycle and its generations.
-/

namespace FlowOffload

open Foundation

/-- The target has the capabilities the flow requires, a known cost class
within its limit, and room for state when the flow has any. -/
def canRun (flow : FlowDescriptor) (target : TargetDescriptor) : Bool :=
  satisfies target.capabilities flow.requiredCapabilities &&
    target.costClass ≠ .unknown &&
    !target.costClass.exceeds flow.maxCostClass &&
    (flow.statefulness ≠ .stateful || target.supportsStateful)

theorem canRun_of_policyRefusal {policy : Policy} {flow : FlowDescriptor}
    {target : TargetDescriptor}
    (h : Impl.policyRefusal policy flow target = none) :
    canRun flow target = true := by
  unfold Impl.policyRefusal at h
  repeat' split at h
  all_goals try cases h
  next hcapable hstateful hcost =>
    have hcapable : satisfies target.capabilities
        (flow.requiredCapabilities ||| policy.requiredCapabilities) =
          true := by simpa using hcapable
    have hown := satisfies_of_or hcapable
    simp only [Bool.or_eq_true, not_or, decide_eq_true_eq] at hcost
    simp only [Bool.and_eq_true, decide_eq_true_eq, not_and,
      Bool.not_eq_true', Bool.not_eq_false] at hstateful
    simp only [canRun, hown, Bool.true_and, Bool.and_eq_true, Bool.or_eq_true,
      decide_eq_true_eq, ne_eq, Bool.not_eq_true']
    refine ⟨⟨hcost.1.1, by simpa using hcost.1.2⟩, ?_⟩
    by_cases hstate : flow.statefulness = .stateful
    · exact Or.inr (hstateful hstate)
    · exact Or.inl hstate

theorem canRun_of_identity {flow : FlowDescriptor}
    {old target : TargetDescriptor}
    (h : Impl.sameTargetIdentity old target = true) :
    canRun flow target = canRun flow old := by
  simp only [Impl.sameTargetIdentity, Bool.and_eq_true,
    decide_eq_true_eq] at h
  obtain ⟨⟨⟨⟨⟨⟨-, hcapabilities⟩, -⟩, -⟩, hcost⟩, hstateful⟩, -⟩ := h
  simp only [canRun, hcapabilities, hcost, hstateful]

namespace Impl

variable {s : Impl}

theorem canRun_of_evaluateTargetLocked {flow : FlowDescriptor}
    {target : TargetState} {instant : Timestamp}
    (h : (s.evaluateTargetLocked flow target instant).1 = .ok) :
    canRun flow target.descriptor = true :=
  canRun_of_policyRefusal (admitted_of_evaluateTargetLocked h).2.1

/-- What a batch places can run where it is placed. -/
theorem canRun_of_replacement (hkeyed : s.ledger.Keyed)
    {request : PlacementRequest} {pending : PendingCommit}
    (hpending : pending ∈ s.replacements request) {flow : FlowDescriptor}
    {target : TargetDescriptor}
    (hflow : s.ledger.flow pending.flow = some flow)
    (htarget : s.ledger.target pending.target = some target) :
    canRun flow target = true := by
  obtain ⟨before, item, after, -, hplanned⟩ :=
    planned_of_mem_commits (List.mem_of_mem_filter hpending)
  have hid := hplanned.flow_eq hkeyed
  obtain ⟨found, current, chosen, haccepts, -, -, hchosen, -⟩ :=
    hplanned.accepted
  have hsame : some found = some flow := by
    rw [← haccepts.registered, ← hflow, hid]
    rfl
  cases hsame
  obtain ⟨id, state, hstate, heligible, hdescribes⟩ := haccepts.exists_target
  have hcan := canRun_of_evaluateTargetLocked heligible
  rw [descriptor_plannedTarget] at hcan
  have hfound := ledger_target_of_lookup hstate
  have hname := hkeyed.target id state.descriptor hfound
  rw [hchosen, hdescribes.target, hname, hfound] at htarget
  cases htarget
  exact hcan

end Impl

namespace Ledger

variable {l : Ledger} {e : Event}

/-! ## Recorded generations -/

/-- The generations are not ahead of those in the descriptor. -/
def NotAhead (incarnation : TargetIncarnation)
    (capability : CapabilityGeneration) (target : TargetDescriptor) : Prop :=
  incarnation.value.toNat < target.incarnation.value.toNat ∨
    incarnation = target.incarnation ∧
      capability.value.toNat ≤ target.capabilityGeneration.value.toNat

/--
What is known of a flow and a target that were recorded together under these
generations: they are not ahead of the target, and as long as the target has
them it can run the flow.
-/
def Suits (l : Ledger) (flow : FlowId) (id : TargetId)
    (incarnation : TargetIncarnation) (capability : CapabilityGeneration) :
    Prop :=
  ∀ descriptor target, l.flow flow = some descriptor →
    l.target id = some target →
    NotAhead incarnation capability target ∧
      (incarnation = target.incarnation →
        capability = target.capabilityGeneration →
        canRun descriptor target = true)

/-- Every placement and every attempt in flight suits its target. -/
structure Suited (l : Ledger) : Prop where
  placed : ∀ k a, l.assignment k = some a →
    Suits l k a.target a.incarnation a.capabilityGeneration
  bound : ∀ k record, l.attempt k = some record → record.inFlight = true →
    Suits l record.intent.flow record.intent.destinationTarget
      record.intent.destinationIncarnation
      record.intent.destinationCapabilityGeneration

/-- The event names a target that can run the flow. -/
def Event.Suitable (l : Ledger) : Event → Prop
  | .declare target => ∀ old, l.target target.target = some old →
      Impl.sameTargetIdentity old target = true
  | .place batch => ∀ a ∈ batch, ∀ descriptor target,
      l.flow a.flow = some descriptor → l.target a.target = some target →
      canRun descriptor target = true
  | .issue descriptor _ intent => ∀ target,
      l.target intent.destinationTarget = some target →
      target.incarnation = intent.destinationIncarnation →
      target.capabilityGeneration = intent.destinationCapabilityGeneration →
      canRun descriptor target = true
  | _ => True

/-- A descriptor that replaces another keeps what suits it. -/
theorem suits_replaced {flow : FlowId} {id : TargetId}
    {incarnation : TargetIncarnation} {capability : CapabilityGeneration}
    {descriptor : FlowDescriptor} {old : TargetDescriptor}
    (h : Suits l flow id incarnation capability)
    (hflow : l.flow flow = some descriptor) (hold : l.target id = some old)
    (henabled : e.enabled l) (hsuitable : e.Suitable l)
    {target : TargetDescriptor} (hdeclares : e.declares = some target)
    (hid : id = target.target) :
    NotAhead incarnation capability target ∧
      (incarnation = target.incarnation →
        capability = target.capabilityGeneration →
        canRun descriptor target = true) := by
  obtain ⟨hbehind, hcan⟩ := h descriptor old hflow hold
  subst hid
  cases e with
  | declare new =>
      cases hdeclares
      have hidentity := hsuitable old hold
      have hgenerations : old.incarnation = target.incarnation ∧
          old.capabilityGeneration = target.capabilityGeneration := by
        simp only [Impl.sameTargetIdentity, Bool.and_eq_true,
          decide_eq_true_eq] at hidentity
        exact ⟨hidentity.1.1.1.1.1.1.1.1.1.1.1.1.2,
          hidentity.1.1.1.1.1.1.1.1.1.1.1.2⟩
      rw [canRun_of_identity hidentity, ← hgenerations.1, ← hgenerations.2]
      refine ⟨?_, hcan⟩
      unfold NotAhead at hbehind ⊢
      rw [← hgenerations.1, ← hgenerations.2]
      exact hbehind
  | advanceCapability new =>
      cases hdeclares
      obtain ⟨found, hfound, hsame, hlt⟩ := henabled
      rw [hold] at hfound
      cases hfound
      rw [TypedId.lt_iff_toNat_lt] at hlt
      unfold NotAhead at hbehind ⊢
      rw [← hsame]
      refine ⟨?_, ?_⟩
      · rcases hbehind with hless | ⟨heq, hle⟩
        · exact Or.inl hless
        · exact Or.inr ⟨heq, by omega⟩
      · rintro rfl rfl
        rcases hbehind with hless | ⟨-, hle⟩
        · exact absurd hless (Nat.lt_irrefl _)
        · exact absurd hle (by omega)
  | advanceIncarnation new =>
      cases hdeclares
      obtain ⟨found, hfound, hlt⟩ := henabled
      rw [hold] at hfound
      cases hfound
      rw [TypedId.lt_iff_toNat_lt] at hlt
      have hless : incarnation.value.toNat < target.incarnation.value.toNat := by
        rcases hbehind with hless | ⟨rfl, -⟩
        · omega
        · exact hlt
      refine ⟨Or.inl hless, ?_⟩
      rintro rfl
      exact absurd hless (Nat.lt_irrefl _)
  | retire new =>
      cases hdeclares
      obtain ⟨found, hfound, heq⟩ := henabled
      rw [hold] at hfound
      cases hfound
      subst heq
      exact ⟨hbehind, hcan⟩
  | _ => cases hdeclares

/-- What suited before suits after, for a flow that is still the same. -/
theorem Suits.apply {flow : FlowId} {id : TargetId}
    {incarnation : TargetIncarnation} {capability : CapabilityGeneration}
    {descriptor : FlowDescriptor} {old : TargetDescriptor}
    (h : Suits l flow id incarnation capability)
    (hflow : l.flow flow = some descriptor) (hold : l.target id = some old)
    (hkept : (e.apply l).flow flow = some descriptor)
    (henabled : e.enabled l) (hsuitable : e.Suitable l) :
    Suits (e.apply l) flow id incarnation capability := by
  intro found target hfound htarget
  rw [hkept] at hfound
  cases hfound
  rw [target_apply] at htarget
  cases hdeclares : e.declares with
  | none =>
      rw [hdeclares] at htarget
      exact h descriptor target hflow htarget
  | some new =>
      rw [hdeclares] at htarget
      dsimp only at htarget
      split at htarget
      next hid =>
        cases htarget
        exact suits_replaced h hflow hold henabled hsuitable hdeclares hid
      next => exact h descriptor target hflow htarget

/-- Two records made under the generations the target has now. -/
theorem suits_of_current {flow : FlowId} {id : TargetId}
    {incarnation : TargetIncarnation} {capability : CapabilityGeneration}
    {descriptor : FlowDescriptor} {target : TargetDescriptor}
    (hflow : l.flow flow = some descriptor) (htarget : l.target id = some target)
    (hincarnation : incarnation = target.incarnation)
    (hcapability : capability = target.capabilityGeneration)
    (hcan : canRun descriptor target = true) :
    Suits l flow id incarnation capability := by
  intro found other hfound hother
  rw [hflow] at hfound
  rw [htarget] at hother
  cases hfound
  cases hother
  exact ⟨Or.inr ⟨hincarnation, by rw [hcapability]⟩, fun _ _ => hcan⟩
theorem Suited.apply (hwf : WellFormed l) (h : Suited l)
    (henabled : e.enabled l) (hsuitable : e.Suitable l) :
    Suited (e.apply l) where
  placed := by
    intro k a ha
    have hkept : ∀ descriptor, l.flow k = some descriptor →
        (e.apply l).flow k = some descriptor :=
      fun descriptor => flow_apply_of_placed henabled ha
    rcases assignment_apply ha with
      ⟨old, effect, hold, rfl⟩ | ⟨batch, rfl, hmem, rfl⟩ |
        ⟨record, observation, next, old, rfl, rfl, hold, rfl⟩
    · obtain ⟨⟨descriptor, hflow, -⟩, target, htarget⟩ := hwf.placed k old hold
      exact (h.placed k old hold).apply hflow htarget (hkept _ hflow) henabled
        hsuitable
    · obtain ⟨descriptor, hflow, -⟩ := (henabled.2 a hmem).known
      obtain ⟨target, htarget, hincarnation, hcapability⟩ :=
        (henabled.2 a hmem).current
      have hcan := hsuitable a hmem descriptor target hflow htarget
      have hsame : ((Event.place batch).apply l).target a.target =
          some target := by
        rw [target_apply]
        exact htarget
      exact suits_of_current (hkept _ hflow) hsame hincarnation hcapability
        hcan
    · -- a completed move suits because the attempt did
      have hbound := h.bound _ record henabled.1 henabled.2.1
      have hbacked := hwf.backed _ record henabled.1 henabled.2.1
      obtain ⟨descriptor, hflow, -⟩ := hbacked.flow
      obtain ⟨target, htarget⟩ := hbacked.destination
      exact hbound.apply hflow htarget (hkept _ hflow) henabled hsuitable
  bound := by
    intro k record hrecord hflight
    rcases inFlight_apply henabled hrecord hflight with
      ⟨old, phase, hold, hold_flight, hintent⟩ |
        ⟨descriptor, source, intent, rfl, rfl, rfl⟩
    · have hbacked := hwf.backed k old hold hold_flight
      obtain ⟨descriptor, hflow, -⟩ := hbacked.flow
      obtain ⟨target, htarget⟩ := hbacked.destination
      have hsame : l.flow record.intent.flow = some descriptor := by
        rw [hintent]
        exact hflow
      have hkept := flow_apply_of_inFlight henabled hrecord hflight hsame
      rw [hintent] at hkept ⊢
      exact (h.bound k old hold hold_flight).apply hflow htarget hkept
        henabled hsuitable
    · obtain ⟨-, hflow, -, -, -, -, ⟨target, htarget, hincarnation,
        hcapability⟩, -⟩ := id henabled
      have hkept := flow_apply_of_inFlight henabled hrecord hflight hflow
      have hsame : ((Event.issue descriptor source intent).apply l).target
          intent.destinationTarget = some target := by
        rw [target_apply]
        exact htarget
      exact suits_of_current hkept hsame hincarnation.symm hcapability.symm
        (hsuitable target htarget hincarnation hcapability)

theorem suited_empty : Suited empty where
  placed := fun _ _ h => nomatch h
  bound := fun _ _ h => nomatch h

theorem Suited.restart {l' : Ledger} (h : Suited l)
    (hrestart : Restarted l l') : Suited l' where
  placed := by
    intro k a ha descriptor target hflow htarget
    rw [hrestart.assignment, Option.map_eq_some_iff] at ha
    rw [hrestart.flow] at hflow
    rw [hrestart.target, Option.map_eq_some_iff] at htarget
    obtain ⟨old, hold, rfl⟩ := ha
    obtain ⟨found, hfound, rfl⟩ := htarget
    have hsame : (Impl.durableAssignment old).target = old.target ∧
        (Impl.durableAssignment old).incarnation = old.incarnation ∧
        (Impl.durableAssignment old).capabilityGeneration =
          old.capabilityGeneration := by
      unfold Impl.durableAssignment
      split <;> exact ⟨rfl, rfl, rfl⟩
    rw [hsame.1] at hfound
    rw [hsame.2.1, hsame.2.2]
    exact h.placed k old hold descriptor found hflow hfound
  bound := by
    intro k record hrecord hflight
    rw [hrestart.not_inFlight hrecord] at hflight
    cases hflight

end Ledger

namespace Impl

variable {s : Impl}

/-! ## Runs -/

/--
An intent is issued only towards a target that can run the flow, when the
target has the generations that the intent names.
-/
def NamesSuitable (s : Impl) : Op → Prop
  | .issueIntent authorization wanted _ =>
      ∀ stored ∈ s.authorizations[authorization]?,
        ∀ flow ∈ s.flows[stored.flow]?,
          ∀ target ∈ s.targets[wanted.destinationTarget]?,
            target.descriptor.incarnation = wanted.destinationIncarnation →
            target.descriptor.capabilityGeneration =
              wanted.destinationCapabilityGeneration →
            canRun flow target.descriptor = true
  | _ => True

instance (s : Impl) : (op : Op) → Decidable (s.NamesSuitable op)
  | .issueIntent authorization wanted _ => inferInstanceAs (Decidable
      (∀ stored ∈ s.authorizations[authorization]?,
        ∀ flow ∈ s.flows[stored.flow]?,
          ∀ target ∈ s.targets[wanted.destinationTarget]?,
            target.descriptor.incarnation = wanted.destinationIncarnation →
            target.descriptor.capabilityGeneration =
              wanted.destinationCapabilityGeneration →
            canRun flow target.descriptor = true))
  | .openEngine _ _ | .shutdown _ | .restart _ | .registerFlow _ _
  | .removeFlow _ _ _ | .declareTarget _ _ | .removeTarget _ _ _ _
  | .ingestLoad _ | .setPolicy _ _ | .setTopologyGeneration _ _
  | .registerMigrationContract _ _ | .place _ _ | .rebalance _ _
  | .authorize _ _ | .revokeAuthorization _ | .acknowledge _ _
  | .reportApplied _ _ | .observe _ _ | .abortMigration _ _ _ => isTrue trivial

/-- A flow that is placed on a target as it is now can run there. -/
def RunsWhatItPlaces (s : Impl) : Prop :=
  ∀ k a target, lookup s.assignments k = some a →
    lookup s.targets a.target = some target →
    a.incarnation = target.descriptor.incarnation →
    a.capabilityGeneration = target.descriptor.capabilityGeneration →
    ∃ flow, lookup s.flows k = some flow ∧
      canRun flow target.descriptor = true

theorem suitable_of_namesSuitable (hkeyed : s.ledger.Keyed) {op : Op}
    {event : Ledger.Event} (hguard : s.NamesSuitable op)
    (h : s.Produces op event) (henabled : event.enabled s.ledger) :
    event.Suitable s.ledger := by
  cases h with
  | declare hidentity => exact hidentity
  | @place request answer batch hexecutes hplanned =>
      intro a ha descriptor target hflow htarget
      obtain ⟨pending, hpending, hflow_eq, htarget_eq⟩ := hplanned a ha
      rw [hflow_eq] at hflow
      rw [htarget_eq] at htarget
      exact canRun_of_replacement hkeyed hpending hflow htarget
  | @issue authorization wanted intent answer stored descriptor source
      hstored hflow hattempt hdestination =>
      intro target htarget hincarnation hcapability
      obtain ⟨hid, hincarnation_eq, hcapability_eq⟩ := hdestination
      have hregistered := henabled.2.1
      rw [hflow] at hregistered
      obtain ⟨state, hstate, rfl⟩ := Option.map_eq_some_iff.mp htarget
      rw [hid] at hstate
      exact hguard stored hstored descriptor hregistered state hstate
        (hincarnation.trans hincarnation_eq)
        (hcapability.trans hcapability_eq)
  | _ => trivial

theorem law_suited : Law NamesSuitable Ledger.Suited where
  empty := Ledger.suited_empty
  event := by
    intro s op event hwf hlaw hguard hproduces henabled
    exact hlaw.apply hwf henabled
      (suitable_of_namesSuitable hwf.toKeyed hguard hproduces henabled)
  restart := fun _ _ _ hlaw hrestart => hlaw.restart hrestart

theorem placed_flows_can_run (config : EngineConfig) (inputs : List Op)
    (h : engine.Admits NamesSuitable (init config []) inputs) :
    (engine.run (init config []) inputs).RunsWhatItPlaces := by
  have hsuited := law_suited.run h
  have hwf := wellFormed_run h
  intro k a target ha htarget hincarnation hcapability
  obtain ⟨⟨flow, hflow, -⟩, -⟩ := hwf.placed k a ha
  exact ⟨flow, hflow, (hsuited.placed k a ha flow target.descriptor hflow
    (ledger_target_of_lookup htarget)).2 hincarnation hcapability⟩

/-- A flow moves from an economy host to one of another cost class. -/
def costlyHandoff (cost : CostClass) : List Op :=
  [.openEngine {} committed, .setPolicy (samplePolicy true) committed,
    .declareTarget (sampleHost 1) committed,
    .declareTarget { sampleHost 2 with costClass := cost } committed,
    .registerFlow { plainFlow 1 10 with maxCostClass := .standard } committed,
    .place (sampleRequest 1 1 [1]) committed, .authorize ⟨1⟩ ⟨1⟩,
    .issueIntent ⟨1⟩ (sampleIntent 2) committed] ++ plainHandoff ++
  [.observe (sampleObservation 1 2) committed]

example : (engine.run (init sampleConfig [])
    (costlyHandoff .premium)).counters.migrationsIssued = 1 := by
  decide +kernel

theorem handoff_to_a_suitable_host :
    engine.Admits NamesSuitable (init sampleConfig [])
        (costlyHandoff .standard) ∧
      (engine.run (init sampleConfig [])
        (costlyHandoff .standard)).RunsWhatItPlaces :=
  ⟨by decide +kernel, placed_flows_can_run sampleConfig _ (by decide +kernel)⟩

/-- The destination is beyond the cost class of the flow. -/
theorem handoff_to_a_costly_host :
    engine.Admits (fun _ _ => True) (init sampleConfig [])
        (costlyHandoff .premium) ∧
      ¬ (engine.run (init sampleConfig [])
        (costlyHandoff .premium)).RunsWhatItPlaces := by
  refine ⟨by decide +kernel, ?_⟩
  generalize hs : engine.run (init sampleConfig []) (costlyHandoff .premium) =
    s
  intro h
  have hplaced : (s.assignments[(⟨1⟩ : FlowId)]?).map (fun a =>
      (a.target, a.incarnation, a.capabilityGeneration)) =
        some (⟨2⟩, ⟨1⟩, ⟨1⟩) := by
    subst hs
    decide +kernel
  have htarget : (s.targets[(⟨2⟩ : TargetId)]?).map (fun target =>
      (target.descriptor.incarnation,
        target.descriptor.capabilityGeneration)) = some (⟨1⟩, ⟨1⟩) := by
    subst hs
    decide +kernel
  have hunable : ∀ flow ∈ s.flows[(⟨1⟩ : FlowId)]?,
      ∀ target ∈ s.targets[(⟨2⟩ : TargetId)]?,
        canRun flow target.descriptor = false := by
    subst hs
    decide +kernel
  obtain ⟨a, ha, hfields⟩ := Option.map_eq_some_iff.mp hplaced
  obtain ⟨target, htarget, hgenerations⟩ := Option.map_eq_some_iff.mp htarget
  simp only [Prod.mk.injEq] at hfields hgenerations
  obtain ⟨flow, hflow, hcan⟩ := h ⟨1⟩ a target ha
    (by rw [hfields.1]; exact htarget)
    (hfields.2.1.trans hgenerations.1.symm)
    (hfields.2.2.trans hgenerations.2.symm)
  rw [hunable flow hflow target htarget] at hcan
  cases hcan

end Impl

end FlowOffload

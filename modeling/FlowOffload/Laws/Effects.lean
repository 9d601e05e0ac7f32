import FlowOffload.Laws.Attempts

/-!
# Effects of stale placements

A placement is stale when its target has moved on to another incarnation or
capability generation.  A declaration that moves a target on demotes the
effects on it; the operations that write effects later are the ones that have
to find the placement, or the destination, still current.
-/

namespace FlowOffload

open Foundation

namespace Ledger

variable {l : Ledger} {e : Event}

/-- The placement carries the generations its target is declared with. -/
def Current (l : Ledger) (a : Assignment) : Prop :=
  ∀ target, l.target a.target = some target →
    a.incarnation = target.incarnation ∧
      a.capabilityGeneration = target.capabilityGeneration

/-- A placement that claims any effect is current. -/
def EffectsCurrent (l : Ledger) : Prop :=
  ∀ flow a, l.assignment flow = some a → a.effect ≠ .unknown → Current l a

/-- What an event that writes an effect has to find. -/
def Event.FindsCurrent (l : Ledger) : Event → Prop
  | .issue _ source _ => Current l source
  | .progress record _ _ =>
      ∀ a, l.assignment record.intent.flow = some a → Current l a
  | .complete record _ _ =>
      ∀ target, l.target record.intent.destinationTarget = some target →
        record.intent.destinationIncarnation = target.incarnation ∧
          record.intent.destinationCapabilityGeneration =
            target.capabilityGeneration
  | _ => True

theorem Current.withEffect {a : Assignment} (h : Current l a)
    (effect : EffectState) : Current l { a with effect := effect } := h

/-- An event that moves no target on leaves a current placement current. -/
theorem Current.of_target {l' : Ledger} {a : Assignment} (h : Current l a)
    (htarget : ∀ target, l'.target a.target = some target →
      ∃ old, l.target a.target = some old ∧
        old.incarnation = target.incarnation ∧
        old.capabilityGeneration = target.capabilityGeneration) :
    Current l' a := by
  intro target hfound
  obtain ⟨old, hold, hincarnation, hcapability⟩ := htarget target hfound
  obtain ⟨h1, h2⟩ := h old hold
  exact ⟨h1.trans hincarnation, h2.trans hcapability⟩

theorem Current.setTarget_of_ne {a : Assignment} {target : TargetDescriptor}
    (h : Current l a) (hne : a.target ≠ target.target) :
    Current (l.setTarget target) a := by
  refine h.of_target fun found hfound => ⟨found, ?_, rfl, rfl⟩
  simpa only [setTarget, Function.update_of_ne hne] using hfound

/-- After the effects on a target were demoted, it may move on. -/
theorem EffectsCurrent.demoted {l' : Ledger} {target : TargetDescriptor}
    (h : EffectsCurrent l)
    (hassignment : l'.assignment = (l.demoteOn target.target).assignment)
    (htarget : l'.target = (l.setTarget target).target) :
    EffectsCurrent l' := by
  intro flow a ha heffect
  rw [hassignment] at ha
  simp only [demoteOn, Option.map_eq_some_iff] at ha
  obtain ⟨old, hold, rfl⟩ := ha
  unfold demote at heffect ⊢
  split at heffect
  · exact absurd rfl heffect
  next hne =>
    rw [if_neg hne]
    have hcurrent := (h flow old hold heffect).setTarget_of_ne hne
    intro found hfound
    rw [htarget] at hfound
    exact hcurrent found hfound

theorem EffectsCurrent.setEffect {flow : FlowId} {effect : EffectState}
    (h : EffectsCurrent l)
    (hcurrent : ∀ a, l.assignment flow = some a → effect ≠ .unknown →
      Current l a) : EffectsCurrent (l.setEffect flow effect) := by
  intro k a ha heffect
  by_cases hk : k = flow
  · subst hk
    simp only [Ledger.setEffect, Function.update_self,
      Option.map_eq_some_iff] at ha
    obtain ⟨old, hold, rfl⟩ := ha
    exact hcurrent old hold heffect
  · simp only [Ledger.setEffect, Function.update_of_ne hk] at ha
    exact h k a ha heffect

theorem EffectsCurrent.apply (hwf : WellFormed l) (henabled : e.enabled l)
    (hfinds : e.FindsCurrent l) (h : EffectsCurrent l) :
    EffectsCurrent (e.apply l) := by
  cases e with
  | supersede old flow =>
      intro k a ha heffect
      exact h k a (assignment_release old .rejectedStaleFlowGeneration ha).1
        heffect
  | remove old flow =>
      intro k a ha heffect
      exact h k a (assignment_release old .rejectedUnknownFlow ha).1 heffect
  | declare target =>
      intro k a ha heffect
      have hold : l.assignment k = some a := ha
      by_cases hk : a.target = target.target
      · rcases henabled with hnone | ⟨old, hfound, hincarnation, hcapability⟩
        · obtain ⟨-, known, hknown⟩ := hwf.placed k a hold
          rw [hk, hnone] at hknown
          cases hknown
        · refine (h k a hold heffect).of_target fun found hafter => ?_
          rw [hk] at hafter ⊢
          simp only [Event.apply, setTarget, Function.update_self,
            Option.some.injEq] at hafter
          subst hafter
          exact ⟨old, hfound, hincarnation, hcapability⟩
      · exact (h k a hold heffect).setTarget_of_ne hk
  | advanceCapability target => exact h.demoted rfl rfl
  | advanceIncarnation target => exact h.demoted rfl rfl
  | retire target => exact h.demoted rfl rfl
  | place batch =>
      intro k a ha heffect
      rcases assignment_foldl_commit ha with ⟨hmem, -⟩ | ⟨hold, -⟩
      · exact absurd (henabled.2 a hmem).effect heffect
      · refine (h k a hold heffect).of_target fun found hfound => ?_
        simp only [Event.apply, target_foldl_commit] at hfound
        exact ⟨found, hfound, rfl, rfl⟩
  | issue descriptor source intent =>
      have hset : EffectsCurrent (l.setEffect intent.flow .intentIssued) := by
        refine h.setEffect fun a ha _ => ?_
        rw [henabled.2.2.2.1] at ha
        cases ha
        exact hfinds
      intro k a ha heffect
      simp only [Event.apply, assignment_hold] at ha
      refine (hset k a ha heffect).of_target fun found hfound => ?_
      simp only [Event.apply, target_hold] at hfound
      exact ⟨found, hfound, rfl, rfl⟩
  | progress record advanced effect =>
      exact EffectsCurrent.setEffect (l := l.setAttempt advanced) h
        fun a ha _ => hfinds a ha
  | complete record observation next =>
      intro k a ha heffect
      simp only [Event.apply, assignment_move] at ha
      have htarget : ((Event.complete record observation next).apply l).target =
          l.target := by
        simp only [Event.apply, target_move]
        rfl
      by_cases hk : k = record.intent.flow
      · subst hk
        rw [Function.update_self, Option.map_eq_some_iff] at ha
        obtain ⟨old, -, rfl⟩ := ha
        intro found hfound
        rw [htarget] at hfound
        exact hfinds found hfound
      · rw [Function.update_of_ne hk] at ha
        intro found hfound
        rw [htarget] at hfound
        exact h k a ha heffect found hfound
  | abort record reason =>
      refine EffectsCurrent.setEffect (l := (l.setAttempt (abortedRecord record
        reason)).mapHolders _) h fun a _ hne => ?_
      exact absurd rfl hne
  | _ => exact h

theorem EffectsCurrent.restart {l' : Ledger} (h : EffectsCurrent l)
    (hrestart : Restarted l l') : EffectsCurrent l' := by
  intro flow a ha heffect
  rw [hrestart.assignment, Option.map_eq_some_iff] at ha
  obtain ⟨old, hold, rfl⟩ := ha
  unfold Impl.durableAssignment at heffect ⊢
  split at heffect
  · exact absurd rfl heffect
  next hverified =>
    rw [if_neg hverified]
    refine (h flow old hold heffect).of_target fun found hfound => ?_
    rw [hrestart.target, Option.map_eq_some_iff] at hfound
    obtain ⟨before, hbefore, rfl⟩ := hfound
    exact ⟨before, hbefore, rfl, rfl⟩

end Ledger

/-! ## Runs -/

namespace Impl

variable {s : Impl}

/-- The placement of the flow carries the generations of its target. -/
def PlacedCurrently (s : Impl) (flow : FlowId) : Prop :=
  ∀ a ∈ s.assignments[flow]?, ∀ target ∈ s.targets[a.target]?,
    a.incarnation = target.descriptor.incarnation ∧
      a.capabilityGeneration = target.descriptor.capabilityGeneration

instance (s : Impl) (flow : FlowId) : Decidable (s.PlacedCurrently flow) :=
  inferInstanceAs (Decidable (∀ a ∈ s.assignments[flow]?, _))

/-- The destination of the attempt is declared as the intent names it. -/
def DestinationCurrent (s : Impl) (intent : MigrationIntent) : Prop :=
  ∀ target ∈ s.targets[intent.destinationTarget]?,
    intent.destinationIncarnation = target.descriptor.incarnation ∧
      intent.destinationCapabilityGeneration =
        target.descriptor.capabilityGeneration

instance (s : Impl) (intent : MigrationIntent) :
    Decidable (s.DestinationCurrent intent) :=
  inferInstanceAs
    (Decidable (∀ target ∈ s.targets[intent.destinationTarget]?, _))

/--
An intent, an acknowledgement or an application that is accepted finds the
placement of its flow current, and an accepted observation finds the
destination current.  None of the four operations checks this.
-/
def WritesCurrentEffects (s : Impl) : Op → Prop
  | .issueIntent authorization _ _ =>
      ∀ stored ∈ s.authorizations[authorization]?, s.PlacedCurrently stored.flow
  | .acknowledge ack _ =>
      ∀ record ∈ s.migrations[ack.attempt]?, ack.accepted = true →
        s.incarnationRefusal record ack = none →
        s.PlacedCurrently record.intent.flow
  | .reportApplied effect _ =>
      ∀ record ∈ s.migrations[effect.attempt]?,
        s.effectRefusal record effect = none →
        s.PlacedCurrently record.intent.flow
  | .observe observation _ =>
      ∀ entry ∈ s.migrations.toList, entry.2.inFlight = true →
        entry.2.intent.flow = observation.flow →
        observationRefusal entry.2 observation = none →
        s.DestinationCurrent entry.2.intent
  | _ => True

instance (s : Impl) (op : Op) : Decidable (s.WritesCurrentEffects op) := by
  cases op <;> unfold WritesCurrentEffects <;> infer_instance

/-- A placement that is stale claims no effect. -/
def StaleClaimsNothing (s : Impl) : Prop :=
  ∀ flow a target, lookup s.assignments flow = some a →
    lookup s.targets a.target = some target →
    (a.incarnation ≠ target.descriptor.incarnation ∨
      a.capabilityGeneration ≠ target.descriptor.capabilityGeneration) →
    a.effect = .unknown

theorem current_of_placedCurrently {flow : FlowId}
    (h : s.PlacedCurrently flow) {a : Assignment}
    (ha : s.ledger.assignment flow = some a) : s.ledger.Current a := by
  intro target htarget
  obtain ⟨state, hstate, rfl⟩ := Option.map_eq_some_iff.mp htarget
  exact h a ha state hstate

theorem findsCurrent_of_writesCurrentEffects {op : Op}
    {event : Ledger.Event} (hguard : s.WritesCurrentEffects op) (h : s.Produces op event)
    (henabled : event.enabled s.ledger) : event.FindsCurrent s.ledger := by
  cases h with
  | @issue authorization wanted intent answer stored descriptor source hstored
      hflow =>
      have hsource := henabled.2.2.2.1
      rw [hflow] at hsource
      exact current_of_placedCurrently (hguard stored hstored) hsource
  | @acknowledge ack answer record advanced hattempt haccepted hrefusal =>
      intro a ha
      have hrecord := henabled.1
      rw [hattempt] at hrecord
      exact current_of_placedCurrently
        (hguard record hrecord haccepted hrefusal) ha
  | @apply effect answer record advanced hattempt hrefusal =>
      intro a ha
      have hrecord := henabled.1
      rw [hattempt] at hrecord
      exact current_of_placedCurrently (hguard record hrecord hrefusal) ha
  | @complete observation answer record next hflow hrefusal =>
      intro target htarget
      obtain ⟨state, hstate, rfl⟩ := Option.map_eq_some_iff.mp htarget
      exact hguard (record.intent.attempt, record)
        (lookup_eq_some_iff_mem_toList.mp henabled.1) henabled.2.1 hflow
        hrefusal state hstate
  | _ => trivial

theorem law_effectsCurrent : Law WritesCurrentEffects Ledger.EffectsCurrent where
  empty := by
    intro flow a ha
    cases ha
  event := by
    intro s op event hwf hlaw hguard hproduces henabled
    exact hlaw.apply hwf henabled
      (findsCurrent_of_writesCurrentEffects hguard hproduces henabled)
  restart := fun _ _ _ hlaw hrestart => hlaw.restart hrestart

theorem stale_placement_claims_no_effect (config : EngineConfig)
    (inputs : List Op)
    (h : engine.Admits WritesCurrentEffects (init config []) inputs) :
    (engine.run (init config []) inputs).StaleClaimsNothing := by
  intro flow a target ha htarget hstale
  by_contra heffect
  obtain ⟨hincarnation, hcapability⟩ := law_effectsCurrent.run h flow a ha
    heffect target.descriptor (ledger_target_of_lookup htarget)
  rcases hstale with hne | hne
  · exact hne hincarnation
  · exact hne hcapability

/-- The host with its capability generation advanced. -/
def upgradedHost (id : UInt64) : TargetDescriptor :=
  { sampleHost id with capabilityGeneration := ⟨2⟩ }

/-- An acknowledgement that was under way when the source moved on. -/
theorem late_acknowledgement_revives_an_effect :
    engine.Admits (fun _ _ => True) (init sampleConfig [])
        (plainIntent true ++ [.declareTarget (upgradedHost 1) committed,
          .acknowledge (sampleAck .source 1) committed]) ∧
      ¬ (engine.run (init sampleConfig []) (plainIntent true ++
        [.declareTarget (upgradedHost 1) committed,
          .acknowledge (sampleAck .source 1) committed])).StaleClaimsNothing := by
  refine ⟨by decide +kernel, ?_⟩
  intro h
  have hplaced : ((engine.run (init sampleConfig []) (plainIntent true ++
      [.declareTarget (upgradedHost 1) committed,
        .acknowledge (sampleAck .source 1) committed])).assignments[
          (⟨1⟩ : FlowId)]?).map
      (fun a => (a.target, a.capabilityGeneration, a.effect)) =
        some (⟨1⟩, ⟨1⟩, .acknowledged) := by
    decide +kernel
  have htarget : ((engine.run (init sampleConfig []) (plainIntent true ++
      [.declareTarget (upgradedHost 1) committed,
        .acknowledge (sampleAck .source 1) committed])).targets[
          (⟨1⟩ : TargetId)]?).map
      (fun state => state.descriptor.capabilityGeneration) = some ⟨2⟩ := by
    decide +kernel
  obtain ⟨a, ha, hfields⟩ := Option.map_eq_some_iff.mp hplaced
  obtain ⟨state, hstate, hcapability⟩ := Option.map_eq_some_iff.mp htarget
  simp only [Prod.mk.injEq] at hfields
  obtain ⟨hat, hac, hae⟩ := hfields
  rw [← hat] at hstate
  have hunknown := h ⟨1⟩ a state ha hstate (Or.inr (by
    rw [hac, hcapability]
    decide))
  rw [hae] at hunknown
  cases hunknown

/-- A completed migration whose destination moves on afterwards. -/
theorem upgrade_after_a_completion :
    engine.Admits WritesCurrentEffects (init sampleConfig [])
        (plainIntent true ++ plainHandoff ++
          [.observe (sampleObservation 1 2) committed,
            .declareTarget (upgradedHost 2) committed]) ∧
      (engine.run (init sampleConfig []) (plainIntent true ++ plainHandoff ++
        [.observe (sampleObservation 1 2) committed,
          .declareTarget (upgradedHost 2) committed])).StaleClaimsNothing :=
  ⟨by decide +kernel,
    stale_placement_claims_no_effect sampleConfig _ (by decide +kernel)⟩

end Impl

end FlowOffload

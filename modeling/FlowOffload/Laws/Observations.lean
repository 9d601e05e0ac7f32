import FlowOffload.Laws.Capacity

/-!
# What an observation verifies

`observe` looks for the attempt by the flow, and compares neither the
generation of the flow nor the source and its sequence with anything.  So an
observation verifies the attempt it is about, and only once, when it is about
the registered generation of the flow and nothing is delivered twice while an
applied effect waits.
-/

namespace FlowOffload

open Foundation (Machine lookup lookup_eq_some_iff_mem_toList)

namespace Impl

variable {s : Impl}

/-- Every observation that completes an attempt is about its generation, and
none of them completes a second one. -/
def VerifiesOnce (s : Impl) (inputs : List Op) : Prop :=
  ∀ before observation answer after attempt record,
    inputs = before ++ .observe observation answer :: after →
    (engine.run s before).Completes observation answer attempt record →
      observation.flowGeneration = record.intent.flowGeneration ∧
        ∀ earlier other answer' between attempt' record',
          before = earlier ++ .observe other answer' :: between →
          (engine.run s earlier).Completes other answer' attempt' record' →
            (other.source, other.sourceSequence) ≠
              (observation.source, observation.sourceSequence)

/-- An applied effect of the flow waits for its verification. -/
def awaitsVerification (s : Impl) (flow : FlowId) : Bool :=
  s.migrations.toList.any fun entry =>
    entry.2.intent.flow == flow && entry.2.inFlight && entry.2.effectApplied

/-- A completion is that of an attempt of the observed flow, whose effect was
applied. -/
theorem Completes.verified {observation : EffectObservation} {answer : Status}
    {k : MigrationAttemptId} {record : MigrationRecord}
    (h : s.Completes observation answer k record) (hkeyed : s.ledger.Keyed) :
    record.intent.flow = observation.flow ∧
      observationRefusal record observation = none := by
  obtain ⟨next, hproduces, -⟩ := h.produces hkeyed
  cases hproduces with
  | complete hflow hrefusal => exact ⟨hflow, hrefusal⟩

theorem Completes.awaits {observation : EffectObservation} {answer : Status}
    {k : MigrationAttemptId} {record : MigrationRecord}
    (h : s.Completes observation answer k record) (hkeyed : s.ledger.Keyed) :
    s.awaitsVerification observation.flow = true := by
  obtain ⟨hflow, hrefusal⟩ := h.verified hkeyed
  obtain ⟨happlied, -⟩ := of_observationRefusal hrefusal
  rw [awaitsVerification, List.any_eq_true]
  refine ⟨(k, record), lookup_eq_some_iff_mem_toList.mp h.before, ?_⟩
  simp [hflow, h.inFlight hkeyed, happlied]

end Impl

/-- An engine, and the source and sequence of every observation that met an
applied effect. -/
structure Watch where
  impl : Impl
  met : List (EvidenceSourceId × EvidenceSequence) := []

namespace Watch

def meets (w : Watch) : Op → List (EvidenceSourceId × EvidenceSequence)
  | .observe observation _ =>
      if w.impl.awaitsVerification observation.flow then
        [(observation.source, observation.sourceSequence)]
      else []
  | _ => []

def step (w : Watch) (op : Op) : Watch :=
  { impl := w.impl.step op, met := w.meets op ++ w.met }

/-- An observation that meets an applied effect is about the registered
generation of its flow, and is not delivered again. -/
def Fresh (w : Watch) : Op → Prop
  | .observe observation _ =>
      w.impl.awaitsVerification observation.flow = true →
        (∀ flow ∈ w.impl.flows[observation.flow]?,
          observation.flowGeneration = flow.generation) ∧
        (observation.source, observation.sourceSequence) ∉ w.met
  | _ => True

instance (w : Watch) : (op : Op) → Decidable (w.Fresh op)
  | .observe observation _ => inferInstanceAs (Decidable
      (w.impl.awaitsVerification observation.flow = true →
        (∀ flow ∈ w.impl.flows[observation.flow]?,
          observation.flowGeneration = flow.generation) ∧
        (observation.source, observation.sourceSequence) ∉ w.met))
  | .openEngine _ _ | .restart _ | .shutdown _ | .registerFlow _ _
  | .removeFlow _ _ _ | .declareTarget _ _ | .removeTarget _ _ _ _
  | .ingestLoad _ | .setPolicy _ _ | .setTopologyGeneration _ _
  | .registerMigrationContract _ _ | .place _ _ | .rebalance _ _
  | .authorize _ _ | .revokeAuthorization _ | .issueIntent _ _ _
  | .acknowledge _ _ | .reportApplied _ _ | .abortMigration _ _ _ =>
      isTrue trivial

end Watch

/-- The engine under observation, as a machine. -/
def watch : Machine Watch Op where
  step := Watch.step
  allowed w op := w.impl.allowed op

instance (w : Watch) (op : Op) : Decidable (watch.allowed w op) :=
  inferInstanceAs (Decidable (w.impl.allowed op))

namespace Watch

variable {w : Watch} {inputs : List Op}

theorem impl_run (w : Watch) (inputs : List Op) :
    (watch.run w inputs).impl = engine.run w.impl inputs := by
  induction inputs generalizing w with
  | nil => rfl
  | cons op inputs ih => exact ih (w.step op)

theorem admits_engine {guard : Watch → Op → Prop}
    (h : watch.Admits guard w inputs) :
    engine.Admits (fun _ _ => True) w.impl inputs := by
  induction inputs generalizing w with
  | nil => trivial
  | cons op inputs ih => exact ⟨h.1, trivial, ih h.2.2⟩

theorem met_run {entry : EvidenceSourceId × EvidenceSequence}
    (h : entry ∈ w.met) (inputs : List Op) :
    entry ∈ (watch.run w inputs).met := by
  induction inputs generalizing w with
  | nil => exact h
  | cons op inputs ih => exact ih (List.mem_append_right _ h)

end Watch

namespace Impl

open Watch

/--
While every observation that meets an applied effect is about the registered
generation of its flow, and carries a source and a sequence that no earlier
one of them carried, each completes an attempt of its own generation, and none
of them two.
-/
theorem observations_verify_once (config : EngineConfig) (inputs : List Op)
    (h : watch.Admits Watch.Fresh { impl := init config [] } inputs) :
    VerifiesOnce (init config []) inputs := by
  have hkeyed : ∀ before after, inputs = before ++ after →
      (engine.run (init config []) before).ledger.WellFormed := by
    intro before after hinputs
    subst hinputs
    exact wellFormed_run (admits_engine (Machine.admits_append.mp h).1)
  have hrun : ∀ before, (watch.run { impl := init config [] } before).impl =
      engine.run (init config []) before := fun before => impl_run _ before
  intro before observation answer after attempt record hinputs hcompletes
  have hformed := hkeyed before _ hinputs
  subst hinputs
  obtain ⟨-, -, hfresh, -⟩ := Machine.admits_append.mp h
  have hmeets := hcompletes.awaits hformed.toKeyed
  rw [Watch.Fresh, hrun] at hfresh
  obtain ⟨hgeneration, hnew⟩ := hfresh hmeets
  obtain ⟨hflow, -⟩ := hcompletes.verified hformed.toKeyed
  constructor
  · obtain ⟨descriptor, hdescriptor, hsame, -⟩ := (hformed.backed attempt record
      hcompletes.before (hcompletes.inFlight hformed.toKeyed)).flow
    rw [hsame]
    rw [hflow] at hdescriptor
    exact hgeneration descriptor hdescriptor
  · intro earlier other answer' between attempt' record' hbefore hother heq
    subst hbefore
    have hearlier := hkeyed earlier _ (List.append_assoc _ _ _)
    refine hnew ?_
    rw [Machine.run_append, Machine.run_cons, ← heq]
    refine met_run ?_ between
    refine List.mem_append_left _ ?_
    rw [meets, hrun, if_pos (hother.awaits hearlier.toKeyed)]
    exact List.mem_singleton_self _

/-- The messages that move the flow under the authorization. -/
def journey (attempt source destination : UInt64) : List Op :=
  [.issueIntent ⟨1⟩ (sampleIntent destination) committed,
    .acknowledge { sampleAck .source source with attempt := ⟨attempt⟩ }
      committed,
    .acknowledge { sampleAck .destination destination with
      attempt := ⟨attempt⟩ } committed,
    .reportApplied { sampleEffect destination with attempt := ⟨attempt⟩ }
      committed]

/-- What is seen of the flow on a host, numbered by its source. -/
def sighting (host sequence : UInt64) : EffectObservation :=
  { sampleObservation 1 host with sourceSequence := ⟨sequence⟩ }

/-- A flow moves to the second host, and is verified there. -/
def outward : List Op :=
  [.openEngine {} committed, .setPolicy (samplePolicy true) committed,
    .declareTarget (sampleHost 1) committed,
    .declareTarget (sampleHost 2) committed,
    .registerFlow (plainFlow 1 10) committed,
    .place (sampleRequest 1 1 [1]) committed, .authorize ⟨1⟩ ⟨1⟩] ++
    journey 1 1 2

/-- It goes back, and is moved to the second host again. -/
def backAndForth : List Op :=
  journey 2 2 1 ++ [.observe (sighting 1 2) committed] ++ journey 3 1 2

example : (engine.run (init sampleConfig [])
    outward).counters.effectsApplied = 1 := by
  decide +kernel

theorem completes_of_phases {s : Impl} {observation : EffectObservation}
    {answer : Status} {k : MigrationAttemptId} {generation : FlowGeneration}
    (h : (s.migrations[k]?).map (fun record =>
        (record.intent.phase, record.intent.flowGeneration)) =
          some (.effectApplied, generation) ∧
      ((s.step (.observe observation answer)).migrations[k]?).map
        (fun record => record.intent.phase) = some .completed) :
    ∃ record, s.Completes observation answer k record ∧
      record.intent.flowGeneration = generation := by
  obtain ⟨hbefore, hafter⟩ := h
  obtain ⟨record, hrecord, hfields⟩ := Option.map_eq_some_iff.mp hbefore
  rw [Prod.mk.injEq] at hfields
  exact ⟨record, ⟨hrecord, by rw [hfields.1]; decide,
    Option.map_eq_some_iff.mp hafter⟩, hfields.2⟩

/-- Each sighting is reported once, the last one with a number of its own. -/
theorem sightings_verify_once :
    VerifiesOnce (init sampleConfig []) (outward ++
        .observe (sighting 2 1) committed :: (backAndForth ++
          [.observe (sighting 2 3) committed])) ∧
      ∃ record, (engine.run (init sampleConfig []) (outward ++
        .observe (sighting 2 1) committed :: backAndForth)).Completes
          (sighting 2 3) committed ⟨3⟩ record := by
  refine ⟨observations_verify_once _ _ (by decide +kernel), ?_⟩
  obtain ⟨record, hcompletes, -⟩ := @completes_of_phases
    (engine.run (init sampleConfig []) (outward ++
      .observe (sighting 2 1) committed :: backAndForth))
    (sighting 2 3) committed ⟨3⟩ ⟨1⟩ (by decide +kernel)
  exact ⟨record, hcompletes⟩

/--
The first sighting is delivered again and verifies the third attempt.  A
sighting of another generation of the flow verifies the first one.
-/
theorem sighting_verifies_twice :
    engine.Admits (fun _ _ => True) (init sampleConfig [])
        (outward ++ .observe (sighting 2 1) committed :: (backAndForth ++
          [.observe (sighting 2 1) committed])) ∧
      ¬ VerifiesOnce (init sampleConfig []) (outward ++
        .observe (sighting 2 1) committed :: (backAndForth ++
          [.observe (sighting 2 1) committed])) ∧
      ¬ VerifiesOnce (init sampleConfig []) (outward ++
        [.observe { sighting 2 1 with flowGeneration := ⟨7⟩ } committed]) := by
  refine ⟨by decide +kernel, ?_, ?_⟩
  · intro h
    obtain ⟨first, hfirst, -⟩ := @completes_of_phases
      (engine.run (init sampleConfig []) outward) (sighting 2 1) committed
      ⟨1⟩ ⟨1⟩ (by decide +kernel)
    obtain ⟨third, hthird, -⟩ := @completes_of_phases
      (engine.run (init sampleConfig []) (outward ++
        .observe (sighting 2 1) committed :: backAndForth))
      (sighting 2 1) committed ⟨3⟩ ⟨1⟩ (by decide +kernel)
    have honce := h (outward ++ .observe (sighting 2 1) committed ::
      backAndForth) (sighting 2 1) committed [] ⟨3⟩ third
      (by rw [List.append_assoc, List.cons_append]) hthird
    exact honce.2 outward (sighting 2 1) committed backAndForth ⟨1⟩ first rfl
      hfirst rfl
  · intro h
    obtain ⟨first, hfirst, hgeneration⟩ := @completes_of_phases
      (engine.run (init sampleConfig []) outward)
      { sighting 2 1 with flowGeneration := ⟨7⟩ } committed ⟨1⟩ ⟨1⟩
      (by decide +kernel)
    have honce := (h outward _ committed [] ⟨1⟩ first rfl hfirst).1
    rw [hgeneration] at honce
    exact absurd honce (by decide)

end Impl

end FlowOffload

import FlowOffload.Engine.Demand
import FlowOffload.Laws.Attempts
import FlowOffload.Ledger.Endings

/-!
# Capacity at completion

The last step of a migration moves the demand of its flow to the destination.
No step of the handoff compares the two, so the destination stays within its
capacity exactly when it happens to have room.
-/

namespace FlowOffload

open Foundation

namespace Impl

variable {s : Impl}

/-- The committed demand of the target is within its capacity. -/
def Fits (s : Impl) (id : TargetId) : Prop :=
  ∀ state, lookup s.targets id = some state →
    (s.committedDemandForLocked id).exceedsAny state.descriptor.capacity =
      false

/-- The flow is on the destination already, or the destination has room for
its demand. -/
def hasRoom (s : Impl) (intent : MigrationIntent) : Bool :=
  match s.targets[intent.destinationTarget]?, s.flows[intent.flow]?,
    s.assignments[intent.flow]? with
  | some destination, some flow, some placed =>
      placed.target = intent.destinationTarget ||
        !((s.committedDemandForLocked
          intent.destinationTarget).addOrSaturate flow.demand).exceedsAny
            destination.descriptor.capacity
  | _, _, _ => true

/-- The observation takes the attempt to its completion. -/
structure Completes (s : Impl) (observation : EffectObservation)
    (answer : Status) (k : MigrationAttemptId) (record : MigrationRecord) :
    Prop where
  before : lookup s.migrations k = some record
  pending : record.intent.phase ≠ .completed
  after : ∃ after,
    lookup (s.step (.observe observation answer)).migrations k = some after ∧
      after.intent.phase = .completed

/-! ## One observation -/

theorem Completes.inFlight {observation : EffectObservation} {answer : Status}
    {k : MigrationAttemptId} {record : MigrationRecord}
    (h : s.Completes observation answer k record) (hkeyed : s.ledger.Keyed) :
    record.inFlight = true := by
  cases hflight : record.inFlight with
  | true => rfl
  | false =>
      obtain ⟨after, hafter, hcompleted⟩ := h.after
      have hsame := migrations_step_of_ended hkeyed
        (.observe observation answer) rfl (fun _ heq => nomatch heq) h.before
        hflight
      rw [hsame] at hafter
      cases hafter
      exact absurd hcompleted h.pending

/-- What completes an attempt is the event of its completion. -/
theorem Completes.produces {observation : EffectObservation} {answer : Status}
    {k : MigrationAttemptId} {record : MigrationRecord}
    (h : s.Completes observation answer k record) (hkeyed : s.ledger.Keyed) :
    ∃ next, s.Produces (.observe observation answer)
        (.complete record observation next) ∧
      (s.step (.observe observation answer)).ledger =
        (Ledger.Event.complete record observation next).apply s.ledger := by
  have hflight := h.inFlight hkeyed
  have hbefore : s.ledger.attempt k = some record := h.before
  obtain ⟨after, hafter, hcompleted⟩ := h.after
  have hafter' : (s.step (.observe observation answer)).ledger.attempt k =
      some after := hafter
  rcases step_ledger hkeyed (.observe observation answer) with
    (heq | ⟨event, hproduces, henabled, heq⟩) | ⟨config, heq, -⟩ |
      ⟨state, heq, -⟩
  · rw [heq, hbefore] at hafter'
    cases hafter'
    exact absurd hcompleted h.pending
  · rw [heq] at hafter'
    obtain ⟨found, hfound, hstays⟩ :=
      Ledger.inFlight_or_stops henabled hbefore hflight
    rw [hafter'] at hfound
    cases hfound
    rcases hstays with hstill | hstops
    · rw [MigrationRecord.inFlight_iff] at hstill
      exact absurd hcompleted hstill.1
    · cases hproduces with
      | @complete _ _ completed next hflow hrefusal =>
          cases hstops
          exact ⟨next, .complete hflow hrefusal, heq⟩
  · cases heq
  · cases heq

theorem Completes.event {observation : EffectObservation} {answer : Status}
    {k : MigrationAttemptId} {record : MigrationRecord}
    (h : s.Completes observation answer k record) (hkeyed : s.ledger.Keyed) :
    ∃ next, (s.step (.observe observation answer)).ledger =
      (Ledger.Event.complete record observation next).apply s.ledger := by
  obtain ⟨next, -, heq⟩ := h.produces hkeyed
  exact ⟨next, heq⟩

theorem fits_iff {id : TargetId} {descriptor : TargetDescriptor}
    (h : s.ledger.target id = some descriptor) :
    s.Fits id ↔ (s.committedDemandForLocked id).exceedsAny
      descriptor.capacity = false := by
  have hfound : (lookup s.targets id).map TargetState.descriptor =
      some descriptor := h
  obtain ⟨state, hstate, rfl⟩ := Option.map_eq_some_iff.mp hfound
  constructor
  · exact fun hfits => hfits state hstate
  · intro hfits other hother
    rw [hstate] at hother
    cases hother
    exact hfits

/-- The committed demand of the destination after a completion. -/
theorem committedDemand_complete {t : Impl} {record : MigrationRecord}
    {observation : EffectObservation} {next : UInt64}
    (hledger : t.ledger =
      (Ledger.Event.complete record observation next).apply s.ledger)
    {flow : FlowDescriptor} {placed : Assignment}
    (hflow : lookup s.flows record.intent.flow = some flow)
    (hplaced : lookup s.assignments record.intent.flow = some placed) :
    t.committedDemandForLocked record.intent.destinationTarget =
      if placed.target = record.intent.destinationTarget then
        s.committedDemandForLocked record.intent.destinationTarget
      else (s.committedDemandForLocked
        record.intent.destinationTarget).addOrSaturate flow.demand := by
  have hflows : t.flows = s.flows := by
    refine ext_lookup fun k => ?_
    have h := congrFun (congrArg Ledger.flow hledger) k
    simp only [Ledger.Event.apply, Ledger.flow_move] at h
    exact h
  have hassignments : t.assignments = s.assignments.insert record.intent.flow
      (completedAssignment record.intent observation next placed) := by
    refine ext_lookup fun k => ?_
    have h := congrFun (congrArg Ledger.assignment hledger) k
    simp only [Ledger.Event.apply, Ledger.assignment_move] at h
    have hplaced' : s.ledger.assignment record.intent.flow = some placed :=
      hplaced
    rw [lookup_insert]
    refine h.trans ?_
    change Function.update s.ledger.assignment _
      ((s.ledger.assignment record.intent.flow).map _) k = _
    rw [hplaced']
    rfl
  rw [committedDemandForLocked_eq, committedDemandForLocked_eq, due, due,
    hflows, hassignments]
  split
  next hsame => exact charge_insert_staying hplaced hsame _
  next hmoved =>
    refine charge_insert_arriving (a := completedAssignment record.intent
      observation next placed) hflow ?_
    intro old hold
    rw [hplaced] at hold
    cases hold
    exact hmoved

theorem fits_iff_hasRoom (hwf : s.ledger.WellFormed)
    (hfits : ∀ id, s.Fits id) {observation : EffectObservation}
    {answer : Status} {k : MigrationAttemptId} {record : MigrationRecord}
    (h : s.Completes observation answer k record) :
    (s.step (.observe observation answer)).Fits
        record.intent.destinationTarget ↔
      s.hasRoom record.intent = true := by
  obtain ⟨next, hledger⟩ := h.event hwf.toKeyed
  have hbacked := hwf.backed k record h.before (h.inFlight hwf.toKeyed)
  obtain ⟨flow, hflow, -, -⟩ := hbacked.flow
  obtain ⟨destination, hdestination⟩ := hbacked.destination
  obtain ⟨placed, hplaced⟩ := hbacked.placed
  have hafter : (s.step (.observe observation answer)).ledger.target
      record.intent.destinationTarget = some destination := by
    rw [hledger]
    simp only [Ledger.Event.apply, Ledger.target_move]
    exact hdestination
  have hbefore := (fits_iff hdestination).mp
    (hfits record.intent.destinationTarget)
  rw [fits_iff hafter, committedDemand_complete hledger hflow hplaced]
  have hdescriptor : (lookup s.targets record.intent.destinationTarget).map
      TargetState.descriptor = some destination := hdestination
  obtain ⟨state, hstate, rfl⟩ := Option.map_eq_some_iff.mp hdescriptor
  have htarget : s.targets[record.intent.destinationTarget]? = some state :=
    hstate
  have hregistered : s.flows[record.intent.flow]? = some flow := hflow
  have hassigned : s.assignments[record.intent.flow]? = some placed := hplaced
  simp only [hasRoom, htarget, hregistered, hassigned]
  by_cases hsame : placed.target = record.intent.destinationTarget
  · simp only [hsame, if_true, hbefore, decide_true, Bool.true_or]
  · simp only [hsame, if_false, decide_false, Bool.false_or,
      Bool.not_eq_eq_eq_not, Bool.not_true]

/-! ## Every reachable state -/

theorem completion_fits_iff_room (config : EngineConfig) (inputs : List Op)
    (h : engine.Admits (fun _ _ => True) (init config []) inputs)
    (hfits : ∀ id, (engine.run (init config []) inputs).Fits id)
    (observation : EffectObservation) (answer : Status)
    (k : MigrationAttemptId) (record : MigrationRecord)
    (hcompletes : (engine.run (init config []) inputs).Completes observation
      answer k record) :
    ((engine.run (init config []) inputs).step
        (.observe observation answer)).Fits record.intent.destinationTarget ↔
      (engine.run (init config []) inputs).hasRoom record.intent = true :=
  fits_iff_hasRoom (wellFormed_run h) hfits hcompletes

theorem fits_of_toList (h : ∀ entry ∈ s.targets.toList,
      (s.committedDemandForLocked entry.1).exceedsAny
        entry.2.descriptor.capacity = false) (id : TargetId) : s.Fits id := by
  intro state hstate
  exact h (id, state) (lookup_eq_some_iff_mem_toList.mp hstate)

/-- Two flows on two hosts, and the handoff of the first one. -/
def crowdedHandoff (demand : UInt64) : List Op :=
  [.openEngine {} committed, .setPolicy (samplePolicy true) committed,
    .declareTarget (sampleHost 1) committed,
    .declareTarget (sampleHost 2) committed,
    .registerFlow (plainFlow 1 demand) committed,
    .registerFlow (plainFlow 2 60) committed,
    .place (sampleRequest 1 1 [1, 2]) committed, .authorize ⟨1⟩ ⟨1⟩,
    .issueIntent ⟨1⟩ (sampleIntent 2) committed] ++ plainHandoff

/-- Both flows fit on their hosts, and not together on one. -/
theorem completion_overcommits_its_destination :
    engine.Admits (fun _ _ => True) (init sampleConfig [])
        (crowdedHandoff 60) ∧
      (∀ id, (engine.run (init sampleConfig []) (crowdedHandoff 60)).Fits id) ∧
      (∃ record, (engine.run (init sampleConfig [])
        (crowdedHandoff 60)).Completes (sampleObservation 1 2) committed ⟨1⟩
          record ∧ record.intent.destinationTarget = ⟨2⟩) ∧
      ¬ ((engine.run (init sampleConfig []) (crowdedHandoff 60)).step
        (.observe (sampleObservation 1 2) committed)).Fits ⟨2⟩ := by
  refine ⟨by decide +kernel, fits_of_toList (by decide +kernel), ?_, ?_⟩
  · have hbefore : ((engine.run (init sampleConfig [])
        (crowdedHandoff 60)).migrations[(⟨1⟩ : MigrationAttemptId)]?).map
        (fun record => (record.intent.phase,
          record.intent.destinationTarget)) = some (.effectApplied, ⟨2⟩) := by
      decide +kernel
    have hafter : (((engine.run (init sampleConfig []) (crowdedHandoff 60)).step
        (.observe (sampleObservation 1 2) committed)).migrations[
          (⟨1⟩ : MigrationAttemptId)]?).map
        (fun record => record.intent.phase) = some .completed := by
      decide +kernel
    obtain ⟨record, hrecord, hfields⟩ := Option.map_eq_some_iff.mp hbefore
    rw [Prod.mk.injEq] at hfields
    exact ⟨record, ⟨hrecord, by rw [hfields.1]; decide,
      Option.map_eq_some_iff.mp hafter⟩, hfields.2⟩
  · intro hfits
    have hexceeds : (((engine.run (init sampleConfig [])
        (crowdedHandoff 60)).step (.observe (sampleObservation 1 2)
          committed)).targets[(⟨2⟩ : TargetId)]?).map (fun state =>
            (((engine.run (init sampleConfig []) (crowdedHandoff 60)).step
              (.observe (sampleObservation 1 2)
                committed)).committedDemandForLocked ⟨2⟩).exceedsAny
                  state.descriptor.capacity) = some true := by
      decide +kernel
    obtain ⟨state, hstate, htrue⟩ := Option.map_eq_some_iff.mp hexceeds
    rw [hfits state hstate] at htrue
    cases htrue

/-- A smaller flow finds room on the destination. -/
theorem completion_within_its_destination : ∃ record,
    (engine.run (init sampleConfig []) (crowdedHandoff 30)).Completes
        (sampleObservation 1 2) committed ⟨1⟩ record ∧
      ((engine.run (init sampleConfig []) (crowdedHandoff 30)).step
        (.observe (sampleObservation 1 2) committed)).Fits
          record.intent.destinationTarget := by
  have hbefore : ((engine.run (init sampleConfig [])
      (crowdedHandoff 30)).migrations[(⟨1⟩ : MigrationAttemptId)]?).map
      (fun record => (record.intent.phase,
        (engine.run (init sampleConfig []) (crowdedHandoff 30)).hasRoom
          record.intent)) = some (.effectApplied, true) := by
    decide +kernel
  have hafter : (((engine.run (init sampleConfig []) (crowdedHandoff 30)).step
      (.observe (sampleObservation 1 2) committed)).migrations[
        (⟨1⟩ : MigrationAttemptId)]?).map
      (fun record => record.intent.phase) = some .completed := by
    decide +kernel
  obtain ⟨record, hrecord, hfields⟩ := Option.map_eq_some_iff.mp hbefore
  rw [Prod.mk.injEq] at hfields
  have hcompletes : (engine.run (init sampleConfig [])
      (crowdedHandoff 30)).Completes (sampleObservation 1 2) committed ⟨1⟩
        record :=
    ⟨hrecord, by rw [hfields.1]; decide, Option.map_eq_some_iff.mp hafter⟩
  exact ⟨record, hcompletes, (completion_fits_iff_room sampleConfig
    (crowdedHandoff 30) (by decide +kernel)
    (fits_of_toList (by decide +kernel)) _ _ _ _ hcompletes).mpr hfields.2⟩

end Impl

end FlowOffload

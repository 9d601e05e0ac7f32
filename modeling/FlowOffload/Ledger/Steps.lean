import FlowOffload.Engine.PlanSpec
import FlowOffload.Engine.Reception
import FlowOffload.Ledger.Frame

/-!
# Every operation is at most one event

For each public operation: the ledger stays as it is, or it changes by one
enabled event.  `Produces` records which event an operation can cause and the
arguments the two share.
-/

namespace FlowOffload

open Foundation
open Std (ExtTreeMap)

namespace Impl

/-- The acknowledgement is a negative one that passes every check. -/
def declines (s : Impl) (record : MigrationRecord)
    (ack : MigrationAcknowledgement) : Bool :=
  !ack.accepted && ack.actor ≠ .unknown &&
    (s.incarnationRefusal record ack).isNone &&
    (partyRefusal record.intent (ack.actor = .source) ack).isNone &&
    (acknowledgedBy record (ack.actor = .source)).isNone &&
    record.intent.phase = (if ack.actor = .source then .intentIssued
      else .sourceAcknowledged)

/-- The operation ends the attempt on the way, if it is in flight: a negative
acknowledgement, or the loss of its flow or of one of its targets. -/
def ends (s : Impl) (op : Op) (record : MigrationRecord) : Bool :=
  s.isOpen && match op with
    | .registerFlow flow _ =>
        (flowRefusal flow).isNone && attemptOf flow.flow record &&
          (s.flows[flow.flow]?).any fun old =>
            old.generation < flow.generation
    | .removeFlow flow generation _ =>
        attemptOf flow record && (s.flows[flow]?).any fun old =>
          !generation.isValid || generation = old.generation
    | .declareTarget target _ =>
        (s.targetRefusal target).isNone &&
          touchesTarget target.target record &&
          (s.targets[target.target]?).any fun existing =>
            existing.descriptor.incarnation < target.incarnation
    | .removeTarget target incarnation _ _ =>
        touchesTarget target record && (s.targets[target]?).any fun existing =>
          !incarnation.isValid ||
            incarnation = existing.descriptor.incarnation
    | .acknowledge ack _ =>
        record.intent.attempt = ack.attempt && s.declines record ack
    | _ => false

end Impl

/-- The event that an operation causes, with what the two have in common. -/
inductive Impl.Produces (s : Impl) : Op → Ledger.Event → Prop where
  | register {flow : FlowDescriptor} {answer : Status} :
      Produces s (.registerFlow flow answer) (.register flow)
  | supersede {old flow : FlowDescriptor} {answer : Status}
      (ends : ∀ record, Impl.attemptOf flow.flow record = true →
        s.ends (.registerFlow flow answer) record = true) :
      Produces s (.registerFlow flow answer) (.supersede old flow)
  | remove {old : FlowDescriptor} {flow : FlowId}
      {generation : FlowGeneration} {answer : Status}
      (ends : ∀ record, Impl.attemptOf flow record = true →
        s.ends (.removeFlow flow generation answer) record = true) :
      Produces s (.removeFlow flow generation answer) (.remove old flow)
  | declare {target : TargetDescriptor} {answer : Status}
      (identity : ∀ old, s.ledger.target target.target = some old →
        Impl.sameTargetIdentity old target = true) :
      Produces s (.declareTarget target answer) (.declare target)
  | advanceCapability {target : TargetDescriptor} {answer : Status} :
      Produces s (.declareTarget target answer) (.advanceCapability target)
  | advanceIncarnation {target : TargetDescriptor} {answer : Status}
      (ends : ∀ record, Impl.touchesTarget target.target record = true →
        s.ends (.declareTarget target answer) record = true) :
      Produces s (.declareTarget target answer) (.advanceIncarnation target)
  | retire {id : TargetId} {target : TargetDescriptor}
      {incarnation : TargetIncarnation} {instant : Timestamp}
      {answer : Status} (target_eq : target.target = id)
      (ends : ∀ record, Impl.touchesTarget id record = true →
        s.ends (.removeTarget id incarnation instant answer) record = true) :
      Produces s (.removeTarget id incarnation instant answer)
        (.retire target)
  | addContract {contract : MigrationContract} {answer : Status} :
      Produces s (.registerMigrationContract contract answer)
        (.addContract contract)
  | place {request : PlacementRequest} {answer : Status}
      {batch : List Assignment} (executes : s.executes request = true)
      (planned : ∀ a ∈ batch, ∃ pending ∈ s.replacements request,
        a.flow = pending.flow ∧ a.target = pending.target) :
      Produces s (.place request answer) (.place batch)
  | issue {authorization : AuthorizationId} {wanted intent : MigrationIntent}
      {answer : Status} {stored : Authorization}
      {descriptor : FlowDescriptor} {source : Assignment}
      (stored_eq : lookup s.authorizations authorization = some stored)
      (flow : intent.flow = stored.flow)
      (attempt : intent.attempt = ⟨s.nextAttempt⟩)
      (destination : intent.destinationTarget = wanted.destinationTarget ∧
        intent.destinationIncarnation = wanted.destinationIncarnation ∧
        intent.destinationCapabilityGeneration =
          wanted.destinationCapabilityGeneration) :
      Produces s (.issueIntent authorization wanted answer)
        (.issue descriptor source intent)
  | acknowledge {ack : MigrationAcknowledgement} {answer : Status}
      {record advanced : MigrationRecord}
      (attempt : record.intent.attempt = ack.attempt)
      (accepted : ack.accepted = true)
      (refusal : s.incarnationRefusal record ack = none) :
      Produces s (.acknowledge ack answer)
        (.progress record advanced .acknowledged)
  | decline {ack : MigrationAcknowledgement} {answer : Status}
      {record : MigrationRecord} {isSource : Bool}
      (attempt : record.intent.attempt = ack.attempt)
      (ends : s.ends (.acknowledge ack answer) record = true) :
      Produces s (.acknowledge ack answer) (.decline record isSource ack)
  | apply {effect : AppliedEffect} {answer : Status}
      {record advanced : MigrationRecord}
      (attempt : record.intent.attempt = effect.attempt)
      (refusal : s.effectRefusal record effect = none) :
      Produces s (.reportApplied effect answer)
        (.progress record advanced .applied)
  | complete {observation : EffectObservation} {answer : Status}
      {record : MigrationRecord} {next : UInt64}
      (flow : record.intent.flow = observation.flow)
      (refusal : observationRefusal record observation = none) :
      Produces s (.observe observation answer)
        (.complete record observation next)
  | abort {attempt : MigrationAttemptId} {record : MigrationRecord}
      {reason : ReasonCode} {answer : Status}
      (attempt_eq : record.intent.attempt = attempt) :
      Produces s (.abortMigration attempt reason answer)
        (.abort record reason)

namespace Impl

/-- The ledger after an operation: unchanged, or changed by one event. -/
def Steps (s : Impl) (op : Op) (after : Ledger) : Prop :=
  after = s.ledger ∨ ∃ event, s.Produces op event ∧
    event.enabled s.ledger ∧ after = event.apply s.ledger

variable {s : Impl}

theorem Steps.stay {op : Op} {after : Ledger} (h : after = s.ledger) :
    s.Steps op after := Or.inl h

theorem Steps.move {op : Op} {after : Ledger} (event : Ledger.Event)
    (hproduces : s.Produces op event) (henabled : event.enabled s.ledger)
    (h : after = event.apply s.ledger) : s.Steps op after :=
  Or.inr ⟨event, hproduces, henabled, h⟩

/-! ## Flows -/

theorem ledger_released (s : Impl) (old : FlowDescriptor) (flow : FlowId)
    (reason : ReasonCode) :
    ((((s.releaseHolder old flow).releaseAssignment flow).fenceAttempts
      (attemptOf flow) reason).ledger) = s.ledger.release old flow reason := by
  rw [ledger_fenceAttempts, ledger_releaseAssignment, ledger_releaseHolder]
  rfl

theorem ledger_insertFlow (s : Impl) (id : FlowId) (flow : FlowDescriptor) :
    ({ s with flows := s.flows.insert id flow } : Impl).ledger =
      { s.ledger with
        flow := Function.update s.ledger.flow id (some flow) } := by
  simp [ledger]

theorem ledger_supersedeFlow (s : Impl) (old flow : FlowDescriptor) :
    (s.supersedeFlow old flow).ledger =
      (Ledger.Event.supersede old flow).apply s.ledger := by
  refine (ledger_insertFlow _ _ _).trans ?_
  rw [ledger_released]
  rfl

theorem isValid_of_flowRefusal {flow : FlowDescriptor}
    (h : flowRefusal flow = none) (hstateful : flow.statefulness = .stateful) :
    flow.exclusiveStateKey.isValid = true := by
  unfold flowRefusal at h
  grind

theorem steps_registerFlow (flow : FlowDescriptor) (answer : Status) :
    s.Steps (.registerFlow flow answer)
      (s.registerFlow flow answer).1.ledger := by
  unfold registerFlow
  split
  · exact .stay rfl
  next hopen =>
    split
    · exact .stay rfl
    next hvalid =>
      have hkey := isValid_of_flowRefusal hvalid
      split
      next hnone =>
        split
        · exact .stay rfl
        · refine .move (.register flow) .register ⟨hnone, hkey⟩ ?_
          rw [ledger_persistThen]
          simp [ledger, Ledger.Event.apply]
      next old hold =>
        split
        · exact .stay rfl
        · split
          · exact .stay rfl
          next hlt =>
            split
            · exact .stay rfl
            next hne =>
              have hnewer : old.generation < flow.generation := by
                rw [TypedId.lt_iff_toNat_lt] at hlt ⊢
                rw [TypedId.eq_iff_toNat_eq] at hne
                omega
              refine .move (.supersede old flow) (.supersede ?_)
                ⟨hold, hnewer, hkey⟩ ?_
              · intro record hrecord
                simp_all [ends]
              · rw [ledger_persistThen, ledger_supersedeFlow]

theorem ledger_eraseFlow (s : Impl) (id : FlowId) :
    ({ s with flows := s.flows.erase id } : Impl).ledger =
      { s.ledger with flow := Function.update s.ledger.flow id none } := by
  simp [ledger]

theorem ledger_dropFlow (s : Impl) (old : FlowDescriptor) (flow : FlowId) :
    (s.dropFlow old flow).ledger =
      (Ledger.Event.remove old flow).apply s.ledger := by
  unfold dropFlow
  rw [ledger_issueFenceLocked, ledger_fenceAttempts, ledger_releaseAssignment,
    ledger_eraseFlow, ledger_releaseHolder]
  rfl

theorem steps_removeFlow (flow : FlowId) (generation : FlowGeneration)
    (answer : Status) :
    s.Steps (.removeFlow flow generation answer)
      (s.removeFlow flow generation answer).1.ledger := by
  unfold removeFlow
  split
  · exact .stay rfl
  next hopen =>
    split
    · exact .stay rfl
    next old hold =>
      split
      · exact .stay rfl
      next hcurrent =>
        refine .move (.remove old flow) (.remove ?_) hold ?_
        · intro record hrecord
          cases hvalid : generation.isValid <;> simp_all [ends]
        · rw [ledger_persistThen, ledger_dropFlow]

/-! ## Targets -/

theorem ledger_advanceCapability (s : Impl) (existing : TargetState)
    (target : TargetDescriptor) :
    (s.advanceCapability existing target).ledger =
      (Ledger.Event.advanceCapability target).apply s.ledger := by
  refine (ledger_setTarget _ (by rfl)).trans ?_
  rw [ledger_demoteEffects]
  rfl

theorem ledger_advanceIncarnation (s : Impl) (target : TargetDescriptor) :
    (s.advanceIncarnation target).ledger =
      (Ledger.Event.advanceIncarnation target).apply s.ledger := by
  refine (ledger_setTarget _ (by rfl)).trans ?_
  rw [ledger_mapHolders, ledger_abortAttempts, ledger_demoteEffects]
  rfl

theorem lookup_targets_eq_none {id : TargetId} :
    s.ledger.target id = none ↔ s.targets[id]? = none := by
  change Option.map _ s.targets[id]? = none ↔ _
  simp

theorem ledger_target_of_lookup {id : TargetId} {state : TargetState}
    (h : s.targets[id]? = some state) :
    s.ledger.target id = some state.descriptor := by
  change Option.map _ s.targets[id]? = _
  rw [h]
  rfl

theorem steps_declareTarget (target : TargetDescriptor) (answer : Status) :
    s.Steps (.declareTarget target answer)
      (s.declareTarget target answer).1.ledger := by
  unfold declareTarget
  split
  · exact .stay rfl
  next hopen =>
    split
    · exact .stay rfl
    next hvalid =>
      split
      next hnone =>
        split
        · exact .stay rfl
        · have hunknown := lookup_targets_eq_none.mpr hnone
          refine .move (.declare target) (.declare ?_) (Or.inl hunknown) ?_
          · intro old hold
            rw [hunknown] at hold
            cases hold
          · rw [ledger_finishDeclaration]
            exact ledger_setTarget _ (by rfl)
      next existing hexisting =>
        have hold := ledger_target_of_lookup hexisting
        dsimp only
        split
        · exact .stay rfl
        next hnotolder =>
          split
          next hsame =>
            split
            · exact .stay rfl
            next hcapability =>
              split
              next hcapsame =>
                split
                · exact .stay rfl
                next hidentity =>
                  have henabled : (Ledger.Event.declare target).enabled
                      s.ledger :=
                    Or.inr ⟨_, hold, hsame.symm, hcapsame.symm⟩
                  have hproduces : s.Produces (.declareTarget target answer)
                      (.declare target) := by
                    refine .declare ?_
                    intro old hfound
                    rw [hold] at hfound
                    cases hfound
                    simpa using hidentity
                  split
                  · refine .move (.declare target) hproduces henabled ?_
                    exact ledger_setTarget _ (by rfl)
                  · refine .move (.declare target) hproduces henabled ?_
                    rw [ledger_finishDeclaration]
                    exact ledger_setTarget _ (by rfl)
              next hcapne =>
                refine .move (.advanceCapability target) .advanceCapability
                  ⟨_, hold, hsame.symm, ?_⟩ ?_
                · rw [TypedId.lt_iff_toNat_lt] at hcapability ⊢
                  rw [TypedId.eq_iff_toNat_eq] at hcapne
                  omega
                · rw [ledger_finishDeclaration, ledger_advanceCapability]
          next hne =>
            have hnewer : existing.descriptor.incarnation <
                target.incarnation := by
              rw [TypedId.lt_iff_toNat_lt] at hnotolder ⊢
              rw [TypedId.eq_iff_toNat_eq] at hne
              omega
            refine .move (.advanceIncarnation target)
              (.advanceIncarnation ?_) ⟨_, hold, hnewer⟩ ?_
            · intro record hrecord
              simp_all [ends]
            · rw [ledger_finishDeclaration, ledger_advanceIncarnation]

/-- The attempts the retirement loop ends, by the key they are stored under. -/
theorem ended_eq_endedBy (hkeyed : s.ledger.Keyed) (target : TargetId)
    (attempt : MigrationAttemptId) :
    (s.migrations.toList.any fun entry =>
      entry.2.inFlight && touchesTarget target entry.2 &&
        entry.2.intent.attempt = attempt) =
      s.ledger.endedBy target attempt := by
  rw [Bool.eq_iff_iff]
  simp only [List.any_eq_true, Bool.and_eq_true, decide_eq_true_eq,
    Ledger.endedBy, Option.any_eq_true]
  constructor
  · rintro ⟨entry, hentry, ⟨hflight, htouches⟩, rfl⟩
    have hlookup : s.ledger.attempt entry.1 = some entry.2 :=
      lookup_eq_some_iff_mem_toList.mpr hentry
    have hkey := hkeyed.attempt _ _ hlookup
    rw [hkey]
    exact ⟨entry.2, hlookup, hflight, htouches⟩
  · rintro ⟨record, hrecord, hflight, htouches⟩
    have hlookup : lookup s.migrations attempt = some record := hrecord
    exact ⟨(attempt, record), lookup_eq_some_iff_mem_toList.mp hlookup,
      ⟨hflight, htouches⟩, hkeyed.attempt _ _ hrecord⟩

theorem ledger_retireTarget (hkeyed : s.ledger.Keyed) {target : TargetId}
    {existing : TargetState} (hexisting : s.targets[target]? = some existing)
    (instant : Timestamp) :
    (s.retireTarget target existing instant).ledger =
      (Ledger.Event.retire { existing.descriptor with
        lifecycle := .removed }).apply s.ledger := by
  have hid : existing.descriptor.target = target :=
    hkeyed.target _ _ (ledger_target_of_lookup hexisting)
  have hended : (fun attempt => s.migrations.toList.any fun entry =>
      entry.2.inFlight && touchesTarget target entry.2 &&
        entry.2.intent.attempt = attempt) = s.ledger.endedBy target :=
    funext fun attempt => ended_eq_endedBy hkeyed target attempt
  have hcount : ∀ (t : Impl) (count : UInt64),
      ({ t with counters.targetsRemoved := count } : Impl).ledger =
        t.ledger := fun _ _ => rfl
  refine (ledger_recomputeScheduledLocked _).trans ?_
  refine (hcount _ _).trans ?_
  rw [ledger_issueFenceLocked, ledger_mapHolders, ledger_abortAttempts,
    ledger_demoteEffects, ledger_setTarget s (by exact hid)]
  change Ledger.mapHolders _ (clearPending fun attempt =>
    s.migrations.toList.any _) = _
  rw [hended]
  subst hid
  rfl

theorem steps_removeTarget (hkeyed : s.ledger.Keyed) (target : TargetId)
    (incarnation : TargetIncarnation) (instant : Timestamp)
    (answer : Status) :
    s.Steps (.removeTarget target incarnation instant answer)
      (s.removeTarget target incarnation instant answer).1.ledger := by
  unfold removeTarget
  split
  · exact .stay rfl
  next hopen =>
    split
    · exact .stay rfl
    next existing hexisting =>
      split
      · exact .stay rfl
      next hcurrent =>
        have hends : ∀ record, touchesTarget target record = true →
            s.ends (.removeTarget target incarnation instant answer) record =
              true := by
          intro record hrecord
          cases hvalid : incarnation.isValid <;> simp_all [ends]
        have hlookup := ledger_target_of_lookup hexisting
        have hid := hkeyed.target _ _ hlookup
        rw [ledger_persistThen, ledger_retireTarget hkeyed hexisting]
        subst hid
        exact .move (.retire { existing.descriptor with lifecycle := .removed })
          (.retire rfl hends) ⟨_, hlookup, rfl⟩ rfl

/-! ## Evidence, policy, topology and contracts -/

theorem descriptor_mergeEvidence (target : TargetState)
    (evidence : LoadEvidence) :
    (mergeEvidence target evidence).descriptor = target.descriptor := by
  unfold mergeEvidence
  dsimp only
  split
  · split
    · rfl
    · split <;> rfl
  · split <;> rfl

theorem ledger_recordEvidence {target : TargetState}
    {evidence : LoadEvidence}
    (htarget : s.targets[evidence.target]? = some target) :
    (s.recordEvidence target evidence).1.ledger = s.ledger := by
  unfold ledger recordEvidence
  congr 1
  funext id
  simp only [lookup_insert]
  by_cases hid : id = evidence.target
  · subst hid
    have hlookup : lookup s.targets evidence.target = some target := htarget
    rw [Function.update_self, hlookup]
    exact congrArg some (descriptor_mergeEvidence target evidence)
  · rw [Function.update_of_ne hid]

theorem ledger_ingestLoad (s : Impl) (evidence : LoadEvidence) :
    (s.ingestLoad evidence).1.ledger = s.ledger := by
  have hreceived := receives_ingestLoad s evidence
  generalize s.ingestLoad evidence = after at hreceived ⊢
  cases hreceived with
  | refused | rejected | repeated => rfl
  | @outOfOrder target =>
      unfold ingestOutOfOrder
      split
      · rfl
      · rfl
  | recorded matched => exact ledger_recordEvidence matched.known

theorem ledger_setPolicy (s : Impl) (policy : Policy) (answer : Status) :
    (s.setPolicy policy answer).1.ledger = s.ledger := by
  unfold setPolicy
  split
  · rfl
  · split
    · rfl
    · dsimp only
      split
      · rfl
      · split
        · split <;> rfl
        · rw [ledger_persistThen]
          rfl

theorem ledger_setTopologyGeneration (s : Impl)
    (generation : TopologyGeneration) (answer : Status) :
    (s.setTopologyGeneration generation answer).1.ledger = s.ledger := by
  unfold setTopologyGeneration
  split
  · rfl
  · split
    · rfl
    · split
      · rfl
      · split
        · rfl
        · rw [ledger_persistThen, ledger_invalidateOlder]

theorem steps_registerMigrationContract (contract : MigrationContract)
    (answer : Status) :
    s.Steps (.registerMigrationContract contract answer)
      (s.registerMigrationContract contract answer).1.ledger := by
  unfold registerMigrationContract
  split
  · exact .stay rfl
  · split
    · exact .stay rfl
    · split
      · split <;> exact .stay rfl
      next hnone =>
        split
        · exact .stay rfl
        · refine .move (.addContract contract) .addContract hnone ?_
          rw [ledger_persistThen]
          simp [ledger, Ledger.Event.apply]

/-! ## Authority and rebalance -/

theorem ledger_authorize (s : Impl) (recommendation : RecommendationId)
    (instant : Timestamp) :
    (s.authorize recommendation instant).1.ledger = s.ledger := by
  unfold authorize
  split
  · rfl
  · split
    · rfl
    · split
      · rfl
      · rfl

theorem ledger_revokeAuthorization (s : Impl)
    (authorization : AuthorizationId) :
    (s.revokeAuthorization authorization).1.ledger = s.ledger := by
  unfold revokeAuthorization
  split
  · rfl
  · split
    · rfl
    · split <;> rfl

theorem ledger_rebalanceLocked (s : Impl) (request : RebalanceRequest)
    (answer : Status) :
    (s.rebalanceLocked request answer).1.ledger = s.ledger := by
  unfold rebalanceLocked
  dsimp only
  split
  · rfl
  · split
    · rfl
    · split
      · rfl
      · split
        · rfl
        · rw [ledger_persistLocked]
          rfl

end Impl

end FlowOffload

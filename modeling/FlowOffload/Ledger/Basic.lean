import FlowOffload.Engine.Run
import FlowOffload.Foundation.OrdMap

/-!
# The placement ledger

What the engine is for, without its accounting: which flows and targets are
known, where each flow is placed, who holds each exclusive state and how far
each migration attempt has come.  An `Event` is one thing that can happen to a
ledger; `enabled` is what the code has checked by then and `apply` is the
whole change.  Every engine operation is at most one event, and the laws of
the ledger are proved event by event.
-/

namespace FlowOffload

open Foundation

structure Ledger where
  flow : FlowId → Option FlowDescriptor
  target : TargetId → Option TargetDescriptor
  assignment : FlowId → Option Assignment
  holder : ExclusiveStateKeyId → Option StateHolder
  attempt : MigrationAttemptId → Option MigrationRecord
  contract : MigrationContractId → Option MigrationContract

/-- The abstraction function: contents of the maps, without derived data. -/
def Impl.ledger (s : Impl) : Ledger where
  flow := lookup s.flows
  target id := (lookup s.targets id).map TargetState.descriptor
  assignment := lookup s.assignments
  holder := lookup s.holders
  attempt := lookup s.migrations
  contract := lookup s.contracts

namespace Ledger

def empty : Ledger :=
  ⟨fun _ => none, fun _ => none, fun _ => none, fun _ => none, fun _ => none,
    fun _ => none⟩

/-- Every record is stored under the identity it names. -/
structure Keyed (l : Ledger) : Prop where
  flow : ∀ k flow, l.flow k = some flow → flow.flow = k
  target : ∀ k target, l.target k = some target → target.target = k
  assignment : ∀ k assignment, l.assignment k = some assignment →
    assignment.flow = k
  attempt : ∀ k record, l.attempt k = some record → record.intent.attempt = k
  contract : ∀ k contract, l.contract k = some contract → contract.id = k

/-! ## Events -/

/-- An accepted message that takes an attempt one phase further. -/
inductive Progress :
    MigrationRecord → MigrationRecord → EffectState → Prop where
  | acknowledged {record : MigrationRecord} {isSource : Bool}
      {ack : MigrationAcknowledgement}
      (phase : record.intent.phase =
        if isSource then .intentIssued else .sourceAcknowledged)
      (accepted : ack.accepted = true)
      (party : (ack.target, ack.incarnation, ack.capabilityGeneration) =
        Impl.expectedParty record.intent isSource)
      (epoch : ack.epoch = record.intent.epoch)
      (boot : ack.boot = record.intent.boot) :
      Progress record
        { Impl.storeAcknowledgement record isSource ack with
          intent.phase := if isSource then .sourceAcknowledged
            else .destinationAcknowledged }
        .acknowledged
  | applied {record : MigrationRecord} {effect : AppliedEffect}
      (phase : record.intent.phase = .destinationAcknowledged)
      (target : effect.target = record.intent.destinationTarget)
      (incarnation : effect.incarnation = record.intent.destinationIncarnation)
      (capability : effect.capabilityGeneration =
        record.intent.destinationCapabilityGeneration)
      (digest : effect.effectDigest.isZero = false) :
      Progress record
        { record with
          applied := effect
          effectApplied := true
          intent.phase := .effectApplied }
        .applied

inductive Event where
  | register (flow : FlowDescriptor)
  | supersede (old flow : FlowDescriptor)
  | remove (old : FlowDescriptor) (flow : FlowId)
  | declare (target : TargetDescriptor)
  | advanceCapability (target : TargetDescriptor)
  | advanceIncarnation (target : TargetDescriptor)
  | retire (target : TargetDescriptor)
  | addContract (contract : MigrationContract)
  | place (batch : List Assignment)
  | issue (descriptor : FlowDescriptor) (source : Assignment)
      (intent : MigrationIntent)
  | progress (record advanced : MigrationRecord) (effect : EffectState)
  | decline (record : MigrationRecord) (isSource : Bool)
      (ack : MigrationAcknowledgement)
  | complete (record : MigrationRecord) (observation : EffectObservation)
      (next : UInt64)
  | abort (record : MigrationRecord) (reason : ReasonCode)

/-- What planning has checked about one new assignment of a batch. -/
structure Placeable (l : Ledger) (assignment : Assignment) : Prop where
  effect : assignment.effect = .unknown
  known : ∃ descriptor, l.flow assignment.flow = some descriptor ∧
    assignment.flowGeneration = descriptor.generation ∧
    (descriptor.statefulness = .stateful →
      ∀ holder ∈ l.holder descriptor.exclusiveStateKey,
        holder.flow = assignment.flow)
  current : ∃ target, l.target assignment.target = some target ∧
    assignment.incarnation = target.incarnation ∧
    assignment.capabilityGeneration = target.capabilityGeneration

/-- The contract under which a stateful flow may be moved. -/
def Covered (l : Ledger) (intent : MigrationIntent) : Prop :=
  ∃ contract, l.contract intent.contract = some contract ∧
    contractIsSafeForStateful contract = true ∧
    contract.statefulness = .stateful ∧
    contract.flow = intent.flow ∧
    contract.flowGeneration = intent.flowGeneration ∧
    contract.destinationTarget = intent.destinationTarget ∧
    contract.destinationIncarnation = intent.destinationIncarnation ∧
    contract.destinationCapabilityGeneration =
      intent.destinationCapabilityGeneration

/-- The placement an attempt starts from. -/
def StartsAt (intent : MigrationIntent) (assignment : Assignment) : Prop :=
  assignment.assignment = intent.sourceAssignment ∧
    assignment.target = intent.sourceTarget ∧
    assignment.incarnation = intent.sourceIncarnation

def Event.enabled (l : Ledger) : Event → Prop
  | .register flow =>
      l.flow flow.flow = none ∧
        (flow.statefulness = .stateful → flow.exclusiveStateKey.isValid = true)
  | .supersede old flow =>
      l.flow flow.flow = some old ∧ old.generation < flow.generation ∧
        (flow.statefulness = .stateful → flow.exclusiveStateKey.isValid = true)
  | .remove old flow => l.flow flow = some old
  | .declare target =>
      l.target target.target = none ∨
        ∃ old, l.target target.target = some old ∧
          old.incarnation = target.incarnation ∧
          old.capabilityGeneration = target.capabilityGeneration
  | .advanceCapability target =>
      ∃ old, l.target target.target = some old ∧
        old.incarnation = target.incarnation ∧
        old.capabilityGeneration < target.capabilityGeneration
  | .advanceIncarnation target =>
      ∃ old, l.target target.target = some old ∧
        old.incarnation < target.incarnation
  | .retire target =>
      ∃ old, l.target target.target = some old ∧
        target = { old with lifecycle := .removed }
  | .addContract contract => l.contract contract.id = none
  | .place batch =>
      (batch.map Assignment.flow).Nodup ∧ ∀ a ∈ batch, Placeable l a
  | .issue descriptor source intent =>
      intent.phase = .intentIssued ∧
        l.flow intent.flow = some descriptor ∧
        intent.flowGeneration = descriptor.generation ∧
        l.assignment intent.flow = some source ∧
        StartsAt intent source ∧
        intent.sourceCapabilityGeneration = source.capabilityGeneration ∧
        (∃ target, l.target intent.destinationTarget = some target ∧
          target.incarnation = intent.destinationIncarnation ∧
          target.capabilityGeneration =
            intent.destinationCapabilityGeneration) ∧
        (descriptor.statefulness = .stateful →
          Covered l intent ∧
            ∀ holder ∈ l.holder descriptor.exclusiveStateKey,
              holder.handoffPending = false ∧ holder.flow = intent.flow)
  | .progress record advanced effect =>
      l.attempt record.intent.attempt = some record ∧
        Progress record advanced effect
  | .decline record _ _ =>
      l.attempt record.intent.attempt = some record ∧ record.inFlight = true
  | .complete record observation _ =>
      l.attempt record.intent.attempt = some record ∧
        record.inFlight = true ∧ record.effectApplied = true ∧
        observation.effectDigest = record.applied.effectDigest ∧
        ∀ k other, l.attempt k = some other → other.inFlight = true →
          other.intent.flow = record.intent.flow → other = record
  | .abort record _ =>
      l.attempt record.intent.attempt = some record ∧ record.inFlight = true

/-! ## Changes -/

def endAttempts (l : Ledger) (ends : MigrationRecord → Bool)
    (phase : MigrationPhase) (reason : ReasonCode) : Ledger :=
  { l with
    attempt := fun k => (l.attempt k).map (Impl.endAttempt ends phase reason) }

/-- A flow gives up its exclusive state, its placement and its attempts. -/
def release (l : Ledger) (old : FlowDescriptor) (flow : FlowId)
    (reason : ReasonCode) : Ledger :=
  { l.endAttempts (Impl.attemptOf flow) .fenced reason with
    assignment := Function.update l.assignment flow none
    holder := fun key =>
      if old.statefulness = .stateful ∧ key = old.exclusiveStateKey then
        (l.holder key).filter fun holder => holder.flow ≠ flow
      else l.holder key }

def setTarget (l : Ledger) (target : TargetDescriptor) : Ledger :=
  { l with target := Function.update l.target target.target (some target) }

def demote (target : TargetId) (assignment : Assignment) : Assignment :=
  if assignment.target = target then { assignment with effect := .unknown }
  else assignment

def demoteOn (l : Ledger) (target : TargetId) : Ledger :=
  { l with assignment := fun flow => (l.assignment flow).map (demote target) }

def setEffect (l : Ledger) (flow : FlowId) (effect : EffectState) : Ledger :=
  { l with
    assignment := Function.update l.assignment flow
      ((l.assignment flow).map fun assignment =>
        { assignment with effect := effect }) }

def setAttempt (l : Ledger) (record : MigrationRecord) : Ledger :=
  { l with
    attempt := Function.update l.attempt record.intent.attempt (some record) }

def mapHolders (l : Ledger) (f : StateHolder → StateHolder) : Ledger :=
  { l with holder := fun key => (l.holder key).map f }

/-- The state of a stateful flow is held by the placement just written. -/
def hold (l : Ledger) (flow : FlowId) (holder : StateHolder) : Ledger :=
  match l.flow flow with
  | some descriptor =>
      if descriptor.statefulness = .stateful then
        { l with
          holder := Function.update l.holder descriptor.exclusiveStateKey
            (some holder) }
      else l
  | none => l

/-- One new assignment, with the holder entry it gives rise to. -/
def commit (l : Ledger) (assignment : Assignment) : Ledger :=
  ({ l with
    assignment := Function.update l.assignment assignment.flow
      (some assignment) }).hold assignment.flow
        (Impl.holderOf assignment.flow assignment)

/-- An in-flight attempt that touches the target. -/
def endedBy (l : Ledger) (target : TargetId) (attempt : MigrationAttemptId) :
    Bool :=
  (l.attempt attempt).any fun record =>
    record.inFlight && Impl.touchesTarget target record

def moveHolder (target : TargetDescriptor) (holder : StateHolder) :
    StateHolder :=
  if holder.target = target.target then
    { holder with incarnation := target.incarnation, handoffPending := false }
  else holder

def declinedRecord (record : MigrationRecord) (isSource : Bool)
    (ack : MigrationAcknowledgement) : MigrationRecord :=
  { Impl.storeAcknowledgement record isSource ack with
    intent.phase := .aborted
    abortReason := if ack.reason = .ok then .rejectedMigrationFenced
      else ack.reason }

def abortedRecord (record : MigrationRecord) (reason : ReasonCode) :
    MigrationRecord :=
  { record with
    intent.phase := .aborted
    abortReason := if reason = .ok then .rejectedMigrationFenced else reason }

/-- The move of the assignment, and of the state when the flow has any. -/
def move (l : Ledger) (intent : MigrationIntent)
    (observation : EffectObservation) (next : UInt64) : Ledger :=
  match l.assignment intent.flow with
  | none => l
  | some previous =>
      let updated := Impl.completedAssignment intent observation next previous
      ({ l with
        assignment := Function.update l.assignment intent.flow
          (some updated) }).hold intent.flow
          { Impl.holderOf intent.flow updated with
            flowGeneration := intent.flowGeneration }

def Event.apply (l : Ledger) : Event → Ledger
  | .register flow =>
      { l with flow := Function.update l.flow flow.flow (some flow) }
  | .supersede old flow =>
      { l.release old flow.flow .rejectedStaleFlowGeneration with
        flow := Function.update l.flow flow.flow (some flow) }
  | .remove old flow =>
      { l.release old flow .rejectedUnknownFlow with
        flow := Function.update l.flow flow none }
  | .declare target => l.setTarget target
  | .advanceCapability target => (l.demoteOn target.target).setTarget target
  | .advanceIncarnation target =>
      (((l.demoteOn target.target).endAttempts
        (Impl.touchesTarget target.target) .aborted
        .rejectedStaleIncarnation).mapHolders (moveHolder target)).setTarget
        target
  | .retire target =>
      (((l.demoteOn target.target).endAttempts
        (Impl.touchesTarget target.target) .aborted
        .rejectedTargetRemoved).mapHolders
        (Impl.clearPending (l.endedBy target.target))).setTarget target
  | .addContract contract =>
      { l with
        contract := Function.update l.contract contract.id (some contract) }
  | .place batch => batch.foldl commit l
  | .issue descriptor source intent =>
      let recorded := ({ l with
        attempt := Function.update l.attempt intent.attempt
          (some ((l.attempt intent.attempt).getD { intent := intent })) }
        ).setEffect intent.flow .intentIssued
      recorded.hold intent.flow
        (Impl.handoffHolder intent.flow descriptor source intent.attempt)
  | .progress record advanced effect =>
      (l.setAttempt advanced).setEffect record.intent.flow effect
  | .decline record isSource ack =>
      (l.setAttempt (declinedRecord record isSource ack)).mapHolders
        (Impl.clearPending fun pending => pending = record.intent.attempt)
  | .complete record observation next =>
      (l.setAttempt (Impl.completedRecord record observation)).move
        record.intent observation next
  | .abort record reason =>
      ((l.setAttempt (abortedRecord record reason)).mapHolders
        (Impl.clearPending fun pending =>
          pending = record.intent.attempt)).setEffect record.intent.flow
        .unknown

/-! ## Restart -/

/-- What a restart makes of a ledger that had been committed. -/
structure Restarted (l l' : Ledger) : Prop where
  flow : l'.flow = l.flow
  target : ∀ id, l'.target id =
    (l.target id).map fun target => { target with lifecycle := .unknown }
  assignment : ∀ flow, l'.assignment flow =
    (l.assignment flow).map Impl.durableAssignment
  attempt : ∀ k, l'.attempt k = (l.attempt k).map
    (Impl.endAttempt (fun _ => true) .fenced .rejectedFencedByRestart)
  contract : l'.contract = l.contract
  holder_spec : ∀ key holder, l'.holder key = some holder →
    ∃ descriptor assignment, l.flow holder.flow = some descriptor ∧
      descriptor.statefulness = .stateful ∧
      descriptor.exclusiveStateKey = key ∧
      l'.assignment holder.flow = some assignment ∧
      holder = Impl.holderOf holder.flow assignment
  holder_exists : ∀ flow descriptor assignment,
    l.flow flow = some descriptor → descriptor.statefulness = .stateful →
    descriptor.exclusiveStateKey.isValid = true →
    l'.assignment flow = some assignment →
    ∃ holder, l'.holder descriptor.exclusiveStateKey = some holder

end Ledger

end FlowOffload

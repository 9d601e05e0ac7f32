import FlowOffload.Engine.State

/-!
# Ingest operations

Registration and removal of flows and targets, load evidence, policy, topology
and migration contracts.  Each operation validates in the order of the source,
changes the maps and ends with a durable commit.
-/

namespace FlowOffload

open Std (ExtTreeMap)

namespace Impl

/-! ## Flows -/

/-- The exclusive state a flow holds under its registered key is released. -/
def withoutHolder (holders : ExtTreeMap ExclusiveStateKeyId StateHolder)
    (flow : FlowDescriptor) (id : FlowId) :
    ExtTreeMap ExclusiveStateKeyId StateHolder :=
  if flow.statefulness = .stateful then
    match holders[flow.exclusiveStateKey]? with
    | some holder =>
        if holder.flow = id then holders.erase flow.exclusiveStateKey
        else holders
    | none => holders
  else holders

def releaseHolder (s : Impl) (flow : FlowDescriptor) (id : FlowId) : Impl :=
  { s with holders := withoutHolder s.holders flow id }

/-- The placement of a flow is released and the cached demand refreshed. -/
def releaseAssignment (s : Impl) (flow : FlowId) : Impl :=
  if s.assignments.contains flow then
    { s with assignments := s.assignments.erase flow }.recomputeScheduledLocked
  else s

def attemptOf (flow : FlowId) (record : MigrationRecord) : Bool :=
  record.intent.flow = flow

def flowRefusal (flow : FlowDescriptor) : Option ReasonCode :=
  if !flow.flow.isValid || !flow.generation.isValid ||
      !flow.function.isValid then
    some .rejectedMalformedInput
  else if flow.statefulness = .unknown then some .rejectedMissingEvidence
  else if flow.statefulness = .stateful && !flow.exclusiveStateKey.isValid then
    some .rejectedMalformedInput
  else if flow.locality ≠ .none && !flow.localityAnchor.isValid then
    some .rejectedMalformedInput
  else none

/-- A new generation supersedes the previous processing incarnation. -/
def supersedeFlow (s : Impl) (old flow : FlowDescriptor) : Impl :=
  let released := (s.releaseHolder old flow.flow).releaseAssignment flow.flow
  let fenced := released.fenceAttempts (attemptOf flow.flow)
    .rejectedStaleFlowGeneration
  { fenced with flows := fenced.flows.insert flow.flow flow }

def registerFlow (s : Impl) (flow : FlowDescriptor) (answer : Status) :
    Impl × Status :=
  if !s.isOpen then (s, .refused .rejectedShuttingDown)
  else
    match flowRefusal flow with
    | some code => (s, .refused code)
    | none =>
        match s.flows[flow.flow]? with
        | none =>
            if s.flows.size ≥ s.config.maxFlows then
              (s, .refused .rejectedResourceExhausted)
            else
              { s with
                flows := s.flows.insert flow.flow flow
                counters.flowsRegistered :=
                  saturatingIncrement s.counters.flowsRegistered
                }.persistThen answer .acceptedFlowRegistered
        | some old =>
            if old = flow then (s, .accepted .acceptedNoChangeRequired)
            else if flow.generation < old.generation then
              (s, .refused .rejectedStaleFlowGeneration)
            else if flow.generation = old.generation then
              (s, .refused .rejectedConflictingDuplicate)
            else
              (s.supersedeFlow old flow).persistThen answer
                .acceptedFlowUpdated

/-- The flow, its exclusive state, its placement and its attempts go. -/
def dropFlow (s : Impl) (old : FlowDescriptor) (flow : FlowId) : Impl :=
  let held := s.releaseHolder old flow
  let removed := { held with flows := held.flows.erase flow }
  let released := removed.releaseAssignment flow
  let fenced := released.fenceAttempts (attemptOf flow) .rejectedUnknownFlow
  (fenced.issueFenceLocked flow {} .rejectedFencedBySupersession {}).1

def removeFlow (s : Impl) (flow : FlowId) (generation : FlowGeneration)
    (answer : Status) : Impl × Status :=
  if !s.isOpen then (s, .refused .rejectedShuttingDown)
  else
    match s.flows[flow]? with
    | none => (s, .refused .rejectedUnknownFlow)
    | some old =>
        if generation.isValid && generation ≠ old.generation then
          (s, .refused .rejectedStaleFlowGeneration)
        else
          (s.dropFlow old flow).persistThen answer .acceptedNoChangeRequired

/-! ## Targets -/

/--
Identity of a declaration.  The lifecycle is deliberately excluded, and so are
the evidence source, its sequence and the issue time.
-/
def sameTargetIdentity (a b : TargetDescriptor) : Bool :=
  a.target = b.target && a.incarnation = b.incarnation &&
    a.capabilityGeneration = b.capabilityGeneration &&
    a.topologyGeneration = b.topologyGeneration && a.domain = b.domain &&
    a.kind = b.kind && a.host = b.host && a.device = b.device &&
    a.capabilities = b.capabilities && a.capacity = b.capacity &&
    a.reserved = b.reserved && a.costClass = b.costClass &&
    a.supportsStateful = b.supportsStateful &&
    a.supportsMigration = b.supportsMigration

def targetRefusal (s : Impl) (target : TargetDescriptor) : Option ReasonCode :=
  if !target.target.isValid || !target.incarnation.isValid then
    some .rejectedMalformedInput
  else if target.domain = .unknown || target.kind = .unknown then
    some .rejectedUnsupportedTarget
  else if target.costClass = .unknown then some .rejectedPolicyCostClass
  else if target.domain = .offloadDevice && !target.device.isValid then
    some .rejectedMalformedInput
  else if !target.host.isValid then some .rejectedMalformedInput
  else if target.reserved.exceedsAny target.capacity then
    some .rejectedCapacityInsufficient
  else if target.topologyGeneration < s.topologyGeneration then
    some .rejectedStaleTopologyGeneration
  else none

/-- Declarations derived from an older topology must be made again. -/
def invalidateOlder (s : Impl) (keep : TargetId → Bool)
    (generation : TopologyGeneration) : Impl :=
  { s with
    topologyGeneration := generation
    targets := s.targets.map fun id state =>
      if !keep id && state.descriptor.topologyGeneration < generation then
        { state with declared := false, hasLoad := false, conflicting := false }
      else state }

/-- The common end of an accepted declaration. -/
def finishDeclaration (s : Impl) (target : TargetDescriptor) (answer : Status)
    (outcome : ReasonCode) : Impl × Status :=
  let advanced := if s.topologyGeneration < target.topologyGeneration then
    s.invalidateOlder (fun id => id = target.target) target.topologyGeneration
    else s
  advanced.recomputeScheduledLocked.persistThen answer outcome

def touchesTarget (target : TargetId) (record : MigrationRecord) : Bool :=
  record.intent.sourceTarget = target ||
    record.intent.destinationTarget = target

def setTarget (s : Impl) (id : TargetId) (state : TargetState) : Impl :=
  { s with targets := s.targets.insert id state }

/-- Capability generation advanced on the same incarnation. -/
def advanceCapability (s : Impl) (existing : TargetState)
    (target : TargetDescriptor) : Impl :=
  (s.demoteEffects target.target).setTarget target.target
    { existing with
      descriptor := target
      declared := true
      hasLoad := false
      conflicting := false }

/-- Everything derived from the previous incarnation is stale. -/
def advanceIncarnation (s : Impl) (target : TargetDescriptor) : Impl :=
  let aborted := (s.demoteEffects target.target).abortAttempts
    (touchesTarget target.target) .rejectedStaleIncarnation
  let moved := aborted.mapHolders fun holder =>
    if holder.target = target.target then
      { holder with
        incarnation := target.incarnation
        handoffPending := false }
    else holder
  moved.setTarget target.target { descriptor := target, declared := true }

def declareTarget (s : Impl) (target : TargetDescriptor) (answer : Status) :
    Impl × Status :=
  if !s.isOpen then (s, .refused .rejectedShuttingDown)
  else
    match s.targetRefusal target with
    | some code => (s, .refused code)
    | none =>
        match s.targets[target.target]? with
        | none =>
            if s.targets.size ≥ s.config.maxTargets then
              (s, .refused .rejectedResourceExhausted)
            else
              let registered := { s with
                counters.targetsRegistered :=
                  saturatingIncrement s.counters.targetsRegistered }
              (registered.setTarget target.target
                { descriptor := target, declared := true }).finishDeclaration
                target answer .acceptedTargetRegistered
        | some existing =>
            let old := existing.descriptor
            if target.incarnation < old.incarnation then
              (s, .refused .rejectedStaleIncarnation)
            else if target.incarnation = old.incarnation then
              if target.capabilityGeneration < old.capabilityGeneration then
                (s, .refused .rejectedStaleCapabilityGeneration)
              else if target.capabilityGeneration =
                  old.capabilityGeneration then
                if !sameTargetIdentity old target then
                  (s, .refused .rejectedConflictingDuplicate)
                else
                  let changed := !existing.declared ||
                    old.lifecycle ≠ target.lifecycle
                  let declared := s.setTarget target.target
                    { existing with descriptor := target, declared := true }
                  if !changed then
                    (declared, .accepted .acceptedNoChangeRequired)
                  else
                    declared.finishDeclaration target answer
                      .acceptedTargetUpdated
              else
                (s.advanceCapability existing target).finishDeclaration target
                  answer .acceptedTargetUpdated
            else
              (s.advanceIncarnation target).finishDeclaration target answer
                .acceptedTargetUpdated

/-- Target disappearance: attempts that touch it are aborted, and the handoff
of each of them is no longer pending. -/
def retireTarget (s : Impl) (target : TargetId) (existing : TargetState)
    (instant : Timestamp) : Impl :=
  let removed := s.setTarget target
    { existing with
      declared := true
      descriptor.lifecycle := .removed
      hasLoad := false
      conflicting := false }
  let demoted := removed.demoteEffects target
  let ended : MigrationAttemptId → Bool := fun attempt =>
    demoted.migrations.toList.any fun entry =>
      entry.2.inFlight && touchesTarget target entry.2 &&
        entry.2.intent.attempt = attempt
  let aborted := demoted.abortAttempts (touchesTarget target)
    .rejectedTargetRemoved
  let fenced := ((aborted.mapHolders (clearPending ended)).issueFenceLocked {}
    target .rejectedTargetRemoved instant).1
  { fenced with
    counters.targetsRemoved :=
      saturatingIncrement fenced.counters.targetsRemoved
    }.recomputeScheduledLocked

def removeTarget (s : Impl) (target : TargetId)
    (incarnation : TargetIncarnation) (instant : Timestamp)
    (answer : Status) : Impl × Status :=
  if !s.isOpen then (s, .refused .rejectedShuttingDown)
  else
    match s.targets[target]? with
    | none => (s, .refused .rejectedUnknownTarget)
    | some existing =>
        if incarnation.isValid &&
            incarnation ≠ existing.descriptor.incarnation then
          (s, .refused .rejectedStaleIncarnation)
        else
          (s.retireTarget target existing instant).persistThen answer
            .acceptedTargetRemoved

/-! ## Load evidence -/

def rejectEvidence (s : Impl) (code : ReasonCode) : Impl × Status :=
  ({ s with
      counters.evidenceRejected :=
        saturatingIncrement s.counters.evidenceRejected },
    .refused code)

/-- The watermark of a source never moves back. -/
def raiseSequence (mark : SourceWatermark) (evidence : LoadEvidence) :
    SourceWatermark :=
  { mark with
    source := evidence.source
    sequence := if mark.sequence < evidence.sourceSequence then
      evidence.sourceSequence else mark.sequence }

/-- The conflict flag and peer after evidence from a source is recorded. -/
def mergeEvidence (target : TargetState) (evidence : LoadEvidence) :
    TargetState :=
  let sameSource := target.hasLoad && target.load.source = evidence.source
  let merged :=
    if target.hasLoad && !sameSource then
      if evidence.observedAt = target.load.observedAt &&
          evidence.utilized ≠ target.load.utilized then
        { target with conflicting := true, conflictPeer := evidence }
      else if evidence.observedAt = target.load.observedAt then
        { target with conflictPeer := evidence }
      else { target with conflicting := false, conflictPeer := {} }
    else if !target.hasLoad then { target with conflicting := false }
    else { target with conflicting := false, conflictPeer := {} }
  { merged with load := evidence, hasLoad := true }

/-- A disagreement between two sources is counted when it is detected. -/
def detectsConflict (target : TargetState) (evidence : LoadEvidence) : Bool :=
  target.hasLoad && target.load.source ≠ evidence.source &&
    evidence.observedAt = target.load.observedAt &&
    evidence.utilized ≠ target.load.utilized

/-- Out-of-order delivery, accepted only when it agrees with what is known. -/
def ingestOutOfOrder (s : Impl) (target : TargetState)
    (evidence : LoadEvidence) : Impl × Status :=
  if evidence.state = target.load.state &&
      evidence.utilized = target.load.utilized then
    ({ s with
        watermarks := s.watermarks.insert evidence.source
          (raiseSequence (s.watermarks.getD evidence.source {}) evidence)
        counters.evidenceAccepted :=
          saturatingIncrement s.counters.evidenceAccepted },
      .accepted .acceptedIdempotentReplay)
  else s.rejectEvidence .rejectedOutOfOrderEvidence

def recordEvidence (s : Impl) (target : TargetState)
    (evidence : LoadEvidence) : Impl × Status :=
  let mark := raiseSequence (s.watermarks.getD evidence.source {}) evidence
  ({ s with
      targets := s.targets.insert evidence.target
        (mergeEvidence target evidence)
      watermarks := s.watermarks.insert evidence.source
        { mark with
          capabilityGeneration := evidence.capabilityGeneration
          target := evidence.target
          incarnation := evidence.incarnation }
      counters.evidenceConflicts :=
        if detectsConflict target evidence then
          saturatingIncrement s.counters.evidenceConflicts
        else s.counters.evidenceConflicts
      counters.evidenceAccepted :=
        saturatingIncrement s.counters.evidenceAccepted },
    .accepted .acceptedEvidenceRecorded)

def ingestLoad (s : Impl) (evidence : LoadEvidence) : Impl × Status :=
  if !s.isOpen then (s, .refused .rejectedShuttingDown)
  else if !evidence.target.isValid || !evidence.source.isValid ||
      !evidence.sourceSequence.isValid then
    (s, .refused .rejectedMalformedInput)
  else if evidence.state = .unknown then
    (s, .refused .rejectedMissingEvidence)
  else
    match s.targets[evidence.target]? with
    | none => (s, .refused .rejectedUnknownTarget)
    | some target =>
        if evidence.incarnation ≠ target.descriptor.incarnation then
          (s, .refused .rejectedStaleIncarnation)
        else if evidence.capabilityGeneration ≠
            target.descriptor.capabilityGeneration then
          (s, .refused .rejectedStaleCapabilityGeneration)
        else if (s.watermarks[evidence.source]?).any fun mark =>
            evidence.sourceSequence < mark.sequence then
          s.rejectEvidence .rejectedReplayedEvidence
        else if target.hasLoad && target.load.source = evidence.source &&
            evidence.sourceSequence = target.load.sourceSequence then
          if evidence = target.load then
            ({ s with
                counters.evidenceIdempotent :=
                  saturatingIncrement s.counters.evidenceIdempotent },
              .accepted .acceptedIdempotentReplay)
          else s.rejectEvidence .rejectedConflictingDuplicate
        else if target.hasLoad &&
            evidence.observedAt < target.load.observedAt then
          s.ingestOutOfOrder target evidence
        else if s.watermarks.size ≥ s.config.maxEvidenceSources &&
            !s.watermarks.contains evidence.source then
          (s, .refused .rejectedResourceExhausted)
        else s.recordEvidence target evidence

/-! ## Policy, topology and contracts -/

def policyInputRefusal (policy : Policy) : Option ReasonCode :=
  if !policy.generation.isValid then some .rejectedMalformedInput
  else if policy.domainPreference = .unknown || policy.fallback = .unknown ||
      policy.maxCostClass = .unknown || policy.loadModel = .unknown then
    some .rejectedMissingEvidence
  else none

def applyPolicy (s : Impl) (policy : Policy) : Impl :=
  { s with
    policy := policy
    policyPresent := true
    policyGeneration := policy.generation }

def setPolicy (s : Impl) (policy : Policy) (answer : Status) : Impl × Status :=
  if !s.isOpen then (s, .refused .rejectedShuttingDown)
  else
    match policyInputRefusal policy with
    | some code => (s, .refused code)
    | none =>
        let canonical := canonicalize policy
        if s.policyPresent && canonical.generation < s.policyGeneration then
          (s, .refused .rejectedStalePolicyGeneration)
        else if s.policyPresent &&
            canonical.generation = s.policyGeneration then
          if canonical = s.policy then
            (s, .accepted .acceptedNoChangeRequired)
          else (s, .refused .rejectedConflictingDuplicate)
        else
          (s.applyPolicy canonical).persistThen answer .acceptedPolicyApplied

def setTopologyGeneration (s : Impl) (generation : TopologyGeneration)
    (answer : Status) : Impl × Status :=
  if !s.isOpen then (s, .refused .rejectedShuttingDown)
  else if !generation.isValid then (s, .refused .rejectedMalformedInput)
  else if generation < s.topologyGeneration then
    (s, .refused .rejectedStaleTopologyGeneration)
  else if generation = s.topologyGeneration then
    (s, .accepted .acceptedNoChangeRequired)
  else
    (s.invalidateOlder (fun _ => false) generation).persistThen answer
      .acceptedNoChangeRequired

def registerMigrationContract (s : Impl) (contract : MigrationContract)
    (answer : Status) : Impl × Status :=
  if !s.isOpen then (s, .refused .rejectedShuttingDown)
  else if !contract.id.isValid || !contract.flow.isValid then
    (s, .refused .rejectedMalformedInput)
  else
    match s.contracts[contract.id]? with
    | some existing =>
        if existing = contract then (s, .accepted .acceptedIdempotentReplay)
        else (s, .refused .rejectedConflictingDuplicate)
    | none =>
        if s.contracts.size ≥ s.config.maxContracts then
          (s, .refused .rejectedResourceExhausted)
        else
          { s with
            contracts := s.contracts.insert contract.id contract
            }.persistThen answer .acceptedNoChangeRequired

end Impl

end FlowOffload

import FlowOffload.Engine.Placement

/-!
# Authority and the effect lifecycle

An authorization permits one recommendation.  A migration attempt starts with
an intent and advances only on acknowledgements, an application and an
observation that match it; every other message is refused.
-/

namespace FlowOffload

def Authorization.encode (v : Authorization) : Foundation.Bytes :=
  writeId v.id ++ writeId v.recommendation ++ writeId v.request ++
    writeId v.flow ++ writeId v.flowGeneration ++ writeId v.target ++
    writeId v.incarnation ++ writeId v.capabilityGeneration ++
    writeId v.policyGeneration ++ writeId v.scheduleGeneration ++
    writeId v.epoch ++ v.boot.encode ++ writeId v.fence ++ v.outcome.encode ++
    v.grantedAt.encode ++ writeDigest v.digest

namespace Impl

/-! ## Authority -/

def authorizable : ReasonCode → Bool
  | .acceptedHostPlacement | .acceptedOffloadPlacement
  | .acceptedStickyRetention | .acceptedFallbackToHost
  | .acceptedFallbackToOffload | .acceptedWithoutLoadEvidence => true
  | _ => false

def authorizationRefusal (s : Impl) (rec : Recommendation) :
    Option ReasonCode :=
  if !authorizable rec.outcome then some .rejectedRecommendationMismatch
  else if rec.epoch ≠ s.epoch || rec.boot ≠ s.boot then
    some .rejectedFencedByRestart
  else if rec.scheduleGeneration ≠ s.scheduleGeneration then
    some .rejectedStaleScheduleGeneration
  else if rec.policyGeneration ≠ s.policyGeneration then
    some .rejectedStalePolicyGeneration
  else if rec.topologyGeneration ≠ s.topologyGeneration then
    some .rejectedStaleTopologyGeneration
  else
    match s.targets[rec.target]? with
    | none => some .rejectedTargetLifecycleUnknown
    | some target =>
        if !target.declared then some .rejectedTargetLifecycleUnknown
        else if target.descriptor.lifecycle ≠ .ready then
          some .rejectedTargetNotReady
        else if target.descriptor.incarnation ≠ rec.incarnation then
          some .rejectedStaleIncarnation
        else if target.descriptor.capabilityGeneration ≠
            rec.capabilityGeneration then
          some .rejectedStaleCapabilityGeneration
        else
          match s.flows[rec.flow]? with
          | none => some .rejectedUnknownFlow
          | some flow =>
              if flow.generation ≠ rec.flowGeneration then
                some .rejectedStaleFlowGeneration
              else if (s.assignments[rec.flow]?).any fun assignment =>
                  assignment.target = rec.target then none
              else some .rejectedRecommendationMismatch

def refuseAuthorization (s : Impl) : Impl :=
  { s with
    counters.authorizationsRefused :=
      saturatingIncrement s.counters.authorizationsRefused }

def grantAuthorization (s : Impl) (rec : Recommendation)
    (instant : Timestamp) : Impl × Authorization :=
  let id : AuthorizationId := ⟨s.nextAuthorization⟩
  let fenced := { s with
    nextAuthorization := saturatingIncrement s.nextAuthorization
    }.issueFenceLocked rec.flow rec.target .acceptedAuthorizationGranted
      instant
  let granted : Authorization :=
    { id := id
      recommendation := rec.id
      request := rec.request
      flow := rec.flow
      flowGeneration := rec.flowGeneration
      target := rec.target
      incarnation := rec.incarnation
      capabilityGeneration := rec.capabilityGeneration
      policyGeneration := s.policyGeneration
      scheduleGeneration := s.scheduleGeneration
      epoch := s.epoch
      boot := s.boot
      fence := fenced.2
      outcome := .acceptedAuthorizationGranted
      grantedAt := instant }
  let authorization := { granted with digest := digestOf granted.encode }
  let recorded := { fenced.1 with
    authorizations := fenced.1.authorizations.insertIfNew id authorization
    counters.authorizationsGranted :=
      saturatingIncrement fenced.1.counters.authorizationsGranted }
  (recorded.evictHistoryLocked, authorization)

def authorize (s : Impl) (recommendation : RecommendationId)
    (instant : Timestamp) : Impl × Status × Authorization :=
  if !s.isOpen then (s, .refused .rejectedShuttingDown, {})
  else
    match s.recommendations[recommendation]? with
    | none =>
        (s.refuseAuthorization, .refused .rejectedRecommendationMismatch, {})
    | some rec =>
        match s.authorizationRefusal rec with
        | some refusal =>
            (s.refuseAuthorization.recordRefusalLocked refusal,
              .refused refusal, {})
        | none =>
            let granted := s.grantAuthorization rec instant
            (granted.1, .accepted .acceptedAuthorizationGranted, granted.2)

/-- The fence of an ended authority or attempt is released with its reason. -/
def releaseFence (s : Impl) (fence : FenceId) (reason : ReasonCode) : Impl :=
  { s with
    fences := s.fences.modify fence fun record =>
      { record with active := false, reason := reason } }

def revokeAuthorization (s : Impl) (authorization : AuthorizationId) :
    Impl × Status :=
  if !s.isOpen then (s, .refused .rejectedShuttingDown)
  else
    match s.authorizations[authorization]? with
    | none => (s, .refused .rejectedAuthorizationMissing)
    | some stored =>
        if stored.outcome ≠ .acceptedAuthorizationGranted then
          (s, .accepted .acceptedNoChangeRequired)
        else
          let revoked := { s with
            authorizations := s.authorizations.insert authorization
              { stored with outcome := .rejectedAuthorizationSuperseded }
            counters.authorizationsRevoked :=
              saturatingIncrement s.counters.authorizationsRevoked }
          (revoked.releaseFence stored.fence .rejectedAuthorizationSuperseded,
            .accepted .acceptedNoChangeRequired)

/-! ## Intent -/

/-- The checks on the stored authorization, in source order. -/
def authorityRefusal (s : Impl) (stored : Authorization) :
    Option ReasonCode :=
  if stored.outcome ≠ .acceptedAuthorizationGranted then
    some .rejectedAuthorizationSuperseded
  else if stored.epoch ≠ s.epoch || stored.boot ≠ s.boot then
    some .rejectedFencedByRestart
  else if stored.policyGeneration ≠ s.policyGeneration then
    some .rejectedStalePolicyGeneration
  else if stored.scheduleGeneration ≠ s.scheduleGeneration then
    some .rejectedStaleScheduleGeneration
  else none

/-- The checks on the requested destination and on the source target. -/
def destinationRefusal (s : Impl) (flow : FlowDescriptor)
    (source : Assignment) (wanted : MigrationIntent) : Option ReasonCode :=
  if !wanted.destinationTarget.isValid ||
      !wanted.destinationIncarnation.isValid then
    some .rejectedMalformedInput
  else if wanted.destinationTarget = source.target &&
      wanted.destinationIncarnation = source.incarnation then
    some .rejectedMigrationSameTarget
  else
    match s.targets[wanted.destinationTarget]? with
    | none => some .rejectedTargetLifecycleUnknown
    | some destination =>
        if !destination.declared then some .rejectedTargetLifecycleUnknown
        else if destination.descriptor.lifecycle ≠ .ready then
          some .rejectedTargetNotReady
        else if destination.descriptor.incarnation ≠
            wanted.destinationIncarnation then
          some .rejectedStaleIncarnation
        else if destination.descriptor.capabilityGeneration ≠
            wanted.destinationCapabilityGeneration then
          some .rejectedStaleCapabilityGeneration
        else if (s.targets[source.target]?).any fun target =>
            !target.descriptor.supportsMigration then
          some .rejectedMigrationNotPermitted
        else if !flow.allowMigration && !s.policy.allowMigration then
          some .rejectedMigrationNotPermitted
        else if s.migrationsInFlightLocked ≥ s.config.maxMigrations then
          some .rejectedMigrationLimitReached
        else none

/-- The first registered contract that covers the move. -/
def matchingContract (s : Impl) (flow : FlowId)
    (descriptor : FlowDescriptor) (wanted : MigrationIntent) :
    Option MigrationContract :=
  (s.contracts.toList.find? fun entry =>
    let candidate := entry.2
    candidate.flow = flow &&
      candidate.flowGeneration = descriptor.generation &&
      candidate.destinationTarget = wanted.destinationTarget &&
      candidate.destinationIncarnation = wanted.destinationIncarnation &&
      candidate.destinationCapabilityGeneration =
        wanted.destinationCapabilityGeneration &&
      candidate.policyGeneration = s.policyGeneration).map Prod.snd

/-- The contract and holder checks of a stateful flow. -/
def statefulRefusal (s : Impl) (flow : FlowId) (descriptor : FlowDescriptor)
    (wanted : MigrationIntent) : Except ReasonCode MigrationContractId :=
  if descriptor.statefulness ≠ .stateful then .ok {}
  else
    match s.matchingContract flow descriptor wanted with
    | none => .error .rejectedMigrationContractMissing
    | some contract =>
        if contract.statefulness ≠ .stateful then
          .error .rejectedMigrationContractMismatch
        else if !contractIsSafeForStateful contract then
          .error .rejectedStatefulMigrationUnsafe
        else if contract.maxStateBytes ≠ 0 &&
            descriptor.demand.stateBytes > contract.maxStateBytes then
          .error .rejectedMigrationContractMismatch
        else
          match s.findHolderLocked descriptor.exclusiveStateKey with
          | none => .ok contract.id
          | some holder =>
              if holder.handoffPending then
                .error .rejectedMigrationAlreadyInFlight
              else if holder.flow ≠ flow then
                .error .rejectedExclusiveStateConflict
              else .ok contract.id

def newIntent (s : Impl) (stored : Authorization)
    (descriptor : FlowDescriptor) (source : Assignment)
    (wanted : MigrationIntent) (contract : MigrationContractId)
    (fence : FenceId) : MigrationIntent :=
  { attempt := ⟨s.nextAttempt⟩
    flow := stored.flow
    flowGeneration := descriptor.generation
    sourceAssignment := source.assignment
    sourceTarget := source.target
    sourceIncarnation := source.incarnation
    sourceCapabilityGeneration := source.capabilityGeneration
    destinationTarget := wanted.destinationTarget
    destinationIncarnation := wanted.destinationIncarnation
    destinationCapabilityGeneration := wanted.destinationCapabilityGeneration
    contract := contract
    policyGeneration := s.policyGeneration
    scheduleGeneration := s.scheduleGeneration
    epoch := s.epoch
    boot := s.boot
    fence := fence
    phase := .intentIssued
    issuedAt := wanted.issuedAt }

/-- The holder entry while its state is being handed off. -/
def handoffHolder (flow : FlowId) (descriptor : FlowDescriptor)
    (source : Assignment) (attempt : MigrationAttemptId) : StateHolder :=
  { holderOf flow source with
    flowGeneration := descriptor.generation
    handoffPending := true
    pendingAttempt := attempt }

def openAttempt (s : Impl) (stored : Authorization)
    (descriptor : FlowDescriptor) (source : Assignment)
    (wanted : MigrationIntent) (contract : MigrationContractId) :
    Impl × MigrationIntent :=
  let fenced := { s with
    nextAttempt := saturatingIncrement s.nextAttempt
    }.issueFenceLocked stored.flow stored.target
      .acceptedMigrationIntentIssued wanted.issuedAt
  let intent := s.newIntent stored descriptor source wanted contract fenced.2
  let recorded := { fenced.1 with
    migrations := fenced.1.migrations.insertIfNew intent.attempt
      { intent := intent } }.setEffect stored.flow .intentIssued
  let held := if descriptor.statefulness = .stateful then
    { recorded with
      holders := recorded.holders.insert descriptor.exclusiveStateKey
        (handoffHolder stored.flow descriptor source intent.attempt) }
    else recorded
  ({ held with
      counters.migrationsIssued :=
        saturatingIncrement held.counters.migrationsIssued },
    intent)

def issueIntent (s : Impl) (authorization : AuthorizationId)
    (wanted : MigrationIntent) (answer : Status) :
    Impl × Status × MigrationIntent :=
  if !s.isOpen then (s, .refused .rejectedShuttingDown, wanted)
  else
    match s.authorizations[authorization]? with
    | none => (s, .refused .rejectedAuthorizationMissing, wanted)
    | some stored =>
        match s.authorityRefusal stored with
        | some code => (s, .refused code, wanted)
        | none =>
            match s.flows[stored.flow]? with
            | none => (s, .refused .rejectedUnknownFlow, wanted)
            | some descriptor =>
                if descriptor.generation ≠ stored.flowGeneration then
                  (s, .refused .rejectedStaleFlowGeneration, wanted)
                else
                  match s.assignments[stored.flow]? with
                  | none =>
                      (s, .refused .rejectedRecommendationMismatch, wanted)
                  | some source =>
                      match s.destinationRefusal descriptor source wanted with
                      | some code => (s, .refused code, wanted)
                      | none =>
                          match s.statefulRefusal stored.flow descriptor
                              wanted with
                          | .error code => (s, .refused code, wanted)
                          | .ok contract =>
                              let opened := s.openAttempt stored descriptor
                                source wanted contract
                              let done := opened.1.persistThen answer
                                .acceptedMigrationIntentIssued
                              (done.1, done.2,
                                if done.2.ok then opened.2 else wanted)

/-! ## Acknowledgement -/

def rejectAcknowledgement (s : Impl) (code : ReasonCode) : Impl × Status :=
  ({ s with
      counters.acknowledgementsRejected :=
        saturatingIncrement s.counters.acknowledgementsRejected },
    .refused code)

/-- The target an actor of the attempt must speak for. -/
def expectedParty (intent : MigrationIntent) (isSource : Bool) :
    TargetId × TargetIncarnation × CapabilityGeneration :=
  if isSource then
    (intent.sourceTarget, intent.sourceIncarnation,
      intent.sourceCapabilityGeneration)
  else
    (intent.destinationTarget, intent.destinationIncarnation,
      intent.destinationCapabilityGeneration)

/-- The counted refusals up to the actor check. -/
def incarnationRefusal (s : Impl) (record : MigrationRecord)
    (ack : MigrationAcknowledgement) : Option ReasonCode :=
  if record.intent.phase = .fenced then some .rejectedFencedByRestart
  else if record.intent.phase = .completed ||
      record.intent.phase = .aborted then
    some .rejectedMigrationAttemptTerminal
  else if record.intent.boot ≠ s.boot || ack.boot ≠ s.boot then
    some .rejectedFencedByRestart
  else if record.intent.epoch ≠ s.epoch || ack.epoch ≠ s.epoch then
    some .rejectedStaleCoordinatorEpoch
  else none

def partyRefusal (intent : MigrationIntent) (isSource : Bool)
    (ack : MigrationAcknowledgement) : Option ReasonCode :=
  let party := expectedParty intent isSource
  if ack.target ≠ party.1 then some .rejectedConflictingAuthority
  else if ack.incarnation ≠ party.2.1 then some .rejectedStaleIncarnation
  else if ack.capabilityGeneration ≠ party.2.2 then
    some .rejectedStaleCapabilityGeneration
  else none

def acknowledgedBy (record : MigrationRecord) (isSource : Bool) :
    Option MigrationAcknowledgement :=
  if isSource then
    if record.sourceAcknowledged then some record.sourceAcknowledgement
    else none
  else if record.destinationAcknowledged then
    some record.destinationAcknowledgement
  else none

/-- The slot and flag of the acknowledging side. -/
def storeAcknowledgement (record : MigrationRecord) (isSource : Bool)
    (ack : MigrationAcknowledgement) : MigrationRecord :=
  if isSource then
    { record with sourceAcknowledgement := ack, sourceAcknowledged := true }
  else
    { record with
      destinationAcknowledgement := ack
      destinationAcknowledged := true }

def setAttempt (s : Impl) (attempt : MigrationAttemptId)
    (record : MigrationRecord) : Impl :=
  { s with migrations := s.migrations.insert attempt record }

def clearHandoff (s : Impl) (attempt : MigrationAttemptId) : Impl :=
  s.mapHolders (clearPending fun pending => pending = attempt)

/-- A negative acknowledgement aborts the attempt. -/
def refuseHandoff (s : Impl) (record : MigrationRecord)
    (ack : MigrationAcknowledgement) : Impl :=
  let aborted := { record with
    intent.phase := .aborted
    abortReason := if ack.reason = .ok then .rejectedMigrationFenced
      else ack.reason }
  let counted := { s with
    counters.migrationsAborted :=
      saturatingIncrement s.counters.migrationsAborted }
  (counted.setAttempt ack.attempt aborted).clearHandoff record.intent.attempt

/-- The persistence answers after which a negative acknowledgement is still
reported as accepted. -/
def persistedAbort (s : Impl) (answer : Status) : Impl × Status :=
  match s.persistLocked answer with
  | (s, persisted) =>
      if persisted.failed && persisted.code ≠ .persistNotConfigured &&
          persisted.code ≠ .recoveryCompacted then (s, persisted)
      else (s, .accepted .acceptedMigrationAborted)

def acceptAcknowledgement (s : Impl) (record : MigrationRecord)
    (isSource : Bool) (ack : MigrationAcknowledgement) (answer : Status) :
    Impl × Status :=
  let stored := storeAcknowledgement record isSource ack
  let counted := { s with
    counters.acknowledgementsAccepted :=
      saturatingIncrement s.counters.acknowledgementsAccepted }
  if !ack.accepted then
    (counted.refuseHandoff stored ack).persistedAbort answer
  else
    let advanced := { stored with
      intent.phase := if isSource then .sourceAcknowledged
        else .destinationAcknowledged }
    ((counted.setAttempt ack.attempt advanced).setEffect record.intent.flow
      .acknowledged).persistThen answer
        (if isSource then .acceptedSourceAckRecorded
          else .acceptedDestinationAckRecorded)

def acknowledge (s : Impl) (ack : MigrationAcknowledgement)
    (answer : Status) : Impl × Status :=
  if !s.isOpen then (s, .refused .rejectedShuttingDown)
  else
    match s.migrations[ack.attempt]? with
    | none => s.rejectAcknowledgement .rejectedMigrationAttemptUnknown
    | some record =>
        match s.incarnationRefusal record ack with
        | some code => s.rejectAcknowledgement code
        | none =>
            if ack.actor = .unknown then (s, .refused .rejectedMalformedInput)
            else
              let isSource : Bool := ack.actor = .source
              match partyRefusal record.intent isSource ack with
              | some code => s.rejectAcknowledgement code
              | none =>
                  match acknowledgedBy record isSource with
                  | some slot =>
                      if slot = ack then
                        ({ s with
                            counters.evidenceIdempotent :=
                              saturatingIncrement
                                s.counters.evidenceIdempotent },
                          .accepted .acceptedIdempotentReplay)
                      else
                        s.rejectAcknowledgement .rejectedMigrationAckDuplicate
                  | none =>
                      let expected : MigrationPhase := if isSource then
                        .intentIssued else .sourceAcknowledged
                      if record.intent.phase ≠ expected then
                        s.rejectAcknowledgement
                          .rejectedMigrationAckOutOfOrder
                      else s.acceptAcknowledgement record isSource ack answer

/-! ## Application and observation -/

def rejectEffect (s : Impl) (code : ReasonCode) : Impl × Status :=
  ({ s with
      counters.effectsRejected :=
        saturatingIncrement s.counters.effectsRejected },
    .refused code)

/-- The counted refusals of an application, from the phase check on. -/
def effectRefusal (s : Impl) (record : MigrationRecord)
    (effect : AppliedEffect) : Option ReasonCode :=
  let intent := record.intent
  if intent.phase ≠ .destinationAcknowledged then
    some .rejectedMigrationEffectBeforeAck
  else if effect.boot ≠ s.boot || intent.boot ≠ s.boot then
    some .rejectedFencedByRestart
  else if effect.epoch ≠ s.epoch then some .rejectedStaleCoordinatorEpoch
  else if effect.target ≠ intent.destinationTarget then
    some .rejectedConflictingAuthority
  else if effect.incarnation ≠ intent.destinationIncarnation then
    some .rejectedStaleIncarnation
  else if effect.capabilityGeneration ≠
      intent.destinationCapabilityGeneration then
    some .rejectedStaleCapabilityGeneration
  else if effect.effectDigest.isZero then some .rejectedMissingEvidence
  else none

def applyEffect (s : Impl) (record : MigrationRecord)
    (effect : AppliedEffect) : Impl :=
  let applied := { record with
    applied := effect
    effectApplied := true
    intent.phase := .effectApplied }
  let recorded := (s.setAttempt effect.attempt applied).setEffect
    record.intent.flow .applied
  { recorded with
    counters.effectsApplied :=
      saturatingIncrement recorded.counters.effectsApplied }

def reportApplied (s : Impl) (effect : AppliedEffect) (answer : Status) :
    Impl × Status :=
  if !s.isOpen then (s, .refused .rejectedShuttingDown)
  else
    match s.migrations[effect.attempt]? with
    | none => (s, .refused .rejectedMigrationAttemptUnknown)
    | some record =>
        if record.intent.phase = .fenced then
          s.rejectEffect .rejectedFencedByRestart
        else if record.intent.phase = .completed ||
            record.intent.phase = .aborted then
          s.rejectEffect .rejectedMigrationAttemptTerminal
        else if record.effectApplied then
          if record.applied = effect then
            (s, .accepted .acceptedIdempotentReplay)
          else (s, .refused .rejectedConflictingDuplicate)
        else
          match s.effectRefusal record effect with
          | some code => s.rejectEffect code
          | none =>
              (s.applyEffect record effect).persistThen answer
                .acceptedAppliedEffectRecorded

def rejectObservation (s : Impl) (code : ReasonCode) : Impl × Status :=
  ({ s with
      counters.observationsRejected :=
        saturatingIncrement s.counters.observationsRejected },
    .refused code)

/-- The in-flight attempts of a flow, by the identity in their intent. -/
def inFlightAttempts (s : Impl) (flow : FlowId) : List MigrationAttemptId :=
  s.migrations.toList.filterMap fun entry =>
    if entry.2.intent.flow = flow && entry.2.inFlight then
      some entry.2.intent.attempt
    else none

def evidenceRefusal : EvidenceState → Option ReasonCode
  | .known => none
  | .conflicting => some .rejectedConflictingEvidence
  | .stale => some .rejectedStaleEvidence
  | .unsupported => some .rejectedUnsupportedTarget
  | .unknown => some .rejectedMissingEvidence

def observedLifecycleRefusal : TargetLifecycle → Option ReasonCode
  | .ready => none
  | .removed => some .rejectedTargetRemoved
  | .draining => some .rejectedTargetDraining
  | .degraded => some .rejectedTargetDegraded
  | .quiesced => some .rejectedTargetQuiesced
  | .discovered => some .rejectedTargetNotReady
  | .unknown => some .rejectedTargetLifecycleUnknown

/-- The checks of the observation against the attempt it is about. -/
def verificationRefusal (record : MigrationRecord)
    (observation : EffectObservation) : Option ReasonCode :=
  let intent := record.intent
  if intent.phase = .fenced then some .rejectedFencedByRestart
  else if intent.phase = .completed || intent.phase = .aborted then
    some .rejectedMigrationAttemptTerminal
  else if !record.effectApplied then some .rejectedMigrationEffectBeforeAck
  else if observation.target ≠ intent.destinationTarget then
    some .rejectedConflictingAuthority
  else if observation.incarnation ≠ intent.destinationIncarnation then
    some .rejectedStaleIncarnation
  else if observation.capabilityGeneration ≠
      intent.destinationCapabilityGeneration then
    some .rejectedStaleCapabilityGeneration
  else if observation.effectDigest ≠ record.applied.effectDigest then
    some .rejectedMigrationVerificationMismatch
  else none

def observationRefusal (record : MigrationRecord)
    (observation : EffectObservation) : Option ReasonCode :=
  (evidenceRefusal observation.state).or
    ((observedLifecycleRefusal observation.lifecycle).or
      (verificationRefusal record observation))

def completedRecord (record : MigrationRecord)
    (observation : EffectObservation) : MigrationRecord :=
  { record with
    effectVerified := true
    verifiedDigest := observation.effectDigest
    intent.phase := .completed }

/-- The assignment that a completed migration puts in place of the old one. -/
def completedAssignment (intent : MigrationIntent)
    (observation : EffectObservation) (next : UInt64)
    (previous : Assignment) : Assignment :=
  { previous with
    assignment := ⟨next⟩
    target := intent.destinationTarget
    incarnation := intent.destinationIncarnation
    capabilityGeneration := intent.destinationCapabilityGeneration
    policyGeneration := intent.policyGeneration
    scheduleGeneration := intent.scheduleGeneration
    effect := .verified
    reason := .acceptedVerifiedEffectRecorded
    committedAt := observation.observedAt
    supersedes := previous.assignment }

def moveAssignment (s : Impl) (intent : MigrationIntent)
    (observation : EffectObservation) : Impl :=
  match s.assignments[intent.flow]? with
  | none => s
  | some previous =>
      let updated := completedAssignment intent observation s.nextAssignment
        previous
      holdState
        { s with
          nextAssignment := saturatingIncrement s.nextAssignment
          assignments := s.assignments.insert intent.flow updated }
        intent.flow
        { holderOf intent.flow updated with
          flowGeneration := intent.flowGeneration }

def completeAttempt (s : Impl) (attempt : MigrationAttemptId)
    (record : MigrationRecord) (observation : EffectObservation) : Impl :=
  let completed := s.setAttempt attempt (completedRecord record observation)
  let moved := completed.moveAssignment record.intent observation
  let released := moved.releaseFence record.intent.fence
    .acceptedVerifiedEffectRecorded
  { released with
    counters.effectsVerified :=
      saturatingIncrement released.counters.effectsVerified
    counters.migrationsCompleted :=
      saturatingIncrement released.counters.migrationsCompleted
    }.recomputeScheduledLocked

def observe (s : Impl) (observation : EffectObservation) (answer : Status) :
    Impl × Status :=
  if !s.isOpen then (s, .refused .rejectedShuttingDown)
  else if !observation.flow.isValid || !observation.source.isValid ||
      !observation.sourceSequence.isValid then
    (s, .refused .rejectedMalformedInput)
  else
    match s.inFlightAttempts observation.flow with
    | [] => s.rejectObservation .rejectedMigrationAttemptUnknown
    | [attempt] =>
        -- `migrations[attempt]`: the entry exists, its key is its identity
        let record := s.migrations.getD attempt {}
        match observationRefusal record observation with
        | some code => s.rejectObservation code
        | none =>
            (s.completeAttempt attempt record observation).persistThen answer
              .acceptedVerifiedEffectRecorded
    | _ :: _ :: _ => s.rejectObservation .rejectedExclusiveStateConflict

def abortAttempt (s : Impl) (attempt : MigrationAttemptId)
    (record : MigrationRecord) (reason : ReasonCode) : Impl :=
  let abortReason := if reason = .ok then .rejectedMigrationFenced else reason
  let counted := { s with
    counters.migrationsAborted :=
      saturatingIncrement s.counters.migrationsAborted }
  let aborted := counted.setAttempt attempt
    { record with intent.phase := .aborted, abortReason := abortReason }
  ((aborted.clearHandoff attempt).releaseFence record.intent.fence
    abortReason).setEffect record.intent.flow .unknown

def abortMigration (s : Impl) (attempt : MigrationAttemptId)
    (reason : ReasonCode) (answer : Status) : Impl × Status :=
  if !s.isOpen then (s, .refused .rejectedShuttingDown)
  else
    match s.migrations[attempt]? with
    | none => (s, .refused .rejectedMigrationAttemptUnknown)
    | some record =>
        if record.intent.phase = .completed then
          (s, .refused .rejectedMigrationAttemptTerminal)
        else if record.intent.phase = .aborted ||
            record.intent.phase = .fenced then
          (s, .accepted .acceptedNoChangeRequired)
        else
          (s.abortAttempt attempt record reason).persistThen answer
            .acceptedMigrationAborted

end Impl

end FlowOffload

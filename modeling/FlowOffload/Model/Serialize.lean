import FlowOffload.Foundation.ByteCodec
import FlowOffload.Model.Records

/-!
# Canonical serialization

Integers are big-endian and fixed width, variable-length fields carry a 32-bit
count.  `encode` is the byte string that the writer of the source appends for
a record, field by field; `decode` is the matching reader.  The writer latches
a failure once its limit would be exceeded, so a payload is usable exactly when
`writerOk` holds of its bytes.
-/

namespace FlowOffload

open Foundation

/-! ## Limits -/

def kMaxCanonicalBytes : Nat := 64 * 1024 * 1024
def kMaxTargets : Nat := 65536
def kMaxFlows : Nat := 1048576
def kMaxEvidenceSources : Nat := 4096
def kMaxMigrationContracts : Nat := 65536
def kMaxMigrationRecords : Nat := 262144
def kMaxRequestRecords : Nat := 65536
def kMaxHistoryRecords : Nat := 4096
def kMaxExplanationSteps : Nat := 64
def kMaxRankedCandidates : Nat := 4096
def kMaxAlternatives : UInt32 := 16
def kMaxRebalanceMigrations : Nat := 1024

/-- `CanonicalWriter::ok()` after the bytes were put into a fresh writer. -/
def writerOk (bytes : Bytes) : Bool := bytes.length ≤ kMaxCanonicalBytes

/-! ## Words, enumerations and lists -/

abbrev CanonicalReader := Reader ReasonCode

def writeU8 (value : UInt8) : Bytes := [value]

def readU8 : CanonicalReader UInt8 := do
  let bytes ← Reader.take .rejectedTruncatedInput 1
  return UInt8.ofNat (ofBigEndian bytes)

def writeU32 (value : UInt32) : Bytes := bigEndian 4 value.toNat

def readU32 : CanonicalReader UInt32 := do
  let bytes ← Reader.take .rejectedTruncatedInput 4
  return UInt32.ofNat (ofBigEndian bytes)

def writeU64 (value : UInt64) : Bytes := bigEndian 8 value.toNat

def readU64 : CanonicalReader UInt64 := do
  let bytes ← Reader.take .rejectedTruncatedInput 8
  return UInt64.ofNat (ofBigEndian bytes)

def writeBoolean (value : Bool) : Bytes := writeU8 (if value then 1 else 0)

def readBoolean : CanonicalReader Bool := do
  let raw ← readU8
  if raw > 1 then Reader.reject .rejectedMalformedInput
  else return raw == 1

def writeDigest (value : Sha256Digest) : Bytes := value.bytes

def readDigest : CanonicalReader Sha256Digest := do
  let bytes ← Reader.take .rejectedTruncatedInput 32
  if size : bytes.length = 32 then return ⟨bytes, size⟩
  else Reader.reject .rejectedTruncatedInput

def encodeEnum {E : Type} [EnumTraits E] (value : E) : Bytes :=
  writeU8 (EnumTraits.wire value)

def decodeEnum {E : Type} [EnumTraits E] : CanonicalReader E := do
  let raw ← readU8
  match EnumTraits.ofWire? raw with
  | some value => return value
  | none => Reader.reject .rejectedMalformedInput

def writeId {tag : IdTag} (id : TypedId tag) : Bytes := writeU64 id.value

def readId {tag : IdTag} : CanonicalReader (TypedId tag) := do
  let raw ← readU64
  return ⟨raw⟩

def writeMask (mask : CapabilityMask) : Bytes := writeU64 mask

def readMask : CanonicalReader CapabilityMask := do
  let raw ← readU64
  if raw &&& ~~~kKnownBits ≠ 0 then Reader.reject .rejectedUnknownCapability
  else return raw

def writeList {α : Type} (encode : α → Bytes) (items : List α) : Bytes :=
  writeU32 (UInt32.ofNat items.length) ++ items.flatMap encode

def readList {α : Type} (decode : CanonicalReader α) (maxItems : Nat) :
    CanonicalReader (List α) := do
  let count ← readU32
  if count.toNat > maxItems then Reader.reject .rejectedOversizedInput
  else Reader.replicate decode count.toNat

def ReasonCode.encode (value : ReasonCode) : Bytes :=
  writeU32 value.reasonValue

def ReasonCode.decode : CanonicalReader ReasonCode := do
  let raw ← readU32
  if raw > 0xFFFF then Reader.reject .rejectedMalformedInput
  else
    match ReasonCode.ofValue? raw with
    | some code => return code
    | none => Reader.reject .rejectedMalformedInput

def Timestamp.encode (value : Timestamp) : Bytes := writeU64 value.nanos

def Timestamp.decode : CanonicalReader Timestamp := do
  let raw ← readU64
  return ⟨raw⟩

/-! ## Records -/

def BootId.encode (v : BootId) : Bytes :=
  writeU64 v.high ++ writeU64 v.low

def BootId.decode : CanonicalReader BootId := do
  let high ← readU64
  let low ← readU64
  return ⟨high, low⟩

def CapacityVector.encode (v : CapacityVector) : Bytes :=
  writeU64 v.packetsPerSecond ++ writeU64 v.bytesPerSecond ++
    writeU64 v.stateBytes ++ writeU64 v.tableEntries

def CapacityVector.decode : CanonicalReader CapacityVector := do
  let packetsPerSecond ← readU64
  let bytesPerSecond ← readU64
  let stateBytes ← readU64
  let tableEntries ← readU64
  return ⟨packetsPerSecond, bytesPerSecond, stateBytes, tableEntries⟩

def FlowDescriptor.encode (v : FlowDescriptor) : Bytes :=
  writeId v.flow ++ writeId v.generation ++ writeId v.function ++
    encodeEnum v.statefulness ++ writeId v.exclusiveStateKey ++
    writeMask v.requiredCapabilities ++ encodeEnum v.maxCostClass ++
    CapacityVector.encode v.demand ++ encodeEnum v.locality ++
    writeId v.localityAnchor ++ writeBoolean v.allowMigration ++
    writeBoolean v.pinned

def FlowDescriptor.decode : CanonicalReader FlowDescriptor := do
  let flow ← readId
  let generation ← readId
  let function ← readId
  let statefulness ← decodeEnum
  let exclusiveStateKey ← readId
  let requiredCapabilities ← readMask
  let maxCostClass ← decodeEnum
  let demand ← CapacityVector.decode
  let locality ← decodeEnum
  let localityAnchor ← readId
  let allowMigration ← readBoolean
  let pinned ← readBoolean
  return ⟨flow, generation, function, statefulness, exclusiveStateKey,
    requiredCapabilities, maxCostClass, demand, locality, localityAnchor,
    allowMigration, pinned⟩

def TargetDescriptor.encode (v : TargetDescriptor) : Bytes :=
  writeId v.target ++ writeId v.incarnation ++
    writeId v.capabilityGeneration ++ writeId v.topologyGeneration ++
    encodeEnum v.domain ++ encodeEnum v.kind ++ writeId v.host ++
    writeId v.device ++ writeMask v.capabilities ++
    CapacityVector.encode v.capacity ++ CapacityVector.encode v.reserved ++
    encodeEnum v.costClass ++ encodeEnum v.lifecycle ++
    writeBoolean v.supportsStateful ++ writeBoolean v.supportsMigration ++
    writeId v.source ++ writeId v.sourceSequence ++
    Timestamp.encode v.issuedAt

def TargetDescriptor.decode : CanonicalReader TargetDescriptor := do
  let target ← readId
  let incarnation ← readId
  let capabilityGeneration ← readId
  let topologyGeneration ← readId
  let domain ← decodeEnum
  let kind ← decodeEnum
  let host ← readId
  let device ← readId
  let capabilities ← readMask
  let capacity ← CapacityVector.decode
  let reserved ← CapacityVector.decode
  let costClass ← decodeEnum
  let lifecycle ← decodeEnum
  let supportsStateful ← readBoolean
  let supportsMigration ← readBoolean
  let source ← readId
  let sourceSequence ← readId
  let issuedAt ← Timestamp.decode
  return ⟨target, incarnation, capabilityGeneration, topologyGeneration,
    domain, kind, host, device, capabilities, capacity, reserved, costClass,
    lifecycle, supportsStateful, supportsMigration, source, sourceSequence,
    issuedAt⟩

def Policy.encode (v : Policy) : Bytes :=
  writeId v.generation ++ encodeEnum v.domainPreference ++
    encodeEnum v.fallback ++ writeMask v.requiredCapabilities ++
    encodeEnum v.maxCostClass ++ writeList encodeEnum v.allowedDomains ++
    writeList writeId v.forbiddenHosts ++
    writeList writeId v.forbiddenDevices ++ CapacityVector.encode v.reserve ++
    encodeEnum v.loadModel ++
    writeBoolean v.allowPlacementWithoutLoadEvidence ++
    writeBoolean v.sticky ++ writeBoolean v.allowMigration ++
    writeU32 v.minImprovementPpm ++ writeU32 v.maxRebalanceMigrations ++
    writeList writeId v.allowedFunctions

def Policy.decode : CanonicalReader Policy := do
  let generation ← readId
  let domainPreference ← decodeEnum
  let fallback ← decodeEnum
  let requiredCapabilities ← readMask
  let maxCostClass ← decodeEnum
  let allowedDomains ← readList decodeEnum 8
  let forbiddenHosts ← readList readId kMaxTargets
  let forbiddenDevices ← readList readId kMaxTargets
  let reserve ← CapacityVector.decode
  let loadModel ← decodeEnum
  let allowPlacementWithoutLoadEvidence ← readBoolean
  let sticky ← readBoolean
  let allowMigration ← readBoolean
  let minImprovementPpm ← readU32
  let maxRebalanceMigrations ← readU32
  let allowedFunctions ← readList readId kMaxFlows
  return ⟨generation, domainPreference, fallback, requiredCapabilities,
    maxCostClass, allowedDomains, forbiddenHosts, forbiddenDevices, reserve,
    allowPlacementWithoutLoadEvidence, loadModel, sticky, allowMigration,
    minImprovementPpm, maxRebalanceMigrations, allowedFunctions⟩

def MigrationContract.encode (v : MigrationContract) : Bytes :=
  writeId v.id ++ writeId v.flow ++ writeId v.flowGeneration ++
    encodeEnum v.statefulness ++ writeBoolean v.stateTransferDefined ++
    writeBoolean v.orderingPreserved ++ writeBoolean v.rollbackDefined ++
    writeBoolean v.exclusiveHandoff ++ writeId v.destinationTarget ++
    writeId v.destinationIncarnation ++
    writeId v.destinationCapabilityGeneration ++ writeId v.policyGeneration ++
    writeU64 v.maxStateBytes

def MigrationContract.decode : CanonicalReader MigrationContract := do
  let id ← readId
  let flow ← readId
  let flowGeneration ← readId
  let statefulness ← decodeEnum
  let stateTransferDefined ← readBoolean
  let orderingPreserved ← readBoolean
  let rollbackDefined ← readBoolean
  let exclusiveHandoff ← readBoolean
  let destinationTarget ← readId
  let destinationIncarnation ← readId
  let destinationCapabilityGeneration ← readId
  let policyGeneration ← readId
  let maxStateBytes ← readU64
  return ⟨id, flow, flowGeneration, statefulness, stateTransferDefined,
    orderingPreserved, rollbackDefined, exclusiveHandoff, destinationTarget,
    destinationIncarnation, destinationCapabilityGeneration, policyGeneration,
    maxStateBytes⟩

def Assignment.encode (v : Assignment) : Bytes :=
  writeId v.assignment ++ writeId v.flow ++ writeId v.flowGeneration ++
    writeId v.target ++ writeId v.incarnation ++
    writeId v.capabilityGeneration ++ writeId v.policyGeneration ++
    writeId v.scheduleGeneration ++ encodeEnum v.effect ++
    ReasonCode.encode v.reason ++ Timestamp.encode v.committedAt ++
    writeId v.supersedes

def Assignment.decode : CanonicalReader Assignment := do
  let assignment ← readId
  let flow ← readId
  let flowGeneration ← readId
  let target ← readId
  let incarnation ← readId
  let capabilityGeneration ← readId
  let policyGeneration ← readId
  let scheduleGeneration ← readId
  let effect ← decodeEnum
  let reason ← ReasonCode.decode
  let committedAt ← Timestamp.decode
  let supersedes ← readId
  return ⟨assignment, flow, flowGeneration, target, incarnation,
    capabilityGeneration, policyGeneration, scheduleGeneration, effect,
    reason, committedAt, supersedes⟩

def MigrationIntent.encode (v : MigrationIntent) : Bytes :=
  writeId v.attempt ++ writeId v.flow ++ writeId v.flowGeneration ++
    writeId v.sourceAssignment ++ writeId v.sourceTarget ++
    writeId v.sourceIncarnation ++ writeId v.sourceCapabilityGeneration ++
    writeId v.destinationTarget ++ writeId v.destinationIncarnation ++
    writeId v.destinationCapabilityGeneration ++ writeId v.contract ++
    writeId v.policyGeneration ++ writeId v.scheduleGeneration ++
    writeId v.epoch ++ BootId.encode v.boot ++ writeId v.fence ++
    encodeEnum v.phase ++ Timestamp.encode v.issuedAt

def MigrationIntent.decode : CanonicalReader MigrationIntent := do
  let attempt ← readId
  let flow ← readId
  let flowGeneration ← readId
  let sourceAssignment ← readId
  let sourceTarget ← readId
  let sourceIncarnation ← readId
  let sourceCapabilityGeneration ← readId
  let destinationTarget ← readId
  let destinationIncarnation ← readId
  let destinationCapabilityGeneration ← readId
  let contract ← readId
  let policyGeneration ← readId
  let scheduleGeneration ← readId
  let epoch ← readId
  let boot ← BootId.decode
  let fence ← readId
  let phase ← decodeEnum
  let issuedAt ← Timestamp.decode
  return ⟨attempt, flow, flowGeneration, sourceAssignment, sourceTarget,
    sourceIncarnation, sourceCapabilityGeneration, destinationTarget,
    destinationIncarnation, destinationCapabilityGeneration, contract,
    policyGeneration, scheduleGeneration, epoch, boot, fence, phase, issuedAt⟩

def MigrationAcknowledgement.encode (v : MigrationAcknowledgement) : Bytes :=
  writeId v.attempt ++ encodeEnum v.actor ++ writeId v.target ++
    writeId v.incarnation ++ writeId v.capabilityGeneration ++
    writeId v.epoch ++ BootId.encode v.boot ++ writeBoolean v.accepted ++
    ReasonCode.encode v.reason ++ Timestamp.encode v.acknowledgedAt

def MigrationAcknowledgement.decode : CanonicalReader MigrationAcknowledgement := do
  let attempt ← readId
  let actor ← decodeEnum
  let target ← readId
  let incarnation ← readId
  let capabilityGeneration ← readId
  let epoch ← readId
  let boot ← BootId.decode
  let accepted ← readBoolean
  let reason ← ReasonCode.decode
  let acknowledgedAt ← Timestamp.decode
  return ⟨attempt, actor, target, incarnation, capabilityGeneration, epoch,
    boot, accepted, reason, acknowledgedAt⟩

def AppliedEffect.encode (v : AppliedEffect) : Bytes :=
  writeId v.attempt ++ writeId v.target ++ writeId v.incarnation ++
    writeId v.capabilityGeneration ++ writeId v.epoch ++
    BootId.encode v.boot ++ writeDigest v.effectDigest ++
    writeU64 v.stateBytes ++ Timestamp.encode v.appliedAt

def AppliedEffect.decode : CanonicalReader AppliedEffect := do
  let attempt ← readId
  let target ← readId
  let incarnation ← readId
  let capabilityGeneration ← readId
  let epoch ← readId
  let boot ← BootId.decode
  let effectDigest ← readDigest
  let stateBytes ← readU64
  let appliedAt ← Timestamp.decode
  return ⟨attempt, target, incarnation, capabilityGeneration, epoch, boot,
    effectDigest, stateBytes, appliedAt⟩

def FenceRecord.encode (v : FenceRecord) : Bytes :=
  writeId v.id ++ writeId v.epoch ++ BootId.encode v.boot ++ writeId v.flow ++
    writeId v.target ++ ReasonCode.encode v.reason ++ writeBoolean v.active ++
    Timestamp.encode v.issuedAt

def FenceRecord.decode : CanonicalReader FenceRecord := do
  let id ← readId
  let epoch ← readId
  let boot ← BootId.decode
  let flow ← readId
  let target ← readId
  let reason ← ReasonCode.decode
  let active ← readBoolean
  let issuedAt ← Timestamp.decode
  return ⟨id, epoch, boot, flow, target, reason, active, issuedAt⟩

def MigrationRecord.encode (v : MigrationRecord) : Bytes :=
  MigrationIntent.encode v.intent ++
    MigrationAcknowledgement.encode v.sourceAcknowledgement ++
    MigrationAcknowledgement.encode v.destinationAcknowledgement ++
    writeBoolean v.sourceAcknowledged ++
    writeBoolean v.destinationAcknowledged ++
    AppliedEffect.encode v.applied ++ writeBoolean v.effectApplied ++
    writeBoolean v.effectVerified ++ writeDigest v.verifiedDigest ++
    ReasonCode.encode v.abortReason

def MigrationRecord.decode : CanonicalReader MigrationRecord := do
  let intent ← MigrationIntent.decode
  let sourceAcknowledgement ← MigrationAcknowledgement.decode
  let destinationAcknowledgement ← MigrationAcknowledgement.decode
  let sourceAcknowledged ← readBoolean
  let destinationAcknowledged ← readBoolean
  let applied ← AppliedEffect.decode
  let effectApplied ← readBoolean
  let effectVerified ← readBoolean
  let verifiedDigest ← readDigest
  let abortReason ← ReasonCode.decode
  return ⟨intent, sourceAcknowledgement, destinationAcknowledgement,
    sourceAcknowledged, destinationAcknowledged, applied, effectApplied,
    effectVerified, verifiedDigest, abortReason⟩

def SourceWatermark.encode (v : SourceWatermark) : Bytes :=
  writeId v.source ++ writeId v.sequence ++ writeId v.capabilityGeneration ++
    writeId v.target ++ writeId v.incarnation

def SourceWatermark.decode : CanonicalReader SourceWatermark := do
  let source ← readId
  let sequence ← readId
  let capabilityGeneration ← readId
  let target ← readId
  let incarnation ← readId
  return ⟨source, sequence, capabilityGeneration, target, incarnation⟩

def RequestRecord.encode (v : RequestRecord) : Bytes :=
  writeId v.request ++ writeDigest v.requestDigest ++
    writeDigest v.resultDigest ++ writeId v.scheduleGeneration ++
    ReasonCode.encode v.outcome

def RequestRecord.decode : CanonicalReader RequestRecord := do
  let request ← readId
  let requestDigest ← readDigest
  let resultDigest ← readDigest
  let scheduleGeneration ← readId
  let outcome ← ReasonCode.decode
  return ⟨request, requestDigest, resultDigest, scheduleGeneration, outcome⟩

def ReasonCount.encode (v : ReasonCount) : Bytes :=
  ReasonCode.encode v.code ++ writeU64 v.count

def ReasonCount.decode : CanonicalReader ReasonCount := do
  let code ← ReasonCode.decode
  let count ← readU64
  return ⟨code, count⟩

/-- The counters in wire order. -/
def Counters.fields (v : Counters) : List UInt64 :=
  [v.flowsRegistered, v.targetsRegistered, v.targetsRemoved,
   v.evidenceAccepted, v.evidenceRejected, v.evidenceIdempotent,
   v.loadRecordsRejectedStale, v.placementsAccepted, v.placementsRefused,
   v.placementsFallback, v.placementsRetained, v.recommendationsIssued,
   v.authorizationsGranted, v.authorizationsRefused, v.migrationsIssued,
   v.migrationsCompleted, v.migrationsAborted, v.migrationsFenced,
   v.acknowledgementsAccepted, v.acknowledgementsRejected, v.effectsApplied,
   v.effectsVerified, v.effectsRejected, v.rebalancesExecuted,
   v.rebalancesTruncated, v.rebalancesSelected, v.requestsDeduplicated,
   v.restarts, v.persistCommits, v.persistFailures, v.compactions,
   v.refusalsByReasonTotal, v.historyEvictions, v.observationsRejected,
   v.authorizationsRevoked, v.operationsSubmitted, v.operationsCancelled,
   v.operationsBackpressured, v.evidenceConflicts,
   v.loadEvidenceStaleAtDecision]

def Counters.encode (v : Counters) : Bytes := v.fields.flatMap writeU64

def Counters.decode : CanonicalReader Counters := do
  let flowsRegistered ← readU64
  let targetsRegistered ← readU64
  let targetsRemoved ← readU64
  let evidenceAccepted ← readU64
  let evidenceRejected ← readU64
  let evidenceIdempotent ← readU64
  let loadRecordsRejectedStale ← readU64
  let placementsAccepted ← readU64
  let placementsRefused ← readU64
  let placementsFallback ← readU64
  let placementsRetained ← readU64
  let recommendationsIssued ← readU64
  let authorizationsGranted ← readU64
  let authorizationsRefused ← readU64
  let migrationsIssued ← readU64
  let migrationsCompleted ← readU64
  let migrationsAborted ← readU64
  let migrationsFenced ← readU64
  let acknowledgementsAccepted ← readU64
  let acknowledgementsRejected ← readU64
  let effectsApplied ← readU64
  let effectsVerified ← readU64
  let effectsRejected ← readU64
  let rebalancesExecuted ← readU64
  let rebalancesTruncated ← readU64
  let rebalancesSelected ← readU64
  let requestsDeduplicated ← readU64
  let restarts ← readU64
  let persistCommits ← readU64
  let persistFailures ← readU64
  let compactions ← readU64
  let refusalsByReasonTotal ← readU64
  let historyEvictions ← readU64
  let observationsRejected ← readU64
  let authorizationsRevoked ← readU64
  let operationsSubmitted ← readU64
  let operationsCancelled ← readU64
  let operationsBackpressured ← readU64
  let evidenceConflicts ← readU64
  let loadEvidenceStaleAtDecision ← readU64
  return ⟨flowsRegistered, targetsRegistered, targetsRemoved,
    evidenceAccepted, evidenceRejected, evidenceIdempotent,
    loadRecordsRejectedStale, placementsAccepted, placementsRefused,
    placementsFallback, placementsRetained, recommendationsIssued,
    authorizationsGranted, authorizationsRefused, migrationsIssued,
    migrationsCompleted, migrationsAborted, migrationsFenced,
    acknowledgementsAccepted, acknowledgementsRejected, effectsApplied,
    effectsVerified, effectsRejected, rebalancesExecuted, rebalancesTruncated,
    rebalancesSelected, requestsDeduplicated, restarts, persistCommits,
    persistFailures, compactions, refusalsByReasonTotal, historyEvictions,
    observationsRejected, authorizationsRevoked, operationsSubmitted,
    operationsCancelled, operationsBackpressured, evidenceConflicts,
    loadEvidenceStaleAtDecision⟩

def DurableState.encode (v : DurableState) : Bytes :=
  writeU32 v.semanticsVersion ++ writeId v.epoch ++ BootId.encode v.boot ++
    writeId v.scheduleGeneration ++ writeId v.topologyGeneration ++
    writeBoolean v.policyPresent ++ Policy.encode v.policy ++
    writeList FlowDescriptor.encode v.flows ++
    writeList TargetDescriptor.encode v.targets ++
    writeList Assignment.encode v.assignments ++
    writeList MigrationContract.encode v.contracts ++
    writeList MigrationRecord.encode v.migrations ++
    writeList FenceRecord.encode v.fences ++
    writeList SourceWatermark.encode v.watermarks ++
    writeList RequestRecord.encode v.requests ++
    writeList ReasonCount.encode v.refusalCounts ++ Counters.encode v.counters

def DurableState.decode : CanonicalReader DurableState := do
  let semanticsVersion ← readU32
  if semanticsVersion ≠ kStateSemanticsVersion then
    Reader.reject .recoverySemanticsMismatch
  let epoch ← readId
  let boot ← BootId.decode
  let scheduleGeneration ← readId
  let topologyGeneration ← readId
  let policyPresent ← readBoolean
  let policy ← Policy.decode
  let flows ← readList FlowDescriptor.decode kMaxFlows
  let targets ← readList TargetDescriptor.decode kMaxTargets
  let assignments ← readList Assignment.decode kMaxFlows
  let contracts ← readList MigrationContract.decode kMaxMigrationContracts
  let migrations ← readList MigrationRecord.decode kMaxMigrationRecords
  let fences ← readList FenceRecord.decode kMaxHistoryRecords
  let watermarks ← readList SourceWatermark.decode kMaxEvidenceSources
  let requests ← readList RequestRecord.decode kMaxRequestRecords
  let refusalCounts ← readList ReasonCount.decode ReasonCode.reasonCodeCount
  let counters ← Counters.decode
  return ⟨semanticsVersion, epoch, boot, scheduleGeneration,
    topologyGeneration, policy, policyPresent, flows, targets, assignments,
    contracts, migrations, fences, watermarks, requests, refusalCounts,
    counters⟩

end FlowOffload

import FlowOffload.Engine.Requests
import FlowOffload.Service.Protocol

/-!
# Payloads of the wire protocol

The canonical form of what the frames carry beside the records of the durable
state: observations, results, reports, explanations and the greeting.  A
payload is usable when it fits a frame, and is read back only as a whole.
-/

namespace FlowOffload

open Foundation

def kMaxStringBytes : Nat := 4096
def kMaxNameBytes : Nat := 128

/-! ## Text -/

/-- A `std::string` is a byte string, so each character stands for one byte. -/
def writeText (text : String) : Bytes :=
  writeU32 (UInt32.ofNat text.toList.length) ++
    text.toList.map fun char => UInt8.ofNat char.toNat

def readText (maxBytes : Nat) : CanonicalReader String := do
  let length ← readU32
  if length.toNat > maxBytes then Reader.reject .rejectedOversizedInput
  else
    let bytes ← Reader.take .rejectedTruncatedInput length.toNat
    return String.ofList (bytes.map Char.ofUInt8)

/-- The characters of the text are bytes, and not too many. -/
def TextValid (maxBytes : Nat) (text : String) : Prop :=
  text.toList.length ≤ maxBytes ∧ ∀ char ∈ text.toList, char.toNat < 256

/-! ## Evidence -/

def LoadEvidence.encode (v : LoadEvidence) : Bytes :=
  writeId v.target ++ writeId v.incarnation ++
    writeId v.capabilityGeneration ++ writeId v.source ++
    writeId v.sourceSequence ++ v.observedAt.encode ++ encodeEnum v.state ++
    v.utilized.encode

def LoadEvidence.decode : CanonicalReader LoadEvidence := do
  let target ← readId
  let incarnation ← readId
  let capabilityGeneration ← readId
  let source ← readId
  let sourceSequence ← readId
  let observedAt ← Timestamp.decode
  let state ← decodeEnum
  let utilized ← CapacityVector.decode
  return ⟨target, incarnation, capabilityGeneration, source, sourceSequence,
    observedAt, state, utilized⟩

/-! ## Explanations -/

def ExplanationStep.encode (v : ExplanationStep) : Bytes :=
  v.code.encode ++ writeU64 v.valueA ++ writeU64 v.valueB ++
    writeText v.detail

def ExplanationStep.decode : CanonicalReader ExplanationStep := do
  let code ← ReasonCode.decode
  let valueA ← readU64
  let valueB ← readU64
  let detail ← readText kMaxStringBytes
  return ⟨code, valueA, valueB, detail⟩

def Explanation.encode (v : Explanation) : Bytes :=
  v.primary.encode ++ writeId v.flow ++ writeId v.flowGeneration ++
    writeId v.target ++ writeId v.incarnation ++ writeId v.policyGeneration ++
    writeId v.scheduleGeneration ++ writeId v.topologyGeneration ++
    writeId v.epoch ++ v.boot.encode ++ v.evaluationInstant.encode ++
    writeList ExplanationStep.encode v.accepted ++
    writeList ExplanationStep.encode v.refused

def Explanation.decode : CanonicalReader Explanation := do
  let primary ← ReasonCode.decode
  let flow ← readId
  let flowGeneration ← readId
  let target ← readId
  let incarnation ← readId
  let policyGeneration ← readId
  let scheduleGeneration ← readId
  let topologyGeneration ← readId
  let epoch ← readId
  let boot ← BootId.decode
  let evaluationInstant ← Timestamp.decode
  let accepted ← readList ExplanationStep.decode kMaxExplanationSteps
  let refused ← readList ExplanationStep.decode kMaxExplanationSteps
  return ⟨primary, flow, flowGeneration, target, incarnation,
    policyGeneration, scheduleGeneration, topologyGeneration, epoch, boot,
    evaluationInstant, accepted, refused⟩

/-! ## Results -/

def CandidateView.encode (v : CandidateView) : Bytes :=
  writeId v.target ++ encodeEnum v.domain ++ writeId v.host ++
    writeId v.device ++ writeId v.incarnation ++
    writeId v.capabilityGeneration ++ encodeEnum v.costClass ++
    v.capacity.encode ++ v.effectiveUsed.encode ++ v.available.encode ++
    v.demand.encode ++ writeU32 v.utilisationPpm ++
    writeBoolean v.utilisationSaturated ++
    writeBoolean v.loadEvidencePresent ++ writeBoolean v.loadEvidenceFresh ++
    writeBoolean v.eligible ++ v.reason.encode ++ writeU32 v.rank ++
    writeBoolean v.fallbackDomain

def CandidateView.decode : CanonicalReader CandidateView := do
  let target ← readId
  let domain ← decodeEnum
  let host ← readId
  let device ← readId
  let incarnation ← readId
  let capabilityGeneration ← readId
  let costClass ← decodeEnum
  let capacity ← CapacityVector.decode
  let effectiveUsed ← CapacityVector.decode
  let available ← CapacityVector.decode
  let demand ← CapacityVector.decode
  let utilisationPpm ← readU32
  let utilisationSaturated ← readBoolean
  let loadEvidencePresent ← readBoolean
  let loadEvidenceFresh ← readBoolean
  let eligible ← readBoolean
  let reason ← ReasonCode.decode
  let rank ← readU32
  let fallbackDomain ← readBoolean
  return ⟨target, domain, host, device, incarnation, capabilityGeneration,
    costClass, capacity, effectiveUsed, available, demand, utilisationPpm,
    utilisationSaturated, loadEvidencePresent, loadEvidenceFresh, eligible,
    reason, rank, fallbackDomain⟩

def FlowPlacement.encode (v : FlowPlacement) : Bytes :=
  writeId v.flow ++ writeId v.flowGeneration ++ writeId v.function ++
    v.outcome.encode ++ writeBoolean v.accepted ++ writeBoolean v.fallback ++
    writeBoolean v.retained ++ writeBoolean v.changed ++ writeId v.target ++
    writeId v.incarnation ++ writeId v.capabilityGeneration ++
    encodeEnum v.domain ++ writeId v.assignment ++ writeId v.recommendation ++
    writeU32 v.alternatives ++ writeList CandidateView.encode v.ranked ++
    writeList CandidateView.encode v.refused ++ v.explanation.encode

def FlowPlacement.decode : CanonicalReader FlowPlacement := do
  let flow ← readId
  let flowGeneration ← readId
  let function ← readId
  let outcome ← ReasonCode.decode
  let accepted ← readBoolean
  let fallback ← readBoolean
  let retained ← readBoolean
  let changed ← readBoolean
  let target ← readId
  let incarnation ← readId
  let capabilityGeneration ← readId
  let domain ← decodeEnum
  let assignment ← readId
  let recommendation ← readId
  let alternatives ← readU32
  let ranked ← readList CandidateView.decode kMaxRankedCandidates
  let refused ← readList CandidateView.decode kMaxExplanationSteps
  let explanation ← Explanation.decode
  return ⟨flow, flowGeneration, function, outcome, accepted, fallback,
    retained, changed, target, incarnation, capabilityGeneration, domain,
    assignment, recommendation, alternatives, ranked, refused, explanation⟩

def PlacementResult.encode (v : PlacementResult) : Bytes :=
  writeId v.request ++ v.status.encode ++ writeBoolean v.accepted ++
    writeBoolean v.duplicate ++ writeBoolean v.dryRun ++
    writeId v.scheduleGeneration ++ writeList FlowPlacement.encode v.placements ++
    writeList ReasonCount.encode v.refusalSummary ++ writeDigest v.digest

def PlacementResult.decode : CanonicalReader PlacementResult := do
  let request ← readId
  let status ← ReasonCode.decode
  let accepted ← readBoolean
  let duplicate ← readBoolean
  let dryRun ← readBoolean
  let scheduleGeneration ← readId
  let placements ← readList FlowPlacement.decode kMaxFlows
  let refusalSummary ← readList ReasonCount.decode ReasonCode.reasonCodeCount
  let digest ← readDigest
  return ⟨request, status, accepted, duplicate, dryRun, scheduleGeneration,
    placements, refusalSummary, digest⟩

def RebalanceReport.encode (v : RebalanceReport) : Bytes :=
  writeId v.request ++ v.status.encode ++ writeId v.scheduleGeneration ++
    writeU32 v.considered ++ writeU32 v.eligible ++ writeU32 v.selected ++
    writeU32 v.truncated ++ writeBoolean v.dryRun ++
    writeList MigrationIntent.encode v.intents ++
    writeList ReasonCount.encode v.refusalSummary ++ v.explanation.encode

def RebalanceReport.decode : CanonicalReader RebalanceReport := do
  let request ← readId
  let status ← ReasonCode.decode
  let scheduleGeneration ← readId
  let considered ← readU32
  let eligible ← readU32
  let selected ← readU32
  let truncated ← readU32
  let dryRun ← readBoolean
  let intents ← readList MigrationIntent.decode kMaxRebalanceMigrations
  let refusalSummary ← readList ReasonCount.decode ReasonCode.reasonCodeCount
  let explanation ← Explanation.decode
  return ⟨request, status, scheduleGeneration, considered, eligible, selected,
    truncated, dryRun, intents, refusalSummary, explanation⟩

/-! ## Greeting and export -/

structure HelloRequest where
  clientName : String := ""
  clientVersion : UInt32 := 0
  deriving DecidableEq, Repr, Inhabited

def HelloRequest.encode (v : HelloRequest) : Bytes :=
  writeText v.clientName ++ writeU32 v.clientVersion

def HelloRequest.decode : CanonicalReader HelloRequest := do
  let clientName ← readText kMaxNameBytes
  let clientVersion ← readU32
  return ⟨clientName, clientVersion⟩

structure HelloResponse where
  protocolVersion : UInt32 := kProtocolVersion.toUInt32
  semanticsVersion : UInt32 := kStateSemanticsVersion
  libraryVersion : String := ""
  epoch : CoordinatorEpoch := {}
  boot : BootId := {}
  deriving DecidableEq, Repr, Inhabited

def HelloResponse.encode (v : HelloResponse) : Bytes :=
  writeU32 v.protocolVersion ++ writeU32 v.semanticsVersion ++
    writeText v.libraryVersion ++ writeId v.epoch ++ v.boot.encode

def HelloResponse.decode : CanonicalReader HelloResponse := do
  let protocolVersion ← readU32
  let semanticsVersion ← readU32
  let libraryVersion ← readText kMaxStringBytes
  let epoch ← readId
  let boot ← BootId.decode
  return ⟨protocolVersion, semanticsVersion, libraryVersion, epoch, boot⟩

inductive ExportFormat where
  | json | binary | text
  deriving DecidableEq, Repr, Inhabited

/-- The byte of a format; the formats are those up to 2. -/
instance : EnumTraits ExportFormat where
  wire
    | .json => 0
    | .binary => 1
    | .text => 2
  values := [.json, .binary, .text]
  find_wire e := by cases e <;> rfl

/-! ## Whole payloads -/

/-- `none` when the payload does not fit a frame. -/
def encodePayload (bytes : Bytes) : Option Bytes :=
  if bytes.length ≤ kMaxFramePayloadBytes then some bytes else none

/-- Nothing may follow the value in its payload. -/
def decodePayload {α : Type} (decode : CanonicalReader α) (payload : Bytes) :
    Option α :=
  match decode.run payload with
  | .ok (value, []) => some value
  | _ => none

/-- An observation travels with the instant of its delivery. -/
def encodeObservation (evidence : LoadEvidence) (instant : Timestamp) : Bytes :=
  evidence.encode ++ instant.encode

def decodeObservation : CanonicalReader (LoadEvidence × Timestamp) := do
  let evidence ← LoadEvidence.decode
  let instant ← Timestamp.decode
  return (evidence, instant)

end FlowOffload

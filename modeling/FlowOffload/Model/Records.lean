import FlowOffload.Foundation.Sorting
import FlowOffload.Model.Digest
import FlowOffload.Model.Enums
import FlowOffload.Model.Identity
import FlowOffload.Model.Reason
import FlowOffload.Model.Units

/-!
# Domain model and durable records

The descriptors, evidence, policy, contracts and decision records of the
model, followed by the durable state.  Field defaults are those of the source.
-/

namespace FlowOffload

open Foundation

abbrev CapabilityMask := UInt64

def kCapabilityCount : UInt64 := 16

/-- The mask of the capability bits this runtime defines. -/
def kKnownBits : CapabilityMask := (1 <<< kCapabilityCount) - 1

/-- True when every bit of `required` is present in `available`. -/
def satisfies (available required : CapabilityMask) : Bool :=
  available &&& required == required

theorem and_or_absorb (a b : CapabilityMask) : a &&& (a ||| b) = a := by
  refine UInt64.toBitVec_inj.mp ?_
  ext i hi
  simp only [UInt64.toBitVec_and, UInt64.toBitVec_or, BitVec.getElem_and,
    BitVec.getElem_or]
  cases a.toBitVec[i] <;> rfl

/-- Capabilities that cover two masks together cover the first. -/
theorem satisfies_of_or {available a b : CapabilityMask}
    (h : satisfies available (a ||| b) = true) :
    satisfies available a = true := by
  simp only [satisfies, beq_iff_eq] at h ⊢
  calc available &&& a
      = available &&& (a &&& (a ||| b)) := by rw [and_or_absorb]
    _ = a &&& (available &&& (a ||| b)) := by
        rw [← UInt64.and_assoc, UInt64.and_comm available a,
          UInt64.and_assoc]
    _ = a := by rw [h, and_or_absorb]

/-- True when the mask uses only defined capability bits. -/
def definedCapabilities (mask : CapabilityMask) : Bool :=
  mask &&& ~~~kKnownBits == 0

structure FlowDescriptor where
  flow : FlowId := {}
  generation : FlowGeneration := {}
  function : ProcessingFunctionId := {}
  statefulness : Statefulness := .unknown
  exclusiveStateKey : ExclusiveStateKeyId := {}
  requiredCapabilities : CapabilityMask := 0
  maxCostClass : CostClass := .scarce
  demand : CapacityVector := {}
  locality : LocalityKind := .none
  localityAnchor : FlowId := {}
  allowMigration : Bool := false
  pinned : Bool := false
  deriving DecidableEq, Repr, Inhabited

structure TargetDescriptor where
  target : TargetId := {}
  incarnation : TargetIncarnation := {}
  capabilityGeneration : CapabilityGeneration := {}
  topologyGeneration : TopologyGeneration := {}
  domain : ExecutionDomain := .unknown
  kind : TargetKind := .unknown
  host : HostId := {}
  device : DeviceId := {}
  capabilities : CapabilityMask := 0
  capacity : CapacityVector := {}
  reserved : CapacityVector := {}
  costClass : CostClass := .unknown
  lifecycle : TargetLifecycle := .unknown
  supportsStateful : Bool := false
  supportsMigration : Bool := false
  source : EvidenceSourceId := {}
  sourceSequence : EvidenceSequence := {}
  issuedAt : Timestamp := {}
  deriving DecidableEq, Repr, Inhabited

structure LoadEvidence where
  target : TargetId := {}
  incarnation : TargetIncarnation := {}
  capabilityGeneration : CapabilityGeneration := {}
  source : EvidenceSourceId := {}
  sourceSequence : EvidenceSequence := {}
  observedAt : Timestamp := {}
  state : EvidenceState := .unknown
  utilized : CapacityVector := {}
  deriving DecidableEq, Repr, Inhabited

structure Policy where
  generation : PolicyGeneration := {}
  domainPreference : DomainPreference := .unknown
  fallback : FallbackPolicy := .unknown
  requiredCapabilities : CapabilityMask := 0
  maxCostClass : CostClass := .scarce
  allowedDomains : List ExecutionDomain := []
  forbiddenHosts : List HostId := []
  forbiddenDevices : List DeviceId := []
  reserve : CapacityVector := {}
  allowPlacementWithoutLoadEvidence : Bool := false
  loadModel : LoadModel := .sumConservative
  sticky : Bool := true
  allowMigration : Bool := false
  minImprovementPpm : UInt32 := 0
  maxRebalanceMigrations : UInt32 := 64
  allowedFunctions : List ProcessingFunctionId := []
  deriving DecidableEq, Repr, Inhabited

def canonicalize (policy : Policy) : Policy :=
  { policy with
    allowedDomains := canonicalSort
      (fun a b => EnumTraits.wire a > EnumTraits.wire b) policy.allowedDomains
    forbiddenHosts := canonicalSort (fun a b => b < a) policy.forbiddenHosts
    forbiddenDevices := canonicalSort (fun a b => b < a) policy.forbiddenDevices
    allowedFunctions := canonicalSort (fun a b => b < a)
      policy.allowedFunctions }

structure MigrationContract where
  id : MigrationContractId := {}
  flow : FlowId := {}
  flowGeneration : FlowGeneration := {}
  statefulness : Statefulness := .unknown
  stateTransferDefined : Bool := false
  orderingPreserved : Bool := false
  rollbackDefined : Bool := false
  exclusiveHandoff : Bool := false
  destinationTarget : TargetId := {}
  destinationIncarnation : TargetIncarnation := {}
  destinationCapabilityGeneration : CapabilityGeneration := {}
  policyGeneration : PolicyGeneration := {}
  maxStateBytes : UInt64 := 0
  deriving DecidableEq, Repr, Inhabited

/-- True when the contract is complete enough to move exclusive flow state. -/
def contractIsSafeForStateful (contract : MigrationContract) : Bool :=
  if contract.statefulness ≠ .stateful then
    contract.stateTransferDefined && contract.orderingPreserved
  else
    contract.stateTransferDefined && contract.orderingPreserved &&
      contract.rollbackDefined && contract.exclusiveHandoff

structure Assignment where
  assignment : AssignmentId := {}
  flow : FlowId := {}
  flowGeneration : FlowGeneration := {}
  target : TargetId := {}
  incarnation : TargetIncarnation := {}
  capabilityGeneration : CapabilityGeneration := {}
  policyGeneration : PolicyGeneration := {}
  scheduleGeneration : ScheduleGeneration := {}
  effect : EffectState := .unknown
  reason : ReasonCode := .ok
  committedAt : Timestamp := {}
  supersedes : AssignmentId := {}
  deriving DecidableEq, Repr, Inhabited

/-- Advice.  It carries no authority and cannot be applied. -/
structure Recommendation where
  id : RecommendationId := {}
  request : RequestId := {}
  flow : FlowId := {}
  flowGeneration : FlowGeneration := {}
  target : TargetId := {}
  incarnation : TargetIncarnation := {}
  capabilityGeneration : CapabilityGeneration := {}
  policyGeneration : PolicyGeneration := {}
  scheduleGeneration : ScheduleGeneration := {}
  topologyGeneration : TopologyGeneration := {}
  epoch : CoordinatorEpoch := {}
  boot : BootId := {}
  domain : ExecutionDomain := .unknown
  outcome : ReasonCode := .ok
  fallback : Bool := false
  issuedAt : Timestamp := {}
  digest : Sha256Digest := {}
  deriving DecidableEq, Repr, Inhabited

/-- Permission to apply one recommendation, for one epoch and boot. -/
structure Authorization where
  id : AuthorizationId := {}
  recommendation : RecommendationId := {}
  request : RequestId := {}
  flow : FlowId := {}
  flowGeneration : FlowGeneration := {}
  target : TargetId := {}
  incarnation : TargetIncarnation := {}
  capabilityGeneration : CapabilityGeneration := {}
  policyGeneration : PolicyGeneration := {}
  scheduleGeneration : ScheduleGeneration := {}
  epoch : CoordinatorEpoch := {}
  boot : BootId := {}
  fence : FenceId := {}
  outcome : ReasonCode := .ok
  grantedAt : Timestamp := {}
  digest : Sha256Digest := {}
  deriving DecidableEq, Repr, Inhabited

structure MigrationIntent where
  attempt : MigrationAttemptId := {}
  flow : FlowId := {}
  flowGeneration : FlowGeneration := {}
  sourceAssignment : AssignmentId := {}
  sourceTarget : TargetId := {}
  sourceIncarnation : TargetIncarnation := {}
  sourceCapabilityGeneration : CapabilityGeneration := {}
  destinationTarget : TargetId := {}
  destinationIncarnation : TargetIncarnation := {}
  destinationCapabilityGeneration : CapabilityGeneration := {}
  contract : MigrationContractId := {}
  policyGeneration : PolicyGeneration := {}
  scheduleGeneration : ScheduleGeneration := {}
  epoch : CoordinatorEpoch := {}
  boot : BootId := {}
  fence : FenceId := {}
  phase : MigrationPhase := .unknown
  issuedAt : Timestamp := {}
  deriving DecidableEq, Repr, Inhabited

structure MigrationAcknowledgement where
  attempt : MigrationAttemptId := {}
  actor : MigrationActor := .unknown
  target : TargetId := {}
  incarnation : TargetIncarnation := {}
  capabilityGeneration : CapabilityGeneration := {}
  epoch : CoordinatorEpoch := {}
  boot : BootId := {}
  accepted : Bool := false
  reason : ReasonCode := .ok
  acknowledgedAt : Timestamp := {}
  deriving DecidableEq, Repr, Inhabited

structure AppliedEffect where
  attempt : MigrationAttemptId := {}
  target : TargetId := {}
  incarnation : TargetIncarnation := {}
  capabilityGeneration : CapabilityGeneration := {}
  epoch : CoordinatorEpoch := {}
  boot : BootId := {}
  effectDigest : Sha256Digest := {}
  stateBytes : UInt64 := 0
  appliedAt : Timestamp := {}
  deriving DecidableEq, Repr, Inhabited

structure EffectObservation where
  flow : FlowId := {}
  flowGeneration : FlowGeneration := {}
  target : TargetId := {}
  incarnation : TargetIncarnation := {}
  capabilityGeneration : CapabilityGeneration := {}
  source : EvidenceSourceId := {}
  sourceSequence : EvidenceSequence := {}
  state : EvidenceState := .unknown
  lifecycle : TargetLifecycle := .unknown
  effectDigest : Sha256Digest := {}
  observedAt : Timestamp := {}
  deriving DecidableEq, Repr, Inhabited

structure FenceRecord where
  id : FenceId := {}
  epoch : CoordinatorEpoch := {}
  boot : BootId := {}
  flow : FlowId := {}
  target : TargetId := {}
  reason : ReasonCode := .ok
  active : Bool := false
  issuedAt : Timestamp := {}
  deriving DecidableEq, Repr, Inhabited

structure ExplanationStep where
  code : ReasonCode := .ok
  valueA : UInt64 := 0
  valueB : UInt64 := 0
  detail : String := ""
  deriving DecidableEq, Repr, Inhabited

/-- Why a decision was accepted or refused, in evaluation order. -/
structure Explanation where
  primary : ReasonCode := .ok
  flow : FlowId := {}
  flowGeneration : FlowGeneration := {}
  target : TargetId := {}
  incarnation : TargetIncarnation := {}
  policyGeneration : PolicyGeneration := {}
  scheduleGeneration : ScheduleGeneration := {}
  topologyGeneration : TopologyGeneration := {}
  epoch : CoordinatorEpoch := {}
  boot : BootId := {}
  evaluationInstant : Timestamp := {}
  accepted : List ExplanationStep := []
  refused : List ExplanationStep := []
  deriving DecidableEq, Repr, Inhabited

/-! ## Durable records -/

structure ReasonCount where
  code : ReasonCode := .ok
  count : UInt64 := 0
  deriving DecidableEq, Repr, Inhabited

/-- Monotonic operational counters; part of the durable state. -/
structure Counters where
  flowsRegistered : UInt64 := 0
  targetsRegistered : UInt64 := 0
  targetsRemoved : UInt64 := 0
  evidenceAccepted : UInt64 := 0
  evidenceRejected : UInt64 := 0
  evidenceIdempotent : UInt64 := 0
  loadRecordsRejectedStale : UInt64 := 0
  placementsAccepted : UInt64 := 0
  placementsRefused : UInt64 := 0
  placementsFallback : UInt64 := 0
  placementsRetained : UInt64 := 0
  recommendationsIssued : UInt64 := 0
  authorizationsGranted : UInt64 := 0
  authorizationsRefused : UInt64 := 0
  migrationsIssued : UInt64 := 0
  migrationsCompleted : UInt64 := 0
  migrationsAborted : UInt64 := 0
  migrationsFenced : UInt64 := 0
  acknowledgementsAccepted : UInt64 := 0
  acknowledgementsRejected : UInt64 := 0
  effectsApplied : UInt64 := 0
  effectsVerified : UInt64 := 0
  effectsRejected : UInt64 := 0
  rebalancesExecuted : UInt64 := 0
  rebalancesTruncated : UInt64 := 0
  rebalancesSelected : UInt64 := 0
  requestsDeduplicated : UInt64 := 0
  restarts : UInt64 := 0
  persistCommits : UInt64 := 0
  persistFailures : UInt64 := 0
  compactions : UInt64 := 0
  refusalsByReasonTotal : UInt64 := 0
  historyEvictions : UInt64 := 0
  observationsRejected : UInt64 := 0
  authorizationsRevoked : UInt64 := 0
  operationsSubmitted : UInt64 := 0
  operationsCancelled : UInt64 := 0
  operationsBackpressured : UInt64 := 0
  evidenceConflicts : UInt64 := 0
  loadEvidenceStaleAtDecision : UInt64 := 0
  deriving DecidableEq, Repr, Inhabited

/-- Idempotency record of a placement request. -/
structure RequestRecord where
  request : RequestId := {}
  requestDigest : Sha256Digest := {}
  resultDigest : Sha256Digest := {}
  scheduleGeneration : ScheduleGeneration := {}
  outcome : ReasonCode := .ok
  deriving DecidableEq, Repr, Inhabited

/-- Highest accepted evidence sequence of one source. -/
structure SourceWatermark where
  source : EvidenceSourceId := {}
  sequence : EvidenceSequence := {}
  capabilityGeneration : CapabilityGeneration := {}
  target : TargetId := {}
  incarnation : TargetIncarnation := {}
  deriving DecidableEq, Repr, Inhabited

/-- Full record of one migration attempt. -/
structure MigrationRecord where
  intent : MigrationIntent := {}
  sourceAcknowledgement : MigrationAcknowledgement := {}
  destinationAcknowledgement : MigrationAcknowledgement := {}
  sourceAcknowledged : Bool := false
  destinationAcknowledged : Bool := false
  applied : AppliedEffect := {}
  effectApplied : Bool := false
  effectVerified : Bool := false
  verifiedDigest : Sha256Digest := {}
  abortReason : ReasonCode := .ok
  deriving DecidableEq, Repr, Inhabited

/-- An attempt that is neither completed, nor aborted, nor fenced. -/
def MigrationRecord.inFlight (record : MigrationRecord) : Bool :=
  !record.intent.phase.isTerminal

theorem MigrationRecord.inFlight_iff {record : MigrationRecord} :
    record.inFlight = true ↔ record.intent.phase ≠ .completed ∧
      record.intent.phase ≠ .aborted ∧ record.intent.phase ≠ .fenced := by
  unfold inFlight
  cases record.intent.phase <;> decide

def kStateSemanticsVersion : UInt32 := 1

/-- Everything that must survive a restart; everything derived is absent. -/
structure DurableState where
  semanticsVersion : UInt32 := kStateSemanticsVersion
  epoch : CoordinatorEpoch := {}
  boot : BootId := {}
  scheduleGeneration : ScheduleGeneration := {}
  topologyGeneration : TopologyGeneration := {}
  policy : Policy := {}
  policyPresent : Bool := false
  flows : List FlowDescriptor := []
  targets : List TargetDescriptor := []
  assignments : List Assignment := []
  contracts : List MigrationContract := []
  migrations : List MigrationRecord := []
  fences : List FenceRecord := []
  watermarks : List SourceWatermark := []
  requests : List RequestRecord := []
  refusalCounts : List ReasonCount := []
  counters : Counters := {}
  deriving DecidableEq, Repr, Inhabited

/--
Sorting by an ascending identity, as `std::sort` with `a.id < b.id`.  The
identities of a durable list are distinct, so every sort gives one result.
-/
def sortByKey {α κ : Type} [Ord κ] (key : α → κ) (items : List α) : List α :=
  canonicalSort (fun a b => (compare (key a) (key b)).isGT) items

def DurableState.canonicalizeOrder (state : DurableState) : DurableState :=
  { state with
    policy := canonicalize state.policy
    flows := sortByKey FlowDescriptor.flow state.flows
    targets := sortByKey TargetDescriptor.target state.targets
    assignments := sortByKey Assignment.flow state.assignments
    contracts := sortByKey MigrationContract.id state.contracts
    migrations := sortByKey (fun r => r.intent.attempt) state.migrations
    fences := sortByKey FenceRecord.id state.fences
    watermarks := sortByKey SourceWatermark.source state.watermarks
    requests := sortByKey RequestRecord.request state.requests
    refusalCounts := sortByKey ReasonCount.code state.refusalCounts }

end FlowOffload

import FlowOffload.Store.Store

/-!
# Engine configuration, requests, results and internal state

`Impl` is the internal state of the engine as one flat record.  Ordered maps
of the source are `ExtTreeMap`s, so two states are equal when their contents
are.  Asynchronous submission, locks and the worker pool are not part of it:
every operation of the source runs under one lock, as one step here.
-/

namespace FlowOffload

open Std (ExtTreeMap)

structure EngineConfig where
  persistenceEnabled : Bool := false
  store : StoreConfig := {}
  evidenceFreshness : Duration := ⟨1000000000⟩
  maxFlows : Nat := kMaxFlows
  maxTargets : Nat := kMaxTargets
  maxContracts : Nat := kMaxMigrationContracts
  maxMigrations : Nat := kMaxMigrationRecords
  maxRequests : Nat := kMaxRequestRecords
  maxHistory : Nat := kMaxHistoryRecords
  maxEvidenceSources : Nat := kMaxEvidenceSources
  maxAlternatives : Nat := 4
  maxRebalanceMigrations : Nat := kMaxRebalanceMigrations
  bootIdOverride : BootId := {}
  deriving DecidableEq, Repr, Inhabited

/-! ## Requests and results -/

/-- An invalid generation means whatever generation is registered. -/
structure PlacementItem where
  flow : FlowId := {}
  flowGeneration : FlowGeneration := {}
  deriving DecidableEq, Repr, Inhabited

structure PlacementRequest where
  request : RequestId := {}
  items : List PlacementItem := []
  evaluationInstant : Timestamp := {}
  policyGeneration : PolicyGeneration := {}
  baseScheduleGeneration : ScheduleGeneration := {}
  maxAlternatives : UInt32 := 0
  dryRun : Bool := false
  deriving DecidableEq, Repr, Inhabited

structure CandidateView where
  target : TargetId := {}
  domain : ExecutionDomain := .unknown
  host : HostId := {}
  device : DeviceId := {}
  incarnation : TargetIncarnation := {}
  capabilityGeneration : CapabilityGeneration := {}
  costClass : CostClass := .unknown
  capacity : CapacityVector := {}
  effectiveUsed : CapacityVector := {}
  available : CapacityVector := {}
  demand : CapacityVector := {}
  utilisationPpm : UInt32 := 0
  utilisationSaturated : Bool := false
  loadEvidencePresent : Bool := false
  loadEvidenceFresh : Bool := false
  eligible : Bool := false
  reason : ReasonCode := .ok
  rank : UInt32 := 0
  fallbackDomain : Bool := false
  deriving DecidableEq, Repr, Inhabited

structure FlowPlacement where
  flow : FlowId := {}
  flowGeneration : FlowGeneration := {}
  function : ProcessingFunctionId := {}
  outcome : ReasonCode := .ok
  accepted : Bool := false
  fallback : Bool := false
  retained : Bool := false
  changed : Bool := false
  target : TargetId := {}
  incarnation : TargetIncarnation := {}
  capabilityGeneration : CapabilityGeneration := {}
  domain : ExecutionDomain := .unknown
  assignment : AssignmentId := {}
  recommendation : RecommendationId := {}
  alternatives : UInt32 := 0
  ranked : List CandidateView := []
  refused : List CandidateView := []
  explanation : Explanation := {}
  deriving DecidableEq, Repr, Inhabited

structure PlacementResult where
  request : RequestId := {}
  status : ReasonCode := .ok
  accepted : Bool := false
  duplicate : Bool := false
  dryRun : Bool := false
  scheduleGeneration : ScheduleGeneration := {}
  placements : List FlowPlacement := []
  refusalSummary : List ReasonCount := []
  digest : Sha256Digest := {}
  deriving DecidableEq, Repr, Inhabited

structure RebalanceRequest where
  request : RequestId := {}
  evaluationInstant : Timestamp := {}
  maxMigrations : UInt32 := 0
  dryRun : Bool := false
  deriving DecidableEq, Repr, Inhabited

structure RebalanceReport where
  request : RequestId := {}
  status : ReasonCode := .ok
  scheduleGeneration : ScheduleGeneration := {}
  considered : UInt32 := 0
  eligible : UInt32 := 0
  selected : UInt32 := 0
  truncated : UInt32 := 0
  dryRun : Bool := false
  intents : List MigrationIntent := []
  refusalSummary : List ReasonCount := []
  explanation : Explanation := {}
  deriving DecidableEq, Repr, Inhabited

/-! ## Internal state -/

/-- Deterministic rank tuple, compared lexicographically. -/
structure RankKey where
  sticky : UInt8 := 1
  domainRank : UInt8 := 1
  costRank : UInt8 := 255
  utilisationPpm : UInt32 := 0
  target : UInt64 := 0
  deriving DecidableEq, Repr, Inhabited

/-- The load offered to a target, and whether it is known at all. -/
structure EffectiveLoad where
  known : Bool := false
  used : CapacityVector := {}
  reason : ReasonCode := .rejectedMissingEvidence
  deriving DecidableEq, Repr, Inhabited

structure TargetState where
  descriptor : TargetDescriptor := {}
  declared : Bool := false
  hasLoad : Bool := false
  load : LoadEvidence := {}
  conflicting : Bool := false
  conflictPeer : LoadEvidence := {}
  scheduled : CapacityVector := {}
  deriving DecidableEq, Repr, Inhabited

/-- Who holds an exclusive state, and the attempt that is moving it. -/
structure StateHolder where
  flow : FlowId := {}
  flowGeneration : FlowGeneration := {}
  target : TargetId := {}
  incarnation : TargetIncarnation := {}
  assignment : AssignmentId := {}
  handoffPending : Bool := false
  pendingAttempt : MigrationAttemptId := {}
  deriving DecidableEq, Repr, Inhabited

structure Impl where
  config : EngineConfig := {}
  isOpen : Bool := false
  epoch : CoordinatorEpoch := {}
  boot : BootId := {}
  policyGeneration : PolicyGeneration := {}
  scheduleGeneration : ScheduleGeneration := {}
  topologyGeneration : TopologyGeneration := {}
  policy : Policy := {}
  policyPresent : Bool := false
  flows : ExtTreeMap FlowId FlowDescriptor := ∅
  targets : ExtTreeMap TargetId TargetState := ∅
  assignments : ExtTreeMap FlowId Assignment := ∅
  holders : ExtTreeMap ExclusiveStateKeyId StateHolder := ∅
  migrations : ExtTreeMap MigrationAttemptId MigrationRecord := ∅
  contracts : ExtTreeMap MigrationContractId MigrationContract := ∅
  fences : ExtTreeMap FenceId FenceRecord := ∅
  watermarks : ExtTreeMap EvidenceSourceId SourceWatermark := ∅
  requests : ExtTreeMap RequestId RequestRecord := ∅
  refusalCounts : ExtTreeMap ReasonCode UInt64 := ∅
  authorizations : ExtTreeMap AuthorizationId Authorization := ∅
  recommendations : ExtTreeMap RecommendationId Recommendation := ∅
  counters : Counters := {}
  nextAssignment : UInt64 := 1
  nextRecommendation : UInt64 := 1
  nextAuthorization : UInt64 := 1
  nextAttempt : UInt64 := 1
  nextFence : UInt64 := 1
  recovery : RecoveryReport := {}
  /-- Every state handed to the store so far, newest first.  A later recovery
  finds one of them or nothing. -/
  submitted : List DurableState := []

/-- A freshly constructed engine over the store left by earlier ones. -/
def Impl.init (config : EngineConfig) (submitted : List DurableState) : Impl :=
  { config := config, submitted := submitted }

end FlowOffload

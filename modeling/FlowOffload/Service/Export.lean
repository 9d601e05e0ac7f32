import FlowOffload.Service.Names
import FlowOffload.Service.Protocol

/-!
# The canonical JSON export

What is exported and the functions that write it, section by section in the
order of the source.
-/

namespace FlowOffload

open Foundation

structure TargetExport where
  descriptor : TargetDescriptor := {}
  live : Bool := false
  hasLoad : Bool := false
  loadConflicting : Bool := false
  load : LoadEvidence := {}
  committed : CapacityVector := {}
  deriving DecidableEq, Repr, Inhabited

/--
The complete externally visible state.  The detail of the recovery report may
be any bytes, also some that encode no text.
-/
structure EngineExport where
  semanticsVersion : UInt32 := kStateSemanticsVersion
  snapshotContainerVersion : UInt32 := kSnapshotContainerVersion
  protocolVersion : UInt32 := kProtocolVersion.toUInt32
  epoch : CoordinatorEpoch := {}
  boot : BootId := {}
  policyGeneration : PolicyGeneration := {}
  scheduleGeneration : ScheduleGeneration := {}
  topologyGeneration : TopologyGeneration := {}
  policyPresent : Bool := false
  policy : Policy := {}
  recovery : RecoveryReport := {}
  recoveryDetail : Bytes := utf8 recovery.detail
  counters : Counters := {}
  targets : List TargetExport := []
  flows : List FlowDescriptor := []
  assignments : List Assignment := []
  migrations : List MigrationRecord := []
  fences : List FenceRecord := []
  refusalCounts : List ReasonCount := []
  watermarks : List SourceWatermark := []
  contracts : List MigrationContract := []

def kMaxExportBytes : Nat := 128 * 1024 * 1024
def kExportSchemaVersion : UInt32 := 1

/-- `version_string`. -/
def kVersionString : Bytes := utf8 "1.0.0"

structure ExportOptions where
  includeFlows : Bool := true
  includeAssignments : Bool := true
  includeMigrations : Bool := true
  includeCounters : Bool := true
  includeRecovery : Bool := true
  maxBytes : Nat := kMaxExportBytes
  deriving DecidableEq, Repr, Inhabited

/-- The counters in the order of the export. -/
def kCounterTable : List (String × (Counters → UInt64)) :=
  [("flows_registered", Counters.flowsRegistered),
   ("targets_registered", Counters.targetsRegistered),
   ("targets_removed", Counters.targetsRemoved),
   ("evidence_accepted", Counters.evidenceAccepted),
   ("evidence_rejected", Counters.evidenceRejected),
   ("evidence_idempotent", Counters.evidenceIdempotent),
   ("load_records_rejected_stale", Counters.loadRecordsRejectedStale),
   ("placements_accepted", Counters.placementsAccepted),
   ("placements_refused", Counters.placementsRefused),
   ("placements_fallback", Counters.placementsFallback),
   ("placements_retained", Counters.placementsRetained),
   ("recommendations_issued", Counters.recommendationsIssued),
   ("authorizations_granted", Counters.authorizationsGranted),
   ("authorizations_refused", Counters.authorizationsRefused),
   ("migrations_issued", Counters.migrationsIssued),
   ("migrations_completed", Counters.migrationsCompleted),
   ("migrations_aborted", Counters.migrationsAborted),
   ("migrations_fenced", Counters.migrationsFenced),
   ("acknowledgements_accepted", Counters.acknowledgementsAccepted),
   ("acknowledgements_rejected", Counters.acknowledgementsRejected),
   ("effects_applied", Counters.effectsApplied),
   ("effects_verified", Counters.effectsVerified),
   ("effects_rejected", Counters.effectsRejected),
   ("rebalances_executed", Counters.rebalancesExecuted),
   ("rebalances_truncated", Counters.rebalancesTruncated),
   ("rebalances_selected", Counters.rebalancesSelected),
   ("requests_deduplicated", Counters.requestsDeduplicated),
   ("restarts", Counters.restarts),
   ("persist_commits", Counters.persistCommits),
   ("persist_failures", Counters.persistFailures),
   ("compactions", Counters.compactions),
   ("refusals_by_reason_total", Counters.refusalsByReasonTotal),
   ("history_evictions", Counters.historyEvictions),
   ("observations_rejected", Counters.observationsRejected),
   ("authorizations_revoked", Counters.authorizationsRevoked),
   ("operations_submitted", Counters.operationsSubmitted),
   ("operations_cancelled", Counters.operationsCancelled),
   ("operations_backpressured", Counters.operationsBackpressured),
   ("evidence_conflicts", Counters.evidenceConflicts),
   ("load_evidence_stale_at_decision", Counters.loadEvidenceStaleAtDecision)]

namespace JsonWriter

/-- The loops over a vector, each item written by `write`. -/
def writeEach {α : Type} (json : JsonWriter)
    (write : JsonWriter → α → JsonWriter) (items : List α) : JsonWriter :=
  (items.foldl write json.beginArray).endArray

def writeCapabilityList (json : JsonWriter) (mask : CapabilityMask) :
    JsonWriter :=
  (Capability.all.foldl
    (fun json capability =>
      if hasCapability mask capability then json.valueString capability.toText
      else json)
    json.beginArray).endArray

def writeReasonCount (json : JsonWriter) (count : ReasonCount) : JsonWriter :=
  json.beginObject
    |>.key "code" |>.valueString (toText count.code)
    |>.key "numeric" |>.valueUint count.code.reasonValue.toNat
    |>.key "count" |>.valueUint count.count.toNat
    |>.endObject

def writeReasonCounts (json : JsonWriter) (counts : List ReasonCount) :
    JsonWriter :=
  json.writeEach writeReasonCount counts

def writeCounters (json : JsonWriter) (counters : Counters) : JsonWriter :=
  (kCounterTable.foldl
    (fun json entry => (json.key entry.1).valueUint (entry.2 counters).toNat)
    json.beginObject).endObject

def writeTarget (json : JsonWriter) (target : TargetExport) : JsonWriter :=
  let descriptor := target.descriptor
  json.beginObject
    |>.key "target" |>.valueUint descriptor.target.value.toNat
    |>.key "incarnation" |>.valueUint descriptor.incarnation.value.toNat
    |>.key "capability_generation"
    |>.valueUint descriptor.capabilityGeneration.value.toNat
    |>.key "topology_generation"
    |>.valueUint descriptor.topologyGeneration.value.toNat
    |>.key "domain" |>.valueString (toText descriptor.domain)
    |>.key "kind" |>.valueString (toText descriptor.kind)
    |>.key "host" |>.valueUint descriptor.host.value.toNat
    |>.key "device" |>.valueUint descriptor.device.value.toNat
    |>.key "cost_class" |>.valueString (toText descriptor.costClass)
    |>.key "declared_lifecycle" |>.valueString (toText descriptor.lifecycle)
    |>.key "live" |>.valueBool target.live
    |>.key "supports_stateful" |>.valueBool descriptor.supportsStateful
    |>.key "supports_migration" |>.valueBool descriptor.supportsMigration
    |>.key "capabilities" |>.writeCapabilityList descriptor.capabilities
    |>.key "capacity" |>.valueCapacity descriptor.capacity
    |>.key "reserved" |>.valueCapacity descriptor.reserved
    |>.key "committed_demand" |>.valueCapacity target.committed
    |>.key "load_evidence_present" |>.valueBool target.hasLoad
    |>.key "load_evidence_state"
    |>.valueString
      (if target.loadConflicting then utf8 "conflicting"
        else toText target.load.state)
    |>.key "load_evidence_observed_at"
    |>.valueUint target.load.observedAt.nanos.toNat
    |>.key "load_evidence_utilized" |>.valueCapacity target.load.utilized
    |>.endObject

def writeFlow (json : JsonWriter) (flow : FlowDescriptor) : JsonWriter :=
  json.beginObject
    |>.key "flow" |>.valueUint flow.flow.value.toNat
    |>.key "generation" |>.valueUint flow.generation.value.toNat
    |>.key "function" |>.valueUint flow.function.value.toNat
    |>.key "statefulness" |>.valueString (toText flow.statefulness)
    |>.key "exclusive_state_key" |>.valueUint flow.exclusiveStateKey.value.toNat
    |>.key "max_cost_class" |>.valueString (toText flow.maxCostClass)
    |>.key "locality" |>.valueString (toText flow.locality)
    |>.key "locality_anchor" |>.valueUint flow.localityAnchor.value.toNat
    |>.key "allow_migration" |>.valueBool flow.allowMigration
    |>.key "pinned" |>.valueBool flow.pinned
    |>.key "required_capabilities"
    |>.writeCapabilityList flow.requiredCapabilities
    |>.key "demand" |>.valueCapacity flow.demand
    |>.endObject

def writeAssignment (json : JsonWriter) (assignment : Assignment) :
    JsonWriter :=
  json.beginObject
    |>.key "assignment" |>.valueUint assignment.assignment.value.toNat
    |>.key "flow" |>.valueUint assignment.flow.value.toNat
    |>.key "flow_generation" |>.valueUint assignment.flowGeneration.value.toNat
    |>.key "target" |>.valueUint assignment.target.value.toNat
    |>.key "incarnation" |>.valueUint assignment.incarnation.value.toNat
    |>.key "capability_generation"
    |>.valueUint assignment.capabilityGeneration.value.toNat
    |>.key "policy_generation"
    |>.valueUint assignment.policyGeneration.value.toNat
    |>.key "schedule_generation"
    |>.valueUint assignment.scheduleGeneration.value.toNat
    |>.key "effect_state" |>.valueString (toText assignment.effect)
    |>.key "reason" |>.valueString (toText assignment.reason)
    |>.key "reason_numeric" |>.valueUint assignment.reason.reasonValue.toNat
    |>.key "committed_at" |>.valueUint assignment.committedAt.nanos.toNat
    |>.key "supersedes" |>.valueUint assignment.supersedes.value.toNat
    |>.endObject

def writeMigration (json : JsonWriter) (record : MigrationRecord) :
    JsonWriter :=
  json.beginObject
    |>.key "attempt" |>.valueUint record.intent.attempt.value.toNat
    |>.key "flow" |>.valueUint record.intent.flow.value.toNat
    |>.key "flow_generation"
    |>.valueUint record.intent.flowGeneration.value.toNat
    |>.key "phase" |>.valueString (toText record.intent.phase)
    |>.key "epoch" |>.valueUint record.intent.epoch.value.toNat
    |>.key "boot" |>.valueString record.intent.boot.toText
    |>.key "source_target" |>.valueUint record.intent.sourceTarget.value.toNat
    |>.key "source_incarnation"
    |>.valueUint record.intent.sourceIncarnation.value.toNat
    |>.key "destination_target"
    |>.valueUint record.intent.destinationTarget.value.toNat
    |>.key "destination_incarnation"
    |>.valueUint record.intent.destinationIncarnation.value.toNat
    |>.key "contract" |>.valueUint record.intent.contract.value.toNat
    |>.key "source_acknowledged" |>.valueBool record.sourceAcknowledged
    |>.key "destination_acknowledged"
    |>.valueBool record.destinationAcknowledged
    |>.key "effect_applied" |>.valueBool record.effectApplied
    |>.key "effect_verified" |>.valueBool record.effectVerified
    |>.key "abort_reason" |>.valueString (toText record.abortReason)
    |>.endObject

def writeFence (json : JsonWriter) (fence : FenceRecord) : JsonWriter :=
  json.beginObject
    |>.key "fence" |>.valueUint fence.id.value.toNat
    |>.key "epoch" |>.valueUint fence.epoch.value.toNat
    |>.key "boot" |>.valueString fence.boot.toText
    |>.key "flow" |>.valueUint fence.flow.value.toNat
    |>.key "target" |>.valueUint fence.target.value.toNat
    |>.key "reason" |>.valueString (toText fence.reason)
    |>.key "active" |>.valueBool fence.active
    |>.endObject

/-! ## The sections of the document -/

def writeHeader (json : JsonWriter) (state : EngineExport) : JsonWriter :=
  json
    |>.key "schema"
    |>.valueString (utf8 "summon.flow-offload.scheduler.export")
    |>.key "schema_version" |>.valueUint kExportSchemaVersion.toNat
    |>.key "library_version" |>.valueString kVersionString
    |>.key "semantics_version" |>.valueUint state.semanticsVersion.toNat
    |>.key "snapshot_container_version"
    |>.valueUint state.snapshotContainerVersion.toNat
    |>.key "protocol_version" |>.valueUint state.protocolVersion.toNat
    |>.key "coordinator_epoch" |>.valueUint state.epoch.value.toNat
    |>.key "coordinator_boot" |>.valueString state.boot.toText
    |>.key "policy_generation" |>.valueUint state.policyGeneration.value.toNat
    |>.key "schedule_generation"
    |>.valueUint state.scheduleGeneration.value.toNat
    |>.key "topology_generation"
    |>.valueUint state.topologyGeneration.value.toNat
    |>.key "policy_present" |>.valueBool state.policyPresent

def writePolicy (json : JsonWriter) (state : EngineExport) : JsonWriter :=
  json.beginObject
    |>.key "generation" |>.valueUint state.policy.generation.value.toNat
    |>.key "domain_preference"
    |>.valueString (toText state.policy.domainPreference)
    |>.key "fallback" |>.valueString (toText state.policy.fallback)
    |>.key "load_model" |>.valueString (toText state.policy.loadModel)
    |>.key "max_cost_class" |>.valueString (toText state.policy.maxCostClass)
    |>.key "sticky" |>.valueBool state.policy.sticky
    |>.key "allow_migration" |>.valueBool state.policy.allowMigration
    |>.key "allow_placement_without_load_evidence"
    |>.valueBool state.policy.allowPlacementWithoutLoadEvidence
    |>.key "min_improvement_ppm"
    |>.valueUint state.policy.minImprovementPpm.toNat
    |>.key "max_rebalance_migrations"
    |>.valueUint state.policy.maxRebalanceMigrations.toNat
    |>.key "required_capabilities"
    |>.writeCapabilityList state.policy.requiredCapabilities
    |>.key "reserve" |>.valueCapacity state.policy.reserve
    |>.key "allowed_domains"
    |>.writeEach (fun json domain => json.valueString (toText domain))
      state.policy.allowedDomains
    |>.key "forbidden_hosts"
    |>.writeEach (fun json host => json.valueUint host.value.toNat)
      state.policy.forbiddenHosts
    |>.key "forbidden_devices"
    |>.writeEach (fun json device => json.valueUint device.value.toNat)
      state.policy.forbiddenDevices
    |>.key "allowed_functions"
    |>.writeEach (fun json function => json.valueUint function.value.toNat)
      state.policy.allowedFunctions
    |>.endObject

def writeRecovery (json : JsonWriter) (state : EngineExport) : JsonWriter :=
  json.beginObject
    |>.key "kind" |>.valueString (toText state.recovery.kind)
    |>.key "reason" |>.valueString (toText state.recovery.code)
    |>.key "usable" |>.valueBool state.recovery.usable
    |>.key "snapshot_used" |>.valueBool state.recovery.snapshotUsed
    |>.key "journal_used" |>.valueBool state.recovery.journalUsed
    |>.key "records_replayed" |>.valueUint state.recovery.recordsReplayed
    |>.key "bytes_truncated" |>.valueUint state.recovery.bytesTruncated
    |>.key "commit_sequence" |>.valueUint state.recovery.commitSequence.toNat
    |>.key "state_digest" |>.valueDigest state.recovery.stateDigest
    |>.key "detail" |>.valueString state.recoveryDetail
    |>.endObject

def writeContract (json : JsonWriter) (contract : MigrationContract) :
    JsonWriter :=
  json.beginObject
    |>.key "contract" |>.valueUint contract.id.value.toNat
    |>.key "flow" |>.valueUint contract.flow.value.toNat
    |>.key "flow_generation" |>.valueUint contract.flowGeneration.value.toNat
    |>.key "statefulness" |>.valueString (toText contract.statefulness)
    |>.key "state_transfer_defined" |>.valueBool contract.stateTransferDefined
    |>.key "ordering_preserved" |>.valueBool contract.orderingPreserved
    |>.key "rollback_defined" |>.valueBool contract.rollbackDefined
    |>.key "exclusive_handoff" |>.valueBool contract.exclusiveHandoff
    |>.key "destination_target"
    |>.valueUint contract.destinationTarget.value.toNat
    |>.key "destination_incarnation"
    |>.valueUint contract.destinationIncarnation.value.toNat
    |>.key "destination_capability_generation"
    |>.valueUint contract.destinationCapabilityGeneration.value.toNat
    |>.key "policy_generation"
    |>.valueUint contract.policyGeneration.value.toNat
    |>.key "max_state_bytes" |>.valueUint contract.maxStateBytes.toNat
    |>.endObject

def writeWatermark (json : JsonWriter) (mark : SourceWatermark) : JsonWriter :=
  json.beginObject
    |>.key "source" |>.valueUint mark.source.value.toNat
    |>.key "sequence" |>.valueUint mark.sequence.value.toNat
    |>.key "target" |>.valueUint mark.target.value.toNat
    |>.key "incarnation" |>.valueUint mark.incarnation.value.toNat
    |>.key "capability_generation"
    |>.valueUint mark.capabilityGeneration.value.toNat
    |>.endObject

/-- A section that is left out unless it is wanted. -/
def optional (json : JsonWriter) (wanted : Bool)
    (write : JsonWriter → JsonWriter) : JsonWriter :=
  if wanted then write json else json

end JsonWriter

open JsonWriter in
/-- Everything that `export_json` writes. -/
def writeExport (json : JsonWriter) (state : EngineExport)
    (options : ExportOptions) : JsonWriter :=
  json.beginObject.writeHeader state
    |>.optional state.policyPresent (fun json =>
      (json.key "policy").writePolicy state)
    |>.optional options.includeRecovery (fun json =>
      (json.key "recovery").writeRecovery state)
    |>.key "targets" |>.writeEach writeTarget state.targets
    |>.optional options.includeFlows (fun json =>
      (json.key "flows").writeEach writeFlow state.flows)
    |>.optional options.includeAssignments (fun json =>
      (json.key "assignments").writeEach writeAssignment state.assignments)
    |>.optional options.includeMigrations (fun json =>
      (json.key "migrations").writeEach writeMigration state.migrations)
    |>.key "fences" |>.writeEach writeFence state.fences
    |>.key "contracts" |>.writeEach writeContract state.contracts
    |>.key "watermarks" |>.writeEach writeWatermark state.watermarks
    |>.key "refusals_by_reason" |>.writeReasonCounts state.refusalCounts
    |>.optional options.includeCounters (fun json =>
      (json.key "counters").writeCounters state.counters)
    |>.endObject

def exportJson (state : EngineExport) (options : ExportOptions) : Bytes :=
  let json : JsonWriter := { limit := options.maxBytes }
  let json := writeExport json state options
  if !json.ok then [] else json.text ++ [0x0A]

end FlowOffload

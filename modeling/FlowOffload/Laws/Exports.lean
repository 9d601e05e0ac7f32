import FlowOffload.Laws.Writer
import FlowOffload.Service.Export

/-!
# The exported document

The document that an export stands for, as a value, and the export as the text
that the writer gives it.
-/

namespace FlowOffload

open Foundation Foundation.Json JsonWriter

/-! ## The document -/

def field (name : String) (value : Json) : Bytes × Json := (utf8 name, value)

def capacityTree (capacity : CapacityVector) : Json :=
  .object
    [field "packets_per_second" (.number capacity.packetsPerSecond.toNat),
     field "bytes_per_second" (.number capacity.bytesPerSecond.toNat),
     field "state_bytes" (.number capacity.stateBytes.toNat),
     field "table_entries" (.number capacity.tableEntries.toNat)]

def capabilityTree (mask : CapabilityMask) : Json :=
  .array ((Capability.all.filter (hasCapability mask)).map
    fun capability => .string capability.toText)

def reasonCountTree (count : ReasonCount) : Json :=
  .object
    [field "code" (.string (toText count.code)),
     field "numeric" (.number count.code.reasonValue.toNat),
     field "count" (.number count.count.toNat)]

def countersTree (counters : Counters) : Json :=
  .object (kCounterTable.map fun entry =>
    field entry.1 (.number (entry.2 counters).toNat))

def targetTree (target : TargetExport) : Json :=
  .object
    [field "target" (.number target.descriptor.target.value.toNat),
     field "incarnation" (.number target.descriptor.incarnation.value.toNat),
     field "capability_generation"
       (.number target.descriptor.capabilityGeneration.value.toNat),
     field "topology_generation"
       (.number target.descriptor.topologyGeneration.value.toNat),
     field "domain" (.string (toText target.descriptor.domain)),
     field "kind" (.string (toText target.descriptor.kind)),
     field "host" (.number target.descriptor.host.value.toNat),
     field "device" (.number target.descriptor.device.value.toNat),
     field "cost_class" (.string (toText target.descriptor.costClass)),
     field "declared_lifecycle" (.string (toText target.descriptor.lifecycle)),
     field "live" (.bool target.live),
     field "supports_stateful" (.bool target.descriptor.supportsStateful),
     field "supports_migration" (.bool target.descriptor.supportsMigration),
     field "capabilities" (capabilityTree target.descriptor.capabilities),
     field "capacity" (capacityTree target.descriptor.capacity),
     field "reserved" (capacityTree target.descriptor.reserved),
     field "committed_demand" (capacityTree target.committed),
     field "load_evidence_present" (.bool target.hasLoad),
     field "load_evidence_state"
       (.string (if target.loadConflicting then utf8 "conflicting"
         else toText target.load.state)),
     field "load_evidence_observed_at"
       (.number target.load.observedAt.nanos.toNat),
     field "load_evidence_utilized" (capacityTree target.load.utilized)]

def flowTree (flow : FlowDescriptor) : Json :=
  .object
    [field "flow" (.number flow.flow.value.toNat),
     field "generation" (.number flow.generation.value.toNat),
     field "function" (.number flow.function.value.toNat),
     field "statefulness" (.string (toText flow.statefulness)),
     field "exclusive_state_key" (.number flow.exclusiveStateKey.value.toNat),
     field "max_cost_class" (.string (toText flow.maxCostClass)),
     field "locality" (.string (toText flow.locality)),
     field "locality_anchor" (.number flow.localityAnchor.value.toNat),
     field "allow_migration" (.bool flow.allowMigration),
     field "pinned" (.bool flow.pinned),
     field "required_capabilities" (capabilityTree flow.requiredCapabilities),
     field "demand" (capacityTree flow.demand)]

def assignmentTree (assignment : Assignment) : Json :=
  .object
    [field "assignment" (.number assignment.assignment.value.toNat),
     field "flow" (.number assignment.flow.value.toNat),
     field "flow_generation" (.number assignment.flowGeneration.value.toNat),
     field "target" (.number assignment.target.value.toNat),
     field "incarnation" (.number assignment.incarnation.value.toNat),
     field "capability_generation"
       (.number assignment.capabilityGeneration.value.toNat),
     field "policy_generation"
       (.number assignment.policyGeneration.value.toNat),
     field "schedule_generation"
       (.number assignment.scheduleGeneration.value.toNat),
     field "effect_state" (.string (toText assignment.effect)),
     field "reason" (.string (toText assignment.reason)),
     field "reason_numeric" (.number assignment.reason.reasonValue.toNat),
     field "committed_at" (.number assignment.committedAt.nanos.toNat),
     field "supersedes" (.number assignment.supersedes.value.toNat)]

def migrationTree (record : MigrationRecord) : Json :=
  .object
    [field "attempt" (.number record.intent.attempt.value.toNat),
     field "flow" (.number record.intent.flow.value.toNat),
     field "flow_generation" (.number record.intent.flowGeneration.value.toNat),
     field "phase" (.string (toText record.intent.phase)),
     field "epoch" (.number record.intent.epoch.value.toNat),
     field "boot" (.string record.intent.boot.toText),
     field "source_target" (.number record.intent.sourceTarget.value.toNat),
     field "source_incarnation"
       (.number record.intent.sourceIncarnation.value.toNat),
     field "destination_target"
       (.number record.intent.destinationTarget.value.toNat),
     field "destination_incarnation"
       (.number record.intent.destinationIncarnation.value.toNat),
     field "contract" (.number record.intent.contract.value.toNat),
     field "source_acknowledged" (.bool record.sourceAcknowledged),
     field "destination_acknowledged" (.bool record.destinationAcknowledged),
     field "effect_applied" (.bool record.effectApplied),
     field "effect_verified" (.bool record.effectVerified),
     field "abort_reason" (.string (toText record.abortReason))]

def fenceTree (fence : FenceRecord) : Json :=
  .object
    [field "fence" (.number fence.id.value.toNat),
     field "epoch" (.number fence.epoch.value.toNat),
     field "boot" (.string fence.boot.toText),
     field "flow" (.number fence.flow.value.toNat),
     field "target" (.number fence.target.value.toNat),
     field "reason" (.string (toText fence.reason)),
     field "active" (.bool fence.active)]

def contractTree (contract : MigrationContract) : Json :=
  .object
    [field "contract" (.number contract.id.value.toNat),
     field "flow" (.number contract.flow.value.toNat),
     field "flow_generation" (.number contract.flowGeneration.value.toNat),
     field "statefulness" (.string (toText contract.statefulness)),
     field "state_transfer_defined" (.bool contract.stateTransferDefined),
     field "ordering_preserved" (.bool contract.orderingPreserved),
     field "rollback_defined" (.bool contract.rollbackDefined),
     field "exclusive_handoff" (.bool contract.exclusiveHandoff),
     field "destination_target"
       (.number contract.destinationTarget.value.toNat),
     field "destination_incarnation"
       (.number contract.destinationIncarnation.value.toNat),
     field "destination_capability_generation"
       (.number contract.destinationCapabilityGeneration.value.toNat),
     field "policy_generation" (.number contract.policyGeneration.value.toNat),
     field "max_state_bytes" (.number contract.maxStateBytes.toNat)]

def watermarkTree (mark : SourceWatermark) : Json :=
  .object
    [field "source" (.number mark.source.value.toNat),
     field "sequence" (.number mark.sequence.value.toNat),
     field "target" (.number mark.target.value.toNat),
     field "incarnation" (.number mark.incarnation.value.toNat),
     field "capability_generation"
       (.number mark.capabilityGeneration.value.toNat)]

def headerFields (state : EngineExport) : List (Bytes × Json) :=
    [field "schema" (.string (utf8 "summon.flow-offload.scheduler.export")),
     field "schema_version" (.number kExportSchemaVersion.toNat),
     field "library_version" (.string kVersionString),
     field "semantics_version" (.number state.semanticsVersion.toNat),
     field "snapshot_container_version"
       (.number state.snapshotContainerVersion.toNat),
     field "protocol_version" (.number state.protocolVersion.toNat),
     field "coordinator_epoch" (.number state.epoch.value.toNat),
     field "coordinator_boot" (.string state.boot.toText),
     field "policy_generation" (.number state.policyGeneration.value.toNat),
     field "schedule_generation" (.number state.scheduleGeneration.value.toNat),
     field "topology_generation" (.number state.topologyGeneration.value.toNat),
     field "policy_present" (.bool state.policyPresent)]

def policyTree (state : EngineExport) : Json :=
  .object
    [field "generation" (.number state.policy.generation.value.toNat),
     field "domain_preference" (.string (toText state.policy.domainPreference)),
     field "fallback" (.string (toText state.policy.fallback)),
     field "load_model" (.string (toText state.policy.loadModel)),
     field "max_cost_class" (.string (toText state.policy.maxCostClass)),
     field "sticky" (.bool state.policy.sticky),
     field "allow_migration" (.bool state.policy.allowMigration),
     field "allow_placement_without_load_evidence"
       (.bool state.policy.allowPlacementWithoutLoadEvidence),
     field "min_improvement_ppm" (.number state.policy.minImprovementPpm.toNat),
     field "max_rebalance_migrations"
       (.number state.policy.maxRebalanceMigrations.toNat),
     field "required_capabilities"
       (capabilityTree state.policy.requiredCapabilities),
     field "reserve" (capacityTree state.policy.reserve),
     field "allowed_domains" (.array (state.policy.allowedDomains.map
       fun domain => .string (toText domain))),
     field "forbidden_hosts" (.array (state.policy.forbiddenHosts.map
       fun host => .number host.value.toNat)),
     field "forbidden_devices" (.array (state.policy.forbiddenDevices.map
       fun device => .number device.value.toNat)),
     field "allowed_functions" (.array (state.policy.allowedFunctions.map
       fun function => .number function.value.toNat))]

def recoveryTree (state : EngineExport) : Json :=
  .object
    [field "kind" (.string (toText state.recovery.kind)),
     field "reason" (.string (toText state.recovery.code)),
     field "usable" (.bool state.recovery.usable),
     field "snapshot_used" (.bool state.recovery.snapshotUsed),
     field "journal_used" (.bool state.recovery.journalUsed),
     field "records_replayed" (.number state.recovery.recordsReplayed),
     field "bytes_truncated" (.number state.recovery.bytesTruncated),
     field "commit_sequence" (.number state.recovery.commitSequence.toNat),
     field "state_digest" (.string state.recovery.stateDigest.hex),
     field "detail" (.string state.recoveryDetail)]

/-- A member that is left out unless it is wanted. -/
def whenWanted (wanted : Bool) (name : String) (value : Json) :
    List (Bytes × Json) :=
  if wanted then [field name value] else []

def exportTree (state : EngineExport) (options : ExportOptions) : Json :=
  .object (headerFields state ++
    whenWanted state.policyPresent "policy" (policyTree state) ++
    whenWanted options.includeRecovery "recovery" (recoveryTree state) ++
    [field "targets" (.array (state.targets.map targetTree))] ++
    whenWanted options.includeFlows "flows"
      (.array (state.flows.map flowTree)) ++
    whenWanted options.includeAssignments "assignments"
      (.array (state.assignments.map assignmentTree)) ++
    whenWanted options.includeMigrations "migrations"
      (.array (state.migrations.map migrationTree)) ++
    [field "fences" (.array (state.fences.map fenceTree)),
     field "contracts" (.array (state.contracts.map contractTree)),
     field "watermarks" (.array (state.watermarks.map watermarkTree)),
     field "refusals_by_reason"
       (.array (state.refusalCounts.map reasonCountTree))] ++
    whenWanted options.includeCounters "counters" (countersTree state.counters))

/-! ## The writing functions write the document -/

theorem writeMembers_append (members others : List (Bytes × Json))
    (json : JsonWriter) : writeMembers (members ++ others) json =
      writeMembers others (writeMembers members json) := by
  induction members generalizing json with
  | nil => rfl
  | cons member members ih =>
      rw [List.cons_append, writeMembers, writeMembers, ih]

theorem writeItems_map {α : Type} (tree : α → Json) (items : List α)
    (json : JsonWriter) : writeItems (items.map tree) json =
      items.foldl (fun json item => writeValue (tree item) json) json := by
  induction items generalizing json with
  | nil => rfl
  | cons item items ih => rw [List.map_cons, writeItems, ih, List.foldl_cons]

theorem writeMembers_map {α : Type} (name : α → String) (tree : α → Json)
    (items : List α) (json : JsonWriter) :
    writeMembers (items.map fun item => field (name item) (tree item)) json =
      items.foldl
        (fun json item => writeValue (tree item) (json.key (name item)))
        json := by
  induction items generalizing json with
  | nil => rfl
  | cons item items ih =>
      rw [List.map_cons, field, writeMembers, ih, List.foldl_cons]
      rfl

theorem writeEach_eq {α : Type} {write : JsonWriter → α → JsonWriter}
    {tree : α → Json}
    (h : ∀ json item, write json item = writeValue (tree item) json)
    (items : List α) (json : JsonWriter) :
    json.writeEach write items = writeValue (.array (items.map tree)) json := by
  have hwrite : write = fun json item => writeValue (tree item) json := by
    funext json item
    exact h json item
  rw [writeValue, writeItems_map, ← hwrite, writeEach]

theorem valueCapacity_eq (capacity : CapacityVector) (json : JsonWriter) :
    json.valueCapacity capacity = writeValue (capacityTree capacity) json :=
  rfl

theorem writeCapabilityList_eq (mask : CapabilityMask) (json : JsonWriter) :
    json.writeCapabilityList mask = writeValue (capabilityTree mask) json := by
  rw [capabilityTree, writeValue, writeItems_map, List.foldl_filter]
  rfl

theorem writeReasonCount_eq (json : JsonWriter) (count : ReasonCount) :
    json.writeReasonCount count = writeValue (reasonCountTree count) json :=
  rfl

theorem writeCounters_eq (counters : Counters) (json : JsonWriter) :
    json.writeCounters counters = writeValue (countersTree counters) json := by
  rw [countersTree, writeValue, writeMembers_map Prod.fst]
  rfl

theorem writeTarget_eq (json : JsonWriter) (target : TargetExport) :
    json.writeTarget target = writeValue (targetTree target) json := by
  rw [writeTarget, writeCapabilityList_eq]
  rfl

theorem writeFlow_eq (json : JsonWriter) (flow : FlowDescriptor) :
    json.writeFlow flow = writeValue (flowTree flow) json := by
  rw [writeFlow, writeCapabilityList_eq]
  rfl

theorem writeAssignment_eq (json : JsonWriter) (assignment : Assignment) :
    json.writeAssignment assignment =
      writeValue (assignmentTree assignment) json :=
  rfl

theorem writeMigration_eq (json : JsonWriter) (record : MigrationRecord) :
    json.writeMigration record = writeValue (migrationTree record) json :=
  rfl

theorem writeFence_eq (json : JsonWriter) (fence : FenceRecord) :
    json.writeFence fence = writeValue (fenceTree fence) json :=
  rfl

theorem writeContract_eq (json : JsonWriter) (contract : MigrationContract) :
    json.writeContract contract = writeValue (contractTree contract) json :=
  rfl

theorem writeWatermark_eq (json : JsonWriter) (mark : SourceWatermark) :
    json.writeWatermark mark = writeValue (watermarkTree mark) json :=
  rfl

theorem writeHeader_eq (json : JsonWriter) (state : EngineExport) :
    json.writeHeader state = writeMembers (headerFields state) json :=
  rfl

example : (JsonWriter.valueBool { limit := 4 } true).text = utf8 "true" := by
  decide +kernel

theorem writeRecovery_eq (json : JsonWriter) (state : EngineExport) :
    json.writeRecovery state = writeValue (recoveryTree state) json :=
  rfl

theorem writePolicy_eq (json : JsonWriter) (state : EngineExport) :
    json.writePolicy state = writeValue (policyTree state) json := by
  have hdomain : ∀ (json : JsonWriter) (domain : ExecutionDomain),
      json.valueString (toText domain) =
        writeValue (.string (toText domain)) json := fun _ _ => rfl
  have hhost : ∀ (json : JsonWriter) (host : HostId),
      json.valueUint host.value.toNat =
        writeValue (.number host.value.toNat) json := fun _ _ => rfl
  have hdevice : ∀ (json : JsonWriter) (device : DeviceId),
      json.valueUint device.value.toNat =
        writeValue (.number device.value.toNat) json := fun _ _ => rfl
  have hfunction : ∀ (json : JsonWriter) (function : ProcessingFunctionId),
      json.valueUint function.value.toNat =
        writeValue (.number function.value.toNat) json := fun _ _ => rfl
  rw [writePolicy, writeCapabilityList_eq, writeEach_eq hdomain,
    writeEach_eq hhost, writeEach_eq hdevice, writeEach_eq hfunction]
  rfl

theorem optional_eq {write : JsonWriter → JsonWriter} {name : String}
    {value : Json} (h : ∀ json, write json = writeValue value (json.key name))
    (wanted : Bool) (json : JsonWriter) :
    json.optional wanted write =
      writeMembers (whenWanted wanted name value) json := by
  cases wanted with
  | false => rfl
  | true => exact h json

/-- The function writes the document. -/
theorem writeExport_eq (json : JsonWriter) (state : EngineExport)
    (options : ExportOptions) :
    writeExport json state options =
      writeValue (exportTree state options) json := by
  unfold writeExport exportTree
  rw [writeValue]
  simp only [writeMembers_append]
  rw [writeHeader_eq,
    optional_eq fun json => writePolicy_eq (json.key "policy") state,
    optional_eq fun json => writeRecovery_eq (json.key "recovery") state,
    optional_eq fun json =>
      writeEach_eq writeFlow_eq state.flows (json.key "flows"),
    optional_eq fun json =>
      writeEach_eq writeAssignment_eq state.assignments
        (json.key "assignments"),
    optional_eq fun json =>
      writeEach_eq writeMigration_eq state.migrations (json.key "migrations"),
    optional_eq fun json =>
      writeCounters_eq state.counters (json.key "counters"),
    writeReasonCounts, writeEach_eq writeTarget_eq, writeEach_eq writeFence_eq,
    writeEach_eq writeContract_eq, writeEach_eq writeWatermark_eq,
    writeEach_eq writeReasonCount_eq]
  rfl

/-! ## Its strings -/

@[simp] theorem isText_literal (text : String) : IsText (utf8 text) :=
  isText_utf8 text

@[simp] theorem isText_toText {E : Type} [Named E] (value : E) :
    IsText (toText value) :=
  isText_utf8 _

theorem hexDigit_lt (nibble : Nat) : (hexDigit nibble).toNat < 128 := by
  have hascii : ∀ digit ∈ kHex, digit.toNat < 128 := by decide +kernel
  unfold hexDigit
  rw [List.getD_eq_getElem?_getD]
  cases hdigit : kHex[nibble]? with
  | none => decide
  | some digit => exact hascii digit (List.mem_of_getElem? hdigit)

example : hexDigit 10 = 0x61 := by decide +kernel

@[simp] theorem isText_hex (digest : Sha256Digest) : IsText digest.hex := by
  refine isText_of_ascii fun byte hbyte => ?_
  obtain ⟨source, -, hmem⟩ := List.mem_flatMap.mp hbyte
  simp only [List.mem_cons, List.not_mem_nil, or_false] at hmem
  rcases hmem with rfl | rfl <;> exact hexDigit_lt _

@[simp] theorem isText_bootId (boot : BootId) : IsText boot.toText := by
  have hword : ∀ value : UInt64, IsText (paddedHex value) := by
    intro value
    refine isText_of_ascii fun byte hbyte => ?_
    obtain ⟨index, -, rfl⟩ := List.mem_map.mp hbyte
    exact hexDigit_lt _
  exact (hword boot.high).append (hword boot.low)

theorem isText_capability (capability : Capability) :
    IsText capability.toText := by
  have htable : ∀ entry ∈ kCapabilityTable, IsText entry.2 := by
    simp [kCapabilityTable]
  unfold Capability.toText
  cases hentry : kCapabilityTable.find? (fun entry => entry.1 == capability) with
  | none => exact isText_utf8 "unknown"
  | some entry => exact htable entry (List.mem_of_find?_eq_some hentry)

theorem itemStrings_map {α : Type} {P : Bytes → Prop} {tree : α → Json}
    (h : ∀ item, Strings P (tree item)) (items : List α) :
    ItemStrings P (items.map tree) := by
  induction items with
  | nil => trivial
  | cons item items ih => exact ⟨h item, ih⟩

theorem memberStrings_append {P : Bytes → Prop}
    {members others : List (Bytes × Json)} (h : MemberStrings P members)
    (hothers : MemberStrings P others) : MemberStrings P (members ++ others) := by
  induction members with
  | nil => exact hothers
  | cons member members ih => exact ⟨h.1, h.2.1, ih h.2.2⟩

theorem strings_array {α : Type} {tree : α → Json}
    (h : ∀ item, Strings IsText (tree item)) (items : List α) :
    Strings IsText (.array (items.map tree)) :=
  itemStrings_map h items

@[simp] theorem strings_capacityTree (capacity : CapacityVector) :
    Strings IsText (capacityTree capacity) := by
  simp [capacityTree, Strings, MemberStrings, field]

@[simp] theorem strings_capabilityTree (mask : CapabilityMask) :
    Strings IsText (capabilityTree mask) :=
  strings_array isText_capability _

theorem strings_countersTree (counters : Counters) :
    Strings IsText (countersTree counters) := by
  simp [countersTree, kCounterTable, Strings, MemberStrings, field]

theorem strings_targetTree (target : TargetExport) :
    Strings IsText (targetTree target) := by
  have hstate : IsText (if target.loadConflicting then utf8 "conflicting"
      else toText target.load.state) := by
    split <;> simp
  simp [targetTree, hstate, Strings, MemberStrings, field]

theorem strings_policyTree (state : EngineExport) :
    Strings IsText (policyTree state) := by
  have hdomains := @strings_array ExecutionDomain
    (fun domain => .string (toText domain)) (fun _ => isText_toText _)
    state.policy.allowedDomains
  have hhosts := @strings_array HostId (fun host => .number host.value.toNat)
    (fun _ => trivial) state.policy.forbiddenHosts
  have hdevices := @strings_array DeviceId
    (fun device => .number device.value.toNat) (fun _ => trivial)
    state.policy.forbiddenDevices
  have hfunctions := @strings_array ProcessingFunctionId
    (fun function => .number function.value.toNat) (fun _ => trivial)
    state.policy.allowedFunctions
  simp only [Strings] at hdomains hhosts hdevices hfunctions
  simp [policyTree, hdomains, hhosts, hdevices, hfunctions, Strings,
    MemberStrings, field]

theorem memberStrings_whenWanted {wanted : Bool} {name : String} {value : Json}
    (h : Strings IsText value) :
    MemberStrings IsText (whenWanted wanted name value) := by
  cases wanted with
  | false => trivial
  | true => exact ⟨isText_utf8 name, h, trivial⟩

/-- All strings are texts if the detail of the recovery report is one. -/
theorem strings_exportTree {state : EngineExport} {options : ExportOptions}
    (h : IsText state.recoveryDetail) :
    Strings IsText (exportTree state options) := by
  have hheader : MemberStrings IsText (headerFields state) := by
    simp [headerFields, Strings, MemberStrings, field, kVersionString]
  have hrecovery : Strings IsText (recoveryTree state) := by
    simp [recoveryTree, Strings, MemberStrings, field, h]
  have hflow : ∀ flow, Strings IsText (flowTree flow) := by
    simp [flowTree, Strings, MemberStrings, field]
  have hassignment : ∀ assignment, Strings IsText (assignmentTree assignment) := by
    simp [assignmentTree, Strings, MemberStrings, field]
  have hmigration : ∀ record, Strings IsText (migrationTree record) := by
    simp [migrationTree, Strings, MemberStrings, field]
  have hfence : ∀ fence, Strings IsText (fenceTree fence) := by
    simp [fenceTree, Strings, MemberStrings, field]
  have hcontract : ∀ contract, Strings IsText (contractTree contract) := by
    simp [contractTree, Strings, MemberStrings, field]
  have hmark : ∀ mark, Strings IsText (watermarkTree mark) := by
    simp [watermarkTree, Strings, MemberStrings, field]
  have hcount : ∀ count, Strings IsText (reasonCountTree count) := by
    simp [reasonCountTree, Strings, MemberStrings, field]
  have htargets : MemberStrings IsText
      [field "targets" (.array (state.targets.map targetTree))] :=
    ⟨isText_utf8 _, strings_array strings_targetTree _, trivial⟩
  have hlists : MemberStrings IsText
      [field "fences" (.array (state.fences.map fenceTree)),
        field "contracts" (.array (state.contracts.map contractTree)),
        field "watermarks" (.array (state.watermarks.map watermarkTree)),
        field "refusals_by_reason"
          (.array (state.refusalCounts.map reasonCountTree))] :=
    ⟨isText_utf8 _, strings_array hfence _, isText_utf8 _,
      strings_array hcontract _, isText_utf8 _, strings_array hmark _,
      isText_utf8 _, strings_array hcount _, trivial⟩
  unfold exportTree
  rw [Strings]
  refine memberStrings_append ?_
    (memberStrings_whenWanted (strings_countersTree state.counters))
  refine memberStrings_append ?_ hlists
  refine memberStrings_append ?_
    (memberStrings_whenWanted (strings_array hmigration state.migrations))
  refine memberStrings_append ?_
    (memberStrings_whenWanted (strings_array hassignment state.assignments))
  refine memberStrings_append ?_
    (memberStrings_whenWanted (strings_array hflow state.flows))
  refine memberStrings_append ?_ htargets
  refine memberStrings_append ?_ (memberStrings_whenWanted hrecovery)
  exact memberStrings_append hheader
    (memberStrings_whenWanted (strings_policyTree state))

/-! ## The export -/

/-- An export is nothing, or a line with an object that says everything. -/
theorem export_is_a_document (state : EngineExport) (options : ExportOptions) :
    exportJson state options = [] ∨
      ∃ text members, exportJson state options = text ++ [0x0A] ∧
        exportTree state options = .object members ∧
        Derives (.object members) text ∧
        (IsText state.recoveryDetail → IsText text) := by
  cases hok : (writeExport { limit := options.maxBytes } state options).overflow with
  | true =>
      left
      simp [exportJson, JsonWriter.ok, hok]
  | false =>
      right
      rw [writeExport_eq] at hok
      obtain ⟨text, hwritten⟩ := value_written _ _ hok
      refine ⟨text, _, ?_, rfl, hwritten.derives, ?_⟩
      · have hafter := hwritten.eq
        rw [exportJson]
        simp only [writeExport_eq, JsonWriter.ok, JsonWriter.text, hok]
        rw [hafter]
        rfl
      · exact fun hdetail => hwritten.isText (strings_exportTree hdetail)

end FlowOffload

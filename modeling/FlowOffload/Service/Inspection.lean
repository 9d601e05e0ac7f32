import FlowOffload.Engine.Placement
import FlowOffload.Service.Export
import FlowOffload.Service.Payloads

/-!
# Inspection

The operations that report on the engine and leave it as it is: the explanation
of the placement on record and the export of the state in its three forms.
-/

namespace FlowOffload

open Foundation

namespace Impl

/-! ## Explanation -/

/-- What is known of the target of a committed placement. -/
def explainTarget (s : Impl) (assignment : Assignment)
    (explanation : Explanation) : Explanation :=
  match s.targets[assignment.target]? with
  | none =>
      { explanation with
        refused := addStep explanation.refused .rejectedUnknownTarget
          assignment.target.value 0
          "the committed target is no longer declared" }
  | some target =>
      let known :=
        { explanation with
          accepted := addStep explanation.accepted .acceptedTargetRegistered
            target.descriptor.capabilityGeneration.value
            (if target.declared then 1 else 0)
            "declared capability generation and declaration state" }
      if !target.declared then
        { known with
          refused := addStep known.refused .rejectedTargetLifecycleUnknown
            assignment.target.value 0
            "the target is not declared in this coordinator incarnation" }
      else known

/-- What is known of the effect of a committed placement. -/
def explainEffect (assignment : Assignment) (explanation : Explanation) :
    Explanation :=
  let stated :=
    { explanation with
      accepted := addStep explanation.accepted .acceptedAppliedEffectRecorded
        (EnumTraits.wire assignment.effect).toUInt64 0
        ("effect state " ++ Named.name assignment.effect) }
  if assignment.effect ≠ .verified then
    { stated with
      refused := addStep stated.refused .rejectedMissingEvidence 0 0
        "no verified effect observation has been recorded for this placement" }
  else stated

def explainAssignment (s : Impl) (assignment : Assignment)
    (explanation : Explanation) : Explanation :=
  let placed :=
    { explanation with
      target := assignment.target
      incarnation := assignment.incarnation
      primary := assignment.reason
      accepted :=
        addStep
          (addStep explanation.accepted assignment.reason
            assignment.target.value assignment.incarnation.value
            "committed placement")
          .acceptedEvidenceRecorded assignment.capabilityGeneration.value
          assignment.flowGeneration.value
          "capability and flow generation of record" }
  explainEffect assignment (s.explainTarget assignment placed)

/-- The explanation is `out` when the flow is not known. -/
def explainFlow (s : Impl) (flow : FlowId) (out : Explanation) :
    Status × Explanation :=
  match s.flows[flow]? with
  | none => (.refused .rejectedUnknownFlow, out)
  | some descriptor =>
      let explanation : Explanation :=
        { flow := flow
          flowGeneration := descriptor.generation
          policyGeneration := s.policyGeneration
          scheduleGeneration := s.scheduleGeneration
          topologyGeneration := s.topologyGeneration
          epoch := s.epoch
          boot := s.boot }
      match s.assignments[flow]? with
      | none =>
          (.accepted .rejectedNoEligibleTarget,
            { explanation with
              primary := .rejectedNoEligibleTarget
              refused := addStep explanation.refused .rejectedNoEligibleTarget
                0 0 "the flow has no committed placement" })
      | some assignment =>
          (.accepted assignment.reason,
            s.explainAssignment assignment explanation)

/-! ## Export -/

def exportTarget (s : Impl) (entry : TargetId × TargetState) : TargetExport :=
  { descriptor := entry.2.descriptor
    live := entry.2.declared && entry.2.descriptor.lifecycle = .ready
    hasLoad := entry.2.hasLoad
    loadConflicting := entry.2.conflicting
    load := entry.2.load
    committed := s.committedDemandForLocked entry.1 }

def exportState (s : Impl) : EngineExport :=
  { epoch := s.epoch
    boot := s.boot
    policyGeneration := s.policyGeneration
    scheduleGeneration := s.scheduleGeneration
    topologyGeneration := s.topologyGeneration
    policyPresent := s.policyPresent
    policy := s.policy
    recovery := s.recovery
    counters := s.counters
    targets := s.targets.toList.map s.exportTarget
    flows := s.flows.toList.map Prod.snd
    assignments := s.assignments.toList.map Prod.snd
    migrations := s.migrations.toList.map Prod.snd
    fences := s.fences.toList.map Prod.snd
    refusalCounts := s.refusalCounts.toList.map fun entry =>
      ⟨entry.1, entry.2⟩
    watermarks := s.watermarks.toList.map Prod.snd
    contracts := s.contracts.toList.map Prod.snd }

end Impl

def TargetExport.encode (v : TargetExport) : Bytes :=
  v.descriptor.encode ++ writeBoolean v.live ++ writeBoolean v.hasLoad ++
    writeBoolean v.loadConflicting ++ v.load.encode ++ v.committed.encode

/-- The bytes that `export_binary` puts into its writer. -/
def EngineExport.encode (state : EngineExport) : Bytes :=
  writeU32 kExportSchemaVersion ++ writeU32 state.semanticsVersion ++
    writeU32 state.snapshotContainerVersion ++
    writeU32 state.protocolVersion ++ writeId state.epoch ++
    state.boot.encode ++ writeId state.policyGeneration ++
    writeId state.scheduleGeneration ++ writeId state.topologyGeneration ++
    writeBoolean state.policyPresent ++ state.policy.encode ++
    state.counters.encode ++ writeList TargetExport.encode state.targets ++
    writeList FlowDescriptor.encode state.flows ++
    writeList Assignment.encode state.assignments ++
    writeList MigrationRecord.encode state.migrations ++
    writeList FenceRecord.encode state.fences ++
    writeList ReasonCount.encode state.refusalCounts

def exportBinary (state : EngineExport) : Bytes :=
  if state.encode.length ≤ kMaxExportBytes then state.encode else []

def flagText (value : Bool) : Bytes := utf8 (if value then "true" else "false")

def exportTargetText (target : TargetExport) : Bytes :=
  utf8 "  target " ++ decimal target.descriptor.target.value.toNat ++
    utf8 " domain=" ++ toText target.descriptor.domain ++
    utf8 " kind=" ++ toText target.descriptor.kind ++
    utf8 " incarnation=" ++ decimal target.descriptor.incarnation.value.toNat ++
    utf8 " capability_generation=" ++
    decimal target.descriptor.capabilityGeneration.value.toNat ++
    utf8 " live=" ++ flagText target.live ++
    utf8 " cost=" ++ toText target.descriptor.costClass ++ utf8 "\n"

def exportAssignmentText (assignment : Assignment) : Bytes :=
  utf8 "  placement flow " ++ decimal assignment.flow.value.toNat ++
    utf8 " generation=" ++ decimal assignment.flowGeneration.value.toNat ++
    utf8 " -> target " ++ decimal assignment.target.value.toNat ++
    utf8 " incarnation=" ++ decimal assignment.incarnation.value.toNat ++
    utf8 " effect=" ++ toText assignment.effect ++
    utf8 " reason=" ++ toText assignment.reason ++ utf8 "\n"

def exportMigrationText (record : MigrationRecord) : Bytes :=
  utf8 "  migration attempt " ++ decimal record.intent.attempt.value.toNat ++
    utf8 " flow " ++ decimal record.intent.flow.value.toNat ++
    utf8 " phase=" ++ toText record.intent.phase ++
    utf8 " abort_reason=" ++ toText record.abortReason ++ utf8 "\n"

def exportHeaderText (state : EngineExport) : Bytes :=
  utf8 "flow-offload-scheduler export schema=" ++
    decimal kExportSchemaVersion.toNat ++
    utf8 " library=" ++ kVersionString ++
    utf8 "\n  coordinator epoch=" ++ decimal state.epoch.value.toNat ++
    utf8 " boot=" ++ state.boot.toText ++
    utf8 "\n  generations policy=" ++
    decimal state.policyGeneration.value.toNat ++
    utf8 " schedule=" ++ decimal state.scheduleGeneration.value.toNat ++
    utf8 " topology=" ++ decimal state.topologyGeneration.value.toNat ++
    utf8 "\n  recovery kind=" ++ toText state.recovery.kind ++
    utf8 " usable=" ++ flagText state.recovery.usable ++
    utf8 " records_replayed=" ++ decimal state.recovery.recordsReplayed ++
    utf8 "\n  targets=" ++ decimal state.targets.length ++
    utf8 " flows=" ++ decimal state.flows.length ++
    utf8 " assignments=" ++ decimal state.assignments.length ++
    utf8 " migrations=" ++ decimal state.migrations.length ++ utf8 "\n"

def exportText (state : EngineExport) : Bytes :=
  exportHeaderText state ++ state.targets.flatMap exportTargetText ++
    state.assignments.flatMap exportAssignmentText ++
    state.migrations.flatMap exportMigrationText

/-- `export_digest`. -/
def exportDigest (state : EngineExport) : Bytes :=
  (Sha256.of (exportJson state {})).hex

end FlowOffload

import FlowOffload.Model.Serialize
import Mathlib.Tactic.Simproc.ExistsAndEq

/-!
# Decoding undoes encoding

One lemma per reader: it accepts exactly the bytes that its writer produces for
a value it admits, and leaves what follows.  The only values a decoder refuses
are undefined capability bits, lists longer than its limit and another
semantics version; `DurableState.CodecValid` collects them.
-/

namespace FlowOffload

open Foundation

variable {bytes rest : Bytes}

/-! ## Words, enumerations and lists -/

theorem readU8_ok_iff {v : UInt8} :
    readU8.run bytes = .ok (v, rest) ↔ bytes = writeU8 v ++ rest := by
  simp only [readU8, Reader.run_bind_ok_iff, Reader.run_pure_ok_iff,
    Reader.run_take_ok_iff]
  constructor
  · rintro ⟨taken, _, ⟨hlength, rfl⟩, rfl, rfl⟩
    obtain ⟨byte, rfl⟩ := List.length_eq_one_iff.mp hlength
    simp [ofBigEndian, writeU8]
  · rintro rfl
    exact ⟨[v], rest, ⟨rfl, rfl⟩, by simp [ofBigEndian], rfl⟩

@[simp] theorem length_writeU32 (value : UInt32) :
    (writeU32 value).length = 4 :=
  length_bigEndian 4 value.toNat

theorem readU32_ok_iff {v : UInt32} :
    readU32.run bytes = .ok (v, rest) ↔ bytes = writeU32 v ++ rest := by
  simp only [readU32, Reader.run_bind_ok_iff, Reader.run_pure_ok_iff,
    Reader.run_take_ok_iff]
  constructor
  · rintro ⟨taken, _, ⟨hlength, rfl⟩, rfl, rfl⟩
    have hlt := ofBigEndian_lt taken
    rw [hlength] at hlt
    rw [writeU32, UInt32.toNat_ofNat_of_lt' hlt, ← hlength,
      bigEndian_ofBigEndian]
  · rintro rfl
    refine ⟨writeU32 v, rest, ⟨length_writeU32 v, rfl⟩, ?_, rfl⟩
    rw [writeU32, ofBigEndian_bigEndian v.toNat_lt, UInt32.ofNat_toNat]

@[simp] theorem length_writeU64 (value : UInt64) :
    (writeU64 value).length = 8 :=
  length_bigEndian 8 value.toNat

theorem readU64_ok_iff {v : UInt64} :
    readU64.run bytes = .ok (v, rest) ↔ bytes = writeU64 v ++ rest := by
  simp only [readU64, Reader.run_bind_ok_iff, Reader.run_pure_ok_iff,
    Reader.run_take_ok_iff]
  constructor
  · rintro ⟨taken, _, ⟨hlength, rfl⟩, rfl, rfl⟩
    have hlt := ofBigEndian_lt taken
    rw [hlength] at hlt
    rw [writeU64, UInt64.toNat_ofNat_of_lt' hlt, ← hlength,
      bigEndian_ofBigEndian]
  · rintro rfl
    refine ⟨writeU64 v, rest, ⟨length_writeU64 v, rfl⟩, ?_, rfl⟩
    rw [writeU64, ofBigEndian_bigEndian v.toNat_lt, UInt64.ofNat_toNat]

theorem readBoolean_ok_iff {v : Bool} :
    readBoolean.run bytes = .ok (v, rest) ↔ bytes = writeBoolean v ++ rest := by
  simp only [readBoolean, Reader.run_bind_ok_iff, readU8_ok_iff]
  constructor
  · rintro ⟨raw, middle, rfl, h⟩
    split at h
    · cases h
    next hle =>
      rw [Reader.run_pure_ok_iff] at h
      obtain ⟨rfl, rfl⟩ := h
      have hraw : raw = 0 ∨ raw = 1 := by
        rw [← UInt8.toNat_inj, ← UInt8.toNat_inj]
        rw [gt_iff_lt, UInt8.lt_iff_toNat_lt] at hle
        have hone : (1 : UInt8).toNat = 1 := rfl
        have hzero : (0 : UInt8).toNat = 0 := rfl
        omega
      rcases hraw with rfl | rfl <;> rfl
  · rintro rfl
    cases v <;> exact ⟨_, rest, rfl, rfl⟩

theorem readDigest_ok_iff {v : Sha256Digest} :
    readDigest.run bytes = .ok (v, rest) ↔ bytes = writeDigest v ++ rest := by
  simp only [readDigest, Reader.run_bind_ok_iff, Reader.run_take_ok_iff]
  constructor
  · rintro ⟨taken, middle, ⟨hlength, rfl⟩, h⟩
    rw [dif_pos hlength, Reader.run_pure_ok_iff] at h
    obtain ⟨rfl, rfl⟩ := h
    rfl
  · rintro rfl
    refine ⟨v.bytes, rest, ⟨v.size, rfl⟩, ?_⟩
    rw [dif_pos v.size, Reader.run_pure_ok_iff]
    exact ⟨rfl, rfl⟩

theorem EnumTraits.wire_of_ofWire? {E : Type} [EnumTraits E] {raw : UInt8}
    {v : E} (h : ofWire? raw = some v) : wire v = raw := by
  have hfound := List.find?_some h
  simpa using hfound

theorem decodeEnum_ok_iff {E : Type} [EnumTraits E] {v : E} :
    decodeEnum.run bytes = .ok (v, rest) ↔ bytes = encodeEnum v ++ rest := by
  simp only [decodeEnum, Reader.run_bind_ok_iff, readU8_ok_iff]
  constructor
  · rintro ⟨raw, middle, rfl, h⟩
    split at h
    next value hvalue =>
      rw [Reader.run_pure_ok_iff] at h
      obtain ⟨rfl, rfl⟩ := h
      rw [encodeEnum, EnumTraits.wire_of_ofWire? hvalue]
    next => cases h
  · rintro rfl
    exact ⟨EnumTraits.wire v, rest, rfl, by simp⟩

theorem readId_ok_iff {tag : IdTag} {v : TypedId tag} :
    readId.run bytes = .ok (v, rest) ↔ bytes = writeId v ++ rest := by
  cases v
  simp [readId, writeId, Reader.run_bind_ok_iff, readU64_ok_iff,
    -StateT.run_bind, -bind_pure_comp]

theorem readMask_ok_iff {v : CapabilityMask} :
    readMask.run bytes = .ok (v, rest) ↔
      definedCapabilities v = true ∧ bytes = writeMask v ++ rest := by
  simp only [readMask, Reader.run_bind_ok_iff, readU64_ok_iff, writeMask,
    definedCapabilities]
  constructor
  · rintro ⟨raw, middle, rfl, h⟩
    split at h
    · cases h
    next hmask =>
      rw [Reader.run_pure_ok_iff] at h
      obtain ⟨rfl, rfl⟩ := h
      exact ⟨by simpa using hmask, rfl⟩
  · rintro ⟨hmask, rfl⟩
    refine ⟨v, rest, rfl, ?_⟩
    rw [if_neg (by simpa using hmask), Reader.run_pure_ok_iff]
    exact ⟨rfl, rfl⟩

/-- What a list of admitted items is read from. -/
theorem readList_ok_iff {α : Type} {valid : α → Prop} {encode : α → Bytes}
    {decode : CanonicalReader α}
    (hdecode : ∀ bytes a rest, decode.run bytes = .ok (a, rest) ↔
      valid a ∧ bytes = encode a ++ rest)
    {maxItems : Nat} (hwidth : maxItems < 2 ^ 32) {items : List α} :
    (readList decode maxItems).run bytes = .ok (items, rest) ↔
      (items.length ≤ maxItems ∧ ∀ a ∈ items, valid a) ∧
        bytes = writeList encode items ++ rest := by
  simp only [readList, Reader.run_bind_ok_iff, readU32_ok_iff, writeList]
  constructor
  · rintro ⟨count, middle, rfl, h⟩
    split at h
    · cases h
    next hle =>
      rw [Reader.run_replicate_ok_iff hdecode] at h
      obtain ⟨hlength, hvalid, rfl⟩ := h
      refine ⟨⟨by omega, hvalid⟩, ?_⟩
      rw [hlength, UInt32.ofNat_toNat, List.append_assoc]
  · rintro ⟨⟨hle, hvalid⟩, rfl⟩
    have hcount : (UInt32.ofNat items.length).toNat = items.length :=
      UInt32.toNat_ofNat_of_lt' (by change _ < 2 ^ 32; omega)
    refine ⟨UInt32.ofNat items.length, _, List.append_assoc _ _ _, ?_⟩
    rw [hcount, if_neg (by omega), Reader.run_replicate_ok_iff hdecode]
    exact ⟨rfl, hvalid, rfl⟩

/-- The same for items that are all admitted. -/
theorem readList_ok_iff_of_total {α : Type} {encode : α → Bytes}
    {decode : CanonicalReader α}
    (hdecode : ∀ bytes a rest, decode.run bytes = .ok (a, rest) ↔
      bytes = encode a ++ rest)
    {maxItems : Nat} (hwidth : maxItems < 2 ^ 32) {items : List α} :
    (readList decode maxItems).run bytes = .ok (items, rest) ↔
      items.length ≤ maxItems ∧ bytes = writeList encode items ++ rest := by
  have htotal : ∀ bytes a rest, decode.run bytes = .ok (a, rest) ↔
      True ∧ bytes = encode a ++ rest := by
    intro bytes a rest
    rw [hdecode, true_and]
  rw [readList_ok_iff htotal hwidth]
  simp

theorem ReasonCode.reasonValue_of_ofValue? {raw : UInt32} {v : ReasonCode}
    (h : ofValue? raw = some v) : v.reasonValue = raw := by
  have hfound := List.find?_some h
  simpa using hfound

theorem decodeReasonCode_ok_iff {v : ReasonCode} :
    ReasonCode.decode.run bytes = .ok (v, rest) ↔
      bytes = v.encode ++ rest := by
  simp only [ReasonCode.decode, ReasonCode.encode, Reader.run_bind_ok_iff,
    readU32_ok_iff]
  constructor
  · rintro ⟨raw, middle, rfl, h⟩
    split at h
    · cases h
    · split at h
      next code hcode =>
        rw [Reader.run_pure_ok_iff] at h
        obtain ⟨rfl, rfl⟩ := h
        rw [ReasonCode.reasonValue_of_ofValue? hcode]
      next => cases h
  · rintro rfl
    have hle : ¬ v.reasonValue > 0xFFFF := by
      rw [gt_iff_lt, UInt32.not_lt]
      exact v.reasonValue_le
    refine ⟨v.reasonValue, rest, rfl, ?_⟩
    rw [if_neg hle, ReasonCode.ofValue?_reasonValue]
    rfl

theorem decodeTimestamp_ok_iff {v : Timestamp} :
    Timestamp.decode.run bytes = .ok (v, rest) ↔ bytes = v.encode ++ rest := by
  cases v
  simp [Timestamp.decode, Timestamp.encode, Reader.run_bind_ok_iff,
    readU64_ok_iff, -StateT.run_bind, -bind_pure_comp]

/-! ## Records -/

theorem decodeBootId_ok_iff {v : BootId} :
    BootId.decode.run bytes = .ok (v, rest) ↔
      bytes = v.encode ++ rest := by
  cases v
  simp [BootId.decode, BootId.encode, Reader.run_bind_ok_iff, readU64_ok_iff,
    -StateT.run_bind, -bind_pure_comp]

theorem decodeCapacityVector_ok_iff {v : CapacityVector} :
    CapacityVector.decode.run bytes = .ok (v, rest) ↔
      bytes = v.encode ++ rest := by
  cases v
  simp [CapacityVector.decode, CapacityVector.encode, Reader.run_bind_ok_iff,
    readU64_ok_iff, -StateT.run_bind, -bind_pure_comp]

theorem decodeFlowDescriptor_ok_iff {v : FlowDescriptor} :
    FlowDescriptor.decode.run bytes = .ok (v, rest) ↔
      definedCapabilities v.requiredCapabilities = true ∧
        bytes = v.encode ++ rest := by
  cases v
  simp [FlowDescriptor.decode, FlowDescriptor.encode, Reader.run_bind_ok_iff,
    readId_ok_iff, decodeEnum_ok_iff, readMask_ok_iff,
    decodeCapacityVector_ok_iff, readBoolean_ok_iff, -StateT.run_bind,
    -bind_pure_comp, -Bool.exists_bool, and_comm]

theorem decodeTargetDescriptor_ok_iff {v : TargetDescriptor} :
    TargetDescriptor.decode.run bytes = .ok (v, rest) ↔
      definedCapabilities v.capabilities = true ∧
        bytes = v.encode ++ rest := by
  cases v
  simp [TargetDescriptor.decode, TargetDescriptor.encode,
    Reader.run_bind_ok_iff, readId_ok_iff, decodeEnum_ok_iff, readMask_ok_iff,
    decodeCapacityVector_ok_iff, readBoolean_ok_iff, decodeTimestamp_ok_iff,
    -StateT.run_bind, -bind_pure_comp, -Bool.exists_bool, and_comm]

theorem decodeMigrationContract_ok_iff {v : MigrationContract} :
    MigrationContract.decode.run bytes = .ok (v, rest) ↔
      bytes = v.encode ++ rest := by
  cases v
  simp [MigrationContract.decode, MigrationContract.encode,
    Reader.run_bind_ok_iff, readId_ok_iff, decodeEnum_ok_iff,
    readBoolean_ok_iff, readU64_ok_iff, -StateT.run_bind, -bind_pure_comp,
    -Bool.exists_bool]

theorem decodeAssignment_ok_iff {v : Assignment} :
    Assignment.decode.run bytes = .ok (v, rest) ↔
      bytes = v.encode ++ rest := by
  cases v
  simp [Assignment.decode, Assignment.encode, Reader.run_bind_ok_iff,
    readId_ok_iff, decodeEnum_ok_iff, decodeReasonCode_ok_iff,
    decodeTimestamp_ok_iff, -StateT.run_bind, -bind_pure_comp]

theorem decodeMigrationIntent_ok_iff {v : MigrationIntent} :
    MigrationIntent.decode.run bytes = .ok (v, rest) ↔
      bytes = v.encode ++ rest := by
  cases v
  simp [MigrationIntent.decode, MigrationIntent.encode,
    Reader.run_bind_ok_iff, readId_ok_iff, decodeBootId_ok_iff,
    decodeEnum_ok_iff, decodeTimestamp_ok_iff, -StateT.run_bind,
    -bind_pure_comp]

theorem decodeMigrationAcknowledgement_ok_iff {v : MigrationAcknowledgement} :
    MigrationAcknowledgement.decode.run bytes = .ok (v, rest) ↔
      bytes = v.encode ++ rest := by
  cases v
  simp [MigrationAcknowledgement.decode, MigrationAcknowledgement.encode,
    Reader.run_bind_ok_iff, readId_ok_iff, decodeEnum_ok_iff,
    decodeBootId_ok_iff, readBoolean_ok_iff, decodeReasonCode_ok_iff,
    decodeTimestamp_ok_iff, -StateT.run_bind, -bind_pure_comp,
    -Bool.exists_bool]

theorem decodeAppliedEffect_ok_iff {v : AppliedEffect} :
    AppliedEffect.decode.run bytes = .ok (v, rest) ↔
      bytes = v.encode ++ rest := by
  cases v
  simp [AppliedEffect.decode, AppliedEffect.encode, Reader.run_bind_ok_iff,
    readId_ok_iff, decodeBootId_ok_iff, readDigest_ok_iff, readU64_ok_iff,
    decodeTimestamp_ok_iff, -StateT.run_bind, -bind_pure_comp]

theorem decodeFenceRecord_ok_iff {v : FenceRecord} :
    FenceRecord.decode.run bytes = .ok (v, rest) ↔
      bytes = v.encode ++ rest := by
  cases v
  simp [FenceRecord.decode, FenceRecord.encode, Reader.run_bind_ok_iff,
    readId_ok_iff, decodeBootId_ok_iff, decodeReasonCode_ok_iff,
    readBoolean_ok_iff, decodeTimestamp_ok_iff, -StateT.run_bind,
    -bind_pure_comp, -Bool.exists_bool]

theorem decodeMigrationRecord_ok_iff {v : MigrationRecord} :
    MigrationRecord.decode.run bytes = .ok (v, rest) ↔
      bytes = v.encode ++ rest := by
  cases v
  simp [MigrationRecord.decode, MigrationRecord.encode,
    Reader.run_bind_ok_iff, decodeMigrationIntent_ok_iff,
    decodeMigrationAcknowledgement_ok_iff, readBoolean_ok_iff,
    decodeAppliedEffect_ok_iff, readDigest_ok_iff, decodeReasonCode_ok_iff,
    -StateT.run_bind, -bind_pure_comp, -Bool.exists_bool]

theorem decodeSourceWatermark_ok_iff {v : SourceWatermark} :
    SourceWatermark.decode.run bytes = .ok (v, rest) ↔
      bytes = v.encode ++ rest := by
  cases v
  simp [SourceWatermark.decode, SourceWatermark.encode,
    Reader.run_bind_ok_iff, readId_ok_iff, -StateT.run_bind, -bind_pure_comp]

theorem decodeRequestRecord_ok_iff {v : RequestRecord} :
    RequestRecord.decode.run bytes = .ok (v, rest) ↔
      bytes = v.encode ++ rest := by
  cases v
  simp [RequestRecord.decode, RequestRecord.encode, Reader.run_bind_ok_iff,
    readId_ok_iff, readDigest_ok_iff, decodeReasonCode_ok_iff,
    -StateT.run_bind, -bind_pure_comp]

theorem decodeReasonCount_ok_iff {v : ReasonCount} :
    ReasonCount.decode.run bytes = .ok (v, rest) ↔
      bytes = v.encode ++ rest := by
  cases v
  simp [ReasonCount.decode, ReasonCount.encode, Reader.run_bind_ok_iff,
    decodeReasonCode_ok_iff, readU64_ok_iff, -StateT.run_bind,
    -bind_pure_comp]

set_option maxRecDepth 8000 in
theorem decodeCounters_ok_iff {v : Counters} :
    Counters.decode.run bytes = .ok (v, rest) ↔ bytes = v.encode ++ rest := by
  cases v
  simp [Counters.decode, Counters.encode, Counters.fields,
    Reader.run_bind_ok_iff, readU64_ok_iff, -StateT.run_bind, -bind_pure_comp]

/-! ## Policy and durable state -/

/-- What a decoder checks of a policy. -/
structure Policy.CodecValid (v : Policy) : Prop where
  capabilities : definedCapabilities v.requiredCapabilities = true
  domains : v.allowedDomains.length ≤ 8
  hosts : v.forbiddenHosts.length ≤ kMaxTargets
  devices : v.forbiddenDevices.length ≤ kMaxTargets
  functions : v.allowedFunctions.length ≤ kMaxFlows

theorem decodePolicy_ok_iff {v : Policy} :
    Policy.decode.run bytes = .ok (v, rest) ↔
      v.CodecValid ∧ bytes = v.encode ++ rest := by
  cases v
  simp [Policy.decode, Policy.encode, Reader.run_bind_ok_iff, readId_ok_iff,
    decodeEnum_ok_iff, readMask_ok_iff, decodeCapacityVector_ok_iff,
    readBoolean_ok_iff, readU32_ok_iff,
    readList_ok_iff_of_total (fun _ _ _ => decodeEnum_ok_iff)
      (show 8 < 2 ^ 32 by decide),
    readList_ok_iff_of_total (fun _ _ _ => readId_ok_iff)
      (show kMaxTargets < 2 ^ 32 by decide),
    readList_ok_iff_of_total (fun _ _ _ => readId_ok_iff)
      (show kMaxFlows < 2 ^ 32 by decide),
    -StateT.run_bind, -bind_pure_comp, -Bool.exists_bool]
  constructor
  · rintro ⟨hbytes, hcapabilities, hdomains, hhosts, hdevices, hfunctions⟩
    exact ⟨⟨hcapabilities, hdomains, hhosts, hdevices, hfunctions⟩, hbytes⟩
  · rintro ⟨⟨hcapabilities, hdomains, hhosts, hdevices, hfunctions⟩, hbytes⟩
    exact ⟨hbytes, hcapabilities, hdomains, hhosts, hdevices, hfunctions⟩

/-- The version is current, capability bits are defined and every list is
within the limit of its decoder. -/
structure DurableState.CodecValid (v : DurableState) : Prop where
  version : v.semanticsVersion = kStateSemanticsVersion
  policy : v.policy.CodecValid
  flows : v.flows.length ≤ kMaxFlows ∧
    ∀ flow ∈ v.flows, definedCapabilities flow.requiredCapabilities = true
  targets : v.targets.length ≤ kMaxTargets ∧
    ∀ target ∈ v.targets, definedCapabilities target.capabilities = true
  assignments : v.assignments.length ≤ kMaxFlows
  contracts : v.contracts.length ≤ kMaxMigrationContracts
  migrations : v.migrations.length ≤ kMaxMigrationRecords
  fences : v.fences.length ≤ kMaxHistoryRecords
  watermarks : v.watermarks.length ≤ kMaxEvidenceSources
  requests : v.requests.length ≤ kMaxRequestRecords
  refusalCounts : v.refusalCounts.length ≤ ReasonCode.reasonCodeCount

theorem decodeDurableState_ok_iff {v : DurableState} :
    DurableState.decode.run bytes = .ok (v, rest) ↔
      v.CodecValid ∧ bytes = v.encode ++ rest := by
  cases v
  rw [DurableState.decode, Reader.run_bind_ok_iff]
  simp only [Reader.run_check_ok_iff]
  simp [DurableState.encode, Reader.run_bind_ok_iff, readId_ok_iff, readU32_ok_iff,
    readBoolean_ok_iff, decodeBootId_ok_iff, decodePolicy_ok_iff,
    decodeCounters_ok_iff,
    readList_ok_iff (fun _ _ _ => decodeFlowDescriptor_ok_iff)
      (show kMaxFlows < 2 ^ 32 by decide),
    readList_ok_iff (fun _ _ _ => decodeTargetDescriptor_ok_iff)
      (show kMaxTargets < 2 ^ 32 by decide),
    readList_ok_iff_of_total (fun _ _ _ => decodeAssignment_ok_iff)
      (show kMaxFlows < 2 ^ 32 by decide),
    readList_ok_iff_of_total (fun _ _ _ => decodeMigrationContract_ok_iff)
      (show kMaxMigrationContracts < 2 ^ 32 by decide),
    readList_ok_iff_of_total (fun _ _ _ => decodeMigrationRecord_ok_iff)
      (show kMaxMigrationRecords < 2 ^ 32 by decide),
    readList_ok_iff_of_total (fun _ _ _ => decodeFenceRecord_ok_iff)
      (show kMaxHistoryRecords < 2 ^ 32 by decide),
    readList_ok_iff_of_total (fun _ _ _ => decodeSourceWatermark_ok_iff)
      (show kMaxEvidenceSources < 2 ^ 32 by decide),
    readList_ok_iff_of_total (fun _ _ _ => decodeRequestRecord_ok_iff)
      (show kMaxRequestRecords < 2 ^ 32 by decide),
    readList_ok_iff_of_total (fun _ _ _ => decodeReasonCount_ok_iff)
      (show ReasonCode.reasonCodeCount < 2 ^ 32 by decide +kernel),
    -StateT.run_bind, -bind_pure_comp, -Bool.exists_bool]
  constructor
  · rintro ⟨hbytes, hpolicy, hflows, htargets, hassignments, hcontracts,
      hmigrations, hfences, hwatermarks, hrequests, hcounts, rfl⟩
    exact ⟨⟨rfl, hpolicy, hflows, htargets, hassignments, hcontracts,
      hmigrations, hfences, hwatermarks, hrequests, hcounts⟩, hbytes⟩
  · rintro ⟨⟨hversion, hpolicy, hflows, htargets, hassignments, hcontracts,
      hmigrations, hfences, hwatermarks, hrequests, hcounts⟩, hbytes⟩
    have hsame : kStateSemanticsVersion = _ := hversion.symm
    subst hsame
    exact ⟨hbytes, hpolicy, hflows, htargets, hassignments, hcontracts,
      hmigrations, hfences, hwatermarks, hrequests, hcounts, rfl⟩

end FlowOffload

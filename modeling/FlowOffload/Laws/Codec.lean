import FlowOffload.Engine.Requests

/-!
# The canonical format

Decoding undoes encoding, a strict prefix of an encoding is refused, and what
is accepted is the encoding of the value it decodes to.  All of it follows from
the exact description of the bytes each decoder accepts.
-/

namespace FlowOffload

open Foundation

variable {α : Type}

/-! ## Latched refusals -/

/-- The reasons a reader may latch. -/
def Refusal (reason : ReasonCode) : Prop := reason.isAcceptance = false

section Latch

-- one instance per reason that appears in a decoder
instance (count : Nat) :
    Reader.FailsWith Refusal (Reader.take .rejectedTruncatedInput count) :=
  have hrefusal : Refusal .rejectedTruncatedInput := rfl
  Reader.failsWith_take hrefusal count

instance : Reader.FailsWith Refusal
    (Reader.reject .rejectedTruncatedInput : CanonicalReader α) :=
  Reader.failsWith_reject rfl

instance : Reader.FailsWith Refusal
    (Reader.reject .rejectedMalformedInput : CanonicalReader α) :=
  Reader.failsWith_reject rfl

instance : Reader.FailsWith Refusal
    (Reader.reject .rejectedOversizedInput : CanonicalReader α) :=
  Reader.failsWith_reject rfl

instance : Reader.FailsWith Refusal
    (Reader.reject .rejectedUnknownCapability : CanonicalReader α) :=
  Reader.failsWith_reject rfl

instance : Reader.FailsWith Refusal
    (Reader.reject .recoverySemanticsMismatch : CanonicalReader α) :=
  Reader.failsWith_reject rfl

instance : Reader.FailsWith Refusal readU8 := by
  unfold readU8
  infer_instance

instance : Reader.FailsWith Refusal readU32 := by
  unfold readU32
  infer_instance

instance : Reader.FailsWith Refusal readU64 := by
  unfold readU64
  infer_instance

instance : Reader.FailsWith Refusal readBoolean := by
  unfold readBoolean
  infer_instance

instance : Reader.FailsWith Refusal readDigest := by
  have hcheck : ∀ bytes : Bytes, Reader.FailsWith Refusal
      (if size : bytes.length = 32 then pure ⟨bytes, size⟩
        else Reader.reject .rejectedTruncatedInput :
          CanonicalReader Sha256Digest) := by
    intro bytes
    split <;> infer_instance
  unfold readDigest
  infer_instance

instance {E : Type} [EnumTraits E] :
    Reader.FailsWith Refusal (decodeEnum : CanonicalReader E) := by
  have hcheck : ∀ raw : UInt8, Reader.FailsWith Refusal
      (match EnumTraits.ofWire? raw with
        | some value => pure value
        | none => Reader.reject .rejectedMalformedInput :
          CanonicalReader E) := by
    intro raw
    split <;> infer_instance
  unfold decodeEnum
  infer_instance

instance {tag : IdTag} :
    Reader.FailsWith Refusal (readId : CanonicalReader (TypedId tag)) := by
  unfold readId
  infer_instance

instance : Reader.FailsWith Refusal readMask := by
  unfold readMask
  infer_instance

instance (decode : CanonicalReader α) [Reader.FailsWith Refusal decode]
    (maxItems : Nat) :
    Reader.FailsWith Refusal (readList decode maxItems) := by
  unfold readList
  infer_instance

instance : Reader.FailsWith Refusal ReasonCode.decode := by
  have hcheck : ∀ raw : UInt32, Reader.FailsWith Refusal
      (match ReasonCode.ofValue? raw with
        | some code => pure code
        | none => Reader.reject .rejectedMalformedInput :
          CanonicalReader ReasonCode) := by
    intro raw
    split <;> infer_instance
  unfold ReasonCode.decode
  infer_instance

instance : Reader.FailsWith Refusal Timestamp.decode := by
  unfold Timestamp.decode
  infer_instance

instance : Reader.FailsWith Refusal BootId.decode := by
  unfold BootId.decode
  infer_instance

instance : Reader.FailsWith Refusal CapacityVector.decode := by
  unfold CapacityVector.decode
  infer_instance

instance : Reader.FailsWith Refusal FlowDescriptor.decode := by
  unfold FlowDescriptor.decode
  infer_instance

instance : Reader.FailsWith Refusal TargetDescriptor.decode := by
  unfold TargetDescriptor.decode
  infer_instance

instance : Reader.FailsWith Refusal Policy.decode := by
  unfold Policy.decode
  infer_instance

instance : Reader.FailsWith Refusal MigrationContract.decode := by
  unfold MigrationContract.decode
  infer_instance

instance : Reader.FailsWith Refusal Assignment.decode := by
  unfold Assignment.decode
  infer_instance

instance : Reader.FailsWith Refusal MigrationIntent.decode := by
  unfold MigrationIntent.decode
  infer_instance

instance : Reader.FailsWith Refusal MigrationAcknowledgement.decode := by
  unfold MigrationAcknowledgement.decode
  infer_instance

instance : Reader.FailsWith Refusal AppliedEffect.decode := by
  unfold AppliedEffect.decode
  infer_instance

instance : Reader.FailsWith Refusal MigrationRecord.decode := by
  unfold MigrationRecord.decode
  infer_instance

instance : Reader.FailsWith Refusal FenceRecord.decode := by
  unfold FenceRecord.decode
  infer_instance

instance : Reader.FailsWith Refusal SourceWatermark.decode := by
  unfold SourceWatermark.decode
  infer_instance

instance : Reader.FailsWith Refusal RequestRecord.decode := by
  unfold RequestRecord.decode
  infer_instance

instance : Reader.FailsWith Refusal ReasonCount.decode := by
  unfold ReasonCount.decode
  infer_instance

instance : Reader.FailsWith Refusal Counters.decode := by
  unfold Counters.decode
  infer_instance

set_option synthInstance.maxSize 512 in
instance : Reader.FailsWith Refusal DurableState.decode := by
  unfold DurableState.decode
  dsimp only
  infer_instance

instance : Reader.FailsWith Refusal PlacementItem.decode := by
  unfold PlacementItem.decode
  infer_instance

instance : Reader.FailsWith Refusal PlacementRequest.decode := by
  unfold PlacementRequest.decode
  dsimp only
  infer_instance

instance : Reader.FailsWith Refusal RebalanceRequest.decode := by
  unfold RebalanceRequest.decode
  dsimp only
  infer_instance

end Latch

/-! ## Canonical readers -/

/--
What a reader accepts is what the writer produces for the value it returns,
two accepted byte strings of one value are the same, and a failure has latched
a refusal.
-/
structure Canonical (encode : α → Bytes) (decode : CanonicalReader α) :
    Prop where
  consumed : ∀ bytes v rest, decode.run bytes = .ok (v, rest) →
    bytes = encode v ++ rest
  unique : ∀ bytes bytes' v, decode.run bytes = .ok (v, []) →
    decode.run bytes' = .ok (v, []) → bytes = bytes'
  latched : ∀ bytes reason, decode.run bytes = .error reason →
    reason.isAcceptance = false

theorem Canonical.of_ok_iff {valid : α → Prop} {encode : α → Bytes}
    {decode : CanonicalReader α} [Reader.FailsWith Refusal decode]
    (h : ∀ bytes v rest, decode.run bytes = .ok (v, rest) ↔
      valid v ∧ bytes = encode v ++ rest) : Canonical encode decode where
  consumed := fun bytes v rest hok => ((h bytes v rest).mp hok).2
  unique := by
    intro bytes bytes' v hok hok'
    rw [((h bytes v []).mp hok).2, ((h bytes' v []).mp hok').2]
  latched := by
    intro bytes reason herror
    have hrefusal : Refusal reason :=
      Reader.FailsWith.reason_of_error bytes reason herror
    exact hrefusal

theorem canonical_migrationContract :
    Canonical MigrationContract.encode MigrationContract.decode := by
  have h : ∀ bytes v rest, MigrationContract.decode.run bytes =
      .ok (v, rest) ↔ True ∧ bytes = v.encode ++ rest := by
    intro bytes v rest
    rw [decodeMigrationContract_ok_iff, true_and]
  exact .of_ok_iff h

theorem DurableState.CodecValid.decode_append {state : DurableState}
    (h : state.CodecValid) (rest : Bytes) :
    DurableState.decode.run (state.encode ++ rest) = .ok (state, rest) :=
  decodeDurableState_ok_iff.mpr ⟨h, rfl⟩

/-- A strict prefix that was accepted would leave two decodings of one
string. -/
theorem DurableState.CodecValid.decode_prefix {state : DurableState}
    (h : state.CodecValid) {front : Bytes} (hfront : front <+: state.encode)
    (hstrict : front ≠ state.encode) :
    ∃ reason, DurableState.decode.run front = .error reason := by
  cases hrun : DurableState.decode.run front with
  | error reason => exact ⟨reason, rfl⟩
  | ok result =>
      obtain ⟨other, rest⟩ := result
      obtain ⟨hvalid, hread⟩ := decodeDurableState_ok_iff.mp hrun
      obtain ⟨missing, hmissing⟩ := hfront
      have hother := hvalid.decode_append (rest ++ missing)
      have hstate := h.decode_append []
      rw [List.append_nil, ← hmissing, hread, List.append_assoc, hother]
        at hstate
      simp only [Except.ok.injEq, Prod.mk.injEq, List.append_eq_nil_iff]
        at hstate
      obtain ⟨-, -, rfl⟩ := hstate
      rw [List.append_nil] at hmissing
      exact absurd hmissing hstrict

/-- A state with a policy, a flow and a migration. -/
def sampleState : DurableState :=
  { policyPresent := true
    policy := { allowedDomains := [.host, .offloadDevice] }
    flows := [{ flow := ⟨1⟩, requiredCapabilities := 1 }]
    migrations := [{ intent := { attempt := ⟨1⟩, phase := .completed } }] }

theorem codecValid_sampleState : sampleState.CodecValid where
  version := rfl
  policy := by constructor <;> decide +kernel
  flows := by decide +kernel
  targets := by decide +kernel
  assignments := by decide +kernel
  contracts := by decide +kernel
  migrations := by decide +kernel
  fences := by decide +kernel
  watermarks := by decide +kernel
  requests := by decide +kernel
  refusalCounts := by decide +kernel

end FlowOffload

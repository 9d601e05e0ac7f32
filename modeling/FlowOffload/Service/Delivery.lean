import FlowOffload.Foundation.Fields
import FlowOffload.Service.Payloads

/-!
# Payloads are delivered unchanged

One lemma per reader, as for the durable records: it accepts exactly the bytes
that its writer produces for a value it admits.  What a reader refuses are
texts and lists that are too long.
-/

namespace FlowOffload

open Foundation
open Reader (Reads)

variable {bytes rest : Bytes}

/-! ## Text -/

theorem toNat_char_byte {char : Char} (h : char.toNat < 256) :
    Char.ofUInt8 (UInt8.ofNat char.toNat) = char := by
  apply Char.toNat_inj.mp
  have hbyte : (UInt8.ofNat char.toNat).toNat = char.toNat :=
    UInt8.toNat_ofNat_of_lt' h
  exact hbyte

theorem byte_char (byte : UInt8) :
    UInt8.ofNat (Char.ofUInt8 byte).toNat = byte :=
  UInt8.ofNat_toNat

theorem readText_ok_iff {maxBytes : Nat} (hwidth : maxBytes < 2 ^ 32)
    {text : String} :
    (readText maxBytes).run bytes = .ok (text, rest) ↔
      TextValid maxBytes text ∧ bytes = writeText text ++ rest := by
  simp only [readText, Reader.run_bind_ok_iff, readU32_ok_iff]
  constructor
  · rintro ⟨length, middle, rfl, h⟩
    split at h
    · cases h
    next hle =>
      simp only [Reader.run_bind_ok_iff, Reader.run_take_ok_iff,
        Reader.run_pure_ok_iff] at h
      obtain ⟨taken, _, ⟨hlength, rfl⟩, rfl, rfl⟩ := h
      have hbytes : (taken.map Char.ofUInt8).map
          (fun char => UInt8.ofNat char.toNat) = taken := by
        rw [List.map_map]
        refine (List.map_congr_left fun byte _ => ?_).trans (List.map_id taken)
        exact byte_char byte
      refine ⟨⟨?_, ?_⟩, ?_⟩
      · simp only [String.toList_ofList, List.length_map]
        omega
      · simp only [String.toList_ofList, List.mem_map]
        rintro char ⟨byte, -, rfl⟩
        exact byte.toNat_lt
      · simp only [writeText, String.toList_ofList, List.length_map, hbytes,
          hlength, UInt32.ofNat_toNat, List.append_assoc]
  · rintro ⟨⟨hle, hchars⟩, rfl⟩
    have hcount : (UInt32.ofNat text.toList.length).toNat =
        text.toList.length :=
      UInt32.toNat_ofNat_of_lt' (by change _ < 2 ^ 32; omega)
    have htext : (text.toList.map fun char => UInt8.ofNat char.toNat).map
        Char.ofUInt8 = text.toList := by
      rw [List.map_map]
      refine (List.map_congr_left fun char hchar => ?_).trans
        (List.map_id text.toList)
      exact toNat_char_byte (hchars char hchar)
    refine ⟨UInt32.ofNat text.toList.length, _, List.append_assoc _ _ _, ?_⟩
    rw [hcount, if_neg (by omega)]
    simp only [Reader.run_bind_ok_iff, Reader.run_take_ok_iff,
      Reader.run_pure_ok_iff]
    refine ⟨_, _, ⟨List.length_map _, rfl⟩, ?_, rfl⟩
    rw [htext, String.ofList_toList]

/-! ## Evidence and explanations -/

theorem decodeLoadEvidence_ok_iff {v : LoadEvidence} :
    LoadEvidence.decode.run bytes = .ok (v, rest) ↔
      bytes = v.encode ++ rest := by
  cases v
  simp [LoadEvidence.decode, LoadEvidence.encode, Reader.run_bind_ok_iff,
    readId_ok_iff, decodeTimestamp_ok_iff, decodeEnum_ok_iff,
    decodeCapacityVector_ok_iff, -StateT.run_bind, -bind_pure_comp]

theorem decodeExplanationStep_ok_iff {v : ExplanationStep} :
    ExplanationStep.decode.run bytes = .ok (v, rest) ↔
      TextValid kMaxStringBytes v.detail ∧ bytes = v.encode ++ rest := by
  cases v
  simp [ExplanationStep.decode, ExplanationStep.encode,
    Reader.run_bind_ok_iff, decodeReasonCode_ok_iff, readU64_ok_iff,
    readText_ok_iff (show kMaxStringBytes < 2 ^ 32 by decide),
    -StateT.run_bind, -bind_pure_comp, and_comm]

/-- What a decoder checks of the steps of an explanation. -/
def StepsValid (steps : List ExplanationStep) : Prop :=
  steps.length ≤ kMaxExplanationSteps ∧
    ∀ step ∈ steps, TextValid kMaxStringBytes step.detail

/-- What a decoder checks of an explanation. -/
structure Explanation.CodecValid (v : Explanation) : Prop where
  accepted : StepsValid v.accepted
  refused : StepsValid v.refused

theorem readSteps_ok_iff {v : List ExplanationStep} :
    (readList ExplanationStep.decode kMaxExplanationSteps).run bytes =
        .ok (v, rest) ↔
      StepsValid v ∧ bytes = writeList ExplanationStep.encode v ++ rest :=
  readList_ok_iff (fun _ _ _ => decodeExplanationStep_ok_iff)
    (show kMaxExplanationSteps < 2 ^ 32 by decide)

theorem decodeExplanation_ok_iff {v : Explanation} :
    Explanation.decode.run bytes = .ok (v, rest) ↔
      v.CodecValid ∧ bytes = v.encode ++ rest := by
  cases v
  simp [Explanation.decode, Explanation.encode, Reader.run_bind_ok_iff,
    decodeReasonCode_ok_iff, readId_ok_iff, decodeBootId_ok_iff,
    decodeTimestamp_ok_iff, readSteps_ok_iff, -StateT.run_bind,
    -bind_pure_comp]
  constructor
  · rintro ⟨hbytes, haccepted, hrefused⟩
    exact ⟨⟨haccepted, hrefused⟩, hbytes⟩
  · rintro ⟨⟨haccepted, hrefused⟩, hbytes⟩
    exact ⟨hbytes, haccepted, hrefused⟩

/-! ## Results -/

theorem decodeCandidateView_ok_iff {v : CandidateView} :
    CandidateView.decode.run bytes = .ok (v, rest) ↔
      bytes = v.encode ++ rest := by
  refine Reads.ok_iff_of_total
    (.total CandidateView.target readId_ok_iff fun _ =>
      .total CandidateView.domain decodeEnum_ok_iff fun _ =>
      .total CandidateView.host readId_ok_iff fun _ =>
      .total CandidateView.device readId_ok_iff fun _ =>
      .total CandidateView.incarnation readId_ok_iff fun _ =>
      .total CandidateView.capabilityGeneration readId_ok_iff fun _ =>
      .total CandidateView.costClass decodeEnum_ok_iff fun _ =>
      .total CandidateView.capacity decodeCapacityVector_ok_iff fun _ =>
      .total CandidateView.effectiveUsed decodeCapacityVector_ok_iff fun _ =>
      .total CandidateView.available decodeCapacityVector_ok_iff fun _ =>
      .total CandidateView.demand decodeCapacityVector_ok_iff fun _ =>
      .total CandidateView.utilisationPpm readU32_ok_iff fun _ =>
      .total CandidateView.utilisationSaturated readBoolean_ok_iff fun _ =>
      .total CandidateView.loadEvidencePresent readBoolean_ok_iff fun _ =>
      .total CandidateView.loadEvidenceFresh readBoolean_ok_iff fun _ =>
      .total CandidateView.eligible readBoolean_ok_iff fun _ =>
      .total CandidateView.reason decodeReasonCode_ok_iff fun _ =>
      .total CandidateView.rank readU32_ok_iff fun _ =>
      .total CandidateView.fallbackDomain readBoolean_ok_iff fun _ =>
      .done fun v => ?_) fun v => ?_
  · cases v
    simp [and_assoc, eq_comm]
  · unfold CandidateView.encode
    simp only [List.append_assoc, List.append_nil]

theorem readCandidates_ok_iff {maxCount : Nat} (hwidth : maxCount < 2 ^ 32)
    {v : List CandidateView} :
    (readList CandidateView.decode maxCount).run bytes = .ok (v, rest) ↔
      v.length ≤ maxCount ∧
        bytes = writeList CandidateView.encode v ++ rest :=
  readList_ok_iff_of_total (fun _ _ _ => decodeCandidateView_ok_iff) hwidth

/-- What a decoder checks of a placement. -/
structure FlowPlacement.CodecValid (v : FlowPlacement) : Prop where
  ranked : v.ranked.length ≤ kMaxRankedCandidates
  refused : v.refused.length ≤ kMaxExplanationSteps
  explanation : v.explanation.CodecValid

theorem decodeFlowPlacement_ok_iff {v : FlowPlacement} :
    FlowPlacement.decode.run bytes = .ok (v, rest) ↔
      v.CodecValid ∧ bytes = v.encode ++ rest := by
  refine Reads.ok_iff
    (.total FlowPlacement.flow readId_ok_iff fun _ =>
      .total FlowPlacement.flowGeneration readId_ok_iff fun _ =>
      .total FlowPlacement.function readId_ok_iff fun _ =>
      .total FlowPlacement.outcome decodeReasonCode_ok_iff fun _ =>
      .total FlowPlacement.accepted readBoolean_ok_iff fun _ =>
      .total FlowPlacement.fallback readBoolean_ok_iff fun _ =>
      .total FlowPlacement.retained readBoolean_ok_iff fun _ =>
      .total FlowPlacement.changed readBoolean_ok_iff fun _ =>
      .total FlowPlacement.target readId_ok_iff fun _ =>
      .total FlowPlacement.incarnation readId_ok_iff fun _ =>
      .total FlowPlacement.capabilityGeneration readId_ok_iff fun _ =>
      .total FlowPlacement.domain decodeEnum_ok_iff fun _ =>
      .total FlowPlacement.assignment readId_ok_iff fun _ =>
      .total FlowPlacement.recommendation readId_ok_iff fun _ =>
      .total FlowPlacement.alternatives readU32_ok_iff fun _ =>
      .field FlowPlacement.ranked (readCandidates_ok_iff (by decide)) fun _ =>
      .field FlowPlacement.refused (readCandidates_ok_iff (by decide)) fun _ =>
      .field FlowPlacement.explanation decodeExplanation_ok_iff fun _ =>
      .done fun v => ?_) (fun v => ?_) fun v => ?_
  · cases v
    simp [and_assoc, eq_comm]
  · constructor
    · rintro ⟨hranked, hrefused, hexplanation, -⟩
      exact ⟨hranked, hrefused, hexplanation⟩
    · rintro ⟨hranked, hrefused, hexplanation⟩
      exact ⟨hranked, hrefused, hexplanation, trivial⟩
  · unfold FlowPlacement.encode
    simp only [List.append_assoc, List.append_nil]

/-- What a decoder checks of a result. -/
structure PlacementResult.CodecValid (v : PlacementResult) : Prop where
  placements : v.placements.length ≤ kMaxFlows ∧
    ∀ placement ∈ v.placements, placement.CodecValid
  refusals : v.refusalSummary.length ≤ ReasonCode.reasonCodeCount

theorem reasonCodeCount_lt : ReasonCode.reasonCodeCount < 2 ^ 32 := by decide +kernel

theorem decodePlacementResult_ok_iff {v : PlacementResult} :
    PlacementResult.decode.run bytes = .ok (v, rest) ↔
      v.CodecValid ∧ bytes = v.encode ++ rest := by
  cases v
  simp [PlacementResult.decode, PlacementResult.encode,
    Reader.run_bind_ok_iff, readId_ok_iff, decodeReasonCode_ok_iff,
    readBoolean_ok_iff, readDigest_ok_iff,
    readList_ok_iff (fun _ _ _ => decodeFlowPlacement_ok_iff)
      (show kMaxFlows < 2 ^ 32 by decide),
    readList_ok_iff_of_total (fun _ _ _ => decodeReasonCount_ok_iff)
      reasonCodeCount_lt,
    -StateT.run_bind, -bind_pure_comp, -Bool.exists_bool]
  constructor
  · rintro ⟨hbytes, hplacements, hrefusals⟩
    exact ⟨⟨hplacements, hrefusals⟩, hbytes⟩
  · rintro ⟨⟨hplacements, hrefusals⟩, hbytes⟩
    exact ⟨hbytes, hplacements, hrefusals⟩

/-- What a decoder checks of a rebalance report. -/
structure RebalanceReport.CodecValid (v : RebalanceReport) : Prop where
  intents : v.intents.length ≤ kMaxRebalanceMigrations
  refusals : v.refusalSummary.length ≤ ReasonCode.reasonCodeCount
  explanation : v.explanation.CodecValid

theorem decodeRebalanceReport_ok_iff {v : RebalanceReport} :
    RebalanceReport.decode.run bytes = .ok (v, rest) ↔
      v.CodecValid ∧ bytes = v.encode ++ rest := by
  cases v
  simp [RebalanceReport.decode, RebalanceReport.encode,
    Reader.run_bind_ok_iff, readId_ok_iff, decodeReasonCode_ok_iff,
    readU32_ok_iff, readBoolean_ok_iff, decodeExplanation_ok_iff,
    readList_ok_iff_of_total (fun _ _ _ => decodeMigrationIntent_ok_iff)
      (show kMaxRebalanceMigrations < 2 ^ 32 by decide),
    readList_ok_iff_of_total (fun _ _ _ => decodeReasonCount_ok_iff)
      reasonCodeCount_lt,
    -StateT.run_bind, -bind_pure_comp, -Bool.exists_bool]
  constructor
  · rintro ⟨hbytes, hintents, hrefusals, hexplanation⟩
    exact ⟨⟨hintents, hrefusals, hexplanation⟩, hbytes⟩
  · rintro ⟨⟨hintents, hrefusals, hexplanation⟩, hbytes⟩
    exact ⟨hbytes, hintents, hrefusals, hexplanation⟩

/-! ## Greeting -/

theorem decodeHelloRequest_ok_iff {v : HelloRequest} :
    HelloRequest.decode.run bytes = .ok (v, rest) ↔
      TextValid kMaxNameBytes v.clientName ∧ bytes = v.encode ++ rest := by
  cases v
  simp [HelloRequest.decode, HelloRequest.encode, Reader.run_bind_ok_iff,
    readU32_ok_iff, readText_ok_iff (show kMaxNameBytes < 2 ^ 32 by decide),
    -StateT.run_bind, -bind_pure_comp, and_comm]

theorem decodeHelloResponse_ok_iff {v : HelloResponse} :
    HelloResponse.decode.run bytes = .ok (v, rest) ↔
      TextValid kMaxStringBytes v.libraryVersion ∧
        bytes = v.encode ++ rest := by
  cases v
  simp [HelloResponse.decode, HelloResponse.encode, Reader.run_bind_ok_iff,
    readU32_ok_iff, readId_ok_iff, decodeBootId_ok_iff,
    readText_ok_iff (show kMaxStringBytes < 2 ^ 32 by decide),
    -StateT.run_bind, -bind_pure_comp, and_comm]

theorem decodeObservation_ok_iff {v : LoadEvidence × Timestamp} :
    decodeObservation.run bytes = .ok (v, rest) ↔
      bytes = encodeObservation v.1 v.2 ++ rest := by
  cases v
  simp [decodeObservation, encodeObservation, Reader.run_bind_ok_iff,
    decodeLoadEvidence_ok_iff, decodeTimestamp_ok_iff, -StateT.run_bind,
    -bind_pure_comp]

/-! ## Whole payloads -/

theorem decodePayload_eq_some_iff {α : Type} {decode : CanonicalReader α}
    {payload : Bytes} {v : α} :
    decodePayload decode payload = some v ↔
      decode.run payload = .ok (v, []) := by
  unfold decodePayload
  split
  next value heq =>
    rw [heq]
    simp
  next hother =>
    constructor
    · intro h
      cases h
    · intro h
      exact absurd h (hother v)

/-- A value that its decoder admits is all that its payload is read as. -/
theorem decodePayload_encode {α : Type} {valid : α → Prop}
    {encode : α → Bytes} {decode : CanonicalReader α}
    (hdecode : ∀ bytes v rest, decode.run bytes = .ok (v, rest) ↔
      valid v ∧ bytes = encode v ++ rest) {v : α} (h : valid v) :
    decodePayload decode (encode v) = some v := by
  rw [decodePayload_eq_some_iff, hdecode]
  exact ⟨h, (List.append_nil _).symm⟩

end FlowOffload

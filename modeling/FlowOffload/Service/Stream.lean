import FlowOffload.Foundation.Framing
import FlowOffload.Laws.Frames

/-!
# Frames on a stream

How the service and its client take frames off the bytes of a connection.  The
header is read first: a frame that announces more than the bound is refused
before its payload is read.
-/

namespace FlowOffload

open Foundation

inductive Received where
  | oversized (operation : Operation) (correlation : UInt64)
  | broken (status : ReasonCode)
  | frame (frame : Frame)
  deriving DecidableEq, Repr

/-- The operation echoed from a header whose frame is not read. -/
def readOperation (header : Bytes) : Operation :=
  (EnumTraits.ofWire? (getU8 header 6)).getD .hello

/-- The status of a frame that is not decoded. -/
def brokenStatus (status : ReasonCode) : ReasonCode :=
  if status = .protocolOk then .protocolMalformedFrame else status

def decodeReceived (bytes : Bytes) (maxFrameBytes : Nat) : Received :=
  match decodeFrame bytes maxFrameBytes with
  | .error status => .broken (brokenStatus status)
  | .ok frame => .frame frame

/--
The two reads of a frame: `none` while the header or what it announces has not
arrived.  Of an oversized frame only the header is read.
-/
def nextFrame (maxFrameBytes : Nat) (stream : Bytes) :
    Option (Received × Bytes) :=
  if stream.length < kFrameHeaderBytes then none
  else
    let payloadLength := (getU32 stream 0).toNat
    let total := payloadLength + kFrameOverheadBytes
    if payloadLength > kMaxFramePayloadBytes || total > maxFrameBytes then
      some (.oversized (readOperation stream) (getU64 stream 8),
        stream.drop kFrameHeaderBytes)
    else if stream.length < total then none
    else
      some (decodeReceived (stream.take total) maxFrameBytes,
        stream.drop total)

/-! ## Later bytes -/

theorem readOperation_append {bytes : Bytes} (h : 6 < bytes.length)
    (more : Bytes) :
    readOperation (bytes ++ more) = readOperation bytes := by
  unfold readOperation getU8
  rw [List.getD_append _ _ _ _ h]

theorem nextFrame_stable {maxFrameBytes : Nat} {stream rest : Bytes}
    {received : Received}
    (h : nextFrame maxFrameBytes stream = some (received, rest))
    (more : Bytes) :
    nextFrame maxFrameBytes (stream ++ more) =
      some (received, rest ++ more) := by
  unfold nextFrame at h ⊢
  by_cases hheader : stream.length < kFrameHeaderBytes
  · rw [if_pos hheader] at h
    cases h
  · have hlength : 24 ≤ stream.length := Nat.le_of_not_lt hheader
    have hlonger : ¬ (stream ++ more).length < kFrameHeaderBytes := by
      rw [List.length_append]
      omega
    rw [if_neg hheader] at h
    rw [if_neg hlonger, getU32_append (by omega), getU64_append (by omega),
      readOperation_append (by omega)]
    dsimp only at h ⊢
    generalize (getU32 stream 0).toNat = payloadLength at h ⊢
    split at h
    next hover =>
      cases h
      rw [if_pos hover, List.drop_append_of_le_length (i := kFrameHeaderBytes)
        hlength]
    next hfits =>
      rw [if_neg hfits]
      split at h
      · cases h
      next hwhole =>
        cases h
        rw [if_neg (by rw [List.length_append]; omega),
          List.take_append_of_le_length (by omega),
          List.drop_append_of_le_length (by omega)]

/-- The frames of a stream, within a bound. -/
def frames (maxFrameBytes : Nat) : Splitter Received where
  next := nextFrame maxFrameBytes
  stable := nextFrame_stable

/-- An encoded frame at the head of a stream is the frame that is read. -/
theorem nextFrame_encode {frame : Frame} {bound maxFrameBytes : Nat}
    {bytes : Bytes} (hversion : frame.version = kProtocolVersion)
    (h : encodeFrame frame bound = some bytes)
    (hfits : frame.payload.length + kFrameOverheadBytes ≤ maxFrameBytes)
    (more : Bytes) :
    nextFrame maxFrameBytes (bytes ++ more) = some (.frame frame, more) := by
  obtain ⟨⟨-, hbounded⟩, hbytes⟩ := encodeFrame_eq_some_iff.mp h
  have hencode : encodeFrame frame maxFrameBytes = some bytes :=
    encodeFrame_eq_some_iff.mpr ⟨⟨hfits, hbounded⟩, hbytes⟩
  have hframed := framed_of_encodeFrame hversion hencode
  have hlength := hframed.length
  have hheader : kFrameHeaderBytes + 4 ≤ bytes.length := by
    rw [← hlength]
    unfold kFrameOverheadBytes kFrameDigestBytes
    omega
  have hcount : (getU32 (bytes ++ more) 0).toNat = frame.payload.length := by
    rw [getU32_append (by omega), hframed.holds.length]
    refine UInt32.toNat_ofNat_of_lt' (Nat.lt_of_le_of_lt hbounded ?_)
    decide
  have hdecode : decodeReceived bytes maxFrameBytes = .frame frame := by
    rw [decodeReceived, decodeFrame_of_framed hframed]
  unfold nextFrame
  rw [if_neg (by rw [List.length_append]; omega)]
  dsimp only
  rw [hcount, if_neg (by simp; omega),
    if_neg (by rw [List.length_append]; omega), hlength,
    List.take_left, List.drop_left, hdecode]

end FlowOffload

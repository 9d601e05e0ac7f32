import FlowOffload.Service.Protocol
import FlowOffload.Store.Layout

/-!
# Frames round trip

The frame codec accepts exactly what it produces.  Both directions come from
the layout: the bytes of a frame are its fields one after the other, and a byte
string that holds a header is the fields that are read from it.
-/

namespace FlowOffload

open Foundation

/-! ## Fields -/

theorem getU16_at {front : Bytes} {offset : Nat} (h : front.length = offset)
    (value : UInt16) (rest : Bytes) :
    getU16 (front ++ (writeU16 value ++ rest)) offset = value := by
  subst h
  have hlength : (writeU16 value).length = 2 := length_bigEndian 2 _
  have hvalue : value.toNat < 256 ^ 2 := value.toNat_lt
  rw [getU16, List.drop_left, List.take_left' hlength, writeU16,
    ofBigEndian_bigEndian hvalue, UInt16.ofNat_toNat]

theorem getU8_at {front : Bytes} {offset : Nat} (h : front.length = offset)
    (value : UInt8) (rest : Bytes) :
    getU8 (front ++ (writeU8 value ++ rest)) offset = value := by
  subst h
  simp [getU8, writeU8, List.getD_eq_getElem?_getD]

/-- A word that lies inside the bytes is written back as it was read. -/
theorem bigEndian_take_drop {bytes : Bytes} {offset width : Nat}
    (h : offset + width ≤ bytes.length) :
    bigEndian width (ofBigEndian ((bytes.drop offset).take width)) =
      (bytes.drop offset).take width := by
  have hlength : ((bytes.drop offset).take width).length = width := by
    rw [List.length_take, List.length_drop]
    omega
  have hback := bigEndian_ofBigEndian ((bytes.drop offset).take width)
  rwa [hlength] at hback

theorem ofBigEndian_take_lt (bytes : Bytes) (width : Nat) :
    ofBigEndian (bytes.take width) < 256 ^ width := by
  have hlt := ofBigEndian_lt (bytes.take width)
  have hle : (bytes.take width).length ≤ width := by
    rw [List.length_take]
    omega
  exact Nat.lt_of_lt_of_le hlt (Nat.pow_le_pow_right (by decide) hle)

theorem writeU16_getU16 {bytes : Bytes} {offset : Nat}
    (h : offset + 2 ≤ bytes.length) :
    writeU16 (getU16 bytes offset) = (bytes.drop offset).take 2 := by
  have hlt := ofBigEndian_take_lt (bytes.drop offset) 2
  rw [writeU16, getU16, UInt16.toNat_ofNat_of_lt' hlt]
  exact bigEndian_take_drop h

theorem writeU32_getU32 {bytes : Bytes} {offset : Nat}
    (h : offset + 4 ≤ bytes.length) :
    writeU32 (getU32 bytes offset) = (bytes.drop offset).take 4 := by
  have hlt := ofBigEndian_take_lt (bytes.drop offset) 4
  rw [writeU32, getU32, UInt32.toNat_ofNat_of_lt' hlt]
  exact bigEndian_take_drop h

theorem writeU64_getU64 {bytes : Bytes} {offset : Nat}
    (h : offset + 8 ≤ bytes.length) :
    writeU64 (getU64 bytes offset) = (bytes.drop offset).take 8 := by
  have hlt := ofBigEndian_take_lt (bytes.drop offset) 8
  rw [writeU64, getU64, UInt64.toNat_ofNat_of_lt' hlt]
  exact bigEndian_take_drop h

theorem writeU8_getU8 {bytes : Bytes} {offset : Nat}
    (h : offset + 1 ≤ bytes.length) :
    writeU8 (getU8 bytes offset) = (bytes.drop offset).take 1 := by
  rw [writeU8, getU8, List.getD_eq_getElem _ _ (by omega),
    List.drop_eq_getElem_cons (by omega)]
  rfl

/-- What is read at an offset, followed by what is left after it. -/
theorem take_append_drop_at (bytes : Bytes) (offset width : Nat) :
    (bytes.drop offset).take width ++ bytes.drop (offset + width) =
      bytes.drop offset := by
  rw [← List.drop_drop]
  exact List.take_append_drop width (bytes.drop offset)

/-! ## Layout -/

/-- Bytes that hold a header are its fields and the rest. -/
theorem header_fields {bytes : Bytes} (h : kFrameHeaderBytes ≤ bytes.length) :
    writeU32 (getU32 bytes 0) ++ (writeU16 (getU16 bytes 4) ++
      (writeU8 (getU8 bytes 6) ++ (writeU8 (getU8 bytes 7) ++
        (writeU64 (getU64 bytes 8) ++ (writeU32 (getU32 bytes 16) ++
          (writeU32 (getU32 bytes 20) ++ bytes.drop 24)))))) = bytes := by
  have hlength : 24 ≤ bytes.length := h
  rw [writeU32_getU32 (by omega), writeU16_getU16 (by omega),
    writeU8_getU8 (by omega), writeU8_getU8 (by omega),
    writeU64_getU64 (by omega), writeU32_getU32 (by omega),
    writeU32_getU32 (by omega)]
  rw [take_append_drop_at bytes 20 4, take_append_drop_at bytes 16 4,
    take_append_drop_at bytes 8 8, take_append_drop_at bytes 7 1,
    take_append_drop_at bytes 6 1, take_append_drop_at bytes 4 2,
    take_append_drop_at bytes 0 4]
  rfl

@[simp] theorem length_header (frame : Frame) :
    frame.header.length = kFrameHeaderBytes := by
  simp [Frame.header, writeU32, writeU16, writeU8, writeU64,
    kFrameHeaderBytes]

/-- The bytes of a frame, field by field. -/
theorem body_append (frame : Frame) (rest : Bytes) :
    frame.body ++ rest =
      writeU32 (UInt32.ofNat frame.payload.length) ++
        (writeU16 frame.version ++
          (writeU8 (EnumTraits.wire frame.operation) ++
            (writeU8 frame.flags ++ (writeU64 frame.correlation ++
              (writeU32 frame.status.reasonValue ++
                (writeU32 0 ++ (frame.payload ++ rest))))))) := by
  simp only [Frame.body, Frame.header, List.append_assoc]

/-- What is read from the bytes of a frame. -/
structure Holds (bytes : Bytes) (frame : Frame) : Prop where
  length : getU32 bytes 0 = UInt32.ofNat frame.payload.length
  version : getU16 bytes 4 = frame.version
  operation : getU8 bytes 6 = EnumTraits.wire frame.operation
  flags : getU8 bytes 7 = frame.flags
  correlation : getU64 bytes 8 = frame.correlation
  status : getU32 bytes 16 = frame.status.reasonValue
  reserved : getU32 bytes 20 = 0

theorem holds_body (frame : Frame) (rest : Bytes) :
    Holds (frame.body ++ rest) frame := by
  rw [body_append]
  constructor
  case length => exact @getU32_at [] 0 rfl _ _
  case version => exact getU16_at rfl _ _
  case operation =>
    rw [← List.append_assoc]
    exact getU8_at rfl _ _
  case flags =>
    rw [← List.append_assoc, ← List.append_assoc]
    exact getU8_at rfl _ _
  case correlation =>
    rw [← List.append_assoc, ← List.append_assoc, ← List.append_assoc]
    exact getU64_at rfl _ _
  case status =>
    rw [← List.append_assoc, ← List.append_assoc, ← List.append_assoc,
      ← List.append_assoc]
    exact getU32_at rfl _ _
  case reserved =>
    rw [← List.append_assoc, ← List.append_assoc, ← List.append_assoc,
      ← List.append_assoc, ← List.append_assoc]
    exact getU32_at rfl _ _

/-- Bytes that hold the fields of a frame start with its header. -/
theorem Holds.header_append {bytes : Bytes} {frame : Frame}
    (h : Holds bytes frame) (hlength : kFrameHeaderBytes ≤ bytes.length) :
    frame.header ++ bytes.drop kFrameHeaderBytes = bytes := by
  rw [Frame.header, ← h.length, ← h.version, ← h.operation, ← h.flags,
    ← h.correlation, ← h.status, ← h.reserved]
  simp only [List.append_assoc]
  exact header_fields hlength

/-! ## Encoding and decoding -/

theorem encodeFrame_eq_some_iff {frame : Frame} {maxFrameBytes : Nat}
    {bytes : Bytes} :
    encodeFrame frame maxFrameBytes = some bytes ↔
      (frame.payload.length + kFrameOverheadBytes ≤ maxFrameBytes ∧
        frame.payload.length ≤ kMaxFramePayloadBytes) ∧
        bytes = frame.body ++ (Sha256.of frame.body).bytes := by
  unfold encodeFrame
  split
  next hsmall =>
    constructor
    · intro h
      cases h
    · intro h
      omega
  next hroom =>
    dsimp only
    split
    next hover =>
      simp only [Bool.or_eq_true, decide_eq_true_eq] at hover
      constructor
      · intro h
        cases h
      · intro h
        omega
    next hfits =>
      simp only [Bool.or_eq_true, decide_eq_true_eq, not_or] at hfits
      rw [Option.some.injEq]
      constructor
      · intro h
        exact ⟨⟨by omega, by omega⟩, h.symm⟩
      · intro h
        exact h.2.symm

/-- What the decoder checks of the bytes it accepts. -/
structure Framed (bytes : Bytes) (maxFrameBytes : Nat) (frame : Frame) :
    Prop where
  holds : Holds bytes frame
  version : frame.version = kProtocolVersion
  bounded : frame.payload.length ≤ kMaxFramePayloadBytes
  length : frame.payload.length + kFrameOverheadBytes = bytes.length
  fits : bytes.length ≤ maxFrameBytes
  payload : (bytes.drop kFrameHeaderBytes).take frame.payload.length =
    frame.payload
  digest : digestRange bytes 0 (kFrameHeaderBytes + frame.payload.length) =
    storedDigest bytes (kFrameHeaderBytes + frame.payload.length)

theorem framed_of_decodeFrame {bytes : Bytes} {maxFrameBytes : Nat}
    {frame : Frame} (h : decodeFrame bytes maxFrameBytes = .ok frame) :
    Framed bytes maxFrameBytes frame := by
  unfold decodeFrame at h
  split at h
  · cases h
  next hroom =>
    split at h
    · cases h
    next hheader =>
      split at h
      · cases h
      next hfits =>
        dsimp only at h
        split at h
        · cases h
        next hlength =>
          simp only [Bool.or_eq_true, decide_eq_true_eq, not_or,
            not_not, ne_eq] at hlength
          obtain ⟨hbounded, hlength⟩ := hlength
          split at h
          · cases h
          next hversion =>
            split at h
            · cases h
            next hreserved =>
              split at h
              · cases h
              next operation hoperation =>
                split at h
                · cases h
                · split at h
                  · cases h
                  next status hstatus =>
                    split at h
                    · cases h
                    next hdigest =>
                      cases h
                      have hraw := List.find?_some hoperation
                      have hcode := List.find?_some hstatus
                      have hpayload : ((bytes.drop kFrameHeaderBytes).take
                          (getU32 bytes 0).toNat).length =
                            (getU32 bytes 0).toNat := by
                        rw [List.length_take, List.length_drop]
                        unfold kFrameOverheadBytes at hlength
                        omega
                      refine ⟨⟨?_, rfl, ?_, rfl, rfl, ?_, not_not.mp hreserved⟩,
                        not_not.mp hversion, ?_, ?_, Nat.le_of_not_lt hfits,
                        ?_, ?_⟩
                      · rw [hpayload, UInt32.ofNat_toNat]
                      · exact (beq_iff_eq.mp hraw).symm
                      · exact (beq_iff_eq.mp hcode).symm
                      · rw [hpayload]
                        exact Nat.le_of_not_lt hbounded
                      · rw [hpayload]
                        exact hlength
                      · rw [hpayload]
                      · rw [hpayload]
                        exact not_not.mp hdigest

theorem decodeFrame_of_framed {bytes : Bytes} {maxFrameBytes : Nat}
    {frame : Frame} (h : Framed bytes maxFrameBytes frame) :
    decodeFrame bytes maxFrameBytes = .ok frame := by
  have hlength := h.length
  have hfits := h.fits
  have hbounded := h.bounded
  have hcount : (getU32 bytes 0).toNat = frame.payload.length := by
    rw [h.holds.length]
    refine UInt32.toNat_ofNat_of_lt' (Nat.lt_of_le_of_lt hbounded ?_)
    decide
  have hcode := ReasonCode.reasonValue_le frame.status
  unfold decodeFrame
  rw [if_neg (by unfold kFrameOverheadBytes at *; omega),
    if_neg (by unfold kFrameOverheadBytes at *; omega), if_neg (by omega)]
  dsimp only
  rw [hcount, if_neg (by simp; omega), if_neg (by simp [h.holds.version,
    h.version]), if_neg (by simp [h.holds.reserved]), h.holds.operation,
    EnumTraits.ofWire?_wire, h.holds.status]
  dsimp only
  rw [if_neg (UInt32.not_lt.mpr hcode), ReasonCode.ofValue?_reasonValue]
  dsimp only
  rw [if_neg (by simp [h.digest]), h.payload, h.holds.version,
    h.holds.flags, h.holds.correlation]

/-! ## Both directions -/

theorem length_body (frame : Frame) :
    frame.body.length = kFrameHeaderBytes + frame.payload.length := by
  rw [Frame.body, List.length_append, length_header]

/-- An encoded frame passes every check of the decoder. -/
theorem framed_of_encodeFrame {frame : Frame} {maxFrameBytes : Nat}
    {bytes : Bytes} (hversion : frame.version = kProtocolVersion)
    (h : encodeFrame frame maxFrameBytes = some bytes) :
    Framed bytes maxFrameBytes frame := by
  obtain ⟨⟨hfits, hbounded⟩, rfl⟩ := encodeFrame_eq_some_iff.mp h
  have hbody := length_body frame
  have hdigest : (Sha256.of frame.body).bytes.length = kFrameDigestBytes :=
    (Sha256.of frame.body).size
  have hlength : frame.payload.length + kFrameOverheadBytes =
      (frame.body ++ (Sha256.of frame.body).bytes).length := by
    rw [List.length_append, hbody, hdigest, kFrameOverheadBytes]
    omega
  refine ⟨holds_body frame _, hversion, hbounded, hlength, ?_, ?_, ?_⟩
  · rw [← hlength]
    exact hfits
  · rw [Frame.body, List.append_assoc, List.drop_left' (length_header frame),
      List.take_left]
  · rw [digestRange, storedDigest, List.take_left' hbody, List.drop_zero,
      List.drop_left' hbody]
    exact (List.take_of_length_le (Nat.le_of_eq hdigest)).symm

/-- Accepted bytes are the encoding of the frame they decode to. -/
theorem Framed.encodeFrame {bytes : Bytes} {maxFrameBytes : Nat}
    {frame : Frame} (h : Framed bytes maxFrameBytes frame) :
    encodeFrame frame maxFrameBytes = some bytes := by
  have hlength := h.length
  have hfits := h.fits
  have hheader : kFrameHeaderBytes ≤ bytes.length := by
    unfold kFrameOverheadBytes at hlength
    omega
  have hbody : frame.body = bytes.take (kFrameHeaderBytes +
      frame.payload.length) := by
    rw [List.take_add, h.payload, Frame.body]
    congr 1
    have hstart := congrArg (List.take kFrameHeaderBytes)
      (h.holds.header_append hheader)
    rwa [List.take_left' (length_header frame)] at hstart
  have hdigest : (Sha256.of frame.body).bytes =
      bytes.drop (kFrameHeaderBytes + frame.payload.length) := by
    have hrange := h.digest
    rw [digestRange, storedDigest, List.drop_zero, ← hbody] at hrange
    rw [hrange]
    refine List.take_of_length_le (Nat.le_of_eq ?_)
    rw [List.length_drop]
    unfold kFrameOverheadBytes at hlength
    change _ = kFrameDigestBytes
    omega
  refine encodeFrame_eq_some_iff.mpr ⟨⟨by omega, h.bounded⟩, ?_⟩
  rw [hdigest, hbody, List.take_append_drop]

/-- The frame codec accepts exactly what it produces. -/
theorem frames_round_trip :
    (∀ (frame : Frame) (maxFrameBytes : Nat),
      frame.version = kProtocolVersion →
      ((encodeFrame frame maxFrameBytes).isSome = true ↔
        frame.payload.length + kFrameOverheadBytes ≤ maxFrameBytes ∧
          frame.payload.length ≤ kMaxFramePayloadBytes) ∧
      ∀ bytes, encodeFrame frame maxFrameBytes = some bytes →
        decodeFrame bytes maxFrameBytes = .ok frame) ∧
    ∀ (bytes : Bytes) (maxFrameBytes : Nat) (frame : Frame),
      decodeFrame bytes maxFrameBytes = .ok frame →
      encodeFrame frame maxFrameBytes = some bytes := by
  refine ⟨?_, fun _ _ _ h => (framed_of_decodeFrame h).encodeFrame⟩
  intro frame maxFrameBytes hversion
  constructor
  · rw [Option.isSome_iff_exists]
    constructor
    · rintro ⟨bytes, h⟩
      exact (encodeFrame_eq_some_iff.mp h).1
    · intro h
      exact ⟨_, encodeFrame_eq_some_iff.mpr ⟨h, rfl⟩⟩
  · intro bytes h
    exact decodeFrame_of_framed (framed_of_encodeFrame hversion h)

theorem hello_frame_round_trips :
    ∃ bytes, encodeFrame { payload := [1, 2] } 58 = some bytes ∧
      decodeFrame bytes 58 = .ok { payload := [1, 2] } := by
  obtain ⟨hfits, hback⟩ := frames_round_trip.1 { payload := [1, 2] } 58 rfl
  obtain ⟨bytes, hbytes⟩ := Option.isSome_iff_exists.mp
    (hfits.mpr (by decide))
  exact ⟨bytes, hbytes, hback bytes hbytes⟩

end FlowOffload

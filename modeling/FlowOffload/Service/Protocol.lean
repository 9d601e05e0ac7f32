import FlowOffload.Store.Recovery

/-!
# Framed wire protocol

A frame is a fixed header, the payload and a digest over both.  All integers
are big-endian:

    0  4  payload length        8  8  correlation identifier
    4  2  protocol version     16  4  status reason code
    6  1  operation            20  4  reserved, zero
    7  1  flags                24  N  payload, then 32 bytes of digest
-/

namespace FlowOffload

open Foundation

def kProtocolVersion : UInt16 := 1
def kMaxFrameBytes : Nat := 4 * 1024 * 1024
def kMaxFramePayloadBytes : Nat := kMaxFrameBytes - 64
def kFrameHeaderBytes : Nat := 24
def kFrameDigestBytes : Nat := 32
def kFrameOverheadBytes : Nat := kFrameHeaderBytes + kFrameDigestBytes

inductive Operation where
  | hello | declareTarget | registerFlow | ingestLoad | setPolicy
  | registerContract | place | rebalance | explain | exportState | shutdown
  deriving DecidableEq, Repr, Inhabited

/-- The operation byte; the operations are those from 1 to 11. -/
instance : EnumTraits Operation where
  wire
    | .hello => 1
    | .declareTarget => 2
    | .registerFlow => 3
    | .ingestLoad => 4
    | .setPolicy => 5
    | .registerContract => 6
    | .place => 7
    | .rebalance => 8
    | .explain => 9
    | .exportState => 10
    | .shutdown => 11
  values := [.hello, .declareTarget, .registerFlow, .ingestLoad, .setPolicy,
    .registerContract, .place, .rebalance, .explain, .exportState, .shutdown]
  find_wire e := by cases e <;> rfl

structure Frame where
  version : UInt16 := kProtocolVersion
  operation : Operation := .hello
  flags : UInt8 := 0
  correlation : UInt64 := 0
  status : ReasonCode := .protocolOk
  payload : Bytes := []
  deriving DecidableEq, Repr, Inhabited

def writeU16 (value : UInt16) : Bytes := bigEndian 2 value.toNat

def getU16 (bytes : Bytes) (offset : Nat) : UInt16 :=
  UInt16.ofNat (ofBigEndian ((bytes.drop offset).take 2))

def getU8 (bytes : Bytes) (offset : Nat) : UInt8 := bytes.getD offset 0

/-- The header of a frame. -/
def Frame.header (frame : Frame) : Bytes :=
  writeU32 (UInt32.ofNat frame.payload.length) ++ (writeU16 frame.version ++
    (writeU8 (EnumTraits.wire frame.operation) ++ (writeU8 frame.flags ++
      (writeU64 frame.correlation ++ (writeU32 frame.status.reasonValue ++
        writeU32 0)))))

/-- The bytes that the digest of a frame covers. -/
def Frame.body (frame : Frame) : Bytes := frame.header ++ frame.payload

/-- `none` when the payload or the whole frame exceeds its bound. -/
def encodeFrame (frame : Frame) (maxFrameBytes : Nat) : Option Bytes :=
  if maxFrameBytes < kFrameOverheadBytes then none
  else
    let payloadLimit := maxFrameBytes - kFrameOverheadBytes
    if frame.payload.length > payloadLimit ||
        frame.payload.length > kMaxFramePayloadBytes then none
    else some (frame.body ++ (Sha256.of frame.body).bytes)

/--
A failure carries the status that the source leaves in the frame it was given;
it stays `ProtocolOk` when the bound itself is too small for any frame.
-/
def decodeFrame (bytes : Bytes) (maxFrameBytes : Nat) :
    Except ReasonCode Frame :=
  if maxFrameBytes < kFrameOverheadBytes then .error .protocolOk
  else if bytes.length < kFrameHeaderBytes then .error .protocolTruncatedFrame
  else if bytes.length > maxFrameBytes then .error .protocolOversizedFrame
  else
    let payloadLength := (getU32 bytes 0).toNat
    if payloadLength > kMaxFramePayloadBytes ||
        payloadLength + kFrameOverheadBytes ≠ bytes.length then
      .error (if payloadLength + kFrameOverheadBytes > bytes.length then
        .protocolTruncatedFrame else .protocolMalformedFrame)
    else if getU16 bytes 4 ≠ kProtocolVersion then
      .error .protocolUnsupportedVersion
    else if getU32 bytes 20 ≠ 0 then .error .protocolMalformedFrame
    else
      match EnumTraits.ofWire? (getU8 bytes 6) with
      | none => .error .protocolUnknownOperation
      | some operation =>
          let rawStatus := getU32 bytes 16
          if rawStatus > 0xFFFF then .error .protocolMalformedFrame
          else
            match ReasonCode.ofValue? rawStatus with
            | none => .error .protocolMalformedFrame
            | some status =>
                let stop := kFrameHeaderBytes + payloadLength
                if digestRange bytes 0 stop ≠ storedDigest bytes stop then
                  .error .protocolMalformedFrame
                else .ok
                  { version := getU16 bytes 4
                    operation := operation
                    flags := getU8 bytes 7
                    correlation := getU64 bytes 8
                    status := status
                    payload := (bytes.drop kFrameHeaderBytes).take
                      payloadLength }

end FlowOffload

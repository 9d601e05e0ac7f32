import FlowOffload.Engine.Placement
import FlowOffload.Foundation.Text

/-!
# Capability masks as text

The names of the capabilities, and the two functions between a mask and the
comma-separated list of its names.  Text is a byte string.
-/

namespace FlowOffload

open Foundation

def kComma : UInt8 := 0x2C

inductive Capability where
  | connectionTracking | natTranslation | tlsRecordInspection
  | ipsecEspProcessing | vxlanEncap | vxlanDecap | packetClassification
  | statefulAcl | loadBalancingHash | rateMetering | preciseTimestamping
  | programmableParser | atomicCounterUpdate | cryptoAesGcm
  | sharedStateReplication | orderingGuarantee
  deriving DecidableEq, Repr, Inhabited

namespace Capability

/-- The capabilities by ascending bit. -/
def all : List Capability :=
  [.connectionTracking, .natTranslation, .tlsRecordInspection,
   .ipsecEspProcessing, .vxlanEncap, .vxlanDecap, .packetClassification,
   .statefulAcl, .loadBalancingHash, .rateMetering, .preciseTimestamping,
   .programmableParser, .atomicCounterUpdate, .cryptoAesGcm,
   .sharedStateReplication, .orderingGuarantee]

def index : Capability → UInt64
  | .connectionTracking => 0
  | .natTranslation => 1
  | .tlsRecordInspection => 2
  | .ipsecEspProcessing => 3
  | .vxlanEncap => 4
  | .vxlanDecap => 5
  | .packetClassification => 6
  | .statefulAcl => 7
  | .loadBalancingHash => 8
  | .rateMetering => 9
  | .preciseTimestamping => 10
  | .programmableParser => 11
  | .atomicCounterUpdate => 12
  | .cryptoAesGcm => 13
  | .sharedStateReplication => 14
  | .orderingGuarantee => 15

end Capability

def capabilityBit (capability : Capability) : CapabilityMask :=
  1 <<< capability.index

def hasCapability (mask : CapabilityMask) (capability : Capability) : Bool :=
  mask &&& capabilityBit capability != 0

/-- Sorted by name, so that parsing can search it by halving. -/
def kCapabilityTable : List (Capability × Bytes) :=
  [(.atomicCounterUpdate, utf8 "atomic-counter-update"),
   (.connectionTracking, utf8 "connection-tracking"),
   (.cryptoAesGcm, utf8 "crypto-aes-gcm"),
   (.ipsecEspProcessing, utf8 "ipsec-esp-processing"),
   (.loadBalancingHash, utf8 "load-balancing-hash"),
   (.natTranslation, utf8 "nat-translation"),
   (.orderingGuarantee, utf8 "ordering-guarantee"),
   (.packetClassification, utf8 "packet-classification"),
   (.preciseTimestamping, utf8 "precise-timestamping"),
   (.programmableParser, utf8 "programmable-parser"),
   (.rateMetering, utf8 "rate-metering"),
   (.sharedStateReplication, utf8 "shared-state-replication"),
   (.statefulAcl, utf8 "stateful-acl"),
   (.tlsRecordInspection, utf8 "tls-record-inspection"),
   (.vxlanDecap, utf8 "vxlan-decap"),
   (.vxlanEncap, utf8 "vxlan-encap")]

/-- `to_string` of a capability. -/
def Capability.toText (capability : Capability) : Bytes :=
  match kCapabilityTable.find? (fun entry => entry.1 == capability) with
  | some entry => entry.2
  | none => utf8 "unknown"

def capabilityFromString (text : Bytes) : Option Capability :=
  if text.isEmpty then none
  else
    let index := lowerBound (fun entry => decide (entry.2 < text))
      kCapabilityTable kCapabilityTable.length 0 kCapabilityTable.length
    match kCapabilityTable[index]? with
    | none => none
    | some entry => if entry.2 ≠ text then none else some entry.1

def renderCapabilities (mask : CapabilityMask) : Bytes :=
  let out := Capability.all.foldl
    (fun out capability =>
      if !hasCapability mask capability then out
      else
        (if out.isEmpty then out else out ++ [kComma]) ++ capability.toText)
    []
  if out.isEmpty then utf8 "none" else out

/-- `text.find(',', start)`. -/
def findComma (text : Bytes) (start : Nat) : Option Nat :=
  ((text.drop start).findIdx? (· == kComma)).map fun index => start + index

/--
The loop over the items.  Every round moves `start` behind a comma, so one round
more than the text has bytes is enough.
-/
def parseFrom (text : Bytes) :
    Nat → Nat → CapabilityMask → Bool × CapabilityMask
  | 0, _, out => (true, out)
  | fuel + 1, start, out =>
      if start ≤ text.length then
        let comma := findComma text start
        let stop := comma.getD text.length
        let token := (text.drop start).take (stop - start)
        -- the mask that was collected so far stays in place
        if token.isEmpty then (false, out)
        else
          match capabilityFromString token with
          | none => (false, 0)
          | some capability =>
              let out := out ||| capabilityBit capability
              match comma with
              | none => (true, out)
              | some comma => parseFrom text fuel (comma + 1) out
      else (true, out)

/-- The verdict of `parse_capabilities` and the mask it leaves in `out`. -/
def parseCapabilities (text : Bytes) : Bool × CapabilityMask :=
  if text.isEmpty || text == utf8 "none" then (true, 0)
  else parseFrom text (text.length + 1) 0 0

example : parseCapabilities (utf8 "none") = (true, 0) := by decide +kernel

end FlowOffload

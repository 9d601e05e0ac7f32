import Mathlib.Data.List.Basic
import Mathlib.Tactic.Common

/-!
# Enumerations and their wire values

Every enumeration of the model has an explicit wire value.  `EnumTraits` is
the per-enumeration set of admissible values: a byte that is not listed is
never produced by a decode.
-/

namespace FlowOffload

/-- The admissible wire values of an enumeration. -/
class EnumTraits (E : Type) where
  wire : E → UInt8
  values : List E
  find_wire : ∀ e, values.find? (fun c => wire c == wire e) = some e

namespace EnumTraits

variable {E : Type} [EnumTraits E]

/-- The cast of a wire byte, defined only on the admissible values. -/
def ofWire? (raw : UInt8) : Option E :=
  (values (E := E)).find? fun c => wire c == raw

@[simp] theorem ofWire?_wire (e : E) : ofWire? (wire e) = some e :=
  find_wire e

theorem wire_injective : Function.Injective (wire (E := E)) := by
  intro a b h
  have := congrArg (ofWire? (E := E)) h
  simpa using this

end EnumTraits

inductive ExecutionDomain where
  | unknown | host | offloadDevice
  deriving DecidableEq, Repr, Inhabited

instance : EnumTraits ExecutionDomain where
  wire
    | .unknown => 0
    | .host => 1
    | .offloadDevice => 2
  values := [.unknown, .host, .offloadDevice]
  find_wire e := by cases e <;> rfl

inductive TargetKind where
  | unknown | hostKernelPath | hostUserspacePath | nicHardwareOffload
  | smartNic | dpu
  deriving DecidableEq, Repr, Inhabited

instance : EnumTraits TargetKind where
  wire
    | .unknown => 0
    | .hostKernelPath => 1
    | .hostUserspacePath => 2
    | .nicHardwareOffload => 3
    | .smartNic => 4
    | .dpu => 5
  values := [.unknown, .hostKernelPath, .hostUserspacePath,
    .nicHardwareOffload, .smartNic, .dpu]
  find_wire e := by cases e <;> rfl

inductive TargetLifecycle where
  | unknown | discovered | ready | degraded | draining | quiesced | removed
  deriving DecidableEq, Repr, Inhabited

instance : EnumTraits TargetLifecycle where
  wire
    | .unknown => 0
    | .discovered => 1
    | .ready => 2
    | .degraded => 3
    | .draining => 4
    | .quiesced => 5
    | .removed => 6
  values := [.unknown, .discovered, .ready, .degraded, .draining, .quiesced,
    .removed]
  find_wire e := by cases e <;> rfl

inductive Statefulness where
  | unknown | stateless | stateful
  deriving DecidableEq, Repr, Inhabited

instance : EnumTraits Statefulness where
  wire
    | .unknown => 0
    | .stateless => 1
    | .stateful => 2
  values := [.unknown, .stateless, .stateful]
  find_wire e := by cases e <;> rfl

inductive CostClass where
  | unknown | economy | standard | premium | scarce
  deriving DecidableEq, Repr, Inhabited

instance : EnumTraits CostClass where
  wire
    | .unknown => 0
    | .economy => 1
    | .standard => 2
    | .premium => 3
    | .scarce => 4
  values := [.unknown, .economy, .standard, .premium, .scarce]
  find_wire e := by cases e <;> rfl

/-- How observed and scheduled consumption are combined. -/
inductive LoadModel where
  | unknown | observedOnly | scheduledOnly | sumConservative | maximumOfBoth
  deriving DecidableEq, Repr, Inhabited

instance : EnumTraits LoadModel where
  wire
    | .unknown => 0
    | .observedOnly => 1
    | .scheduledOnly => 2
    | .sumConservative => 3
    | .maximumOfBoth => 4
  values := [.unknown, .observedOnly, .scheduledOnly, .sumConservative,
    .maximumOfBoth]
  find_wire e := by cases e <;> rfl

inductive EvidenceState where
  | unknown | known | unsupported | conflicting | stale
  deriving DecidableEq, Repr, Inhabited

instance : EnumTraits EvidenceState where
  wire
    | .unknown => 0
    | .known => 1
    | .unsupported => 2
    | .conflicting => 3
    | .stale => 4
  values := [.unknown, .known, .unsupported, .conflicting, .stale]
  find_wire e := by cases e <;> rfl

inductive DomainPreference where
  | unknown | hostFirst | offloadFirst | hostOnly | offloadOnly
  deriving DecidableEq, Repr, Inhabited

instance : EnumTraits DomainPreference where
  wire
    | .unknown => 0
    | .hostFirst => 1
    | .offloadFirst => 2
    | .hostOnly => 3
    | .offloadOnly => 4
  values := [.unknown, .hostFirst, .offloadFirst, .hostOnly, .offloadOnly]
  find_wire e := by cases e <;> rfl

inductive FallbackPolicy where
  | unknown | forbid | allowHostFallback | allowOffloadFallback
  | allowAnyFallback
  deriving DecidableEq, Repr, Inhabited

instance : EnumTraits FallbackPolicy where
  wire
    | .unknown => 0
    | .forbid => 1
    | .allowHostFallback => 2
    | .allowOffloadFallback => 3
    | .allowAnyFallback => 4
  values := [.unknown, .forbid, .allowHostFallback, .allowOffloadFallback,
    .allowAnyFallback]
  find_wire e := by cases e <;> rfl

inductive LocalityKind where
  | none | sameHostAsFlow | sameDeviceAsFlow
  deriving DecidableEq, Repr, Inhabited

instance : EnumTraits LocalityKind where
  wire
    | .none => 0
    | .sameHostAsFlow => 1
    | .sameDeviceAsFlow => 2
  values := [.none, .sameHostAsFlow, .sameDeviceAsFlow]
  find_wire e := by cases e <;> rfl

/-- How far an accepted decision has actually progressed. -/
inductive EffectState where
  | unknown | intentIssued | acknowledged | applied | verified
  deriving DecidableEq, Repr, Inhabited

instance : EnumTraits EffectState where
  wire
    | .unknown => 0
    | .intentIssued => 1
    | .acknowledged => 2
    | .applied => 3
    | .verified => 4
  values := [.unknown, .intentIssued, .acknowledged, .applied, .verified]
  find_wire e := by cases e <;> rfl

inductive MigrationPhase where
  | unknown | planned | intentIssued | sourceAcknowledged
  | destinationAcknowledged | effectApplied | effectVerified | completed
  | aborted | fenced
  deriving DecidableEq, Repr, Inhabited

instance : EnumTraits MigrationPhase where
  wire
    | .unknown => 0
    | .planned => 1
    | .intentIssued => 2
    | .sourceAcknowledged => 3
    | .destinationAcknowledged => 4
    | .effectApplied => 5
    | .effectVerified => 6
    | .completed => 7
    | .aborted => 8
    | .fenced => 9
  values := [.unknown, .planned, .intentIssued, .sourceAcknowledged,
    .destinationAcknowledged, .effectApplied, .effectVerified, .completed,
    .aborted, .fenced]
  find_wire e := by cases e <;> rfl

inductive MigrationActor where
  | unknown | source | destination
  deriving DecidableEq, Repr, Inhabited

instance : EnumTraits MigrationActor where
  wire
    | .unknown => 0
    | .source => 1
    | .destination => 2
  values := [.unknown, .source, .destination]
  find_wire e := by cases e <;> rfl

/-- True when the lifecycle value denotes a target that may accept new flows. -/
def lifecycleAcceptsNewFlows (value : TargetLifecycle) : Bool :=
  value = .ready

/-- Cost classes are compared by their numeric value. -/
def CostClass.exceeds (a b : CostClass) : Bool :=
  EnumTraits.wire a > EnumTraits.wire b

/-- The three phases an attempt never leaves. -/
def MigrationPhase.isTerminal : MigrationPhase → Bool
  | .completed | .aborted | .fenced => true
  | _ => false

end FlowOffload

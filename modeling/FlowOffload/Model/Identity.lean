import Mathlib.Order.Basic
import Std.Data.ExtTreeMap.Lemmas

/-!
# Strongly typed identities and generations

The source gives every identity its own tag type.  `TypedId` is that template:
a 64-bit value indexed by a phantom `IdTag`, so a flow id cannot be used where
a target id is expected.  The order is the order of the values, which is what
makes the identities usable as ordered-map keys.
-/

namespace FlowOffload

inductive IdTag where
  | flow | host | device | target | processingFunction | evidenceSource
  | migrationContract | exclusiveStateKey
  | flowGeneration | targetIncarnation | capabilityGeneration
  | topologyGeneration | policyGeneration | scheduleGeneration
  | evidenceSequence | coordinatorEpoch | migrationAttempt | fence
  | assignment | recommendation | authorization | request | operation
  deriving DecidableEq, Repr

structure TypedId (tag : IdTag) where
  value : UInt64 := 0
  deriving DecidableEq, Repr

namespace TypedId

variable {tag : IdTag}

/-- A default-constructed identifier is invalid and denotes no entity. -/
def isValid (id : TypedId tag) : Bool := id.value != 0

instance : Inhabited (TypedId tag) := ⟨{}⟩

instance : LT (TypedId tag) := ⟨fun a b => a.value < b.value⟩

instance (a b : TypedId tag) : Decidable (a < b) :=
  inferInstanceAs (Decidable (a.value < b.value))

instance : Ord (TypedId tag) := ⟨fun a b => compare a.value b.value⟩

instance : Std.TransOrd (TypedId tag) where
  eq_swap := Std.OrientedOrd.eq_swap (α := UInt64)
  isLE_trans := Std.TransOrd.isLE_trans (α := UInt64)

instance : Std.LawfulEqOrd (TypedId tag) where
  compare_self := Std.ReflOrd.compare_self (α := UInt64)
  eq_of_compare := by
    rintro ⟨a⟩ ⟨b⟩ h
    exact congrArg _ (Std.LawfulEqOrd.eq_of_compare (α := UInt64) h)

theorem lt_iff_toNat_lt {a b : TypedId tag} :
    a < b ↔ a.value.toNat < b.value.toNat := UInt64.lt_iff_toNat_lt

theorem eq_iff_toNat_eq {a b : TypedId tag} :
    a = b ↔ a.value.toNat = b.value.toNat := by
  obtain ⟨a⟩ := a
  obtain ⟨b⟩ := b
  rw [UInt64.toNat_inj, mk.injEq]

theorem lt_irrefl (a : TypedId tag) : ¬ a < a :=
  UInt64.lt_irrefl a.value

theorem ne_of_lt {a b : TypedId tag} (h : a < b) : a ≠ b := by
  rintro rfl
  exact lt_irrefl a h

theorem lt_asymm {a b : TypedId tag} (h : a < b) : ¬ b < a :=
  UInt64.lt_asymm h

end TypedId

abbrev FlowId := TypedId .flow
abbrev HostId := TypedId .host
abbrev DeviceId := TypedId .device
abbrev TargetId := TypedId .target
abbrev ProcessingFunctionId := TypedId .processingFunction
abbrev EvidenceSourceId := TypedId .evidenceSource
abbrev MigrationContractId := TypedId .migrationContract
abbrev ExclusiveStateKeyId := TypedId .exclusiveStateKey

abbrev FlowGeneration := TypedId .flowGeneration
abbrev TargetIncarnation := TypedId .targetIncarnation
abbrev CapabilityGeneration := TypedId .capabilityGeneration
abbrev TopologyGeneration := TypedId .topologyGeneration
abbrev PolicyGeneration := TypedId .policyGeneration
abbrev ScheduleGeneration := TypedId .scheduleGeneration
abbrev EvidenceSequence := TypedId .evidenceSequence
abbrev CoordinatorEpoch := TypedId .coordinatorEpoch
abbrev MigrationAttemptId := TypedId .migrationAttempt
abbrev FenceId := TypedId .fence
abbrev AssignmentId := TypedId .assignment
abbrev RecommendationId := TypedId .recommendation
abbrev AuthorizationId := TypedId .authorization
abbrev RequestId := TypedId .request
abbrev OperationId := TypedId .operation

/-- Identity of a coordinator process incarnation. -/
structure BootId where
  high : UInt64 := 0
  low : UInt64 := 0
  deriving DecidableEq, Repr, Inhabited

def BootId.isValid (boot : BootId) : Bool := boot.high != 0 || boot.low != 0

/-- Saturating increment of the 64-bit id counters and operational counters. -/
def saturatingIncrement (value : UInt64) : UInt64 :=
  if value = 0xFFFFFFFFFFFFFFFF then value else value + 1

/-- Saturating addition for counters. -/
def saturatingAdd (a b : UInt64) : UInt64 :=
  if a > 0xFFFFFFFFFFFFFFFF - b then 0xFFFFFFFFFFFFFFFF else a + b

end FlowOffload

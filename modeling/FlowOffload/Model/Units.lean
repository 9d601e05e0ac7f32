import Mathlib.Algebra.Ring.Nat
import Mathlib.Order.Basic
import Mathlib.Tactic.Common

/-!
# Typed time and checked capacity arithmetic

Quantities are 64-bit as in the source.  `CapacityVector.part` reads one
dimension of a vector as a natural number; the lemmas beside each operation
say what it does to every part, and later proofs use only these.
-/

namespace FlowOffload

/-- Nanoseconds since an epoch chosen by the caller. -/
structure Timestamp where
  nanos : UInt64 := 0
  deriving DecidableEq, Repr, Inhabited

namespace Timestamp

def isSet (t : Timestamp) : Bool := t.nanos != 0

instance : LT Timestamp := ⟨fun a b => a.nanos < b.nanos⟩

instance (a b : Timestamp) : Decidable (a < b) :=
  inferInstanceAs (Decidable (a.nanos < b.nanos))

end Timestamp

structure Duration where
  nanos : UInt64 := 0
  deriving DecidableEq, Repr, Inhabited

/-- Elapsed time; an inverted pair yields zero rather than wrapping. -/
def saturatingElapsed (later earlier : Timestamp) : Duration :=
  if later.nanos < earlier.nanos then ⟨0⟩
  else ⟨later.nanos - earlier.nanos⟩

def uint64Max : UInt64 := 0xFFFFFFFFFFFFFFFF

def checkedAdd (a b : UInt64) : Option UInt64 :=
  if a > uint64Max - b then none else some (a + b)

def saturatingSub (a b : UInt64) : UInt64 := if a > b then a - b else 0

theorem toNat_uint64Max : uint64Max.toNat = 2 ^ 64 - 1 := rfl

theorem toNat_uint64Max_sub (b : UInt64) :
    (uint64Max - b).toNat = 2 ^ 64 - 1 - b.toNat := by
  have hb := b.toNat_lt
  rw [UInt64.toNat_sub_of_le]
  · rw [toNat_uint64Max]
  · rw [UInt64.le_iff_toNat_le, toNat_uint64Max]
    omega

theorem checkedAdd_eq_some_iff {a b c : UInt64} :
    checkedAdd a b = some c ↔ c.toNat = a.toNat + b.toNat := by
  have ha := a.toNat_lt
  have hb := b.toNat_lt
  have hc := c.toNat_lt
  unfold checkedAdd
  simp only [gt_iff_lt, UInt64.lt_iff_toNat_lt, toNat_uint64Max_sub]
  split
  · constructor
    · intro h
      cases h
    · intro h
      omega
  · constructor
    · intro h
      rw [← Option.some.inj h, UInt64.toNat_add]
      omega
    · intro h
      congr 1
      rw [← UInt64.toNat_inj, UInt64.toNat_add]
      omega

theorem checkedAdd_eq_none_iff {a b : UInt64} :
    checkedAdd a b = none ↔ 2 ^ 64 ≤ a.toNat + b.toNat := by
  have ha := a.toNat_lt
  have hb := b.toNat_lt
  unfold checkedAdd
  simp only [gt_iff_lt, UInt64.lt_iff_toNat_lt, toNat_uint64Max_sub]
  split
  · simp only [true_iff]
    omega
  · simp only [reduceCtorEq, false_iff]
    omega

theorem toNat_saturatingSub (a b : UInt64) :
    (saturatingSub a b).toNat = a.toNat - b.toNat := by
  unfold saturatingSub
  simp only [gt_iff_lt, UInt64.lt_iff_toNat_lt]
  split
  · rw [UInt64.toNat_sub_of_le]
    rw [UInt64.le_iff_toNat_le]
    omega
  · change 0 = _
    omega

/-- Upper bound on the reported utilisation ratio. -/
def kUtilisationPpmSaturated : UInt64 := 2000000

/--
The normalising shift of both operands.  Sixty-four halvings bring any 64-bit
operand below the bound, so the fuel never runs out before the guard fails.
-/
def normaliseOperands : Nat → UInt64 → UInt64 → UInt64 × UInt64
  | 0, used, capacity => (used, capacity)
  | fuel + 1, used, capacity =>
      if used > 0xFFFFFFFF || capacity > 0xFFFFFFFF then
        normaliseOperands fuel (used >>> 1) (capacity >>> 1)
      else (used, capacity)

/--
Utilisation in parts per million with its saturation flag; `none` exactly when
the capacity is zero.
-/
def utilisationPpm (used capacity : UInt64) : Option (UInt32 × Bool) :=
  if capacity = 0 then none
  else
    let (scaledUsed, scaledCapacity) := normaliseOperands 64 used capacity
    if scaledCapacity = 0 then
      some (kUtilisationPpmSaturated.toUInt32, true)
    else
      let ppm := scaledUsed * 1000000 / scaledCapacity
      if ppm > kUtilisationPpmSaturated then
        some (kUtilisationPpmSaturated.toUInt32, true)
      else some (ppm.toUInt32, false)

/-- A four-dimensional capacity vector; dominance is componentwise. -/
structure CapacityVector where
  packetsPerSecond : UInt64 := 0
  bytesPerSecond : UInt64 := 0
  stateBytes : UInt64 := 0
  tableEntries : UInt64 := 0
  deriving DecidableEq, Repr, Inhabited

/-- The four dimensions, in the order the source compares them. -/
inductive Dimension where
  | packetsPerSecond | bytesPerSecond | stateBytes | tableEntries
  deriving DecidableEq, Repr

namespace CapacityVector

def component (v : CapacityVector) : Dimension → UInt64
  | .packetsPerSecond => v.packetsPerSecond
  | .bytesPerSecond => v.bytesPerSecond
  | .stateBytes => v.stateBytes
  | .tableEntries => v.tableEntries

/-- One dimension of a vector as a natural number. -/
def part (v : CapacityVector) (d : Dimension) : Nat := (v.component d).toNat

def zero : CapacityVector := {}

def saturated : CapacityVector :=
  ⟨uint64Max, uint64Max, uint64Max, uint64Max⟩

def dominates (a b : CapacityVector) : Bool :=
  a.packetsPerSecond ≥ b.packetsPerSecond &&
    a.bytesPerSecond ≥ b.bytesPerSecond &&
    a.stateBytes ≥ b.stateBytes && a.tableEntries ≥ b.tableEntries

def exceedsAny (a b : CapacityVector) : Bool :=
  a.packetsPerSecond > b.packetsPerSecond ||
    a.bytesPerSecond > b.bytesPerSecond ||
    a.stateBytes > b.stateBytes || a.tableEntries > b.tableEntries

def checkedAdd (a b : CapacityVector) : Option CapacityVector := do
  let packets ← FlowOffload.checkedAdd a.packetsPerSecond b.packetsPerSecond
  let bytes ← FlowOffload.checkedAdd a.bytesPerSecond b.bytesPerSecond
  let state ← FlowOffload.checkedAdd a.stateBytes b.stateBytes
  let entries ← FlowOffload.checkedAdd a.tableEntries b.tableEntries
  some ⟨packets, bytes, state, entries⟩

/-- `checked_add` with the caller's fallback to the saturated vector. -/
def addOrSaturate (a b : CapacityVector) : CapacityVector :=
  (checkedAdd a b).getD saturated

def saturatingSub (a b : CapacityVector) : CapacityVector :=
  ⟨FlowOffload.saturatingSub a.packetsPerSecond b.packetsPerSecond,
    FlowOffload.saturatingSub a.bytesPerSecond b.bytesPerSecond,
    FlowOffload.saturatingSub a.stateBytes b.stateBytes,
    FlowOffload.saturatingSub a.tableEntries b.tableEntries⟩

def maximum (a b : CapacityVector) : CapacityVector :=
  ⟨max a.packetsPerSecond b.packetsPerSecond,
    max a.bytesPerSecond b.bytesPerSecond,
    max a.stateBytes b.stateBytes, max a.tableEntries b.tableEntries⟩

theorem part_lt (v : CapacityVector) (d : Dimension) : v.part d < 2 ^ 64 :=
  UInt64.toNat_lt _

@[simp] theorem part_zero (d : Dimension) : zero.part d = 0 := by
  cases d <;> rfl

@[simp] theorem part_saturated (d : Dimension) :
    saturated.part d = 2 ^ 64 - 1 := by
  cases d <;> rfl

theorem ext_part {a b : CapacityVector} (h : ∀ d, a.part d = b.part d) :
    a = b := by
  obtain ⟨a1, a2, a3, a4⟩ := a
  obtain ⟨b1, b2, b3, b4⟩ := b
  have h1 := UInt64.toNat_inj.mp (h .packetsPerSecond)
  have h2 := UInt64.toNat_inj.mp (h .bytesPerSecond)
  have h3 := UInt64.toNat_inj.mp (h .stateBytes)
  have h4 := UInt64.toNat_inj.mp (h .tableEntries)
  simp only [component] at h1 h2 h3 h4
  rw [h1, h2, h3, h4]

theorem dominates_iff {a b : CapacityVector} :
    a.dominates b = true ↔ ∀ d, b.part d ≤ a.part d := by
  simp only [dominates, Bool.and_eq_true, decide_eq_true_eq, ge_iff_le,
    UInt64.le_iff_toNat_le]
  constructor
  · rintro ⟨⟨⟨h1, h2⟩, h3⟩, h4⟩ d
    cases d <;> assumption
  · intro h
    exact ⟨⟨⟨h .packetsPerSecond, h .bytesPerSecond⟩, h .stateBytes⟩,
      h .tableEntries⟩

theorem exceedsAny_eq_false_iff {a b : CapacityVector} :
    a.exceedsAny b = false ↔ ∀ d, a.part d ≤ b.part d := by
  simp only [exceedsAny, Bool.or_eq_false_iff, decide_eq_false_iff_not,
    gt_iff_lt, UInt64.lt_iff_toNat_lt, Nat.not_lt]
  constructor
  · rintro ⟨⟨⟨h1, h2⟩, h3⟩, h4⟩ d
    cases d <;> assumption
  · intro h
    exact ⟨⟨⟨h .packetsPerSecond, h .bytesPerSecond⟩, h .stateBytes⟩,
      h .tableEntries⟩

theorem checkedAdd_eq_some_iff {a b c : CapacityVector} :
    checkedAdd a b = some c ↔ ∀ d, c.part d = a.part d + b.part d := by
  constructor
  · intro h d
    simp only [checkedAdd, bind, Option.bind_eq_some_iff,
      Option.some.injEq] at h
    obtain ⟨p, hp, q, hq, r, hr, t, ht, rfl⟩ := h
    cases d with
    | packetsPerSecond => exact FlowOffload.checkedAdd_eq_some_iff.mp hp
    | bytesPerSecond => exact FlowOffload.checkedAdd_eq_some_iff.mp hq
    | stateBytes => exact FlowOffload.checkedAdd_eq_some_iff.mp hr
    | tableEntries => exact FlowOffload.checkedAdd_eq_some_iff.mp ht
  · intro h
    have h1 := FlowOffload.checkedAdd_eq_some_iff.mpr (h .packetsPerSecond)
    have h2 := FlowOffload.checkedAdd_eq_some_iff.mpr (h .bytesPerSecond)
    have h3 := FlowOffload.checkedAdd_eq_some_iff.mpr (h .stateBytes)
    have h4 := FlowOffload.checkedAdd_eq_some_iff.mpr (h .tableEntries)
    simp only [component] at h1 h2 h3 h4
    simp [checkedAdd, h1, h2, h3, h4]

theorem checkedAdd_isSome_iff {a b : CapacityVector} :
    (checkedAdd a b).isSome = true ↔ ∀ d, a.part d + b.part d < 2 ^ 64 := by
  constructor
  · intro h d
    obtain ⟨c, hc⟩ := Option.isSome_iff_exists.mp h
    rw [← checkedAdd_eq_some_iff.mp hc d]
    exact part_lt c d
  · intro h
    have hpart : ∀ d, ((a.component d + b.component d).toNat) =
        a.part d + b.part d := by
      intro d
      rw [UInt64.toNat_add]
      exact Nat.mod_eq_of_lt (h d)
    refine Option.isSome_iff_exists.mpr
      ⟨⟨a.component .packetsPerSecond + b.component .packetsPerSecond,
        a.component .bytesPerSecond + b.component .bytesPerSecond,
        a.component .stateBytes + b.component .stateBytes,
        a.component .tableEntries + b.component .tableEntries⟩, ?_⟩
    rw [checkedAdd_eq_some_iff]
    intro d
    cases d <;> exact hpart _

theorem part_addOrSaturate_of_fits {a b : CapacityVector}
    (h : ∀ d, a.part d + b.part d < 2 ^ 64) (d : Dimension) :
    (addOrSaturate a b).part d = a.part d + b.part d := by
  obtain ⟨c, hc⟩ :=
    Option.isSome_iff_exists.mp (checkedAdd_isSome_iff.mpr h)
  rw [addOrSaturate, hc]
  exact checkedAdd_eq_some_iff.mp hc d

theorem addOrSaturate_of_overflow {a b : CapacityVector} {d : Dimension}
    (h : 2 ^ 64 ≤ a.part d + b.part d) : addOrSaturate a b = saturated := by
  have hnone : checkedAdd a b = none := by
    rw [← Option.not_isSome_iff_eq_none, checkedAdd_isSome_iff]
    intro hall
    have := hall d
    omega
  rw [addOrSaturate, hnone]
  rfl

@[simp] theorem addOrSaturate_zero (a : CapacityVector) :
    addOrSaturate a zero = a := by
  apply ext_part
  intro d
  rw [part_addOrSaturate_of_fits]
  · simp
  · intro d
    simpa using part_lt a d

@[simp] theorem part_saturatingSub (a b : CapacityVector) (d : Dimension) :
    (saturatingSub a b).part d = a.part d - b.part d := by
  cases d <;> exact toNat_saturatingSub _ _

@[simp] theorem saturatingSub_zero (a : CapacityVector) :
    saturatingSub a zero = a := by
  apply ext_part
  intro d
  simp

theorem part_le_maximum_right (a b : CapacityVector) (d : Dimension) :
    b.part d ≤ (maximum a b).part d := by
  have hmax : ∀ x y : UInt64, y.toNat ≤ (max x y).toNat := by
    intro x y
    rw [← UInt64.le_iff_toNat_le, UInt64.max_def]
    split
    · exact UInt64.le_refl y
    · rename_i h
      exact UInt64.le_of_lt (UInt64.not_le.mp h)
  cases d <;> exact hmax _ _

end CapacityVector

/--
Aggregate utilisation: the largest per-dimension ratio and whether any
dimension saturated; `none` when some capacity is zero.
-/
def aggregateUtilisationPpm (used capacity : CapacityVector) :
    Option (UInt32 × Bool) := do
  let packets ← utilisationPpm used.packetsPerSecond capacity.packetsPerSecond
  let bytes ← utilisationPpm used.bytesPerSecond capacity.bytesPerSecond
  let state ← utilisationPpm used.stateBytes capacity.stateBytes
  let entries ← utilisationPpm used.tableEntries capacity.tableEntries
  some (max (max packets.1 bytes.1) (max state.1 entries.1),
    packets.2 || bytes.2 || state.2 || entries.2)

end FlowOffload

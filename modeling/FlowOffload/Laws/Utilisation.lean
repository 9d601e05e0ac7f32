import Mathlib.Order.Bounds.Basic
import FlowOffload.Foundation.ShiftedRatio
import FlowOffload.Model.Units

/-!
# Utilisation

Utilisation is a ratio of operands that are shifted together until both fit into
32 bits.  The bits that the shift drops cost at most one part in a million, and
they never turn the order of two utilisations around.
-/

namespace FlowOffload

open Foundation ShiftedRatio

variable {used used' capacity capacity' : UInt64}

/-! ## The shift of both operands -/

theorem toNat_halved (n : UInt64) : (n >>> 1).toNat = n.toNat / 2 := by
  rw [UInt64.toNat_shiftRight]
  exact Nat.shiftRight_one n.toNat

theorem exceeds_iff : (used > 0xFFFFFFFF || capacity > 0xFFFFFFFF) = true ↔
    0 < shift 32 used.toNat capacity.toNat := by
  have hbound : (0xFFFFFFFF : UInt64).toNat = 2 ^ 32 - 1 := rfl
  rw [shift_pos_iff, Bool.or_eq_true, decide_eq_true_iff, decide_eq_true_iff,
    gt_iff_lt, gt_iff_lt, UInt64.lt_iff_toNat_lt, UInt64.lt_iff_toNat_lt, hbound]
  omega

/-- With as many halvings as needed the loop divides by one power of two. -/
theorem normaliseOperands_eq {fuel : Nat}
    (h : shift 32 used.toNat capacity.toNat ≤ fuel) :
    (normaliseOperands fuel used capacity).1.toNat =
        used.toNat / 2 ^ shift 32 used.toNat capacity.toNat ∧
      (normaliseOperands fuel used capacity).2.toNat =
        capacity.toNat / 2 ^ shift 32 used.toNat capacity.toNat := by
  induction fuel generalizing used capacity with
  | zero =>
      rw [Nat.le_zero.mp h, normaliseOperands]
      simp
  | succ fuel ih =>
      rw [normaliseOperands]
      by_cases hexceeds : used > 0xFFFFFFFF || capacity > 0xFFFFFFFF
      · have hpos := exceeds_iff.mp hexceeds
        have hhalf := shift_half 32 used.toNat capacity.toNat
        rw [← toNat_halved, ← toNat_halved] at hhalf
        obtain ⟨hused, hcapacity⟩ := @ih (used >>> 1) (capacity >>> 1) (by omega)
        have hpow : 2 ^ shift 32 used.toNat capacity.toNat =
            2 * 2 ^ (shift 32 used.toNat capacity.toNat - 1) := by
          rw [← pow_succ', Nat.sub_add_cancel hpos]
        rw [if_pos hexceeds, hused, hcapacity, hhalf, toNat_halved,
          toNat_halved, Nat.div_div_eq_div_mul, Nat.div_div_eq_div_mul, ← hpow]
        exact ⟨rfl, rfl⟩
      · have hzero : shift 32 used.toNat capacity.toNat = 0 :=
          Nat.eq_zero_of_not_pos (fun hpos => hexceeds (exceeds_iff.mpr hpos))
        rw [if_neg hexceeds, hzero]
        simp

theorem shift_le (used capacity : UInt64) :
    shift 32 used.toNat capacity.toNat ≤ 32 := by
  have hmax : max used.toNat capacity.toNat < 2 ^ 64 :=
    Nat.max_lt.mpr ⟨used.toNat_lt, capacity.toNat_lt⟩
  rw [← Nat.size_le] at hmax
  unfold shift
  omega

/-! ## One utilisation -/

/-- The result as a number, where the utilisation is defined. -/
def ppm (used capacity : UInt64) : Option Nat :=
  (utilisationPpm used capacity).map fun result => result.1.toNat

/-- The shifted ratio below the saturation bound; a capacity that the shift
annihilates saturates it. -/
def saturatedRatio (used capacity : Nat) : Nat :=
  if capacity / 2 ^ shift 32 used capacity = 0 then 2000000
  else min (ratio 32 1000000 used capacity) 2000000

theorem toNat_product {scaled : UInt64} (h : scaled.toNat < 2 ^ 32) :
    (scaled * 1000000).toNat = scaled.toNat * 1000000 := by
  have hmillion : (1000000 : UInt64).toNat = 1000000 := rfl
  rw [UInt64.toNat_mul, hmillion, Nat.mod_eq_of_lt (by omega)]

theorem ppm_eq (h : capacity ≠ 0) : ppm used capacity =
    some (saturatedRatio used.toNat capacity.toNat) := by
  have hshift := shift_le used capacity
  obtain ⟨hused, hcapacity⟩ := @normaliseOperands_eq used capacity 64 (by omega)
  have hsmall := left_lt 32 used.toNat capacity.toNat
  have hsaturated : kUtilisationPpmSaturated.toNat = 2000000 := rfl
  have hreported : kUtilisationPpmSaturated.toUInt32.toNat = 2000000 := rfl
  unfold ppm utilisationPpm saturatedRatio
  rw [if_neg h]
  generalize normaliseOperands 64 used capacity = scaled at hused hcapacity
  obtain ⟨scaledUsed, scaledCapacity⟩ := scaled
  dsimp only at hused hcapacity ⊢
  rw [← hused] at hsmall
  have hzero : scaledCapacity = 0 ↔
      capacity.toNat / 2 ^ shift 32 used.toNat capacity.toNat = 0 := by
    rw [← hcapacity, ← UInt64.toNat_inj]
    rfl
  have hquotient : (scaledUsed * 1000000 / scaledCapacity).toNat =
      ratio 32 1000000 used.toNat capacity.toNat := by
    rw [UInt64.toNat_div, toNat_product hsmall, hused, hcapacity, ratio]
  by_cases hnone : scaledCapacity = 0
  · rw [if_pos hnone, if_pos (hzero.mp hnone), Option.map_some, hreported]
  · rw [if_neg hnone, if_neg (fun hgone => hnone (hzero.mpr hgone))]
    by_cases hover : scaledUsed * 1000000 / scaledCapacity >
      kUtilisationPpmSaturated
    · have hlt := UInt64.lt_iff_toNat_lt.mp hover
      rw [if_pos hover, Option.map_some, hreported, Nat.min_eq_right (by omega)]
    · rw [gt_iff_lt, UInt64.lt_iff_toNat_lt] at hover
      rw [if_neg (by rwa [gt_iff_lt, UInt64.lt_iff_toNat_lt]), Option.map_some,
        UInt64.toNat_toUInt32, hquotient, Nat.mod_eq_of_lt (by omega),
        Nat.min_eq_left (by omega)]

theorem ppm_none_iff : ppm used capacity = none ↔ capacity = 0 := by
  constructor
  · intro hnone
    by_contra h
    rw [ppm_eq h] at hnone
    cases hnone
  · rintro rfl
    rfl

theorem ppm_some_iff {value : Nat} : ppm used capacity = some value ↔
    capacity ≠ 0 ∧ value = saturatedRatio used.toNat capacity.toNat := by
  constructor
  · intro hsome
    have h : capacity ≠ 0 := by
      intro hzero
      rw [ppm_none_iff.mpr hzero] at hsome
      cases hsome
    rw [ppm_eq h] at hsome
    exact ⟨h, (Option.some.inj hsome).symm⟩
  · rintro ⟨h, rfl⟩
    exact ppm_eq h

/-! ## Order -/

theorem saturatedRatio_le (used capacity : Nat) :
    saturatedRatio used capacity ≤ 2000000 := by
  unfold saturatedRatio
  split
  · exact Nat.le_refl _
  · exact Nat.min_le_right _ _

theorem saturatedRatio_mono {u u' c : Nat} (h : u ≤ u') :
    saturatedRatio u c ≤ saturatedRatio u' c := by
  by_cases hgone : c / 2 ^ shift 32 u' c = 0
  · rw [saturatedRatio.eq_def u' c, if_pos hgone]
    exact saturatedRatio_le u c
  · have hpos := Nat.pos_of_ne_zero hgone
    have hkept := right_pos_of_left_le h hpos
    rw [saturatedRatio, saturatedRatio, if_neg hgone, if_neg hkept.ne']
    exact min_le_min_right _ (ratio_mono (by decide) h hpos)

theorem saturatedRatio_anti {u c c' : Nat} (h : c ≤ c') :
    saturatedRatio u c' ≤ saturatedRatio u c := by
  by_cases hgone : c / 2 ^ shift 32 u c = 0
  · rw [saturatedRatio.eq_def u c, if_pos hgone]
    exact saturatedRatio_le u c'
  · have hpos := Nat.pos_of_ne_zero hgone
    have hkept := right_pos_of_right_le (by decide) h hpos
    rw [saturatedRatio, saturatedRatio, if_neg hgone, if_neg hkept.ne']
    exact min_le_min_right _ (ratio_anti (by decide) h hpos)

/-! ## Bounds -/

/-- No part of the capacity is lost as long as it is not exceeded. -/
theorem capacity_kept {u c : Nat} (h : u ≤ c) (hc : 0 < c) :
    0 < c / 2 ^ shift 32 u c := by
  rcases (shift 32 u c).eq_zero_or_pos with hzero | hpos
  · rw [hzero]
    simpa using hc
  · have htop := le_max (by decide) hpos
    rw [max_eq_right h] at htop
    omega

theorem saturatedRatio_of_le {u c : Nat} (h : u ≤ c) (hc : 0 < c) :
    saturatedRatio u c = ratio 32 1000000 u c := by
  have hle := @ratio_le 32 1000000 u c h
  rw [saturatedRatio, if_neg (capacity_kept h hc).ne']
  omega

theorem le_saturatedRatio {u c : Nat} (h : c ≤ u) :
    1000000 ≤ saturatedRatio u c := by
  unfold saturatedRatio
  split
  · decide
  next hkept =>
    have hle := @le_ratio 32 1000000 u c h (Nat.pos_of_ne_zero hkept)
    omega

/-- What is true of every utilisation. -/
structure Measured (used capacity : UInt64) : Prop where
  terminates : ∀ fuel, 32 ≤ fuel →
    (normaliseOperands fuel used capacity).1 ≤ 0xFFFFFFFF ∧
      (normaliseOperands fuel used capacity).2 ≤ 0xFFFFFFFF ∧
      normaliseOperands fuel used capacity = normaliseOperands 64 used capacity
  product : (normaliseOperands 64 used capacity).1.toNat * 1000000 < 2 ^ 64
  defined : (ppm used capacity).isSome = true ↔ 0 < capacity
  bounded : ∀ value ∈ ppm used capacity, value ≤ 2000000
  within : used ≤ capacity → ∀ value ∈ ppm used capacity,
    value ≤ 1000000 ∧
      value ≤ used.toNat * 1000000 / capacity.toNat + 1 ∧
      used.toNat * 1000000 / capacity.toNat ≤ value + 1
  beyond : capacity ≤ used → ∀ value ∈ ppm used capacity, 1000000 ≤ value

theorem measured (used capacity : UInt64) : Measured used capacity where
  terminates := by
    intro fuel hfuel
    have hshift := shift_le used capacity
    obtain ⟨hused, hcapacity⟩ :=
      @normaliseOperands_eq used capacity fuel (by omega)
    obtain ⟨hused', hcapacity'⟩ :=
      @normaliseOperands_eq used capacity 64 (by omega)
    have hbound : (0xFFFFFFFF : UInt64).toNat = 2 ^ 32 - 1 := rfl
    have hleft := left_lt 32 used.toNat capacity.toNat
    have hright := right_lt 32 used.toNat capacity.toNat
    rw [UInt64.le_iff_toNat_le, UInt64.le_iff_toNat_le, hbound, hused,
      hcapacity]
    refine ⟨by omega, by omega, Prod.ext ?_ ?_⟩
    · exact UInt64.toNat_inj.mp (hused.trans hused'.symm)
    · exact UInt64.toNat_inj.mp (hcapacity.trans hcapacity'.symm)
  product := by
    have hshift := shift_le used capacity
    have hused := (@normaliseOperands_eq used capacity 64 (by omega)).1
    have hleft := left_lt 32 used.toNat capacity.toNat
    omega
  defined := by
    rw [Option.isSome_iff_ne_none, ne_eq, ppm_none_iff, UInt64.pos_iff_ne_zero]
  bounded := by
    intro value hvalue
    rw [(ppm_some_iff.mp hvalue).2]
    exact saturatedRatio_le _ _
  within := by
    intro h value hvalue
    have hle := UInt64.le_iff_toNat_le.mp h
    obtain ⟨hsome, rfl⟩ := ppm_some_iff.mp hvalue
    have hpos : 0 < capacity.toNat :=
      UInt64.lt_iff_toNat_lt.mp (UInt64.pos_iff_ne_zero.mpr hsome)
    rw [saturatedRatio_of_le hle hpos]
    exact ⟨ratio_le hle, ratio_near (by decide) (by decide) hle⟩
  beyond := by
    intro h value hvalue
    rw [(ppm_some_iff.mp hvalue).2]
    exact le_saturatedRatio (UInt64.le_iff_toNat_le.mp h)

/-! ## The worst dimension -/

/-- The aggregate as a number, where it is defined. -/
def aggregatePpm (used capacity : CapacityVector) : Option Nat :=
  (aggregateUtilisationPpm used capacity).map fun result => result.1.toNat

/-- The utilisation of every dimension, as a set. -/
def parts (used capacity : CapacityVector) : Set Nat :=
  { value | ∃ d, ppm (used.component d) (capacity.component d) = some value }

/-- The aggregate is the greatest of the four utilisations. -/
structure Aggregated (used capacity : CapacityVector) : Prop where
  defined : (aggregatePpm used capacity).isSome = true ↔
    ∀ d, 0 < capacity.component d
  greatest : ∀ value ∈ aggregatePpm used capacity,
    IsGreatest (parts used capacity) value

theorem toNat_max (a b : UInt32) : (max a b).toNat = max a.toNat b.toNat := by
  change (if a ≤ b then b else a).toNat = _
  split
  next h => exact (max_eq_right (UInt32.le_iff_toNat_le.mp h)).symm
  next h =>
    rw [UInt32.le_iff_toNat_le] at h
    exact (max_eq_left (by omega)).symm

theorem aggregatePpm_eq {used capacity : CapacityVector} {value : Nat} :
    aggregatePpm used capacity = some value ↔
      ∃ packets bytes state entries,
        ppm used.packetsPerSecond capacity.packetsPerSecond = some packets ∧
        ppm used.bytesPerSecond capacity.bytesPerSecond = some bytes ∧
        ppm used.stateBytes capacity.stateBytes = some state ∧
        ppm used.tableEntries capacity.tableEntries = some entries ∧
        value = max (max packets bytes) (max state entries) := by
  unfold aggregatePpm aggregateUtilisationPpm ppm
  cases utilisationPpm used.packetsPerSecond capacity.packetsPerSecond with
  | none => simp
  | some packets =>
      cases utilisationPpm used.bytesPerSecond capacity.bytesPerSecond with
      | none => simp
      | some bytes =>
          cases utilisationPpm used.stateBytes capacity.stateBytes with
          | none => simp
          | some state =>
              cases utilisationPpm used.tableEntries capacity.tableEntries with
              | none => simp
              | some entries => simp [toNat_max, eq_comm]

theorem aggregated (used capacity : CapacityVector) :
    Aggregated used capacity where
  defined := by
    constructor
    · intro hsome
      obtain ⟨value, hvalue⟩ := Option.isSome_iff_exists.mp hsome
      obtain ⟨_, _, _, _, hpackets, hbytes, hstate, hentries, -⟩ :=
        aggregatePpm_eq.mp hvalue
      rintro (_ | _ | _ | _)
      · exact UInt64.pos_iff_ne_zero.mpr (ppm_some_iff.mp hpackets).1
      · exact UInt64.pos_iff_ne_zero.mpr (ppm_some_iff.mp hbytes).1
      · exact UInt64.pos_iff_ne_zero.mpr (ppm_some_iff.mp hstate).1
      · exact UInt64.pos_iff_ne_zero.mpr (ppm_some_iff.mp hentries).1
    · intro hpos
      have hsome : ∀ d, capacity.component d ≠ 0 := fun d =>
        UInt64.pos_iff_ne_zero.mp (hpos d)
      exact Option.isSome_iff_exists.mpr ⟨_, aggregatePpm_eq.mpr
        ⟨_, _, _, _, ppm_eq (hsome .packetsPerSecond),
          ppm_eq (hsome .bytesPerSecond), ppm_eq (hsome .stateBytes),
          ppm_eq (hsome .tableEntries), rfl⟩⟩
  greatest := by
    intro value hvalue
    obtain ⟨packets, bytes, state, entries, hpackets, hbytes, hstate, hentries,
      rfl⟩ := aggregatePpm_eq.mp hvalue
    constructor
    · rcases max_choice (max packets bytes) (max state entries) with h | h
      · rw [h]
        rcases max_choice packets bytes with h' | h'
        · exact ⟨.packetsPerSecond, hpackets.trans (congrArg some h'.symm)⟩
        · exact ⟨.bytesPerSecond, hbytes.trans (congrArg some h'.symm)⟩
      · rw [h]
        rcases max_choice state entries with h' | h'
        · exact ⟨.stateBytes, hstate.trans (congrArg some h'.symm)⟩
        · exact ⟨.tableEntries, hentries.trans (congrArg some h'.symm)⟩
    · rintro other ⟨d, hother⟩
      cases d with
      | packetsPerSecond =>
          have heq := Option.some.inj (hpackets.symm.trans hother)
          omega
      | bytesPerSecond =>
          have heq := Option.some.inj (hbytes.symm.trans hother)
          omega
      | stateBytes =>
          have heq := Option.some.inj (hstate.symm.trans hother)
          omega
      | tableEntries =>
          have heq := Option.some.inj (hentries.symm.trans hother)
          omega

theorem ppm_mono {value value' : Nat} (hused : used ≤ used')
    (hcapacity : capacity' ≤ capacity) (h : ppm used capacity = some value)
    (h' : ppm used' capacity' = some value') : value ≤ value' := by
  rw [(ppm_some_iff.mp h).2, (ppm_some_iff.mp h').2]
  exact (saturatedRatio_mono (UInt64.le_iff_toNat_le.mp hused)).trans
    (saturatedRatio_anti (UInt64.le_iff_toNat_le.mp hcapacity))

theorem aggregatePpm_mono {used used' capacity capacity' : CapacityVector}
    {value value' : Nat} (hused : ∀ d, used.component d ≤ used'.component d)
    (hcapacity : ∀ d, capacity'.component d ≤ capacity.component d)
    (h : aggregatePpm used capacity = some value)
    (h' : aggregatePpm used' capacity' = some value') : value ≤ value' := by
  obtain ⟨⟨d, hpart⟩, -⟩ := (aggregated used capacity).greatest value h
  have hdefined := (aggregated used' capacity').defined.mp
    (Option.isSome_iff_exists.mpr ⟨value', h'⟩)
  have hpart' := @ppm_eq (used'.component d) (capacity'.component d)
    (UInt64.pos_iff_ne_zero.mp (hdefined d))
  exact (ppm_mono (hused d) (hcapacity d) hpart hpart').trans
    (((aggregated used' capacity').greatest value' h').2 ⟨d, hpart'⟩)

/--
Over all 64-bit operands the utilisation is defined for every capacity but zero,
accurate up to the capacity, at least a million beyond it, bounded, and ordered
like the exact ratio; and the aggregate is the worst of the four dimensions.
-/
theorem utilisation_is_accurate_and_monotone :
    (∀ used capacity, Measured used capacity) ∧
      (∀ used used' capacity capacity', used ≤ used' → capacity' ≤ capacity →
        ∀ value ∈ ppm used capacity, ∀ value' ∈ ppm used' capacity',
          value ≤ value') ∧
      (∀ used capacity, Aggregated used capacity) ∧
      ∀ used used' capacity capacity' : CapacityVector,
        (∀ d, used.component d ≤ used'.component d) →
        (∀ d, capacity'.component d ≤ capacity.component d) →
        ∀ value ∈ aggregatePpm used capacity,
          ∀ value' ∈ aggregatePpm used' capacity', value ≤ value' :=
  ⟨measured,
    fun _ _ _ _ hused hcapacity _ h _ h' => ppm_mono hused hcapacity h h',
    aggregated,
    fun _ _ _ _ hused hcapacity _ h _ h' =>
      aggregatePpm_mono hused hcapacity h h'⟩

end FlowOffload

import Mathlib.Data.List.Basic
import Mathlib.Tactic.Common
import Mathlib.Tactic.Ring

/-!
# Byte readers and big-endian words

A reader consumes a prefix of a byte string or fails with a reason.  The first
failure ends the computation, so a decode never half-succeeds.  The lemmas
below say exactly which bytes a reader accepts, over words, sequences and
repetitions, and that a reader built from others fails for their reasons only.
-/

namespace FlowOffload.Foundation

abbrev Bytes := List UInt8

/-! ## Big-endian words -/

/-- The `width` low-order bytes of a number, most significant first. -/
def bigEndian : Nat → Nat → Bytes
  | 0, _ => []
  | width + 1, n => UInt8.ofNat (n / 256 ^ width) :: bigEndian width n

def ofBigEndian (bytes : Bytes) : Nat :=
  bytes.foldl (fun value byte => value * 256 + byte.toNat) 0

@[simp] theorem length_bigEndian (width n : Nat) :
    (bigEndian width n).length = width := by
  induction width with
  | zero => rfl
  | succ width ih => simp [bigEndian, ih]

private theorem foldl_bigEndian (width n acc : Nat) :
    (bigEndian width n).foldl (fun value byte => value * 256 + byte.toNat)
        acc =
      acc * 256 ^ width + n % 256 ^ width := by
  induction width generalizing acc with
  | zero => simp [bigEndian, Nat.mod_one]
  | succ width ih =>
      have hbyte : (UInt8.ofNat (n / 256 ^ width)).toNat =
          n / 256 ^ width % 256 := UInt8.toNat_ofNat'
      rw [bigEndian, List.foldl_cons, ih, hbyte, pow_succ, Nat.mod_mul]
      ring

theorem ofBigEndian_bigEndian {width n : Nat} (h : n < 256 ^ width) :
    ofBigEndian (bigEndian width n) = n := by
  rw [ofBigEndian, foldl_bigEndian, Nat.mod_eq_of_lt h]
  simp

private theorem foldl_byte (bytes : Bytes) (acc : Nat) :
    bytes.foldl (fun value byte => value * 256 + byte.toNat) acc =
      acc * 256 ^ bytes.length + ofBigEndian bytes := by
  induction bytes generalizing acc with
  | nil => simp [ofBigEndian]
  | cons byte bytes ih =>
      have hhead : ofBigEndian (byte :: bytes) =
          (0 * 256 + byte.toNat) * 256 ^ bytes.length + ofBigEndian bytes := by
        rw [ofBigEndian, List.foldl_cons, ih]
      rw [List.foldl_cons, ih, hhead, List.length_cons, pow_succ]
      ring

theorem ofBigEndian_cons (byte : UInt8) (bytes : Bytes) :
    ofBigEndian (byte :: bytes) =
      byte.toNat * 256 ^ bytes.length + ofBigEndian bytes := by
  rw [ofBigEndian, List.foldl_cons, foldl_byte]
  simp

theorem ofBigEndian_lt (bytes : Bytes) :
    ofBigEndian bytes < 256 ^ bytes.length := by
  induction bytes with
  | nil => simp [ofBigEndian]
  | cons byte bytes ih =>
      have hbyte : byte.toNat * 256 ^ bytes.length ≤
          255 * 256 ^ bytes.length :=
        Nat.mul_le_mul_right _ (Nat.le_of_lt_succ byte.toNat_lt)
      rw [ofBigEndian_cons, List.length_cons, pow_succ]
      omega

/-- Only the low-order bytes of a number are written. -/
theorem bigEndian_add_mul (width n high : Nat) :
    bigEndian width (high * 256 ^ width + n) = bigEndian width n := by
  induction width generalizing high with
  | zero => rfl
  | succ width ih =>
      have hpos : 0 < 256 ^ width := Nat.pow_pos (by decide)
      have hsplit : high * 256 ^ (width + 1) + n =
          high * 256 * 256 ^ width + n := by
        rw [pow_succ]
        ring
      rw [bigEndian, bigEndian, hsplit, ih, Nat.mul_comm, Nat.add_comm,
        Nat.add_mul_div_left _ _ hpos]
      congr 1
      apply UInt8.toNat_inj.mp
      simp

theorem bigEndian_ofBigEndian (bytes : Bytes) :
    bigEndian bytes.length (ofBigEndian bytes) = bytes := by
  induction bytes with
  | nil => rfl
  | cons byte bytes ih =>
      have hpos : 0 < 256 ^ bytes.length := Nat.pow_pos (by decide)
      rw [ofBigEndian_cons, List.length_cons, bigEndian, bigEndian_add_mul, ih,
        Nat.mul_comm, Nat.add_comm, Nat.add_mul_div_left _ _ hpos,
        Nat.div_eq_of_lt (ofBigEndian_lt bytes), Nat.zero_add,
        UInt8.ofNat_toNat]

/-! ## Readers -/

abbrev Reader (ε : Type) := StateT Bytes (Except ε)

namespace Reader

variable {ε α β : Type}

/-- The next `count` bytes, or the failure `short` when fewer are left. -/
def take (short : ε) (count : Nat) : Reader ε Bytes := fun bytes =>
  if count ≤ bytes.length then .ok (bytes.take count, bytes.drop count)
  else .error short

def reject (reason : ε) : Reader ε α := fun _ => .error reason

/-- `item` read `count` times. -/
def replicate (item : Reader ε α) : Nat → Reader ε (List α)
  | 0 => pure []
  | count + 1 => do
      let head ← item
      let tail ← replicate item count
      pure (head :: tail)

@[simp] theorem run_take_ok_iff {short : ε} {count : Nat}
    {bytes taken rest : Bytes} :
    (take short count).run bytes = .ok (taken, rest) ↔
      taken.length = count ∧ bytes = taken ++ rest := by
  change (if count ≤ bytes.length then
    Except.ok (bytes.take count, bytes.drop count) else Except.error short) =
      Except.ok (taken, rest) ↔ _
  constructor
  · intro h
    split at h
    next hle =>
      cases h
      exact ⟨List.length_take_of_le hle, (List.take_append_drop count bytes).symm⟩
    next => cases h
  · rintro ⟨rfl, rfl⟩
    simp

@[simp] theorem run_reject (reason : ε) (bytes : Bytes) :
    (reject reason : Reader ε α).run bytes = .error reason := rfl

@[simp] theorem except_pure (a : α) : (pure a : Except ε α) = .ok a := rfl

@[simp] theorem run_pure_ok_iff {a b : α} {bytes rest : Bytes} :
    (pure a : Reader ε α).run bytes = .ok (b, rest) ↔ a = b ∧ bytes = rest := by
  change Except.ok (a, bytes) = Except.ok (b, rest) ↔ _
  simp

theorem run_bind_ok_iff {read : Reader ε α} {next : α → Reader ε β}
    {bytes rest : Bytes} {b : β} :
    (read >>= next).run bytes = .ok (b, rest) ↔
      ∃ a middle, read.run bytes = .ok (a, middle) ∧
        (next a).run middle = .ok (b, rest) := by
  rw [StateT.run_bind]
  cases hread : read.run bytes with
  | error reason =>
      constructor
      · intro h
        cases h
      · rintro ⟨a, middle, h, -⟩
        cases h
  | ok result =>
      obtain ⟨a, middle⟩ := result
      constructor
      · intro h
        exact ⟨a, middle, rfl, h⟩
      · rintro ⟨_, _, ⟨⟩, h⟩
        exact h

/-- A check in front of the rest of a reader. -/
theorem run_check_ok_iff {condition : Prop} [Decidable condition] {reason : ε}
    {next : α → Reader ε β} {read : Reader ε β} {bytes rest : Bytes} {b : β} :
    (if condition then reject reason >>= next else read).run bytes =
        .ok (b, rest) ↔
      ¬ condition ∧ read.run bytes = .ok (b, rest) := by
  split
  next hcondition =>
    rw [run_bind_ok_iff]
    simp [hcondition]
  next hcondition => simp [hcondition]

/-- A repetition accepts the concatenation of what its item accepts. -/
theorem run_replicate_ok_iff {valid : α → Prop} {write : α → Bytes}
    {read : Reader ε α}
    (hread : ∀ bytes a rest, read.run bytes = .ok (a, rest) ↔
      valid a ∧ bytes = write a ++ rest)
    {count : Nat} {bytes rest : Bytes} {items : List α} :
    (replicate read count).run bytes = .ok (items, rest) ↔
      items.length = count ∧ (∀ a ∈ items, valid a) ∧
        bytes = items.flatMap write ++ rest := by
  induction count generalizing bytes rest items with
  | zero =>
      rw [replicate, run_pure_ok_iff, List.length_eq_zero_iff]
      constructor
      · rintro ⟨rfl, rfl⟩
        simp
      · rintro ⟨rfl, -, rfl⟩
        simp
  | succ count ih =>
      simp only [replicate, run_bind_ok_iff, run_pure_ok_iff, hread, ih]
      constructor
      · rintro ⟨a, _, ⟨ha, rfl⟩, tail, _, ⟨rfl, htail, rfl⟩, rfl, rfl⟩
        refine ⟨rfl, ?_, by simp [List.append_assoc]⟩
        exact List.forall_mem_cons.mpr ⟨ha, htail⟩
      · rintro ⟨hlength, hvalid, rfl⟩
        cases items with
        | nil => cases hlength
        | cons a tail =>
            refine ⟨a, _, ⟨hvalid a List.mem_cons_self, ?_⟩, tail, rest,
              ⟨Nat.succ.inj hlength, ?_, rfl⟩, rfl, rfl⟩
            · rw [List.flatMap_cons, List.append_assoc]
            · exact fun b hb => hvalid b (List.mem_cons_of_mem a hb)

/-! ## Failures -/

/-- Every failure of the reader has one of the given reasons. -/
class FailsWith (reasons : ε → Prop) (read : Reader ε α) : Prop where
  reason_of_error : ∀ bytes reason, read.run bytes = .error reason →
    reasons reason

variable {reasons : ε → Prop}

theorem failsWith_take {short : ε} (h : reasons short) (count : Nat) :
    FailsWith reasons (take short count) where
  reason_of_error := by
    intro bytes reason herror
    change (if count ≤ bytes.length then
      Except.ok (bytes.take count, bytes.drop count) else Except.error short) =
        Except.error reason at herror
    split at herror
    · cases herror
    · cases herror
      exact h

theorem failsWith_reject {reason : ε} (h : reasons reason) :
    FailsWith reasons (reject reason : Reader ε α) where
  reason_of_error := by
    intro bytes other herror
    cases herror
    exact h

instance (a : α) : FailsWith reasons (pure a : Reader ε α) where
  reason_of_error := by
    intro bytes reason herror
    cases herror

instance (read : Reader ε α) (next : α → Reader ε β)
    [FailsWith reasons read] [∀ a, FailsWith reasons (next a)] :
    FailsWith reasons (read >>= next) where
  reason_of_error := by
    intro bytes reason herror
    rw [StateT.run_bind] at herror
    cases hread : read.run bytes with
    | error first =>
        rw [hread] at herror
        cases herror
        exact FailsWith.reason_of_error bytes reason hread
    | ok result =>
        rw [hread] at herror
        exact FailsWith.reason_of_error result.2 reason herror

instance (condition : Prop) [Decidable condition] (left right : Reader ε α)
    [FailsWith reasons left] [FailsWith reasons right] :
    FailsWith reasons (if condition then left else right) := by
  split <;> infer_instance

instance (read : Reader ε α) [FailsWith reasons read] (count : Nat) :
    FailsWith reasons (replicate read count) := by
  induction count with
  | zero =>
      rw [replicate]
      infer_instance
  | succ count ih =>
      rw [replicate]
      infer_instance

end Reader

end FlowOffload.Foundation

import FlowOffload.Foundation.ByteCodec

/-!
# Checked access to byte strings

Sizes and offsets are 64-bit words.  A sum or a difference that wraps and a
range that leaves the byte string have no result, so what is computed from them
has a result only where neither happens.  A program of reads runs over the rest
of a byte string and over a cursor into it.  The second run always has a result,
and it is that of the first.
-/

namespace FlowOffload.Foundation

namespace Checked

variable {a b : UInt64} {bytes : Bytes}

def size (bytes : Bytes) : UInt64 := UInt64.ofNat bytes.length

def add (a b : UInt64) : Option UInt64 :=
  if a.toNat + b.toNat < 2 ^ 64 then some (a + b) else none

def sub (a b : UInt64) : Option UInt64 := if b ≤ a then some (a - b) else none

/-- The bytes of a range, if all of it lies inside the byte string. -/
def slice (bytes : Bytes) (offset count : UInt64) : Option Bytes :=
  if offset.toNat + count.toNat ≤ bytes.length then
    some ((bytes.drop offset.toNat).take count.toNat)
  else none

theorem toNat_size (h : bytes.length < 2 ^ 64) :
    (size bytes).toNat = bytes.length :=
  UInt64.toNat_ofNat_of_lt' h

theorem add_of_lt (h : a.toNat + b.toNat < 2 ^ 64) :
    ∃ sum, add a b = some sum ∧ sum.toNat = a.toNat + b.toNat := by
  refine ⟨a + b, if_pos h, ?_⟩
  rw [UInt64.toNat_add, Nat.mod_eq_of_lt h]

theorem sub_of_le (h : b.toNat ≤ a.toNat) :
    ∃ difference, sub a b = some difference ∧
      difference.toNat = a.toNat - b.toNat := by
  have hle : b ≤ a := UInt64.le_iff_toNat_le.mpr h
  exact ⟨a - b, if_pos hle, UInt64.toNat_sub_of_le a b hle⟩

theorem slice_of_le {offset count : UInt64}
    (h : offset.toNat + count.toNat ≤ bytes.length) :
    slice bytes offset count =
      some ((bytes.drop offset.toNat).take count.toNat) :=
  if_pos h

end Checked

/-! ## Cursors -/

structure Cursor where
  data : Bytes
  position : UInt64
  deriving DecidableEq, Repr

namespace Cursor

variable {c : Cursor} {ε α : Type}

/-- The bytes that are still to be read. -/
def rest (c : Cursor) : Bytes := c.data.drop c.position.toNat

structure Valid (c : Cursor) : Prop where
  sized : c.data.length < 2 ^ 64
  inside : c.position.toNat ≤ c.data.length

/-- The next bytes, or nothing when too few are left. -/
def take (c : Cursor) (count : UInt64) : Option (Option (Bytes × Cursor)) := do
  let left ← Checked.sub (Checked.size c.data) c.position
  if count > left then some none
  else
    let taken ← Checked.slice c.data c.position count
    let position ← Checked.add c.position count
    some (some (taken, { c with position := position }))

/-- A run over the cursor has the outcome of a run over the rest. -/
inductive Follows (c : Cursor) : Except ε (α × Bytes) →
    Option (Except ε (α × Cursor)) → Prop where
  | failed (reason : ε) : Follows c (.error reason) (some (.error reason))
  | read (a : α) (next : Cursor) (same : next.data = c.data)
      (valid : next.Valid) : Follows c (.ok (a, next.rest)) (some (.ok (a, next)))

theorem length_rest (c : Cursor) :
    c.rest.length = c.data.length - c.position.toNat := by
  simp [rest]

theorem Valid.take_of_lt (h : c.Valid) {count : UInt64}
    (hshort : c.rest.length < count.toNat) : c.take count = some none := by
  have hinside := h.inside
  have hsize := Checked.toNat_size h.sized
  obtain ⟨left, hleft, htoNat⟩ := Checked.sub_of_le (hsize.symm ▸ hinside)
  have hgt : count > left := by
    rw [gt_iff_lt, UInt64.lt_iff_toNat_lt, htoNat, hsize, ← c.length_rest]
    exact hshort
  simp [take, hleft, hgt]

theorem Valid.take_of_le (h : c.Valid) {count : UInt64}
    (henough : count.toNat ≤ c.rest.length) :
    ∃ next : Cursor, c.take count = some (some (c.rest.take count.toNat, next)) ∧
      next.data = c.data ∧ next.Valid ∧
      next.rest = c.rest.drop count.toNat := by
  have hinside := h.inside
  have hsize := Checked.toNat_size h.sized
  have hsized := h.sized
  rw [c.length_rest] at henough
  obtain ⟨left, hleft, htoNat⟩ := Checked.sub_of_le (hsize.symm ▸ hinside)
  have hle : ¬ count > left := by
    rw [gt_iff_lt, UInt64.lt_iff_toNat_lt, htoNat, hsize]
    omega
  have hslice := @Checked.slice_of_le c.data c.position count (by omega)
  obtain ⟨position, hposition, hsum⟩ := Checked.add_of_lt
    (a := c.position) (b := count) (by omega)
  refine ⟨{ c with position := position }, ?_, rfl, ⟨h.sized, ?_⟩, ?_⟩
  · simp [take, hleft, hle, hslice, hposition, rest]
  · change position.toNat ≤ c.data.length
    omega
  · change c.data.drop position.toNat = (c.data.drop c.position.toNat).drop _
    rw [List.drop_drop, hsum]

end Cursor

/-! ## Programs of reads -/

/-- A computation that touches its input only by taking the next bytes. -/
inductive ReadProgram (ε α : Type) where
  | done (a : α)
  | reject (reason : ε)
  | take (short : ε) (count : UInt64) (next : Bytes → ReadProgram ε α)

namespace ReadProgram

variable {ε α β : Type}

/-- The program over the rest of a byte string. -/
def reader : ReadProgram ε α → Reader ε α
  | done a => pure a
  | reject reason => Reader.reject reason
  | take short count next =>
      Reader.take short count.toNat >>= fun taken => (next taken).reader

/-- The program over a cursor, in checked arithmetic. -/
def run : ReadProgram ε α → Cursor → Option (Except ε (α × Cursor))
  | done a, c => some (.ok (a, c))
  | reject reason, _ => some (.error reason)
  | take short count next, c =>
      (c.take count).bind fun outcome =>
        match outcome with
        | none => some (.error short)
        | some (taken, c) => (next taken).run c

def bind : ReadProgram ε α → (α → ReadProgram ε β) → ReadProgram ε β
  | done a, next => next a
  | reject reason, _ => reject reason
  | take short count rest, next =>
      take short count fun taken => (rest taken).bind next

def replicate (item : ReadProgram ε α) : Nat → ReadProgram ε (List α)
  | 0 => done []
  | count + 1 =>
      item.bind fun head => (replicate item count).bind fun tail =>
        done (head :: tail)

theorem reader_bind (program : ReadProgram ε α)
    (next : α → ReadProgram ε β) :
    (program.bind next).reader =
      program.reader >>= fun a => (next a).reader := by
  induction program with
  | done a => rw [bind, reader, pure_bind]
  | reject reason => rfl
  | take short count rest ih =>
      rw [bind, reader, reader, bind_assoc]
      congr 1
      funext taken
      exact ih taken

theorem reader_replicate (item : ReadProgram ε α) (count : Nat) :
    (replicate item count).reader = Reader.replicate item.reader count := by
  induction count with
  | zero => rfl
  | succ count ih =>
      simp only [replicate, Reader.replicate, reader_bind, ih]
      rfl

/-- The run over a cursor never leaves its data, and no offset wraps. -/
theorem follows (program : ReadProgram ε α) {c : Cursor} (h : c.Valid) :
    c.Follows (program.reader.run c.rest) (program.run c) := by
  induction program generalizing c with
  | done a => exact .read a c rfl h
  | reject reason => exact .failed reason
  | take short count next ih =>
      by_cases henough : count.toNat ≤ c.rest.length
      · obtain ⟨c', htake, hdata, hvalid, hrest⟩ := h.take_of_le henough
        have hreader : (take short count next).reader.run c.rest =
            (next (c.rest.take count.toNat)).reader.run c'.rest := by
          rw [reader, StateT.run_bind]
          simp [StateT.run, Reader.take, henough, hrest]
          rfl
        have hrun : (take short count next).run c =
            (next (c.rest.take count.toNat)).run c' := by
          simp [run, htake]
        rw [hreader, hrun]
        have hfollows := ih (c.rest.take count.toNat) hvalid
        generalize (next (c.rest.take count.toNat)).reader.run c'.rest = read
          at hfollows
        generalize (next (c.rest.take count.toNat)).run c' = result
          at hfollows
        cases hfollows with
        | failed reason => exact .failed reason
        | read a last same valid => exact .read a last (same.trans hdata) valid
      · have hreader : (take short count next).reader.run c.rest =
            .error short := by
          rw [reader, StateT.run_bind]
          simp [StateT.run, Reader.take, henough]
          rfl
        have hrun : (take short count next).run c = some (.error short) := by
          simp [run, h.take_of_lt (Nat.lt_of_not_le henough)]
        rw [hreader, hrun]
        exact .failed short

end ReadProgram

/-! ## Readers that are programs -/

/-- A reader together with a program of reads that computes it. -/
class Programmed {ε α : Type} (read : Reader ε α) where
  program : ReadProgram ε α
  reader_program : program.reader = read

namespace Programmed

variable {ε α β : Type}

@[reducible] def take (short : ε) (count : UInt64) :
    Programmed (Reader.take short count.toNat) where
  program := .take short count .done
  reader_program := bind_pure _

instance (reason : ε) : Programmed (Reader.reject reason : Reader ε α) where
  program := .reject reason
  reader_program := rfl

instance (a : α) : Programmed (pure a : Reader ε α) where
  program := .done a
  reader_program := rfl

instance (read : Reader ε α) (next : α → Reader ε β) [Programmed read]
    [∀ a, Programmed (next a)] : Programmed (read >>= next) where
  program := (program read).bind fun a => program (next a)
  reader_program := by
    rw [ReadProgram.reader_bind, reader_program]
    congr 1
    funext a
    exact reader_program

instance (condition : Prop) [Decidable condition] (left right : Reader ε α)
    [Programmed left] [Programmed right] :
    Programmed (if condition then left else right) where
  program := if condition then program left else program right
  reader_program := by
    split
    · exact reader_program
    · exact reader_program

instance (read : Reader ε α) [Programmed read] (count : Nat) :
    Programmed (Reader.replicate read count) where
  program := .replicate (program read) count
  reader_program := by
    rw [ReadProgram.reader_replicate, reader_program]

end Programmed

end FlowOffload.Foundation

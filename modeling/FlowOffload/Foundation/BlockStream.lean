import Mathlib.Data.List.Basic
import Mathlib.Tactic.Common

/-!
# Streams cut into blocks

A function that works on whole blocks can be fed a message in pieces of any
size, if what does not fill a block is kept for the next piece.  `Streamed`
says what such a consumer holds after a message, and `Streamed.feed` that one
more piece keeps it so.
-/

namespace FlowOffload.Foundation

variable {α σ : Type} {width : Nat} {data front : List α}

/-- The whole blocks at the front of the data. -/
def blocks (width : Nat) (data : List α) : List (List α) :=
  (List.range (data.length / width)).map fun index =>
    (data.drop (width * index)).take width

/-- What is left behind the whole blocks. -/
def leftover (width : Nat) (data : List α) : List α :=
  data.drop (width * (data.length / width))

theorem length_leftover_eq (width : Nat) (data : List α) :
    (leftover width data).length = data.length % width := by
  have hdiv := Nat.div_add_mod data.length width
  rw [leftover, List.length_drop]
  omega

theorem length_leftover (hwidth : 0 < width) (data : List α) :
    (leftover width data).length < width := by
  rw [length_leftover_eq]
  exact Nat.mod_lt data.length hwidth

/-- The data are whole blocks and what is left. -/
theorem exists_front (width : Nat) (data : List α) :
    ∃ front, data = front ++ leftover width data ∧ width ∣ front.length := by
  refine ⟨data.take (width * (data.length / width)), ?_, ?_⟩
  · rw [leftover, List.take_append_drop]
  · have hle := Nat.mul_div_le data.length width
    rw [List.length_take_of_le hle]
    exact Nat.dvd_mul_right _ _

theorem length_of_mem_blocks {block : List α}
    (h : block ∈ blocks width data) : block.length = width := by
  obtain ⟨index, hindex, rfl⟩ := List.mem_map.mp h
  have hle : width * index + width ≤ data.length := by
    rw [← Nat.mul_succ]
    exact Nat.le_trans (Nat.mul_le_mul_left width (List.mem_range.mp hindex))
      (Nat.mul_div_le data.length width)
  rw [List.length_take_of_le]
  rw [List.length_drop]
  omega

theorem blocks_of_lt (h : data.length < width) : blocks width data = [] := by
  rw [blocks, Nat.div_eq_of_lt h]
  rfl

theorem leftover_of_lt (h : data.length < width) :
    leftover width data = data := by
  rw [leftover, Nat.div_eq_of_lt h, Nat.mul_zero, List.drop_zero]

theorem leftover_of_dvd (h : width ∣ data.length) :
    leftover width data = [] := by
  rw [leftover, Nat.mul_div_cancel' h, List.drop_length]

theorem leftover_append (hwidth : 0 < width) (hfront : width ∣ front.length) :
    leftover width (front ++ data) = leftover width data := by
  obtain ⟨count, hcount⟩ := hfront
  rw [leftover, List.length_append, hcount, Nat.mul_add_div hwidth,
    Nat.mul_add, ← hcount, List.drop_length_add_append]
  rfl

theorem blocks_append (hwidth : 0 < width) (hfront : width ∣ front.length) :
    blocks width (front ++ data) = blocks width front ++ blocks width data := by
  obtain ⟨count, hcount⟩ := hfront
  unfold blocks
  rw [List.length_append, hcount, Nat.mul_add_div hwidth,
    Nat.mul_div_cancel_left _ hwidth, List.range_add, List.map_append,
    List.map_map]
  congr 1
  · refine List.map_congr_left fun index hindex => ?_
    have hlt := List.mem_range.mp hindex
    have hroom : width * index + width ≤ front.length := by
      rw [hcount, ← Nat.mul_succ]
      exact Nat.mul_le_mul_left width hlt
    rw [List.drop_append_of_le_length (by omega),
      List.take_append_of_le_length (by rw [List.length_drop]; omega)]
  · refine List.map_congr_left fun index _ => ?_
    rw [Function.comp_apply, Nat.mul_add, ← hcount,
      List.drop_length_add_append]

/-- A single block. -/
theorem blocks_single (hwidth : 0 < width) (h : data.length = width) :
    blocks width data = [data] := by
  rw [blocks, h, Nat.div_self hwidth]
  simp [← h]

/-- What a consumer holds after a message: the blocks worked off, and the rest. -/
structure Streamed (process : σ → List α → σ) (width : Nat) (initial : σ)
    (message : List α) (state : σ) (pending : List α) : Prop where
  state : state = (blocks width message).foldl process initial
  pending : pending = leftover width message

namespace Streamed

variable {process : σ → List α → σ} {initial state : σ}
  {message pending : List α}

theorem start (process : σ → List α → σ) (hwidth : 0 < width) (initial : σ) :
    Streamed process width initial [] initial [] :=
  ⟨by rw [blocks_of_lt hwidth]; rfl, (leftover_of_lt hwidth).symm⟩

theorem length_pending (hwidth : 0 < width)
    (h : Streamed process width initial message state pending) :
    pending.length < width := by
  rw [h.pending]
  exact length_leftover hwidth message

/-- One more piece: what was pending goes in front of it. -/
theorem feed (hwidth : 0 < width)
    (h : Streamed process width initial message state pending)
    (piece : List α) :
    Streamed process width initial (message ++ piece)
      ((blocks width (pending ++ piece)).foldl process state)
      (leftover width (pending ++ piece)) := by
  obtain ⟨front, hmessage, hfront⟩ := exists_front width message
  rw [← h.pending] at hmessage
  have hshort := h.length_pending hwidth
  have hblocks : blocks width message = blocks width front := by
    rw [hmessage, blocks_append hwidth hfront, blocks_of_lt hshort,
      List.append_nil]
  constructor
  · rw [hmessage, List.append_assoc, blocks_append hwidth hfront,
      List.foldl_append, h.state, hblocks]
  · rw [hmessage, List.append_assoc, leftover_append hwidth hfront]

end Streamed
end FlowOffload.Foundation

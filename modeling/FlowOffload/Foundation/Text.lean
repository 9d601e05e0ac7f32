import FlowOffload.Foundation.ByteCodec

/-!
# Texts as byte strings

A text is a byte string that is the encoding of some characters.  Such byte
strings are closed under concatenation and under rewritings of single bytes
that touch the bytes below 128 only.
-/

namespace FlowOffload.Foundation

/-- The bytes of a string literal. -/
def utf8 (text : String) : Bytes := text.toUTF8.data.toList

def IsText (bytes : Bytes) : Prop :=
  ∃ characters : List Char,
    bytes = characters.flatMap String.utf8EncodeChar

theorem isText_nil : IsText [] := ⟨[], rfl⟩

theorem IsText.append {bytes others : Bytes} (h : IsText bytes)
    (hothers : IsText others) : IsText (bytes ++ others) := by
  obtain ⟨characters, rfl⟩ := h
  obtain ⟨more, rfl⟩ := hothers
  exact ⟨characters ++ more, List.flatMap_append.symm⟩

theorem isText_utf8 (text : String) : IsText (utf8 text) := by
  refine ⟨text.toList, ?_⟩
  rw [utf8, String.toUTF8_eq_toByteArray, ← String.utf8Encode_toList,
    List.utf8Encode, List.data_toByteArray, List.toList_toArray]

/-- A character below 128 is encoded as one byte. -/
theorem utf8EncodeChar_of_lt {character : Char}
    (h : character.val.toNat < 128) :
    String.utf8EncodeChar character = [UInt8.ofNat character.val.toNat] := by
  simp only [String.utf8EncodeChar]
  rw [if_pos (by omega)]

/-- The encoding of any other character has no byte below 128. -/
theorem le_of_mem_utf8EncodeChar {character : Char} {byte : UInt8}
    (h : 128 ≤ character.val.toNat)
    (hbyte : byte ∈ String.utf8EncodeChar character) : 128 ≤ byte.toNat := by
  simp only [String.utf8EncodeChar] at hbyte
  rw [if_neg (by omega)] at hbyte
  split at hbyte
  · simp only [List.mem_cons, List.not_mem_nil, or_false] at hbyte
    rcases hbyte with rfl | rfl <;> rw [UInt8.toNat_ofNat'] <;> omega
  split at hbyte
  · simp only [List.mem_cons, List.not_mem_nil, or_false] at hbyte
    rcases hbyte with rfl | rfl | rfl <;> rw [UInt8.toNat_ofNat'] <;> omega
  · simp only [List.mem_cons, List.not_mem_nil, or_false] at hbyte
    rcases hbyte with rfl | rfl | rfl | rfl <;>
      rw [UInt8.toNat_ofNat'] <;> omega

/-- Bytes below 128 are characters. -/
theorem isText_of_ascii {bytes : Bytes}
    (h : ∀ byte ∈ bytes, byte.toNat < 128) : IsText bytes := by
  induction bytes with
  | nil => exact isText_nil
  | cons byte bytes ih =>
      have hbyte := h byte List.mem_cons_self
      have hrest := ih fun other hmem => h other (List.mem_cons_of_mem _ hmem)
      have hvalue : (Char.ofNat byte.toNat).val.toNat = byte.toNat := by
        have hsmall : ∀ n < 128, (Char.ofNat n).val.toNat = n := by decide
        exact hsmall _ hbyte
      have hone : IsText [byte] := by
        refine ⟨[Char.ofNat byte.toNat], ?_⟩
        rw [List.flatMap_singleton, utf8EncodeChar_of_lt (by omega), hvalue,
          UInt8.ofNat_toNat]
      exact hone.append hrest

/-- A rewriting of the bytes below 128 by texts turns texts into texts. -/
theorem IsText.flatMap {bytes : Bytes} {rewrite : UInt8 → Bytes}
    (hascii : ∀ byte : UInt8, byte.toNat < 128 → IsText (rewrite byte))
    (hother : ∀ byte : UInt8, 128 ≤ byte.toNat → rewrite byte = [byte])
    (h : IsText bytes) : IsText (bytes.flatMap rewrite) := by
  obtain ⟨characters, rfl⟩ := h
  induction characters with
  | nil => exact isText_nil
  | cons character characters ih =>
      rw [List.flatMap_cons, List.flatMap_append]
      refine IsText.append ?_ ih
      by_cases hsmall : character.val.toNat < 128
      · rw [utf8EncodeChar_of_lt hsmall, List.flatMap_singleton]
        refine hascii _ ?_
        rw [UInt8.toNat_ofNat']
        omega
      · have hsame : (String.utf8EncodeChar character).flatMap rewrite =
            String.utf8EncodeChar character := by
          have hkeep : ∀ byte ∈ String.utf8EncodeChar character,
              rewrite byte = [byte] := fun byte hbyte =>
            hother byte (le_of_mem_utf8EncodeChar (by omega) hbyte)
          rw [List.flatMap_congr hkeep, List.flatMap_singleton']
        rw [hsame]
        exact ⟨[character], (List.flatMap_singleton _ _).symm⟩

end FlowOffload.Foundation

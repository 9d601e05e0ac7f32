import FlowOffload.Foundation.Text

/-!
# JSON texts

The values, and the grammar that says which byte strings denote them.  Numbers
are the unsigned integers.  A string denotes the bytes that un-escaping its body
gives, so it need not denote a text.
-/

namespace FlowOffload.Foundation

inductive Json where
  | null
  | bool (value : Bool)
  | number (value : Nat)
  | string (value : Bytes)
  | array (items : List Json)
  | object (members : List (Bytes × Json))

namespace Json

def kQuote : UInt8 := 0x22
def kBackslash : UInt8 := 0x5C

/-! ## Strings -/

def hexValue (byte : UInt8) : Option Nat :=
  if 0x30 ≤ byte ∧ byte ≤ 0x39 then some (byte.toNat - 0x30)
  else if 0x41 ≤ byte ∧ byte ≤ 0x46 then some (byte.toNat - 0x37)
  else if 0x61 ≤ byte ∧ byte ≤ 0x66 then some (byte.toNat - 0x57)
  else none

/-- The escapes of one character behind the backslash. -/
def shortEscape (byte : UInt8) : Option UInt8 :=
  if byte = kQuote ∨ byte = kBackslash ∨ byte = 0x2F then some byte
  else if byte = 0x62 then some 0x08
  else if byte = 0x66 then some 0x0C
  else if byte = 0x6E then some 0x0A
  else if byte = 0x72 then some 0x0D
  else if byte = 0x74 then some 0x09
  else none

/-- The character behind four hexadecimal digits; half a pair is none. -/
def scalar (a b c d : UInt8) : Option Char := do
  let code := 4096 * (← hexValue a) + 256 * (← hexValue b) +
    16 * (← hexValue c) + (← hexValue d)
  if Nat.isValidChar code then some (Char.ofNat code) else none

/-- What the body of a string denotes. -/
def unescape : Bytes → Option Bytes
  | [] => some []
  | 0x5C :: 0x75 :: a :: b :: c :: d :: body => do
      let character ← scalar a b c d
      (unescape body).map (String.utf8EncodeChar character ++ ·)
  | 0x5C :: mark :: body => do
      let byte ← shortEscape mark
      (unescape body).map (byte :: ·)
  | byte :: body =>
      if byte = kQuote ∨ byte = kBackslash ∨ byte < 0x20 then none
      else (unescape body).map (byte :: ·)

theorem unescape_plain {byte : UInt8} {body : Bytes}
    (h : ¬ (byte = kQuote ∨ byte = kBackslash ∨ byte < 0x20)) :
    unescape (byte :: body) = (unescape body).map (byte :: ·) := by
  rw [unescape]
  · rw [if_neg h]
  · rintro a b c d rest rfl
    simp [kBackslash] at h
  · rintro mark rest rfl
    simp [kBackslash] at h

theorem unescape_short {mark byte : UInt8} {body : Bytes}
    (h : shortEscape mark = some byte) :
    unescape (kBackslash :: mark :: body) =
      (unescape body).map (byte :: ·) := by
  have hmark : mark ≠ 0x75 := by
    rintro rfl
    cases h
  unfold kBackslash
  rw [unescape]
  · rw [h]
    rfl
  · intro a b c d rest hu
    exact absurd hu hmark

theorem unescape_unicode {a b c d : UInt8} {character : Char} {body : Bytes}
    (h : scalar a b c d = some character) :
    unescape (kBackslash :: 0x75 :: a :: b :: c :: d :: body) =
      (unescape body).map (String.utf8EncodeChar character ++ ·) := by
  unfold kBackslash
  rw [unescape, h]
  rfl

/-- The text is a string that denotes `value`. -/
def Quoted (value text : Bytes) : Prop :=
  ∃ body, text = kQuote :: body ++ [kQuote] ∧ unescape body = some value

/-! ## Numbers -/

def digitByte (digit : Nat) : UInt8 := UInt8.ofNat (0x30 + digit)

/-- The text is a number without sign, leading zero, fraction and exponent. -/
def Numeral (value : Nat) (text : Bytes) : Prop :=
  ∃ digits : List Nat, digits ≠ [] ∧ (∀ digit ∈ digits, digit < 10) ∧
    (digits.head? = some 0 → digits = [0]) ∧ text = digits.map digitByte ∧
    digits.foldl (fun value digit => 10 * value + digit) 0 = value

/-! ## Values -/

/-- White space. -/
def Blank (text : Bytes) : Prop :=
  ∀ byte ∈ text, byte = 0x20 ∨ byte = 0x09 ∨ byte = 0x0A ∨ byte = 0x0D

mutual

/-- The text denotes the value. -/
inductive Derives : Json → Bytes → Prop where
  | null : Derives .null (utf8 "null")
  | bool (value : Bool) :
      Derives (.bool value) (utf8 (if value then "true" else "false"))
  | number {value : Nat} {text : Bytes} :
      Numeral value text → Derives (.number value) text
  | string {value text : Bytes} :
      Quoted value text → Derives (.string value) text
  | emptyArray {blank : Bytes} :
      Blank blank → Derives (.array []) (0x5B :: blank ++ [0x5D])
  | array {item : Json} {items : List Json} {text more : Bytes} :
      Derives item text → Items items more →
        Derives (.array (item :: items)) (0x5B :: text ++ more ++ [0x5D])
  | emptyObject {blank : Bytes} :
      Blank blank → Derives (.object []) (0x7B :: blank ++ [0x7D])
  | object {name : Bytes} {value : Json} {members : List (Bytes × Json)}
      {text more : Bytes} :
      Member name value text → Members members more →
        Derives (.object ((name, value) :: members))
          (0x7B :: text ++ more ++ [0x7D])
  | padded {value : Json} {before text after : Bytes} :
      Blank before → Derives value text → Blank after →
        Derives value (before ++ text ++ after)

/-- The further items of an array, each behind a comma. -/
inductive Items : List Json → Bytes → Prop where
  | nil : Items [] []
  | cons {item : Json} {items : List Json} {text more : Bytes} :
      Derives item text → Items items more →
        Items (item :: items) (0x2C :: text ++ more)

inductive Member : Bytes → Json → Bytes → Prop where
  | member {name : Bytes} {value : Json} {before key between text : Bytes} :
      Blank before → Quoted name key → Blank between → Derives value text →
        Member name value (before ++ key ++ between ++ 0x3A :: text)

/-- The further members of an object, each behind a comma. -/
inductive Members : List (Bytes × Json) → Bytes → Prop where
  | nil : Members [] []
  | cons {name : Bytes} {value : Json} {members : List (Bytes × Json)}
      {text more : Bytes} :
      Member name value text → Members members more →
        Members ((name, value) :: members) (0x2C :: text ++ more)

end

mutual

/-- Every string of the value, names included, satisfies `P`. -/
def Strings (P : Bytes → Prop) : Json → Prop
  | .null => True
  | .bool _ => True
  | .number _ => True
  | .string value => P value
  | .array items => ItemStrings P items
  | .object members => MemberStrings P members

def ItemStrings (P : Bytes → Prop) : List Json → Prop
  | [] => True
  | item :: items => Strings P item ∧ ItemStrings P items

def MemberStrings (P : Bytes → Prop) : List (Bytes × Json) → Prop
  | [] => True
  | (name, value) :: members =>
      P name ∧ Strings P value ∧ MemberStrings P members

end

end Json
end FlowOffload.Foundation

import FlowOffload.Service.JsonWriter

/-!
# What the writer writes

The calls that write a value append a text of the grammar behind the separator
that is due, whatever was written before, unless the limit is hit on the way.
-/

namespace FlowOffload

open Foundation Foundation.Json

/-! ## Numbers and strings -/

theorem numeral_decimal (value : Nat) : Numeral value (decimal value) := by
  have hdigits : ∃ digits : List Nat, digits ≠ [] ∧
      (∀ digit ∈ digits, digit < 10) ∧ (digits.head? = some 0 → digits = [0]) ∧
      Nat.toDigits 10 value = digits.map Nat.digitChar ∧
      digits.foldl (fun value digit => 10 * value + digit) 0 = value := by
    induction value using Nat.strong_induction_on with
    | _ value ih =>
        by_cases hsmall : value < 10
        · refine ⟨[value], by simp, by simpa using hsmall, by simp, ?_, by simp⟩
          exact Nat.toDigits_of_lt_base hsmall
        · obtain ⟨digits, hsome, hbound, hhead, htext, hvalue⟩ :=
            ih (value / 10) (by omega)
          refine ⟨digits ++ [value % 10], by simp, ?_, ?_, ?_, ?_⟩
          · intro digit hmem
            rcases List.mem_append.mp hmem with hmem | hmem
            · exact hbound digit hmem
            · rw [List.mem_singleton.mp hmem]
              omega
          · intro hzero
            rw [List.head?_append_of_ne_nil _ hsome] at hzero
            rw [hhead hzero] at hvalue
            simp only [List.foldl_cons, List.foldl_nil] at hvalue
            omega
          · rw [Nat.toDigits_of_base_le (by omega) (by omega), htext,
              List.map_append, List.map_singleton]
          · rw [List.foldl_append, hvalue, List.foldl_cons, List.foldl_nil]
            omega
  obtain ⟨digits, hsome, hbound, hhead, htext, hvalue⟩ := hdigits
  refine ⟨digits, hsome, hbound, hhead, ?_, hvalue⟩
  have hbytes : ∀ digit < 10,
      UInt8.ofNat (Nat.digitChar digit).val.toNat = digitByte digit := by
    decide +kernel
  rw [decimal, htext, List.map_map]
  exact List.map_congr_left fun digit hmem => hbytes digit (hbound digit hmem)

theorem isText_decimal (value : Nat) : IsText (decimal value) := by
  obtain ⟨digits, -, hbound, -, htext, -⟩ := numeral_decimal value
  rw [htext]
  refine isText_of_ascii fun byte hbyte => ?_
  obtain ⟨digit, hmem, rfl⟩ := List.mem_map.mp hbyte
  have hascii : ∀ digit < 10, (digitByte digit).toNat < 128 := by decide
  exact hascii digit (hbound digit hmem)

theorem unescape_escapeByte (byte : UInt8) (body : Bytes) :
    unescape (escapeByte byte ++ body) = (unescape body).map (byte :: ·) := by
  unfold escapeByte
  split
  next h => subst h; exact unescape_short rfl
  split
  next h => subst h; exact unescape_short rfl
  split
  next h => subst h; exact unescape_short rfl
  split
  next h => subst h; exact unescape_short rfl
  split
  next h => subst h; exact unescape_short rfl
  split
  next hcontrol =>
    have hcode : ∀ n < 32,
        scalar 0x30 0x30 (hexDigit (n / 16 % 16)) (hexDigit (n % 16)) =
            some (Char.ofNat n) ∧
          String.utf8EncodeChar (Char.ofNat n) = [UInt8.ofNat n] := by
      decide +kernel
    have hsmall : byte.toNat < 32 := UInt8.lt_iff_toNat_lt.mp hcontrol
    obtain ⟨hscalar, hbyte⟩ := hcode byte.toNat hsmall
    have hstep := @unescape_unicode _ _ _ _ _ body hscalar
    rw [hbyte, UInt8.ofNat_toNat] at hstep
    exact hstep
  next hquote hbackslash _ _ _ hcontrol =>
    refine unescape_plain ?_
    rintro (h | h | h)
    · exact hquote h
    · exact hbackslash h
    · exact hcontrol h

/-- What the writer writes for a string, quotes included. -/
def quote (text : Bytes) : Bytes := 0x22 :: text.flatMap escapeByte ++ [0x22]

theorem quoted_quote (text : Bytes) : Quoted text (quote text) := by
  refine ⟨text.flatMap escapeByte, rfl, ?_⟩
  induction text with
  | nil => rfl
  | cons byte text ih =>
      rw [List.flatMap_cons, unescape_escapeByte, ih]
      rfl

theorem isText_quote {text : Bytes} (h : IsText text) :
    IsText (quote text) := by
  have hquote : IsText [0x22] := isText_utf8 "\""
  refine (hquote.append ?_).append hquote
  refine IsText.flatMap ?_ ?_ h
  · intro byte hbyte
    have hascii : ∀ n < 128, ((escapeByte (UInt8.ofNat n)).all fun written =>
        written.toNat < 128) = true := by
      decide +kernel
    have hwritten := hascii byte.toNat hbyte
    rw [UInt8.ofNat_toNat, List.all_eq_true] at hwritten
    exact isText_of_ascii fun written hmem =>
      of_decide_eq_true (hwritten written hmem)
  · intro byte hbyte
    have hother : ∀ small : UInt8, small.toNat < 128 → byte ≠ small := by
      rintro small hsmall rfl
      omega
    have hnoControl : ¬ byte < 0x20 := fun h => by
      have hlt : byte.toNat < 32 := UInt8.lt_iff_toNat_lt.mp h
      omega
    unfold escapeByte
    rw [if_neg (hother 0x22 (by decide)), if_neg (hother 0x5C (by decide)),
      if_neg (hother 0x0A (by decide)), if_neg (hother 0x0D (by decide)),
      if_neg (hother 0x09 (by decide)), if_neg hnoControl]

/-! ## The calls of the writer -/

namespace JsonWriter

/-- The text is appended, and nothing else happens. -/
def put (json : JsonWriter) (text : Bytes) : JsonWriter :=
  { json with out := json.out ++ text }

theorem put_put (json : JsonWriter) (text more : Bytes) :
    (json.put text).put more = json.put (text ++ more) := by
  simp only [put, List.append_assoc]

@[simp] theorem overflow_separate (json : JsonWriter) :
    json.separate.overflow = json.overflow := by
  unfold separate
  split
  · rfl
  · split <;> rfl

@[simp] theorem pendingValue_separate (json : JsonWriter) :
    json.separate.pendingValue = false := by
  unfold separate
  split
  · rfl
  next h => split <;> simpa using h

theorem overflow_append {json : JsonWriter} {text : Bytes}
    (h : json.overflow = true) : (json.append text).overflow = true := by
  rw [append, if_pos h, h]

theorem overflow_string {json : JsonWriter} {text : Bytes}
    (h : json.overflow = true) : (json.string text).overflow = true := by
  rw [string, if_pos h, h]

theorem append_eq {json : JsonWriter} {text : Bytes}
    (h : (json.append text).overflow = false) :
    json.append text = json.put text := by
  unfold append at h ⊢
  split at h
  next hover => simp [hover] at h
  split at h
  · cases h
  next hover hfits => rw [if_neg hover, if_neg hfits, put]

theorem string_eq {json : JsonWriter} {text : Bytes}
    (h : (json.string text).overflow = false) :
    json.string text = json.put (quote text) := by
  unfold string at h ⊢
  split at h
  next hover => simp [hover] at h
  split at h
  · cases h
  next hover hfits =>
    rw [if_neg hover, if_neg hfits, put, quote, ← List.append_assoc]

/-- Behind a key no separator is due. -/
theorem keyOf_eq {json : JsonWriter} {name : Bytes}
    (h : (json.keyOf name).overflow = false) :
    (json.keyOf name).separate =
      json.separate.put (quote name ++ utf8 ": ") := by
  have happended : ((json.separate.string name).append
      (utf8 ": ")).overflow = false := h
  have hstring : (json.separate.string name).overflow = false := by
    by_contra hover
    rw [overflow_append (by simpa using hover)] at happended
    cases happended
  unfold keyOf
  rw [append_eq happended, string_eq hstring, put_put, separate, if_pos rfl]
  have hpending := pendingValue_separate json
  simp only [put]
  rw [← hpending]

theorem overflow_keyOf {json : JsonWriter} {name : Bytes}
    (h : json.overflow = true) : (json.keyOf name).overflow = true :=
  overflow_append (overflow_string (by rw [overflow_separate, h]))

/-! ## The calls that write a value -/

mutual

def writeValue : Json → JsonWriter → JsonWriter
  | .null, json => json.valueNull
  | .bool value, json => json.valueBool value
  | .number value, json => json.valueUint value
  | .string value, json => json.valueString value
  | .array items, json => (writeItems items json.beginArray).endArray
  | .object members, json => (writeMembers members json.beginObject).endObject

def writeItems : List Json → JsonWriter → JsonWriter
  | [], json => json
  | item :: items, json => writeItems items (writeValue item json)

def writeMembers : List (Bytes × Json) → JsonWriter → JsonWriter
  | [], json => json
  | (name, value) :: members, json =>
      writeMembers members (writeValue value (json.keyOf name))

end

mutual

theorem overflow_writeValue : ∀ (value : Json) (json : JsonWriter),
    json.overflow = true → (writeValue value json).overflow = true
  | .null, _, h => overflow_append (by rw [overflow_separate, h])
  | .bool _, _, h => overflow_append (by rw [overflow_separate, h])
  | .number _, _, h => overflow_append (by rw [overflow_separate, h])
  | .string _, _, h => overflow_string (by rw [overflow_separate, h])
  | .array items, json, h =>
      overflow_writeItems items json.beginArray
        (by rw [beginArray, openWith]; simpa using h)
  | .object members, json, h =>
      overflow_writeMembers members json.beginObject
        (by rw [beginObject, openWith]; simpa using h)

theorem overflow_writeItems : ∀ (items : List Json) (json : JsonWriter),
    json.overflow = true → (writeItems items json).overflow = true
  | [], _, h => h
  | item :: items, json, h =>
      overflow_writeItems items _ (overflow_writeValue item json h)

theorem overflow_writeMembers :
    ∀ (members : List (Bytes × Json)) (json : JsonWriter),
      json.overflow = true → (writeMembers members json).overflow = true
  | [], _, h => h
  | (_, value) :: members, _, h =>
      overflow_writeMembers members _
        (overflow_writeValue value _ (overflow_keyOf h))

end

/-! ## What a value is written as -/

/-- `after` is `before` with a text of the grammar behind the separator. -/
structure Written (value : Json) (before after : JsonWriter) (text : Bytes) :
    Prop where
  derives : Derives value text
  isText : Strings IsText value → IsText text
  eq : after = before.separate.put text

theorem separate_first {json : JsonWriter} {outer : List Bool}
    (hpending : json.pendingValue = false) (hstack : json.stack = true :: outer) :
    json.separate = { json with stack := false :: outer } := by
  rw [separate, hpending, if_neg Bool.false_ne_true, hstack]

theorem separate_further {json : JsonWriter} {outer : List Bool}
    (hpending : json.pendingValue = false)
    (hstack : json.stack = false :: outer) :
    json.separate = json.put [0x2C] := by
  obtain ⟨out, stack, limit, overflow, pendingValue⟩ := json
  dsimp only at hpending hstack
  subst hpending hstack
  rfl

/-- The writer behind an opening bracket, with nothing or something in it. -/
def opened (json : JsonWriter) (bracket : UInt8) (fresh : Bool) : JsonWriter :=
  { json.separate with
    out := json.separate.out ++ [bracket]
    stack := fresh :: json.separate.stack }

theorem separate_opened (json : JsonWriter) (bracket : UInt8) :
    (json.opened bracket true).separate = json.opened bracket false :=
  separate_first (pendingValue_separate json) rfl

/-- A closing bracket restores everything but the text. -/
theorem closeWith_put (json : JsonWriter) (opening closing : UInt8)
    (fresh : Bool) (text : Bytes) :
    ((json.opened opening fresh).put text).closeWith closing =
      json.separate.put (opening :: text ++ [closing]) := by
  have hpending := pendingValue_separate json
  simp only [closeWith, put, opened, List.tail_cons, List.append_assoc,
    List.cons_append, List.nil_append, ← hpending]

theorem closeWith_opened (json : JsonWriter) (opening closing : UInt8) :
    (json.openWith opening).closeWith closing =
      json.separate.put [opening, closing] := by
  have hclosed := closeWith_put json opening closing true []
  rw [show (json.opened opening true).put [] = json.openWith opening by
    simp [put, opened, openWith]] at hclosed
  exact hclosed

theorem isText_bracketed {text : Bytes} {opening closing : UInt8}
    (hopening : opening.toNat < 128) (hclosing : closing.toNat < 128)
    (h : IsText text) : IsText (opening :: text ++ [closing]) := by
  have hfirst : IsText [opening] :=
    isText_of_ascii (by simpa using hopening)
  have hlast : IsText [closing] := isText_of_ascii (by simpa using hclosing)
  exact (hfirst.append h).append hlast

/-- A value behind its key is a member. -/
theorem member_written {name : Bytes} {value : Json} {json : JsonWriter}
    {text : Bytes} (hok : (json.keyOf name).overflow = false)
    (h : Written value (json.keyOf name) (writeValue value (json.keyOf name))
      text) :
    Member name value (quote name ++ utf8 ": " ++ text) ∧
      (IsText name → Strings IsText value →
        IsText (quote name ++ utf8 ": " ++ text)) ∧
      writeValue value (json.keyOf name) =
        json.separate.put (quote name ++ utf8 ": " ++ text) := by
  refine ⟨?_, ?_, ?_⟩
  · have hblank : Blank [] := nofun
    have hspace : Blank [0x20] := by simp [Blank]
    have hvalue := Derives.padded hspace h.derives hblank
    have hmember := Member.member hblank (quoted_quote name) hblank hvalue
    rw [List.append_nil, List.append_nil, List.nil_append] at hmember
    have hcolon : utf8 ": " = [0x3A, 0x20] := by decide +kernel
    rw [hcolon, List.append_assoc]
    exact hmember
  · intro hname hstrings
    exact ((isText_quote hname).append (isText_utf8 ": ")).append
      (h.isText hstrings)
  · rw [h.eq, keyOf_eq hok, put_put]

mutual

theorem value_written : ∀ (value : Json) (json : JsonWriter),
    (writeValue value json).overflow = false →
      ∃ text, Written value json (writeValue value json) text
  | .null, _, h => ⟨_, .null, fun _ => isText_utf8 _, append_eq h⟩
  | .bool value, _, h => ⟨_, .bool value, fun _ => isText_utf8 _, append_eq h⟩
  | .number value, _, h =>
      ⟨_, .number (numeral_decimal value), fun _ => isText_decimal value,
        append_eq h⟩
  | .string value, _, h =>
      ⟨_, .string (quoted_quote value), isText_quote, string_eq h⟩
  | .array [], json, h => by
      have hblank : Blank [] := nofun
      refine ⟨_, .emptyArray hblank, fun _ => ?_, closeWith_opened json _ _⟩
      exact isText_bracketed (by decide) (by decide) isText_nil
  | .array (item :: items), json, h => by
      have hopen := separate_opened json 0x5B
      have hrest : (writeItems items (writeValue item
          (json.opened 0x5B true))).overflow = false := h
      have hitem : (writeValue item (json.opened 0x5B true)).overflow =
          false := by
        by_contra hover
        rw [overflow_writeItems items _ (by simpa using hover)] at hrest
        cases hrest
      obtain ⟨text, hwritten⟩ := value_written item (json.opened 0x5B true) hitem
      have hnext := hwritten.eq
      rw [hopen] at hnext
      obtain ⟨more, hmore, htext, hlater⟩ := items_written items
        (writeValue item (json.opened 0x5B true)) json.separate.stack
        (by rw [hnext]; exact pendingValue_separate json)
        (by rw [hnext]; rfl) hrest
      have hafter : writeItems items (writeValue item (json.opened 0x5B true)) =
          (json.opened 0x5B false).put (text ++ more) := by
        rw [hlater, hnext, put_put]
      refine ⟨0x5B :: text ++ more ++ [0x5D], .array hwritten.derives hmore, ?_,
        ?_⟩
      · rintro ⟨hstrings, hothers⟩
        exact isText_bracketed (by decide) (by decide)
          ((hwritten.isText hstrings).append (htext hothers))
      · have hclosed := closeWith_put json 0x5B 0x5D false (text ++ more)
        rw [← hafter] at hclosed
        exact hclosed
  | .object [], json, h => by
      have hblank : Blank [] := nofun
      refine ⟨_, .emptyObject hblank, fun _ => ?_, closeWith_opened json _ _⟩
      exact isText_bracketed (by decide) (by decide) isText_nil
  | .object ((name, value) :: members), json, h => by
      have hopen := separate_opened json 0x7B
      have hrest : (writeMembers members (writeValue value
          ((json.opened 0x7B true).keyOf name))).overflow = false := h
      have hvalue : (writeValue value
          ((json.opened 0x7B true).keyOf name)).overflow = false := by
        by_contra hover
        rw [overflow_writeMembers members _ (by simpa using hover)] at hrest
        cases hrest
      have hkey : ((json.opened 0x7B true).keyOf name).overflow = false := by
        by_contra hover
        rw [overflow_writeValue value _ (by simpa using hover)] at hvalue
        cases hvalue
      obtain ⟨text, hwritten⟩ := value_written value
        ((json.opened 0x7B true).keyOf name) hvalue
      obtain ⟨hmember, hstrings, hnext⟩ := member_written hkey hwritten
      rw [hopen] at hnext
      obtain ⟨more, hmore, htext, hlater⟩ := members_written members
        (writeValue value ((json.opened 0x7B true).keyOf name))
        json.separate.stack (by rw [hnext]; exact pendingValue_separate json)
        (by rw [hnext]; rfl) hrest
      have hafter : writeMembers members
            (writeValue value ((json.opened 0x7B true).keyOf name)) =
          (json.opened 0x7B false).put
            (quote name ++ utf8 ": " ++ text ++ more) := by
        rw [hlater, hnext, put_put]
      refine ⟨_, .object hmember hmore, ?_, ?_⟩
      · rintro ⟨hname, hinner, hothers⟩
        exact isText_bracketed (by decide) (by decide)
          ((hstrings hname hinner).append (htext hothers))
      · have hclosed := closeWith_put json 0x7B 0x7D false
          (quote name ++ utf8 ": " ++ text ++ more)
        rw [← hafter] at hclosed
        exact hclosed

/-- The further items of an open array. -/
theorem items_written : ∀ (items : List Json) (json : JsonWriter)
    (outer : List Bool), json.pendingValue = false →
      json.stack = false :: outer → (writeItems items json).overflow = false →
      ∃ more, Items items more ∧ (ItemStrings IsText items → IsText more) ∧
        writeItems items json = json.put more
  | [], json, _, _, _, _ =>
      ⟨[], .nil, fun _ => isText_nil, by simp [writeItems, put]⟩
  | item :: items, json, outer, hpending, hstack, h => by
      have hitem : (writeValue item json).overflow = false := by
        by_contra hover
        have hlater := overflow_writeItems items _ (by simpa using hover)
        rw [writeItems, hlater] at h
        cases h
      obtain ⟨text, hwritten⟩ := value_written item json hitem
      have hnext := hwritten.eq
      rw [separate_further hpending hstack, put_put] at hnext
      obtain ⟨more, hmore, htext, hrest⟩ := items_written items
        (writeValue item json) outer (by rw [hnext]; exact hpending)
        (by rw [hnext]; exact hstack) h
      refine ⟨0x2C :: text ++ more, .cons hwritten.derives hmore, ?_, ?_⟩
      · rintro ⟨hstrings, hothers⟩
        have hcomma : IsText [0x2C] := isText_utf8 ","
        exact (hcomma.append (hwritten.isText hstrings)).append (htext hothers)
      · rw [writeItems, hrest, hnext, put_put]
        rfl

/-- The further members of an open object. -/
theorem members_written : ∀ (members : List (Bytes × Json)) (json : JsonWriter)
    (outer : List Bool), json.pendingValue = false →
      json.stack = false :: outer →
      (writeMembers members json).overflow = false →
      ∃ more, Members members more ∧
        (MemberStrings IsText members → IsText more) ∧
        writeMembers members json = json.put more
  | [], json, _, _, _, _ =>
      ⟨[], .nil, fun _ => isText_nil, by simp [writeMembers, put]⟩
  | (name, value) :: members, json, outer, hpending, hstack, h => by
      have hvalue : (writeValue value (json.keyOf name)).overflow = false := by
        by_contra hover
        have hlater := overflow_writeMembers members _ (by simpa using hover)
        rw [writeMembers, hlater] at h
        cases h
      have hkey : (json.keyOf name).overflow = false := by
        by_contra hover
        rw [overflow_writeValue value _ (by simpa using hover)] at hvalue
        cases hvalue
      obtain ⟨text, hwritten⟩ := value_written value (json.keyOf name) hvalue
      obtain ⟨hmember, hstrings, hnext⟩ := member_written hkey hwritten
      rw [separate_further hpending hstack, put_put] at hnext
      obtain ⟨more, hmore, htext, hrest⟩ := members_written members
        (writeValue value (json.keyOf name)) outer
        (by rw [hnext]; exact hpending) (by rw [hnext]; exact hstack) h
      refine ⟨0x2C :: (quote name ++ utf8 ": " ++ text) ++ more,
        .cons hmember hmore, ?_, ?_⟩
      · rintro ⟨hname, hinner, hothers⟩
        have hcomma : IsText [0x2C] := isText_utf8 ","
        exact (hcomma.append (hstrings hname hinner)).append (htext hothers)
      · rw [writeMembers, hrest, hnext, put_put]
        rfl

end

end JsonWriter
end FlowOffload

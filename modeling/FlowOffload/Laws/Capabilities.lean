import Mathlib.Data.Nat.Bitwise
import FlowOffload.Service.Capabilities

/-!
# The grammar of capability lists

A text is accepted exactly if it is empty, `none` or a list of names, and then
it stands for the union of their bits.  A rejected text leaves an empty mask
behind unless the item it fails at is an empty one behind a name.
-/

namespace FlowOffload

open Foundation

/-! ## Names and bits -/

theorem capabilityFromString_toText (capability : Capability) :
    capabilityFromString capability.toText = some capability := by
  cases capability <;> decide +kernel

theorem table_toText : ∀ entry ∈ kCapabilityTable,
    entry.2 = entry.1.toText := by
  decide +kernel

/-- The search finds a name and nothing else. -/
theorem capabilityFromString_iff {text : Bytes} {capability : Capability} :
    capabilityFromString text = some capability ↔
      text = capability.toText := by
  constructor
  · intro h
    unfold capabilityFromString at h
    split at h
    · cases h
    dsimp only at h
    split at h
    · cases h
    next entry hentry =>
      split at h
      · cases h
      next hname =>
        cases h
        rw [← not_not.mp hname]
        exact table_toText entry (List.mem_of_getElem? hentry)
  · rintro rfl
    exact capabilityFromString_toText capability

theorem toText_plain (capability : Capability) :
    capability.toText ≠ [] ∧ kComma ∉ capability.toText ∧
      capability.toText ≠ utf8 "none" := by
  cases capability <;> decide +kernel

theorem toText_injective : Function.Injective Capability.toText := by
  intro a b h
  have hfound := capabilityFromString_toText a
  rw [h, capabilityFromString_toText] at hfound
  exact (Option.some.inj hfound).symm

/-- The union of the bits of some capabilities. -/
def unionOf (capabilities : List Capability) : CapabilityMask :=
  capabilities.foldr (fun capability mask => capabilityBit capability ||| mask) 0

theorem toNat_capabilityBit (capability : Capability) :
    (capabilityBit capability).toNat = 2 ^ capability.index.toNat := by
  cases capability <;> rfl

theorem testBit_capabilityBit (capability : Capability) (i : Nat) :
    (capabilityBit capability).toNat.testBit i =
      decide (capability.index.toNat = i) := by
  rw [toNat_capabilityBit, Nat.testBit_two_pow]

theorem testBit_unionOf (capabilities : List Capability) (i : Nat) :
    (unionOf capabilities).toNat.testBit i =
      capabilities.any fun capability => capability.index.toNat = i := by
  induction capabilities with
  | nil => simp [unionOf]
  | cons capability capabilities ih =>
      have hunion : unionOf (capability :: capabilities) =
          capabilityBit capability ||| unionOf capabilities := rfl
      rw [hunion, UInt64.toNat_or, Nat.testBit_or, testBit_capabilityBit, ih,
        List.any_cons]

theorem unionOf_ne_zero {capabilities : List Capability}
    (h : capabilities ≠ []) : unionOf capabilities ≠ 0 := by
  obtain ⟨capability, others, rfl⟩ := List.exists_cons_of_ne_nil h
  intro hzero
  have hbit := testBit_unionOf (capability :: others) capability.index.toNat
  rw [hzero] at hbit
  simp at hbit

/-! ## The loop over the items -/

/-- The items one after the other, with the mask collected so far. -/
def takeItems : List Bytes → CapabilityMask → Bool × CapabilityMask
  | [], out => (true, out)
  | item :: items, out =>
      if item.isEmpty then (false, out)
      else
        match capabilityFromString item with
        | none => (false, 0)
        | some capability => takeItems items (out ||| capabilityBit capability)

/-- The loop over the text is the one over what stands between its commas. -/
theorem parseFrom_eq {text : Bytes} {fuel start : Nat} {out : CapabilityMask}
    (hstart : start ≤ text.length) (hfuel : text.length < start + fuel) :
    parseFrom text fuel start out =
      takeItems ((text.drop start).splitOn kComma) out := by
  induction fuel generalizing start out with
  | zero => omega
  | succ fuel ih =>
      rw [parseFrom, if_pos hstart]
      have hlength : (text.drop start).length = text.length - start :=
        List.length_drop
      unfold findComma
      cases hcomma : (text.drop start).findIdx? (· == kComma) with
      | none =>
          have hplain : kComma ∉ text.drop start := by
            intro hmem
            have hnone := List.findIdx?_eq_none_iff.mp hcomma kComma hmem
            simp at hnone
          rw [List.splitOn_eq_singleton hplain]
          have hall : (text.drop start).take (text.length - start) =
              text.drop start := List.take_of_length_le (by omega)
          simp only [Option.map_none, Option.getD_none, takeItems, hall]
          all_goals rfl
      | some index =>
          obtain ⟨hindex, hfound, hbefore⟩ :=
            List.findIdx?_eq_some_iff_getElem.mp hcomma
          have hat : (text.drop start)[index] = kComma := by simpa using hfound
          have hsplit : text.drop start = (text.drop start).take index ++
              kComma :: (text.drop start).drop (index + 1) := by
            rw [← hat, List.getElem_cons_drop, List.take_append_drop]
          have hplain : ∀ byte ∈ (text.drop start).take index,
              (byte == kComma) = false := by
            intro byte hmem
            obtain ⟨j, hj, rfl⟩ := List.mem_take_iff_getElem.mp hmem
            have hnot := hbefore j (by omega)
            simpa using hnot
          have hitems : (text.drop start).splitOn kComma =
              (text.drop start).take index ::
                (text.drop (start + index + 1)).splitOn kComma := by
            conv_lhs => rw [hsplit]
            rw [List.splitOn_append_cons_of_forall_mem_beq_eq_false hplain kComma
              BEq.rfl, List.drop_drop, Nat.add_assoc]
          have hlater := fun mask => @ih (start + index + 1) mask (by omega)
            (by omega)
          rw [hitems]
          simp only [Option.map_some, Option.getD_some, takeItems, hlater,
            Nat.add_sub_cancel_left]
          all_goals rfl

/-- Names are taken into the mask one by one. -/
theorem takeItems_names (capabilities : List Capability) (items : List Bytes)
    (out : CapabilityMask) :
    takeItems (capabilities.map Capability.toText ++ items) out =
      takeItems items (out ||| unionOf capabilities) := by
  induction capabilities generalizing out with
  | nil => simp [unionOf]
  | cons capability capabilities ih =>
      have hnonempty := (toText_plain capability).1
      have hunion : unionOf (capability :: capabilities) =
          capabilityBit capability ||| unionOf capabilities := rfl
      rw [List.map_cons, List.cons_append, takeItems,
        if_neg (by simpa using hnonempty), capabilityFromString_toText]
      dsimp only
      rw [ih, hunion, UInt64.or_assoc]

/-- Up to some item all are names, and that one, if there is one, is not. -/
theorem names_then (items : List Bytes) :
    ∃ (capabilities : List Capability) (rest : List Bytes),
      items = capabilities.map Capability.toText ++ rest ∧
      ∀ item ∈ rest.head?, capabilityFromString item = none := by
  induction items with
  | nil => exact ⟨[], [], rfl, nofun⟩
  | cons item items ih =>
      cases hname : capabilityFromString item with
      | none =>
          refine ⟨[], item :: items, rfl, ?_⟩
          rintro _ ⟨⟩
          exact hname
      | some capability =>
          obtain ⟨capabilities, rest, rfl, hrest⟩ := ih
          refine ⟨capability :: capabilities, rest, ?_, hrest⟩
          rw [capabilityFromString_iff.mp hname]
          rfl

/-- There is one way to read an item list up to the first that is no name. -/
theorem names_unique {capabilities others : List Capability}
    {item other : Bytes} {items more : List Bytes}
    (hitem : capabilityFromString item = none)
    (hother : capabilityFromString other = none)
    (h : capabilities.map Capability.toText ++ item :: items =
      others.map Capability.toText ++ other :: more) :
    capabilities = others ∧ item = other := by
  induction capabilities generalizing others with
  | nil =>
      cases others with
      | nil => exact ⟨rfl, (List.cons.inj h).1⟩
      | cons capability others =>
          have hname : item = capability.toText := (List.cons.inj h).1
          rw [hname, capabilityFromString_toText] at hitem
          cases hitem
  | cons capability capabilities ih =>
      cases others with
      | nil =>
          have hname : capability.toText = other := (List.cons.inj h).1
          rw [← hname, capabilityFromString_toText] at hother
          cases hother
      | cons first others =>
          obtain ⟨hfirst, hrest⟩ := List.cons.inj h
          obtain ⟨rfl, hsame⟩ := ih hrest
          rw [toText_injective hfirst]
          exact ⟨rfl, hsame⟩

/-! ## The grammar -/

/-- The names of some capabilities with commas in between. -/
def joined (capabilities : List Capability) : Bytes :=
  [kComma].intercalate (capabilities.map Capability.toText)

/-- The text is in the grammar, and the mask is what it stands for. -/
def Spells (text : Bytes) (mask : CapabilityMask) : Prop :=
  ((text = [] ∨ text = utf8 "none") ∧ mask = 0) ∨
    ∃ capabilities, capabilities ≠ [] ∧ text = joined capabilities ∧
      mask = unionOf capabilities

/-- An empty item follows a list of names. -/
def StopsAtEmpty (text : Bytes) : Prop :=
  ∃ capabilities rest, capabilities ≠ [] ∧
    text = joined capabilities ++ kComma :: rest ∧
    ∀ byte ∈ rest.head?, byte = kComma

theorem splitOn_joined {capabilities : List Capability}
    (h : capabilities ≠ []) :
    (joined capabilities).splitOn kComma =
      capabilities.map Capability.toText := by
  refine List.splitOn_intercalate kComma ?_ (by simpa using h)
  intro name hname
  obtain ⟨capability, -, rfl⟩ := List.mem_map.mp hname
  exact (toText_plain capability).2.1

theorem intercalate_append {items others : List Bytes} (hitems : items ≠ [])
    (hothers : others ≠ []) :
    [kComma].intercalate (items ++ others) =
      [kComma].intercalate items ++ kComma :: [kComma].intercalate others := by
  induction items with
  | nil => exact absurd rfl hitems
  | cons item items ih =>
      cases items with
      | nil =>
          rw [List.singleton_append, List.intercalate_cons_of_ne_nil hothers,
            List.intercalate_singleton, List.append_assoc]
          rfl
      | cons next items =>
          have hnext : next :: items ≠ [] := List.cons_ne_nil next items
          have hrest : next :: items ++ others ≠ [] := by simp
          rw [List.cons_append, List.intercalate_cons_of_ne_nil hrest,
            ih hnext, List.intercalate_cons_of_ne_nil hnext]
          simp only [List.append_assoc]

/-- The names of some capabilities are not the text for the empty mask. -/
theorem joined_ne {capabilities : List Capability} (h : capabilities ≠ []) :
    joined capabilities ≠ [] ∧ joined capabilities ≠ utf8 "none" := by
  have hitems := splitOn_joined h
  obtain ⟨capability, others, rfl⟩ := List.exists_cons_of_ne_nil h
  have hplain := toText_plain capability
  constructor
  · intro hempty
    rw [hempty] at hitems
    exact hplain.1 (List.cons.inj hitems).1.symm
  · intro hnone
    have hone : (utf8 "none").splitOn kComma = [utf8 "none"] :=
      List.splitOn_eq_singleton (by decide +kernel)
    rw [hnone, hone] at hitems
    exact hplain.2.2 (List.cons.inj hitems).1.symm

theorem spells_iff {text : Bytes} {mask : CapabilityMask} (hempty : text ≠ [])
    (hnone : text ≠ utf8 "none") : Spells text mask ↔
      ∃ capabilities, capabilities ≠ [] ∧
        text.splitOn kComma = capabilities.map Capability.toText ∧
        mask = unionOf capabilities := by
  constructor
  · rintro (⟨h | h, -⟩ | ⟨capabilities, hsome, rfl, hmask⟩)
    · exact absurd h hempty
    · exact absurd h hnone
    · exact ⟨capabilities, hsome, splitOn_joined hsome, hmask⟩
  · rintro ⟨capabilities, hsome, hitems, hmask⟩
    refine Or.inr ⟨capabilities, hsome, ?_, hmask⟩
    rw [joined, ← hitems, List.intercalate_splitOn]

theorem stopsAtEmpty_iff {text : Bytes} : StopsAtEmpty text ↔
    ∃ capabilities more, capabilities ≠ [] ∧
      text.splitOn kComma =
        capabilities.map Capability.toText ++ [] :: more := by
  constructor
  · rintro ⟨capabilities, rest, hsome, rfl, hrest⟩
    rw [List.splitOn_append_cons_self, splitOn_joined hsome]
    cases rest with
    | nil => exact ⟨capabilities, [], hsome, rfl⟩
    | cons byte rest =>
        have hbyte : byte = kComma := hrest byte rfl
        refine ⟨capabilities, rest.splitOn kComma, hsome, ?_⟩
        rw [hbyte]
        exact congrArg _ (List.splitOn_append_cons_self [] rest)
  · rintro ⟨capabilities, more, hsome, hitems⟩
    refine ⟨capabilities, [kComma].intercalate ([] :: more), hsome, ?_, ?_⟩
    · rw [joined, ← intercalate_append (by simpa using hsome) (by simp),
        ← hitems, List.intercalate_splitOn]
    · cases more with
      | nil => exact nofun
      | cons item more =>
          rw [List.intercalate_cons_of_ne_nil (by simp)]
          rintro _ ⟨⟩
          rfl

/-! ## What the parser does with a text -/

/-- The parser does with the text what the grammar says. -/
structure MeetsContract (text : Bytes) : Prop where
  accepts : (parseCapabilities text).1 = true ↔ ∃ mask, Spells text mask
  unites : ∀ mask, Spells text mask → (parseCapabilities text).2 = mask
  clears : (parseCapabilities text).1 = false → (parseCapabilities text).2 = 0

theorem parseCapabilities_eq {text : Bytes} (hempty : text ≠ [])
    (hnone : text ≠ utf8 "none") :
    parseCapabilities text = takeItems (text.splitOn kComma) 0 := by
  have hother : ¬ (text.isEmpty || text == utf8 "none") = true := by
    simp [hempty, hnone]
  rw [parseCapabilities, if_neg hother,
    @parseFrom_eq text (text.length + 1) 0 0 (by omega) (by omega),
    List.drop_zero]

theorem not_stopsAtEmpty_nil : ¬ StopsAtEmpty [] := by
  rintro ⟨capabilities, rest, -, h, -⟩
  simp at h

theorem not_stopsAtEmpty_none : ¬ StopsAtEmpty (utf8 "none") := by
  rintro ⟨capabilities, rest, -, h, -⟩
  have hcomma : kComma ∉ utf8 "none" := by decide +kernel
  exact hcomma (by rw [h]; simp)

/-- The two texts for the empty mask. -/
theorem meetsContract_of_blank {text : Bytes}
    (h : text = [] ∨ text = utf8 "none") : MeetsContract text := by
  have hblank : (text.isEmpty || text == utf8 "none") = true := by
    rcases h with rfl | rfl <;> simp
  have hparsed : parseCapabilities text = (true, 0) := by
    rw [parseCapabilities, if_pos hblank]
  refine ⟨?_, ?_, ?_⟩
  · rw [hparsed]
    exact iff_of_true rfl ⟨0, Or.inl ⟨h, rfl⟩⟩
  · rintro mask (⟨-, rfl⟩ | ⟨capabilities, hsome, htext, -⟩)
    · rw [hparsed]
    · rw [htext] at h
      exact absurd h (not_or.mpr (joined_ne hsome))
  · rw [hparsed]
    nofun

/-- A text is in order exactly if no empty item follows names in it. -/
theorem meetsContract_iff (text : Bytes) :
    MeetsContract text ↔ ¬ StopsAtEmpty text := by
  by_cases hempty : text = []
  · subst hempty
    exact iff_of_true (meetsContract_of_blank (Or.inl rfl)) not_stopsAtEmpty_nil
  by_cases hnone : text = utf8 "none"
  · subst hnone
    exact iff_of_true (meetsContract_of_blank (Or.inr rfl))
      not_stopsAtEmpty_none
  have hparsed := parseCapabilities_eq hempty hnone
  obtain ⟨capabilities, rest, hitems, hrest⟩ := names_then (text.splitOn kComma)
  rw [hitems, takeItems_names, UInt64.zero_or] at hparsed
  have hspells := fun mask => @spells_iff text mask hempty hnone
  rw [hitems] at hspells
  have hstops := @stopsAtEmpty_iff text
  rw [hitems] at hstops
  cases rest with
  | nil =>
      have hsome : capabilities ≠ [] := by
        rintro rfl
        exact List.splitOn_ne_nil _ _ hitems
      rw [takeItems] at hparsed
      rw [List.append_nil] at hspells hstops
      refine iff_of_true ⟨?_, ?_, ?_⟩ ?_
      · rw [hparsed]
        refine iff_of_true rfl ⟨unionOf capabilities, ?_⟩
        exact (hspells _).mpr ⟨capabilities, hsome, rfl, rfl⟩
      · intro mask hmask
        obtain ⟨others, -, hsame, rfl⟩ := (hspells mask).mp hmask
        rw [hparsed, toText_injective.list_map hsame]
      · rw [hparsed]
        nofun
      · intro h
        obtain ⟨others, more, -, hsame⟩ := hstops.mp h
        have hmem : [] ∈ capabilities.map Capability.toText := by
          rw [hsame]
          simp
        obtain ⟨capability, -, hname⟩ := List.mem_map.mp hmem
        exact (toText_plain capability).1 hname
  | cons item items =>
      have hitem : capabilityFromString item = none := hrest item rfl
      have hunspelled : ¬ ∃ mask, Spells text mask := by
        rintro ⟨mask, hmask⟩
        obtain ⟨others, -, hsame, -⟩ := (hspells mask).mp hmask
        have hmem : item ∈ others.map Capability.toText := by
          rw [← hsame]
          simp
        obtain ⟨capability, -, rfl⟩ := List.mem_map.mp hmem
        rw [capabilityFromString_toText] at hitem
        cases hitem
      have hrejected : (parseCapabilities text).1 = false := by
        rw [hparsed, takeItems, hitem]
        split <;> rfl
      have hmeets : MeetsContract text ↔ (parseCapabilities text).2 = 0 := by
        refine ⟨fun h => h.clears hrejected, fun h => ⟨?_, ?_, fun _ => h⟩⟩
        · rw [hrejected]
          exact iff_of_false Bool.false_ne_true hunspelled
        · exact fun mask hmask => absurd ⟨mask, hmask⟩ hunspelled
      rw [hmeets, hparsed, takeItems, hitem]
      have hnothing : capabilityFromString [] = none := rfl
      cases item with
      | nil =>
          rw [List.isEmpty_nil, if_pos rfl]
          constructor
          · intro hzero h
            obtain ⟨others, more, hsome, hsame⟩ := hstops.mp h
            obtain ⟨rfl, -⟩ := names_unique hitem hnothing hsame
            exact unionOf_ne_zero hsome hzero
          · intro h
            by_contra hunion
            refine h (hstops.mpr ⟨capabilities, items, ?_, rfl⟩)
            rintro rfl
            exact hunion rfl
      | cons byte item =>
          rw [if_neg (by simp)]
          refine iff_of_true rfl ?_
          intro h
          obtain ⟨others, more, -, hsame⟩ := hstops.mp h
          obtain ⟨-, hempty⟩ := names_unique hitem hnothing hsame
          cases hempty

/-! ## Rendering and parsing back -/

theorem hasCapability_eq (mask : CapabilityMask) (capability : Capability) :
    hasCapability mask capability =
      mask.toNat.testBit capability.index.toNat := by
  rw [Bool.eq_iff_iff, hasCapability, bne_iff_ne, ne_eq, ← UInt64.toNat_inj,
    UInt64.toNat_and, toNat_capabilityBit, UInt64.toNat_zero, Nat.and_two_pow]
  cases mask.toNat.testBit capability.index.toNat <;> simp

/-- A mask of defined bits has no bit that no capability has. -/
theorem bit_of_defined {mask : CapabilityMask} {i : Nat}
    (h : definedCapabilities mask = true) (hbit : mask.toNat.testBit i = true) :
    ∃ capability ∈ Capability.all, capability.index.toNat = i := by
  have hnamed : ∀ j < 16, ∃ capability ∈ Capability.all,
      capability.index.toNat = j := by
    decide
  refine hnamed i ?_
  by_contra hlarge
  have hzero : (mask &&& ~~~kKnownBits).toNat = 0 := by
    rw [definedCapabilities, beq_iff_eq] at h
    rw [h]
    rfl
  have hsize : i < 64 :=
    Nat.lt_of_not_le fun hle => by
      have hpower := Nat.pow_le_pow_right (Nat.two_pos) hle
      have hbits := Nat.ge_two_pow_of_testBit hbit
      have hmask := mask.toNat_lt
      omega
  have hunknown : (~~~kKnownBits).toNat.testBit i = true := by
    have hall : ∀ j < 64, 16 ≤ j → (~~~kKnownBits).toNat.testBit j = true := by
      decide
    exact hall i hsize (by omega)
  have hclear := congrArg (fun value => value.testBit i) hzero
  rw [UInt64.toNat_and] at hclear
  simp only [Nat.testBit_and, hbit, hunknown, Nat.zero_testBit] at hclear
  cases hclear

/-- A mask of defined bits is the union of the capabilities it has. -/
theorem unionOf_filter {mask : CapabilityMask}
    (h : definedCapabilities mask = true) :
    unionOf (Capability.all.filter (hasCapability mask)) = mask := by
  rw [← UInt64.toNat_inj]
  refine Nat.eq_of_testBit_eq fun i => ?_
  rw [testBit_unionOf, Bool.eq_iff_iff, List.any_eq_true]
  constructor
  · rintro ⟨capability, hmem, hindex⟩
    have hhas := (List.mem_filter.mp hmem).2
    rw [hasCapability_eq, of_decide_eq_true hindex] at hhas
    exact hhas
  · intro hbit
    obtain ⟨capability, hall, hindex⟩ := bit_of_defined h hbit
    refine ⟨capability, List.mem_filter.mpr ⟨hall, ?_⟩, by simpa using hindex⟩
    rw [hasCapability_eq, hindex, hbit]

theorem joined_append (capabilities : List Capability)
    (capability : Capability) : joined (capabilities ++ [capability]) =
      (if (joined capabilities).isEmpty then joined capabilities
        else joined capabilities ++ [kComma]) ++ capability.toText := by
  by_cases hsome : capabilities = []
  · subst hsome
    simp [joined]
  · have hitems : capabilities.map Capability.toText ≠ [] := by
      simpa using hsome
    rw [if_neg (by simpa using (joined_ne hsome).1)]
    unfold joined
    rw [List.map_append, intercalate_append hitems (by simp)]
    simp

theorem renderCapabilities_eq (mask : CapabilityMask) :
    renderCapabilities mask =
      if (joined (Capability.all.filter (hasCapability mask))).isEmpty then
        utf8 "none"
      else joined (Capability.all.filter (hasCapability mask)) := by
  have hfold : ∀ rest done : List Capability,
      rest.foldl
        (fun out capability =>
          if !hasCapability mask capability then out
          else
            (if out.isEmpty then out else out ++ [kComma]) ++ capability.toText)
        (joined done) =
        joined (done ++ rest.filter (hasCapability mask)) := by
    intro rest
    induction rest with
    | nil =>
        intro done
        rw [List.foldl_nil, List.filter_nil, List.append_nil]
    | cons capability rest ih =>
        intro done
        rw [List.foldl_cons]
        cases hhas : hasCapability mask capability with
        | false =>
            rw [Bool.not_false, if_pos rfl, ih,
              List.filter_cons_of_neg (by simp [hhas])]
        | true =>
            rw [Bool.not_true, if_neg Bool.false_ne_true, ← joined_append, ih,
              List.filter_cons_of_pos hhas, List.append_assoc,
              List.singleton_append]
  have hall := hfold Capability.all []
  unfold renderCapabilities
  rw [List.nil_append] at hall
  rw [← hall]
  rfl

/-- A rendered mask is parsed to the same mask. -/
theorem parse_render {mask : CapabilityMask}
    (h : definedCapabilities mask = true) :
    parseCapabilities (renderCapabilities mask) = (true, mask) := by
  have hunion := unionOf_filter h
  rw [renderCapabilities_eq]
  generalize Capability.all.filter (hasCapability mask) = held at hunion ⊢
  subst hunion
  by_cases hsome : held = []
  · subst hsome
    rfl
  · obtain ⟨hempty, hnone⟩ := joined_ne hsome
    have hitems := takeItems_names held [] 0
    rw [List.append_nil] at hitems
    rw [if_neg (by simpa using hempty), parseCapabilities_eq hempty hnone,
      splitOn_joined hsome, hitems, UInt64.zero_or]
    rfl

/-- The parser and the grammar agree on every text but those. -/
theorem lists_are_parsed_unless_an_item_is_missing (text : Bytes)
    (mask : CapabilityMask) :
    (MeetsContract text ↔ ¬ StopsAtEmpty text) ∧
      (definedCapabilities mask = true →
        parseCapabilities (renderCapabilities mask) = (true, mask)) :=
  ⟨meetsContract_iff text, parse_render⟩

theorem full_mask_is_parsed_back :
    MeetsContract (utf8 "vxlan-encap,unheard-of") ∧
      parseCapabilities (renderCapabilities kKnownBits) =
        (true, kKnownBits) := by
  have hlists := lists_are_parsed_unless_an_item_is_missing
    (utf8 "vxlan-encap,unheard-of") kKnownBits
  refine ⟨hlists.1.mpr ?_, hlists.2 (by decide)⟩
  rw [stopsAtEmpty_iff]
  rintro ⟨capabilities, more, -, hitems⟩
  have hmem : [] ∈ (utf8 "vxlan-encap,unheard-of").splitOn kComma := by
    rw [hitems]
    simp
  exact absurd hmem (by decide +kernel)

/-- Behind the trailing comma nothing is named, and the mask is not reset. -/
theorem trailing_comma_leaves_a_mask :
    parseCapabilities (utf8 "vxlan-encap,") =
        (false, capabilityBit .vxlanEncap) ∧
      ¬ MeetsContract (utf8 "vxlan-encap,") := by
  have hparsed : parseCapabilities (utf8 "vxlan-encap,") =
      (false, capabilityBit .vxlanEncap) := by
    decide +kernel
  refine ⟨hparsed, fun h => ?_⟩
  have hzero := h.clears (congrArg Prod.fst hparsed)
  rw [hparsed] at hzero
  exact absurd hzero (by decide)

end FlowOffload

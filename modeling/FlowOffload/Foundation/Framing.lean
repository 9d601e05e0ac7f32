import FlowOffload.Foundation.ByteCodec

/-!
# Streams of items

A splitter takes the next item off the bytes that have arrived, as soon as they
hold a whole one.  What it finds depends on the bytes and not on the pieces in
which they arrive: bytes that arrive later change no item found before.
-/

namespace FlowOffload.Foundation

structure Splitter (ι : Type) where
  next : Bytes → Option (ι × Bytes)
  stable : ∀ {bytes item rest}, next bytes = some (item, rest) →
    ∀ more, next (bytes ++ more) = some (item, rest ++ more)

namespace Splitter

variable {ι : Type} (S : Splitter ι)

/-- The bytes start with these items, one after the other, and a rest. -/
def Splits : List ι → Bytes → Bytes → Prop
  | [], bytes, rest => bytes = rest
  | item :: items, bytes, rest =>
      ∃ middle, S.next bytes = some (item, middle) ∧ Splits items middle rest

@[simp] theorem splits_nil {bytes rest : Bytes} :
    S.Splits [] bytes rest ↔ bytes = rest :=
  Iff.rfl

variable {S} {items others : List ι} {bytes middle rest : Bytes}

theorem splits_append :
    S.Splits (items ++ others) bytes rest ↔
      ∃ middle, S.Splits items bytes middle ∧ S.Splits others middle rest := by
  induction items generalizing bytes with
  | nil => simp
  | cons item items ih =>
      simp only [List.cons_append, Splits, ih]
      constructor
      · rintro ⟨first, hfirst, middle, hitems, hothers⟩
        exact ⟨middle, ⟨first, hfirst, hitems⟩, hothers⟩
      · rintro ⟨middle, ⟨first, hfirst, hitems⟩, hothers⟩
        exact ⟨first, hfirst, middle, hitems, hothers⟩

/-- One item more is found in the rest. -/
theorem Splits.snoc {item : ι} (h : S.Splits items bytes middle)
    (hnext : S.next middle = some (item, rest)) :
    S.Splits (items ++ [item]) bytes rest :=
  splits_append.mpr ⟨middle, h, rest, hnext, rfl⟩

/-- Bytes that arrive later go to the rest. -/
theorem Splits.arrive (h : S.Splits items bytes rest) (more : Bytes) :
    S.Splits items (bytes ++ more) (rest ++ more) := by
  induction items generalizing bytes with
  | nil => exact congrArg (· ++ more) h
  | cons item items ih =>
      obtain ⟨middle, hnext, hitems⟩ := h
      exact ⟨middle ++ more, S.stable hnext more, ih hitems⟩

/-- As many items of the same bytes are the same items. -/
theorem Splits.unique {rest' : Bytes} (h : S.Splits items bytes rest)
    (hothers : S.Splits others bytes rest')
    (hlength : items.length = others.length) :
    items = others ∧ rest = rest' := by
  induction items generalizing bytes others with
  | nil =>
      cases others with
      | nil => exact ⟨rfl, h.symm.trans hothers⟩
      | cons other others => simp at hlength
  | cons item items ih =>
      cases others with
      | nil => simp at hlength
      | cons other others =>
          obtain ⟨middle, hnext, hitems⟩ := h
          obtain ⟨middle', hnext', hothers⟩ := hothers
          rw [hnext] at hnext'
          cases hnext'
          simp only [List.length_cons, Nat.add_right_cancel_iff] at hlength
          obtain ⟨rfl, hrest⟩ := ih hitems hothers hlength
          exact ⟨rfl, hrest⟩

/-- Items that use the same bytes up are the same items. -/
theorem Splits.total (hempty : S.next [] = none)
    (h : S.Splits items bytes []) (hothers : S.Splits others bytes []) :
    items = others := by
  induction items generalizing bytes others with
  | nil =>
      cases others with
      | nil => rfl
      | cons other others =>
          obtain ⟨middle, hnext, -⟩ := hothers
          rw [show bytes = [] from h, hempty] at hnext
          cases hnext
  | cons item items ih =>
      obtain ⟨middle, hnext, hitems⟩ := h
      cases others with
      | nil =>
          rw [show bytes = [] from hothers, hempty] at hnext
          cases hnext
      | cons other others =>
          obtain ⟨middle', hnext', hothers⟩ := hothers
          rw [hnext] at hnext'
          cases hnext'
          rw [ih hitems hothers]

/-- The items found early are the first of the items found late. -/
theorem Splits.initial {more rest' : Bytes} (h : S.Splits items bytes rest)
    (hothers : S.Splits others (bytes ++ more) rest')
    (hlength : items.length ≤ others.length) : items <+: others := by
  have hsplit := List.take_append_drop items.length others
  rw [← hsplit, splits_append] at hothers
  obtain ⟨middle, hfirst, -⟩ := hothers
  have hcount : items.length = (others.take items.length).length := by
    rw [List.length_take, Nat.min_eq_left hlength]
  rw [((h.arrive more).unique hfirst hcount).1]
  exact List.take_prefix _ _

end Splitter

end FlowOffload.Foundation

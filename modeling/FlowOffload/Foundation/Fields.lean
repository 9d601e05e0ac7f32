import FlowOffload.Foundation.ByteCodec

/-!
# Readers of records

A reader of a record reads one field after the other and returns them together.
`Reads` says what such a reader accepts while some fields are already read: the
values that agree with those fields, that are valid in the others, and exactly
the bytes that the others are written as.
-/

namespace FlowOffload.Foundation.Reader

variable {ε α β : Type} {known valid : β → Prop} {write : β → Bytes}

def Reads (read : Reader ε β) (known valid : β → Prop) (write : β → Bytes) :
    Prop :=
  ∀ bytes v rest, read.run bytes = .ok (v, rest) ↔
    known v ∧ valid v ∧ bytes = write v ++ rest

/-- All fields are read, and only one value has them. -/
theorem Reads.done {v : β} (h : ∀ w, known w ↔ v = w) :
    Reads (pure v : Reader ε β) known (fun _ => True) (fun _ => []) := by
  intro bytes w rest
  rw [run_pure_ok_iff, h, List.nil_append, true_and]

/-- The next field, which its own reader may refuse. -/
theorem Reads.field {read : Reader ε α} {next : α → Reader ε β}
    {validField : α → Prop} {writeField : α → Bytes} (get : β → α)
    (hread : ∀ {bytes a rest}, read.run bytes = .ok (a, rest) ↔
      validField a ∧ bytes = writeField a ++ rest)
    (hnext : ∀ a, Reads (next a) (fun v => known v ∧ get v = a) valid write) :
    Reads (read >>= next) known (fun v => validField (get v) ∧ valid v)
      (fun v => writeField (get v) ++ write v) := by
  intro bytes v rest
  rw [run_bind_ok_iff]
  constructor
  · rintro ⟨a, middle, hfield, hothers⟩
    obtain ⟨hvalidField, rfl⟩ := hread.mp hfield
    obtain ⟨⟨hknown, rfl⟩, hvalid, rfl⟩ := (hnext a middle v rest).mp hothers
    exact ⟨hknown, ⟨hvalidField, hvalid⟩, (List.append_assoc _ _ _).symm⟩
  · rintro ⟨hknown, ⟨hvalidField, hvalid⟩, rfl⟩
    refine ⟨get v, write v ++ rest, hread.mpr ⟨hvalidField, ?_⟩, ?_⟩
    · exact List.append_assoc _ _ _
    · exact (hnext (get v) _ v rest).mpr ⟨⟨hknown, rfl⟩, hvalid, rfl⟩

/-- The next field, of which every value is admitted. -/
theorem Reads.total {read : Reader ε α} {next : α → Reader ε β}
    {writeField : α → Bytes} (get : β → α)
    (hread : ∀ {bytes a rest}, read.run bytes = .ok (a, rest) ↔
      bytes = writeField a ++ rest)
    (hnext : ∀ a, Reads (next a) (fun v => known v ∧ get v = a) valid write) :
    Reads (read >>= next) known valid
      (fun v => writeField (get v) ++ write v) := by
  intro bytes v rest
  have hfield := @Reads.field ε α β known valid write read next
    (fun _ => True) writeField get (hread.trans (iff_of_eq (true_and _)).symm) hnext
    bytes v rest
  simp only [true_and] at hfield
  exact hfield

/-- A reader of whole records. -/
theorem Reads.ok_iff {read : Reader ε β} {valid' : β → Prop}
    {write' : β → Bytes} (h : Reads read (fun _ => True) valid write)
    (hvalid : ∀ v, valid v ↔ valid' v) (hwrite : ∀ v, write v = write' v)
    {bytes rest : Bytes} {v : β} :
    read.run bytes = .ok (v, rest) ↔ valid' v ∧ bytes = write' v ++ rest := by
  have hreads := h bytes v rest
  simp only [true_and, hvalid, hwrite] at hreads
  exact hreads

theorem Reads.ok_iff_of_total {read : Reader ε β} {write' : β → Bytes}
    (h : Reads read (fun _ => True) (fun _ => True) write)
    (hwrite : ∀ v, write v = write' v) {bytes rest : Bytes} {v : β} :
    read.run bytes = .ok (v, rest) ↔ bytes = write' v ++ rest := by
  have hreads := h bytes v rest
  simp only [true_and, hwrite] at hreads
  exact hreads

end FlowOffload.Foundation.Reader

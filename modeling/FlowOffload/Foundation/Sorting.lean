import Mathlib.Data.List.Perm.Basic
import Mathlib.Tactic.Common

/-!
# Stable insertion sort

The sort of the canonical encoder: an element moves left past the strictly
greater ones, so equal elements keep their order.  It rearranges its input,
and under a total preorder no element of the result is greater than a later
one.
-/

namespace FlowOffload.Foundation

variable {α : Type}

def canonicalInsert (greater : α → α → Bool) (key : α) : List α → List α
  | [] => [key]
  | value :: values =>
      if greater value key then key :: value :: values
      else value :: canonicalInsert greater key values

def canonicalSort (greater : α → α → Bool) (values : List α) : List α :=
  values.foldl (fun sorted key => canonicalInsert greater key sorted) []

theorem canonicalInsert_perm (greater : α → α → Bool) (key : α)
    (values : List α) :
    (canonicalInsert greater key values).Perm (key :: values) := by
  induction values with
  | nil => exact List.Perm.refl _
  | cons value values ih =>
      rw [canonicalInsert]
      split
      · exact List.Perm.refl _
      · exact (ih.cons value).trans (List.Perm.swap key value values)

private theorem foldl_canonicalInsert_perm (greater : α → α → Bool)
    (values sorted : List α) :
    (values.foldl (fun sorted key => canonicalInsert greater key sorted)
      sorted).Perm (values ++ sorted) := by
  induction values generalizing sorted with
  | nil => exact List.Perm.refl _
  | cons value values ih =>
      rw [List.foldl_cons]
      refine (ih _).trans ?_
      refine ((canonicalInsert_perm greater value sorted).append_left
        values).trans ?_
      exact List.perm_middle

theorem canonicalSort_perm (greater : α → α → Bool) (values : List α) :
    (canonicalSort greater values).Perm values := by
  have h := foldl_canonicalInsert_perm greater values []
  rw [List.append_nil] at h
  exact h

@[simp] theorem mem_canonicalSort {greater : α → α → Bool} {values : List α}
    {a : α} : a ∈ canonicalSort greater values ↔ a ∈ values :=
  (canonicalSort_perm greater values).mem_iff

/-- Nothing in the list is greater than anything after it. -/
def Ascending (greater : α → α → Bool) (values : List α) : Prop :=
  values.Pairwise fun a b => greater a b = false

/-- `greater` is the strict part of a total preorder. -/
structure IsPreorder (greater : α → α → Bool) : Prop where
  asymm : ∀ a b, greater a b = true → greater b a = false
  trans : ∀ a b c, greater a b = false → greater b c = false →
    greater a c = false

/-- A comparison by a numeric weight. -/
theorem IsPreorder.of_weight {greater : α → α → Bool} {weight : α → Nat}
    (h : ∀ a b, greater a b = true ↔ weight b < weight a) :
    IsPreorder greater := by
  constructor
  · intro a b hab
    rw [h] at hab
    rw [← Bool.not_eq_true, h]
    omega
  · intro a b c hab hbc
    rw [← Bool.not_eq_true, h] at hab hbc ⊢
    omega

theorem Ascending.canonicalInsert {greater : α → α → Bool}
    (horder : IsPreorder greater) {key : α} {values : List α}
    (h : Ascending greater values) :
    Ascending greater (canonicalInsert greater key values) := by
  induction values with
  | nil => exact List.pairwise_singleton _ _
  | cons value values ih =>
      obtain ⟨hhead, htail⟩ := List.pairwise_cons.mp h
      rw [Foundation.canonicalInsert]
      split
      next hgreater =>
        have hkey := horder.asymm _ _ hgreater
        refine List.pairwise_cons.mpr ⟨?_, h⟩
        intro b hb
        rcases List.mem_cons.mp hb with rfl | hb
        · exact hkey
        · exact horder.trans _ _ _ hkey (hhead b hb)
      next hgreater =>
        refine List.pairwise_cons.mpr ⟨?_, ih htail⟩
        intro b hb
        have hb' := (canonicalInsert_perm greater key values).mem_iff.mp hb
        rcases List.mem_cons.mp hb' with rfl | hb'
        · simpa using hgreater
        · exact hhead b hb'

theorem ascending_canonicalSort {greater : α → α → Bool}
    (horder : IsPreorder greater) (values : List α) :
    Ascending greater (canonicalSort greater values) := by
  have hfold : ∀ (values sorted : List α), Ascending greater sorted →
      Ascending greater (values.foldl
        (fun sorted key => canonicalInsert greater key sorted) sorted) := by
    intro values
    induction values with
    | nil => exact fun sorted h => h
    | cons value values ih =>
        intro sorted h
        exact ih _ (h.canonicalInsert horder)
  exact hfold values [] List.Pairwise.nil

/-- When only equal elements are tied, the order of the input is lost. -/
theorem canonicalSort_eq_of_perm {greater : α → α → Bool}
    (horder : IsPreorder greater)
    (htied : ∀ a b, greater a b = false → greater b a = false → a = b)
    {values other : List α} (h : values.Perm other) :
    canonicalSort greater values = canonicalSort greater other := by
  refine List.Perm.eq_of_pairwise (fun a b _ _ => htied a b)
    (ascending_canonicalSort horder values)
    (ascending_canonicalSort horder other) ?_
  exact (canonicalSort_perm greater values).trans
    (h.trans (canonicalSort_perm greater other).symm)

/-- The first element of a sorted list is least. -/
theorem not_greater_of_canonicalSort_eq_cons {greater : α → α → Bool}
    (horder : IsPreorder greater) {values rest : List α} {first : α}
    (h : canonicalSort greater values = first :: rest) {a : α}
    (ha : a ∈ values) : a = first ∨ greater first a = false := by
  have hasc := ascending_canonicalSort horder values
  rw [h] at hasc
  have ha : a ∈ canonicalSort greater values := mem_canonicalSort.mpr ha
  rw [h] at ha
  rcases List.mem_cons.mp ha with rfl | ha
  · exact Or.inl rfl
  · exact Or.inr ((List.pairwise_cons.mp hasc).1 a ha)

end FlowOffload.Foundation

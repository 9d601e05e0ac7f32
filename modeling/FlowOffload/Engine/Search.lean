import FlowOffload.Engine.Placement

/-!
# Binary search

On a sorted list the halving loop ends at the first element that is not less
than what is looked for, so that binary search decides membership.
-/

namespace FlowOffload

open Foundation

variable {α : Type}

/-- The values that are less come first. -/
def Partitioned (less : α → Bool) (values : List α) : Prop :=
  values.Pairwise fun a b => less b = true → less a = true

theorem Partitioned.less_of_le {less : α → Bool} {values : List α}
    (h : Partitioned less values) {i j : Nat} {a b : α} (hij : i ≤ j)
    (ha : values[i]? = some a) (hb : values[j]? = some b)
    (hless : less b = true) : less a = true := by
  rcases Nat.eq_or_lt_of_le hij with rfl | hlt
  · rw [ha, Option.some.injEq] at hb
    rw [hb]
    exact hless
  · obtain ⟨hi, rfl⟩ := List.getElem?_eq_some_iff.mp ha
    obtain ⟨hj, rfl⟩ := List.getElem?_eq_some_iff.mp hb
    exact List.pairwise_iff_getElem.mp h i j hi hj hlt hless

/-- An index splits the list into what is less and the rest. -/
structure Splits (less : α → Bool) (values : List α) (index : Nat) :
    Prop where
  before : ∀ j a, j < index → values[j]? = some a → less a = true
  after : ∀ j a, index ≤ j → values[j]? = some a → less a = false

theorem splits_lowerBound {less : α → Bool} {values : List α}
    (h : Partitioned less values) (fuel first length : Nat)
    (hfuel : length ≤ fuel) (hrange : first + length ≤ values.length)
    (hbefore : ∀ j a, j < first → values[j]? = some a → less a = true)
    (hafter : ∀ j a, first + length ≤ j → values[j]? = some a →
      less a = false) :
    Splits less values (lowerBound less values fuel first length) := by
  induction fuel generalizing first length with
  | zero =>
      have hnone : length = 0 := by omega
      subst hnone
      exact ⟨hbefore, hafter⟩
  | succ fuel ih =>
      rw [lowerBound]
      split
      next hnone =>
        subst hnone
        exact ⟨hbefore, hafter⟩
      next hsome =>
        have hlt : first + length / 2 < values.length := by omega
        have hmiddle := List.getElem?_eq_getElem hlt
        dsimp only
        rw [hmiddle]
        dsimp only
        cases hless : less values[first + length / 2] with
        | true =>
            rw [if_pos rfl]
            refine ih _ _ (by omega) (by omega) ?_ ?_
            · intro j a hj ha
              exact h.less_of_le (by omega) ha hmiddle hless
            · intro j a hj ha
              exact hafter j a (by omega) ha
        | false =>
            rw [if_neg (by simp)]
            refine ih _ _ (by omega) (by omega) hbefore ?_
            intro j a hj ha
            rw [← Bool.not_eq_true]
            intro hfound
            rw [h.less_of_le hj hmiddle ha hfound] at hless
            cases hless

/-- Binary search of a sorted list decides membership. -/
theorem binarySearch_iff {less : α → α → Bool} {values : List α}
    (horder : IsPreorder fun a b => less b a)
    (htied : ∀ a b, less a b = false → less b a = false → a = b)
    (hsorted : Ascending (fun a b => less b a) values) {value : α} :
    binarySearch less values value = true ↔ value ∈ values := by
  have hpartitioned : Partitioned (fun a => less a value) values := by
    refine hsorted.imp fun {a b} hab hless => ?_
    cases hfirst : less a value with
    | true => exact hfirst
    | false =>
        have hsecond : less b value = false :=
          horder.trans value a b hfirst hab
        exact absurd (hsecond.symm.trans hless) (by decide)
  have hirrefl : ∀ a, less a a = false := by
    intro a
    cases hself : less a a with
    | false => rfl
    | true => exact absurd ((horder.asymm a a hself).symm.trans hself) (by decide)
  have hsplits := splits_lowerBound hpartitioned values.length 0
    values.length (Nat.le_refl _) (by omega) (by simp) (by
      intro j a hj ha
      rw [List.getElem?_eq_none (by omega)] at ha
      cases ha)
  unfold binarySearch
  dsimp only
  generalize lowerBound (fun a => less a value) values values.length 0
    values.length = index at hsplits ⊢
  constructor
  · cases hfound : values[index]? with
    | none => exact nofun
    | some found =>
        intro hnot
        have hfirst : less value found = false := by simpa using hnot
        have hsecond := hsplits.after index found (Nat.le_refl _) hfound
        rw [htied value found hfirst hsecond]
        exact List.mem_of_getElem? hfound
  · intro hmem
    obtain ⟨j, hj⟩ := List.mem_iff_getElem?.mp hmem
    have hindex : index ≤ j := by
      by_contra hbefore
      have hless := hsplits.before j value (by omega) hj
      rw [hirrefl value] at hless
      cases hless
    obtain ⟨hlength, -⟩ := List.getElem?_eq_some_iff.mp hj
    have hfound := List.getElem?_eq_getElem
      (show index < values.length by omega)
    rw [hfound]
    dsimp only
    rw [Bool.not_eq_true']
    rcases Nat.eq_or_lt_of_le hindex with rfl | hlt
    · rw [hfound, Option.some.injEq] at hj
      rw [hj]
      exact hirrefl value
    · obtain ⟨hj', heq⟩ := List.getElem?_eq_some_iff.mp hj
      have hafter := List.pairwise_iff_getElem.mp hsorted index j
        (by omega) hj' hlt
      rw [heq] at hafter
      exact hafter

end FlowOffload

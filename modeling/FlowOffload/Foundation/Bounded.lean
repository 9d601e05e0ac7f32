import FlowOffload.Foundation.OrdMap
import Mathlib.Data.List.Perm.Subperm

/-!
# Tables of bounded size

How many keys a table binds, said of the partial function that it is: the size
of a map without its representation, so that a change of the function is a
change of the size.
-/

namespace FlowOffload.Foundation

open Std (ExtTreeMap)

/-- At most so many keys are bound. -/
def AtMost {κ ν : Type} (n : Nat) (f : κ → Option ν) : Prop :=
  ∀ keys : List κ, keys.Nodup → (∀ k ∈ keys, f k ≠ none) → keys.length ≤ n

section AtMost

variable {κ ν ν' : Type} {n m : Nat} {f : κ → Option ν} {g : κ → Option ν'}

theorem atMost_empty : AtMost n (fun _ : κ => (none : Option ν)) := by
  intro keys _ hbound
  cases keys with
  | nil => exact Nat.zero_le n
  | cons k keys => exact absurd rfl (hbound k List.mem_cons_self)

theorem AtMost.le (h : AtMost n f) (hle : n ≤ m) : AtMost m f :=
  fun keys hnodup hbound => Nat.le_trans (h keys hnodup hbound) hle

/-- A function that binds no other keys is as bounded. -/
theorem AtMost.sub (h : AtMost n g) (hsub : ∀ k, f k ≠ none → g k ≠ none) :
    AtMost n f :=
  fun keys hnodup hbound =>
    h keys hnodup fun k hk => hsub k (hbound k hk)

/-- One key more. -/
theorem AtMost.add [DecidableEq κ] (h : AtMost n g) {a : κ}
    (hsub : ∀ k, f k ≠ none → k = a ∨ g k ≠ none) : AtMost (n + 1) f := by
  intro keys hnodup hbound
  have hfewer := h (keys.erase a) (hnodup.erase a) fun k hk => by
    obtain ⟨hne, hmem⟩ := (hnodup.mem_erase_iff).mp hk
    exact (hsub k (hbound k hmem)).resolve_left hne
  have hlength : keys.length ≤ (keys.erase a).length + 1 := by
    rw [List.length_erase]
    split <;> omega
  omega

/-- One key more while there is room for it. -/
theorem AtMost.grow [DecidableEq κ] {size limit : Nat} (h : AtMost size g)
    (hroom : size < limit) (hlimit : limit ≤ n) {a : κ}
    (hsub : ∀ k, f k ≠ none → k = a ∨ g k ≠ none) : AtMost n f :=
  (h.add hsub).le (by omega)

end AtMost

section Maps

variable {κ ν : Type} [Ord κ] [Std.TransOrd κ] [Std.LawfulEqOrd κ] {n : Nat}
  {m : ExtTreeMap κ ν}

theorem atMost_lookup_iff : AtMost n (lookup m) ↔ m.size ≤ n := by
  have hsize : (m.toList.map Prod.fst).length = m.size := by
    rw [List.length_map, ExtTreeMap.length_toList]
  constructor
  · intro h
    rw [← hsize]
    refine h _ (nodup_fst_toList m) fun k hk => ?_
    obtain ⟨entry, hentry, rfl⟩ := List.mem_map.mp hk
    rw [lookup_eq_some_iff_mem_toList.mpr hentry]
    exact Option.some_ne_none _
  · intro h keys hnodup hbound
    rw [← hsize] at h
    refine Nat.le_trans (List.Subperm.length_le
      (List.Nodup.subperm hnodup fun k hk => ?_)) h
    obtain ⟨v, hv⟩ := Option.ne_none_iff_exists'.mp (hbound k hk)
    exact List.mem_map.mpr ⟨(k, v), lookup_eq_some_iff_mem_toList.mp hv, rfl⟩

end Maps

end FlowOffload.Foundation

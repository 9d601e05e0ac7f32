import FlowOffload.Foundation.OrdMap
import Mathlib.Algebra.Order.BigOperators.Group.Finset
import Mathlib.Algebra.Ring.Nat

/-!
# Sums over the entries of a map

The sum of a weight over the entries depends only on the weight found under
each key, and an insertion changes it by the weight of one key.
-/

namespace FlowOffload.Foundation

open Std (ExtTreeMap TransOrd LawfulEqOrd)

variable {κ ν ν' : Type} [Ord κ] [TransOrd κ]

def sumOver (weight : κ → ν → Nat) (m : ExtTreeMap κ ν) : Nat :=
  (m.toList.map fun entry => weight entry.1 entry.2).sum

/-- The weight found under a key, zero when there is no entry. -/
def weightAt (weight : κ → ν → Nat) (m : ExtTreeMap κ ν) (k : κ) : Nat :=
  ((lookup m k).map (weight k)).getD 0

variable [LawfulEqOrd κ] [DecidableEq κ]

/-- The sum over any set of keys that covers the map. -/
theorem sumOver_eq_sum (weight : κ → ν → Nat) (m : ExtTreeMap κ ν)
    {keys : Finset κ} (hkeys : ∀ k v, lookup m k = some v → k ∈ keys) :
    sumOver weight m = ∑ k ∈ keys, weightAt weight m k := by
  have hentries : m.toList.map (fun entry => weight entry.1 entry.2) =
      (m.toList.map Prod.fst).map (weightAt weight m) := by
    rw [List.map_map]
    apply List.map_congr_left
    intro entry hentry
    have hlookup := lookup_eq_some_iff_mem_toList.mpr hentry
    simp [weightAt, hlookup]
  rw [sumOver, hentries,
    ← List.sum_toFinset (weightAt weight m) (nodup_fst_toList m)]
  apply Finset.sum_subset
  · intro k hk
    rw [List.mem_toFinset, List.mem_map] at hk
    obtain ⟨entry, hentry, rfl⟩ := hk
    exact hkeys entry.1 entry.2 (lookup_eq_some_iff_mem_toList.mpr hentry)
  · intro k _ hk
    cases hlookup : lookup m k with
    | none => simp [weightAt, hlookup]
    | some v =>
        refine absurd ?_ hk
        rw [List.mem_toFinset, List.mem_map]
        exact ⟨(k, v), lookup_eq_some_iff_mem_toList.mp hlookup, rfl⟩

/-- The keys of a map. -/
def keysOf (m : ExtTreeMap κ ν) : Finset κ :=
  (m.toList.map Prod.fst).toFinset

theorem mem_keysOf {m : ExtTreeMap κ ν} {k : κ} {v : ν}
    (h : lookup m k = some v) : k ∈ keysOf m := by
  rw [keysOf, List.mem_toFinset, List.mem_map]
  exact ⟨(k, v), lookup_eq_some_iff_mem_toList.mp h, rfl⟩

theorem sumOver_congr {weight : κ → ν → Nat} {weight' : κ → ν' → Nat}
    {m : ExtTreeMap κ ν} {m' : ExtTreeMap κ ν'}
    (h : ∀ k, weightAt weight m k = weightAt weight' m' k) :
    sumOver weight m = sumOver weight' m' := by
  have hleft : ∀ k v, lookup m k = some v → k ∈ keysOf m ∪ keysOf m' :=
    fun _ _ hk => Finset.mem_union_left _ (mem_keysOf hk)
  have hright : ∀ k v, lookup m' k = some v → k ∈ keysOf m ∪ keysOf m' :=
    fun _ _ hk => Finset.mem_union_right _ (mem_keysOf hk)
  rw [sumOver_eq_sum weight m hleft, sumOver_eq_sum weight' m' hright]
  exact Finset.sum_congr rfl fun k _ => h k

theorem sumOver_le {weight : κ → ν → Nat} {weight' : κ → ν' → Nat}
    {m : ExtTreeMap κ ν} {m' : ExtTreeMap κ ν'}
    (h : ∀ k, weightAt weight m k ≤ weightAt weight' m' k) :
    sumOver weight m ≤ sumOver weight' m' := by
  have hleft : ∀ k v, lookup m k = some v → k ∈ keysOf m ∪ keysOf m' :=
    fun _ _ hk => Finset.mem_union_left _ (mem_keysOf hk)
  have hright : ∀ k v, lookup m' k = some v → k ∈ keysOf m ∪ keysOf m' :=
    fun _ _ hk => Finset.mem_union_right _ (mem_keysOf hk)
  rw [sumOver_eq_sum weight m hleft, sumOver_eq_sum weight' m' hright]
  exact Finset.sum_le_sum fun k _ => h k

theorem sumOver_insert (weight : κ → ν → Nat) (m : ExtTreeMap κ ν) (k : κ)
    (v : ν) :
    sumOver weight (m.insert k v) + weightAt weight m k =
      sumOver weight m + weight k v := by
  have hself : weightAt weight (m.insert k v) k = weight k v := by
    simp [weightAt]
  have hother : ∀ j ∈ (keysOf m).erase k,
      weightAt weight (m.insert k v) j = weightAt weight m j := by
    intro j hj
    simp [weightAt, Finset.ne_of_mem_erase hj]
  have hrest : ∑ j ∈ (keysOf m).erase k, weightAt weight (m.insert k v) j =
      ∑ j ∈ (keysOf m).erase k, weightAt weight m j :=
    Finset.sum_congr rfl hother
  have hcover : ∀ j w, lookup (m.insert k v) j = some w →
      j ∈ insert k ((keysOf m).erase k) := by
    intro j w hj
    by_cases hjk : j = k
    · exact Finset.mem_insert.mpr (Or.inl hjk)
    · rw [lookup_insert, Function.update_of_ne hjk] at hj
      exact Finset.mem_insert_of_mem
        (Finset.mem_erase.mpr ⟨hjk, mem_keysOf hj⟩)
  have hcover' : ∀ j w, lookup m j = some w →
      j ∈ insert k ((keysOf m).erase k) := by
    intro j w hj
    by_cases hjk : j = k
    · exact Finset.mem_insert.mpr (Or.inl hjk)
    · exact Finset.mem_insert_of_mem
        (Finset.mem_erase.mpr ⟨hjk, mem_keysOf hj⟩)
  rw [sumOver_eq_sum weight _ hcover, sumOver_eq_sum weight _ hcover',
    Finset.sum_insert (Finset.notMem_erase k _),
    Finset.sum_insert (Finset.notMem_erase k _), hself, hrest]
  omega

/-- The sum without a key is smaller by the weight that was found under it. -/
theorem sumOver_erase (weight : κ → ν → Nat) (m : ExtTreeMap κ ν) (k : κ) :
    sumOver weight (m.erase k) + weightAt weight m k = sumOver weight m := by
  have hgone : weightAt weight (m.erase k) k = 0 := by simp [weightAt]
  cases hfound : lookup m k with
  | none =>
      have hsame : sumOver weight (m.erase k) = sumOver weight m := by
        refine sumOver_congr fun j => ?_
        by_cases hj : j = k
        · subst hj
          rw [hgone, weightAt, hfound]
          rfl
        · simp [weightAt, hj]
      rw [hsame, weightAt, hfound]
      rfl
  | some v =>
      have hinsert := sumOver_insert weight (m.erase k) k v
      have hsame : sumOver weight ((m.erase k).insert k v) =
          sumOver weight m := by
        refine sumOver_congr fun j => ?_
        by_cases hj : j = k
        · subst hj
          simp [weightAt, hfound]
        · simp [weightAt, hj]
      rw [hgone, hsame] at hinsert
      rw [weightAt, hfound]
      simp only [Option.map_some, Option.getD_some]
      omega

omit [LawfulEqOrd κ] [DecidableEq κ] in
theorem sumOver_add (weight weight' : κ → ν → Nat) (m : ExtTreeMap κ ν) :
    sumOver (fun k v => weight k v + weight' k v) m =
      sumOver weight m + sumOver weight' m := by
  unfold sumOver
  induction m.toList with
  | nil => rfl
  | cons entry entries ih =>
      simp only [List.map_cons, List.sum_cons, ih]
      omega

theorem sumOver_map (weight : κ → ν' → Nat) (m : ExtTreeMap κ ν)
    (f : ν → ν') :
    sumOver weight (m.map fun _ v => f v) =
      sumOver (fun k v => weight k (f v)) m := by
  refine sumOver_congr fun k => ?_
  simp [weightAt, Option.map_map, Function.comp_def]

/-- Counting is summing up ones. -/
def countOver (p : ν → Bool) (m : ExtTreeMap κ ν) : Nat :=
  sumOver (fun _ v => if p v then 1 else 0) m

omit [LawfulEqOrd κ] [DecidableEq κ] in
theorem countOver_eq_countP (p : ν → Bool) (m : ExtTreeMap κ ν) :
    countOver p m = m.toList.countP fun entry => p entry.2 := by
  unfold countOver sumOver
  induction m.toList with
  | nil => rfl
  | cons entry entries ih =>
      rw [List.map_cons, List.sum_cons, ih, List.countP_cons]
      exact Nat.add_comm _ _

omit [DecidableEq κ] in
theorem le_sumOver (weight : κ → ν → Nat) {m : ExtTreeMap κ ν} {k : κ} {v : ν}
    (h : lookup m k = some v) : weight k v ≤ sumOver weight m := by
  rw [lookup_eq_some_iff_mem_toList] at h
  obtain ⟨before, after, heq⟩ := List.append_of_mem h
  rw [sumOver, heq, List.map_append, List.map_cons, List.sum_append,
    List.sum_cons]
  dsimp only
  omega

end FlowOffload.Foundation

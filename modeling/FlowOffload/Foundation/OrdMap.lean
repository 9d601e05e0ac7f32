import Mathlib.Data.List.Nodup
import Mathlib.Data.List.Perm.Basic
import Mathlib.Logic.Function.Basic
import Std.Data.ExtTreeMap.Lemmas

/-!
# Ordered maps as partial functions

`lookup` forgets the order of a map.  The lemmas below say what each operation
does to that function, so a proof about contents never unfolds a map.  The
second half is about maps that are filled from a list of records.
-/

namespace FlowOffload.Foundation

open Std (ExtTreeMap TransOrd LawfulEqOrd)

section Lookup

variable {κ ν ν' : Type} [Ord κ] [TransOrd κ]

def lookup (m : ExtTreeMap κ ν) (k : κ) : Option ν := m[k]?

@[simp] theorem lookup_empty : lookup (∅ : ExtTreeMap κ ν) = fun _ => none := by
  funext k
  simp [lookup]

variable [LawfulEqOrd κ] [DecidableEq κ]

@[simp] theorem lookup_insert (m : ExtTreeMap κ ν) (k : κ) (v : ν) :
    lookup (m.insert k v) = Function.update (lookup m) k (some v) := by
  funext a
  by_cases h : a = k
  · subst h
    simp [lookup]
  · have hne : ¬ k = a := fun heq => h heq.symm
    simp [lookup, ExtTreeMap.getElem?_insert, h, hne]

@[simp] theorem lookup_erase (m : ExtTreeMap κ ν) (k : κ) :
    lookup (m.erase k) = Function.update (lookup m) k none := by
  funext a
  by_cases h : a = k
  · subst h
    simp [lookup]
  · have hne : ¬ k = a := fun heq => h heq.symm
    simp [lookup, ExtTreeMap.getElem?_erase, h, hne]

omit [DecidableEq κ] in
@[simp] theorem lookup_map (m : ExtTreeMap κ ν) (f : κ → ν → ν') :
    lookup (m.map f) = fun k => (lookup m k).map (f k) := by
  funext a
  simp [lookup, ExtTreeMap.getElem?_map]

@[simp] theorem lookup_modify (m : ExtTreeMap κ ν) (k : κ) (f : ν → ν) :
    lookup (m.modify k f) =
      Function.update (lookup m) k ((lookup m k).map f) := by
  funext a
  by_cases h : a = k
  · subst h
    simp [lookup]
  · have hne : ¬ k = a := fun heq => h heq.symm
    simp [lookup, ExtTreeMap.getElem?_modify, h, hne]

omit [DecidableEq κ] in
theorem ext_lookup {m m' : ExtTreeMap κ ν} (h : ∀ k, lookup m k = lookup m' k) :
    m = m' :=
  ExtTreeMap.ext_getElem? fun {k} => h k

/-- Writing the entry that is there already. -/
theorem insert_eq_self {m : ExtTreeMap κ ν} {k : κ} {v : ν}
    (h : lookup m k = some v) : m.insert k v = m := by
  refine ext_lookup fun a => ?_
  rw [lookup_insert, ← h, Function.update_eq_self]

omit [DecidableEq κ] in
/-- A map in which no entry is changed by the function mapped over it. -/
theorem map_eq_self_iff {m : ExtTreeMap κ ν} {f : ν → ν} :
    (m.map fun _ v => f v) = m ↔ ∀ k v, lookup m k = some v → f v = v := by
  constructor
  · intro heq k v hv
    have hlookup := congrArg (fun entries => lookup entries k) heq
    simpa [hv] using hlookup
  · intro h
    refine ext_lookup fun k => ?_
    simp only [lookup_map]
    cases hv : lookup m k with
    | none => rfl
    | some v => rw [Option.map_some, h k v hv]

omit [DecidableEq κ] in
/-- The values of a map, seen through a function, in the order of the keys. -/
theorem map_values_congr {m m' : ExtTreeMap κ ν} {f : ν → ν'}
    (h : ∀ k, (lookup m k).map f = (lookup m' k).map f) :
    (m.toList.map fun entry => f entry.2) =
      m'.toList.map fun entry => f entry.2 := by
  have heq : (m.map fun _ v => f v) = m'.map fun _ v => f v := by
    refine ext_lookup fun k => ?_
    simp only [lookup_map]
    exact h k
  have hvalues := congrArg (fun entries => entries.toList.map Prod.snd) heq
  simp only [ExtTreeMap.toList_map, List.map_map] at hvalues
  exact hvalues

theorem lookup_insertIfNew_of_none (m : ExtTreeMap κ ν) {k : κ} (v : ν)
    (h : lookup m k = none) :
    lookup (m.insertIfNew k v) = Function.update (lookup m) k (some v) := by
  have hmem : k ∉ m := by
    simpa [lookup] using h
  funext a
  by_cases ha : a = k
  · subst ha
    rw [lookup, ExtTreeMap.getElem?_insertIfNew]
    simp [hmem]
  · have hne : ¬ k = a := fun heq => ha heq.symm
    simp [lookup, ExtTreeMap.getElem?_insertIfNew, ha, hne]

theorem insertIfNew_eq_insert {m : ExtTreeMap κ ν} {k : κ} (v : ν)
    (h : lookup m k = none) : m.insertIfNew k v = m.insert k v := by
  refine ext_lookup fun a => ?_
  rw [lookup_insertIfNew_of_none m v h, lookup_insert]

theorem lookup_insertIfNew_of_some (m : ExtTreeMap κ ν) {k : κ} {v old : ν}
    (h : lookup m k = some old) :
    lookup (m.insertIfNew k v) = lookup m := by
  have hmem : k ∈ m := by
    rw [ExtTreeMap.mem_iff_isSome_getElem?]
    change (lookup m k).isSome = true
    rw [h]
    rfl
  funext a
  by_cases ha : a = k
  · subst ha
    rw [lookup, ExtTreeMap.getElem?_insertIfNew]
    simp [hmem, lookup]
  · have hne : ¬ k = a := fun heq => ha heq.symm
    simp [lookup, ExtTreeMap.getElem?_insertIfNew, hne]

theorem lookup_of_insertIfNew {m : ExtTreeMap κ ν} {k a : κ} {v w : ν}
    (hne : a ≠ k) (h : lookup (m.insertIfNew k v) a = some w) :
    lookup m a = some w := by
  cases htaken : lookup m k with
  | none =>
      rw [lookup_insertIfNew_of_none m v htaken, Function.update_of_ne hne]
        at h
      exact h
  | some old =>
      rw [lookup_insertIfNew_of_some m htaken] at h
      exact h

/-- Inserting under a key that is taken. -/
theorem insertIfNew_eq_self_iff {m : ExtTreeMap κ ν} {k : κ} {v : ν} :
    m.insertIfNew k v = m ↔ lookup m k ≠ none := by
  constructor
  · intro heq hnone
    have hlookup := lookup_insertIfNew_of_none m v hnone
    rw [heq] at hlookup
    have hk := congrFun hlookup k
    rw [hnone, Function.update_self] at hk
    cases hk
  · intro hne
    obtain ⟨old, hold⟩ := Option.ne_none_iff_exists'.mp hne
    exact ext_lookup fun a => congrFun (lookup_insertIfNew_of_some m hold) a

omit [DecidableEq κ] in
theorem lookup_eq_some_iff_mem_toList {m : ExtTreeMap κ ν} {k : κ} {v : ν} :
    lookup m k = some v ↔ (k, v) ∈ m.toList :=
  ExtTreeMap.mem_toList_iff_getElem?_eq_some.symm

omit [DecidableEq κ] in
theorem nodup_fst_toList (m : ExtTreeMap κ ν) :
    (m.toList.map Prod.fst).Nodup := by
  have h := ExtTreeMap.distinct_keys_toList (t := m)
  rw [List.Nodup, List.pairwise_map]
  refine h.imp ?_
  intro a b hne heq
  apply hne
  rw [heq]
  exact Std.ReflOrd.compare_self

omit [DecidableEq κ] in
theorem nodup_toList (m : ExtTreeMap κ ν) : m.toList.Nodup :=
  (nodup_fst_toList m).of_map Prod.fst

/-- A new key adds its entry to the listing. -/
theorem perm_toList_insert {m : ExtTreeMap κ ν} {k : κ} (v : ν)
    (h : lookup m k = none) :
    (m.insert k v).toList.Perm ((k, v) :: m.toList) := by
  have hfresh : ∀ w, (k, w) ∉ m.toList := by
    intro w hmem
    rw [← lookup_eq_some_iff_mem_toList, h] at hmem
    cases hmem
  rw [List.perm_ext_iff_of_nodup (nodup_toList _)
    (List.nodup_cons.mpr ⟨hfresh v, nodup_toList m⟩)]
  rintro ⟨a, w⟩
  rw [← lookup_eq_some_iff_mem_toList, lookup_insert, List.mem_cons,
    Prod.mk.injEq]
  by_cases ha : a = k
  · subst ha
    simp [hfresh w, eq_comm]
  · rw [Function.update_of_ne ha, lookup_eq_some_iff_mem_toList]
    simp [ha]

omit [LawfulEqOrd κ] [DecidableEq κ] in
theorem sorted_toList (m : ExtTreeMap κ ν) :
    m.toList.Pairwise fun a b => compare a.1 b.1 = .lt :=
  ExtTreeMap.ordered_keys_toList

omit [DecidableEq κ] in
/-- A list in key order with the entries of a map is its listing. -/
theorem toList_eq_of_mem {m : ExtTreeMap κ ν} {entries : List (κ × ν)}
    (hsorted : entries.Pairwise fun a b => compare a.1 b.1 = .lt)
    (hmem : ∀ entry, entry ∈ m.toList ↔ entry ∈ entries) :
    m.toList = entries := by
  have hnodup : ∀ {l : List (κ × ν)},
      l.Pairwise (fun a b => compare a.1 b.1 = .lt) → l.Nodup := by
    intro l hl
    refine hl.imp ?_
    rintro a b hab rfl
    rw [Std.ReflOrd.compare_self] at hab
    cases hab
  refine List.Perm.eq_of_pairwise ?_ (sorted_toList m) hsorted
    ((List.perm_ext_iff_of_nodup (hnodup (sorted_toList m))
      (hnodup hsorted)).mpr hmem)
  intro a b _ _ hab hba
  rw [Std.OrientedOrd.eq_swap, hba] at hab
  cases hab

/-- Erasing the first entry. -/
theorem toList_erase_head {m : ExtTreeMap κ ν} {entry : κ × ν}
    {rest : List (κ × ν)} (h : m.toList = entry :: rest) :
    (m.erase entry.1).toList = rest := by
  have hsorted := sorted_toList m
  rw [h, List.pairwise_cons] at hsorted
  refine toList_eq_of_mem hsorted.2 ?_
  rintro ⟨k, v⟩
  rw [← lookup_eq_some_iff_mem_toList, lookup_erase]
  have hmem : lookup m k = some v ↔ (k, v) = entry ∨ (k, v) ∈ rest := by
    rw [lookup_eq_some_iff_mem_toList, h, List.mem_cons]
  by_cases hk : k = entry.1
  · rw [hk, Function.update_self]
    constructor
    · intro hnone
      cases hnone
    · intro hrest
      have hlt := hsorted.1 _ hrest
      rw [Std.ReflOrd.compare_self] at hlt
      cases hlt
  · rw [Function.update_of_ne hk, hmem]
    constructor
    · rintro (heq | hrest)
      · exact absurd (congrArg Prod.fst heq) hk
      · exact hrest
    · exact Or.inr

end Lookup

section Index

variable {κ ν ν' : Type} [Ord κ] [TransOrd κ] [LawfulEqOrd κ] [DecidableEq κ]

/-- Filling a map from a list with distinct keys. -/
theorem lookup_foldl_insert (key : ν → κ) (values : List ν)
    (hnodup : (values.map key).Nodup) (m : ExtTreeMap κ ν) (k : κ) (v : ν) :
    lookup (values.foldl (fun entries x => entries.insert (key x) x) m) k =
        some v ↔
      (v ∈ values ∧ key v = k) ∨ (lookup m k = some v ∧ k ∉ values.map key) := by
  induction values generalizing m with
  | nil => simp
  | cons x values ih =>
      obtain ⟨hx, hrest⟩ := List.nodup_cons.mp hnodup
      rw [List.foldl_cons, ih hrest]
      rw [lookup_insert]
      by_cases hk : k = key x
      · subst hk
        constructor
        · rintro (⟨hv, hkv⟩ | ⟨hv, -⟩)
          · exact absurd (List.mem_map.mpr ⟨v, hv, hkv⟩) hx
          · left
            simp only [Function.update_self, Option.some.injEq] at hv
            subst hv
            simp
        · rintro (⟨hv, hkv⟩ | ⟨-, hmem⟩)
          · rcases List.mem_cons.mp hv with rfl | hv
            · right
              simp [hx]
            · exact absurd (List.mem_map.mpr ⟨v, hv, hkv⟩) hx
          · simp at hmem
      · simp only [Function.update_of_ne hk, List.mem_cons, List.map_cons]
        constructor
        · rintro (⟨hv, hkv⟩ | ⟨hv, hmem⟩)
          · exact Or.inl ⟨Or.inr hv, hkv⟩
          · exact Or.inr ⟨hv, by simp [hk, hmem]⟩
        · rintro (⟨hv, hkv⟩ | ⟨hv, hmem⟩)
          · rcases hv with rfl | hv
            · exact absurd hkv.symm hk
            · exact Or.inl ⟨hv, hkv⟩
          · exact Or.inr ⟨hv, fun hin => hmem (Or.inr hin)⟩

/--
A map filled from a rearrangement of the values of another one, when every
value names the key it was stored under.
-/
theorem lookup_foldl_insert_values {key : ν' → κ} {g : ν → ν'}
    {m : ExtTreeMap κ ν} {values : List ν'}
    (hvalues : values.Perm (m.toList.map fun entry => g entry.2))
    (hkey : ∀ k v, lookup m k = some v → key (g v) = k) (k : κ) :
    lookup (values.foldl (fun entries x => entries.insert (key x) x) ∅) k =
      (lookup m k).map g := by
  have hkeys : (m.toList.map fun entry => g entry.2).map key =
      m.toList.map Prod.fst := by
    rw [List.map_map]
    apply List.map_congr_left
    intro entry hentry
    exact hkey entry.1 entry.2 (lookup_eq_some_iff_mem_toList.mpr hentry)
  have hnodup : (values.map key).Nodup := by
    rw [(hvalues.map key).nodup_iff, hkeys]
    exact nodup_fst_toList m
  ext v
  rw [lookup_foldl_insert key values hnodup]
  simp only [lookup_empty, reduceCtorEq, false_and, or_false,
    Option.map_eq_some_iff]
  rw [hvalues.mem_iff]
  constructor
  · rintro ⟨hv, hk⟩
    obtain ⟨entry, hentry, rfl⟩ := List.mem_map.mp hv
    have hlookup := lookup_eq_some_iff_mem_toList.mpr hentry
    have : entry.1 = k := by
      rw [← hk, hkey _ _ hlookup]
    exact ⟨entry.2, this ▸ hlookup, rfl⟩
  · rintro ⟨w, hw, rfl⟩
    exact ⟨List.mem_map.mpr ⟨(k, w), lookup_eq_some_iff_mem_toList.mp hw, rfl⟩,
      hkey k w hw⟩

/-- Filling a map with a part of each record. -/
theorem foldl_insert_map (key : ν → κ) (f : ν → ν') (values : List ν)
    (m : ExtTreeMap κ ν) :
    values.foldl (fun entries x => entries.insert (key x) (f x))
        (m.map fun _ v => f v) =
      (values.foldl (fun entries x => entries.insert (key x) x) m).map
        fun _ v => f v := by
  induction values generalizing m with
  | nil => rfl
  | cons x values ih =>
      rw [List.foldl_cons, List.foldl_cons, ← ih]
      congr 1
      refine ext_lookup fun a => ?_
      by_cases ha : a = key x
      · subst ha
        simp
      · simp [ha]

end Index

end FlowOffload.Foundation

import FlowOffload.Engine.State
import FlowOffload.Foundation.OrdMap

/-!
# Bounded history

Tables of past decisions are cut down to a bound.  Eviction takes entries away
and changes none; the oldest identities go first, so that an entry is kept as
long as there are few enough newer ones.
-/

namespace FlowOffload

open Foundation
open Std (ExtTreeMap)

namespace Impl

theorem lookup_of_evictFences {limit fuel : Nat}
    {fences : ExtTreeMap FenceId FenceRecord} {evictions : UInt64}
    {k : FenceId} {fence : FenceRecord}
    (h : lookup (evictFences limit fuel fences evictions).1 k = some fence) :
    lookup fences k = some fence := by
  induction fuel generalizing fences evictions with
  | zero => exact h
  | succ fuel ih =>
      unfold evictFences at h
      split at h
      · dsimp only at h
        split at h
        · exact h
        next entry hvictim =>
          have hrest := ih h
          rw [lookup_erase] at hrest
          by_cases hk : k = entry.1
          · subst hk
            simp at hrest
          · rwa [Function.update_of_ne hk] at hrest
      · exact h

theorem lookup_of_evictOldest {κ ν : Type} [Ord κ] [Std.TransOrd κ]
    [Std.LawfulEqOrd κ] [DecidableEq κ] {limit fuel : Nat}
    {entries : ExtTreeMap κ ν} {evictions : UInt64} {k : κ} {v : ν}
    (h : lookup (evictOldest limit fuel entries evictions).1 k = some v) :
    lookup entries k = some v := by
  induction fuel generalizing entries evictions with
  | zero => exact h
  | succ fuel ih =>
      unfold evictOldest at h
      split at h
      · split at h
        · exact h
        next entry hoffered =>
          have hrest := ih h
          rw [lookup_erase] at hrest
          by_cases hk : k = entry.1
          · subst hk
            simp at hrest
          · rwa [Function.update_of_ne hk] at hrest
      · exact h

section Oldest

variable {κ ν : Type} [Ord κ] [Std.TransOrd κ] [Std.LawfulEqOrd κ]
  [DecidableEq κ]

/-- Eviction drops a prefix of the listing. -/
theorem toList_evictOldest (limit fuel : Nat) (entries : ExtTreeMap κ ν)
    (evictions : UInt64) :
    (evictOldest limit fuel entries evictions).1.toList =
      entries.toList.drop (min fuel (entries.size - limit)) := by
  induction fuel generalizing entries evictions with
  | zero => simp [evictOldest]
  | succ fuel ih =>
      have hsize := ExtTreeMap.length_toList (t := entries)
      rw [evictOldest]
      split
      next hover =>
        cases hlist : entries.toList with
        | nil =>
            rw [hlist, List.length_nil] at hsize
            omega
        | cons entry rest =>
            rw [hlist, List.length_cons] at hsize
            have hrest := toList_erase_head hlist
            have hsmaller : (entries.erase entry.1).size = rest.length := by
              rw [← ExtTreeMap.length_toList, hrest]
            simp only [List.head?_cons]
            rw [ih, hrest, hsmaller]
            have hcount : min (fuel + 1) (entries.size - limit) =
                min fuel (rest.length - limit) + 1 := by omega
            rw [hcount, List.drop_succ_cons]
      next hwithin =>
        have hcount : min (fuel + 1) (entries.size - limit) = 0 := by omega
        rw [hcount, List.drop_zero]

/-- An entry is kept when fewer than the bound are newer. -/
theorem lookup_evictOldest_iff {limit : Nat} {entries : ExtTreeMap κ ν}
    {evictions : UInt64} {k : κ} {v : ν} (h : lookup entries k = some v) :
    lookup (evictOldest limit entries.size entries evictions).1 k = some v ↔
      entries.toList.countP (fun entry => compare k entry.1 = .lt) <
        limit := by
  rw [lookup_eq_some_iff_mem_toList] at h ⊢
  rw [toList_evictOldest, Nat.min_eq_right (Nat.sub_le _ _),
    ← ExtTreeMap.length_toList]
  have hsorted := sorted_toList entries
  obtain ⟨older, newer, heq⟩ := List.append_of_mem h
  rw [heq] at hsorted ⊢
  rw [List.pairwise_append, List.pairwise_cons] at hsorted
  obtain ⟨-, ⟨hnewer, -⟩, holder⟩ := hsorted
  have hcount : (older ++ (k, v) :: newer).countP
      (fun entry => compare k entry.1 = .lt) = newer.length := by
    rw [List.countP_append, List.countP_cons]
    have hnone : older.countP (fun entry => compare k entry.1 = .lt) = 0 := by
      rw [List.countP_eq_zero]
      intro entry hentry
      have hlt := holder entry hentry (k, v) List.mem_cons_self
      rw [Std.OrientedOrd.eq_swap] at hlt
      intro hgt
      rw [decide_eq_true_eq] at hgt
      rw [hgt] at hlt
      cases hlt
    have hall : newer.countP (fun entry => compare k entry.1 = .lt) =
        newer.length := by
      rw [List.countP_eq_length]
      intro entry hentry
      exact decide_eq_true (hnewer entry hentry)
    rw [hnone, hall]
    simp
  rw [hcount, List.length_append, List.length_cons]
  by_cases hkept : older.length + (newer.length + 1) - limit ≤ older.length
  · rw [List.drop_append_of_le_length hkept]
    simp only [List.mem_append, List.mem_cons, true_or, or_true, true_iff]
    omega
  · constructor
    · intro hmem
      rw [List.drop_append, List.drop_of_length_le (by omega),
        List.nil_append] at hmem
      have hpos : older.length + (newer.length + 1) - limit - older.length =
          (newer.length - limit) + 1 := by omega
      rw [hpos, List.drop_succ_cons] at hmem
      have hlt := hnewer _ (List.mem_of_mem_drop hmem)
      rw [Std.ReflOrd.compare_self] at hlt
      cases hlt
    · intro hlt
      omega

end Oldest

end Impl

end FlowOffload

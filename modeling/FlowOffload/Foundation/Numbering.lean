import FlowOffload.Foundation.OrdMap

/-!
# Numbers that are given out in order

A register holds a number in some of its slots and knows the next one.  A
number goes to a slot and the counter moves on, up to a limit at which it
stays; a slot may lose its number at any time.  As long as the limit is not
reached, what is held anew was never held before.
-/

namespace FlowOffload.Foundation

open Std (ExtTreeMap TransOrd LawfulEqOrd)

structure Register (κ : Type) where
  held : κ → Option Nat
  next : Nat

namespace Register

variable {κ : Type} [DecidableEq κ] {limit : Nat} {r r' : Register κ}

/-- The counter after one number. -/
def succ (limit n : Nat) : Nat := if n = limit then n else n + 1

def give (r : Register κ) (limit : Nat) (k : κ) : Register κ where
  held := Function.update r.held k (some r.next)
  next := succ limit r.next

/-- What may happen to a register. -/
inductive Gives (limit : Nat) : Register κ → Register κ → Prop where
  | drop {r r' : Register κ} (next : r'.next = r.next)
      (held : ∀ k n, r'.held k = some n → r.held k = some n) :
      Gives limit r r'
  | give (r : Register κ) (k : κ) : Gives limit r (r.give limit k)
  | waste (r : Register κ) :
      Gives limit r { r with next := succ limit r.next }
  | trans {a b c : Register κ} (first : Gives limit a b)
      (second : Gives limit b c) : Gives limit a c

theorem Gives.refl (r : Register κ) : Gives limit r r :=
  .drop rfl fun _ _ h => h

/-- Every number that is held was given out before. -/
def Below (r : Register κ) : Prop := ∀ k n, r.held k = some n → n < r.next

theorem le_succ (limit n : Nat) : n ≤ succ limit n := by
  unfold succ
  split <;> omega

theorem Gives.le (h : Gives limit r r') : r.next ≤ r'.next := by
  induction h with
  | drop next => exact Nat.le_of_eq next.symm
  | give r k => exact le_succ limit r.next
  | waste r => exact le_succ limit r.next
  | trans first second ih ih' => exact Nat.le_trans ih ih'

theorem lt_succ {n : Nat} (h : succ limit n < limit) : n < succ limit n := by
  unfold succ at h ⊢
  split at h
  · omega
  · rw [if_neg (by assumption)]
    omega

theorem Gives.keeps (h : Gives limit r r') (hbelow : r.Below)
    (hlimit : r'.next < limit) : r'.Below := by
  induction h with
  | drop next held =>
      intro k n hk
      rw [next]
      exact hbelow k n (held k n hk)
  | give r k =>
      have hlt : r.next < succ limit r.next := lt_succ hlimit
      intro k' n hk
      change n < succ limit r.next
      change Function.update r.held k (some r.next) k' = some n at hk
      by_cases hsame : k' = k
      · subst hsame
        rw [Function.update_self] at hk
        cases hk
        exact hlt
      · rw [Function.update_of_ne hsame] at hk
        exact Nat.lt_trans (hbelow k' n hk) hlt
  | waste r =>
      intro k n hk
      exact Nat.lt_of_lt_of_le (hbelow k n hk) (le_succ limit r.next)
  | trans first second ih ih' =>
      exact ih' (ih hbelow (Nat.lt_of_le_of_lt second.le hlimit)) hlimit

/-- A number that is held was held there before, or is given out anew. -/
theorem Gives.held (h : Gives limit r r') {k : κ} {n : Nat}
    (hk : r'.held k = some n) : r.held k = some n ∨ r.next ≤ n := by
  induction h with
  | drop next held => exact Or.inl (held k n hk)
  | give r slot =>
      change Function.update r.held slot (some r.next) k = some n at hk
      by_cases hsame : k = slot
      · subst hsame
        rw [Function.update_self] at hk
        cases hk
        exact Or.inr (Nat.le_refl _)
      · rw [Function.update_of_ne hsame] at hk
        exact Or.inl hk
  | waste r => exact Or.inl hk
  | trans first second ih ih' =>
      rcases ih' hk with hold | hnew
      · exact ih hold
      · exact Or.inr (Nat.le_trans first.le hnew)

/-- A number that is given out anew is held in one slot only. -/
theorem Gives.unique (h : Gives limit r r') (hbelow : r.Below)
    (hlimit : r'.next < limit) {k k' : κ} {n : Nat} (hnew : r.next ≤ n)
    (hk : r'.held k = some n) (hk' : r'.held k' = some n) : k = k' := by
  induction h with
  | drop next held =>
      have := hbelow k n (held k n hk)
      omega
  | give r slot =>
      have hslot : ∀ {other}, (r.give limit slot).held other = some n →
          other = slot := by
        intro other hother
        by_contra hne
        change Function.update r.held slot (some r.next) other = some n
          at hother
        rw [Function.update_of_ne hne] at hother
        have := hbelow other n hother
        omega
      rw [hslot hk, hslot hk']
  | waste r =>
      have := hbelow k n hk
      omega
  | @trans a b c first second ih ih' =>
      have hmiddle : b.next < limit := Nat.lt_of_le_of_lt second.le hlimit
      have hbetween := first.keeps hbelow hmiddle
      by_cases hlate : b.next ≤ n
      · exact ih' hbetween hlimit hlate hk hk'
      · have hearly : ∀ {other}, c.held other = some n →
            b.held other = some n := fun hother =>
          (second.held hother).resolve_right hlate
        exact ih hbelow hmiddle hnew (hearly hk) (hearly hk')

/-! ## Registers of records in a map -/

section Records

variable {ν : Type} [Ord κ] [TransOrd κ] [LawfulEqOrd κ]

/-- The numbers that the records of a map carry. -/
def of (number : κ → ν → Nat) (m : ExtTreeMap κ ν) (next : Nat) :
    Register κ where
  held k := (lookup m k).map (number k)
  next := next

/-- The slots of the second map that carry a number they did not carry. -/
def added (number : κ → ν → Nat) (m m' : ExtTreeMap κ ν) :
    List (κ × Nat) :=
  (m'.toList.map fun entry => (entry.1, number entry.1 entry.2)).filter
    fun item => (lookup m item.1).map (number item.1) ≠ some item.2

variable {number : κ → ν → Nat} {m m' : ExtTreeMap κ ν} {next next' : Nat}

omit [DecidableEq κ] in
theorem mem_added {k : κ} {n : Nat} (next next' : Nat) :
    (k, n) ∈ added number m m' ↔
      (of number m' next').held k = some n ∧
        (of number m next).held k ≠ some n := by
  have hmem : (k, n) ∈ (m'.toList.map fun entry =>
      (entry.1, number entry.1 entry.2)) ↔
        (of number m' next').held k = some n := by
    change _ ↔ (lookup m' k).map (number k) = some n
    simp only [List.mem_map, Option.map_eq_some_iff, Prod.mk.injEq]
    constructor
    · rintro ⟨entry, hentry, rfl, hn⟩
      exact ⟨entry.2, lookup_eq_some_iff_mem_toList.mpr hentry, hn⟩
    · rintro ⟨v, hv, hn⟩
      exact ⟨(k, v), lookup_eq_some_iff_mem_toList.mp hv, rfl, hn⟩
  rw [added, List.mem_filter, hmem, decide_eq_true_eq]
  rfl

omit [DecidableEq κ] in
theorem nodup_added : (added number m m').Nodup := by
  refine List.Nodup.filter _ ?_
  refine List.Nodup.map_on ?_ (nodup_toList m')
  intro a ha b hb heq
  rw [Prod.mk.injEq] at heq
  have hvalue := lookup_eq_some_iff_mem_toList.mpr ha
  rw [heq.1, lookup_eq_some_iff_mem_toList.mpr hb, Option.some.injEq] at hvalue
  exact Prod.ext heq.1 hvalue.symm

omit [DecidableEq κ] in
theorem added_eq_nil (h : ∀ k v, lookup m' k = some v →
    (lookup m k).map (number k) = some (number k v)) :
    added number m m' = [] := by
  rw [List.eq_nil_iff_forall_not_mem]
  rintro ⟨k, n⟩ hmem
  obtain ⟨hheld, hnew⟩ := (mem_added 0 0).mp hmem
  obtain ⟨v, hv, hn⟩ := Option.map_eq_some_iff.mp hheld
  exact hnew ((h k v hv).trans (congrArg some hn))

/-- Numbers in the slots of a map, and the slots that ever carried one. -/
structure Kept (number : κ → ν → Nat) (m : ExtTreeMap κ ν) (next : Nat)
    (carried : List (κ × Nat)) : Prop where
  below : (of number m next).Below
  unique : (carried.map Prod.snd).Nodup
  held : ∀ k v, lookup m k = some v → (k, number k v) ∈ carried

/-- Numbers that are given out in order stay different. -/
theorem Kept.gives {carried : List (κ × Nat)}
    (h : Kept number m next carried)
    (hgives : Gives limit (of number m next) (of number m' next'))
    (hlimit : next' < limit) (hbound : ∀ item ∈ carried, item.2 < next) :
    Kept number m' next' (added number m m' ++ carried) ∧
      ∀ item ∈ added number m m' ++ carried, item.2 < next' := by
  have hkeeps := hgives.keeps h.below hlimit
  have hadded : ∀ item ∈ added number m m', next ≤ item.2 ∧
      (of number m' next').held item.1 = some item.2 := by
    intro item hitem
    obtain ⟨hheld, hnew⟩ := (mem_added next next').mp hitem
    exact ⟨(hgives.held hheld).resolve_left hnew, hheld⟩
  refine ⟨⟨hkeeps, ?_, ?_⟩, ?_⟩
  · rw [List.map_append, List.nodup_append]
    refine ⟨List.Nodup.map_on ?_ nodup_added, h.unique, ?_⟩
    · intro a ha b hb heq
      obtain ⟨hnew, hheld⟩ := hadded a ha
      have hkeys := hgives.unique h.below hlimit hnew hheld
        (heq ▸ (hadded b hb).2)
      exact Prod.ext hkeys heq
    · intro n hn n' hn' heq
      obtain ⟨a, ha, rfl⟩ := List.mem_map.mp hn
      obtain ⟨b, hb, rfl⟩ := List.mem_map.mp hn'
      have hlate := (hadded a ha).1
      have hearly := hbound b hb
      omega
  · intro k v hv
    rw [List.mem_append]
    by_cases hold : (lookup m k).map (number k) = some (number k v)
    · obtain ⟨old, hfound, hsame⟩ := Option.map_eq_some_iff.mp hold
      rw [← hsame]
      exact Or.inr (h.held k old hfound)
    · refine Or.inl ((mem_added next next').mpr ⟨?_, hold⟩)
      change (lookup m' k).map (number k) = _
      rw [hv, Option.map_some]
  · intro item hitem
    rcases List.mem_append.mp hitem with hnew | hold
    · exact hkeeps item.1 item.2 (hadded item hnew).2
    · exact Nat.lt_of_lt_of_le (hbound item hold) hgives.le

omit [LawfulEqOrd κ] in
/-- Records are lost or keep their numbers. -/
theorem gives_sub (next : Nat) (h : ∀ k v, lookup m' k = some v →
      ∃ old, lookup m k = some old ∧ number k v = number k old) :
    Gives limit (of number m next) (of number m' next) := by
  refine .drop rfl fun k n hk => ?_
  change (lookup m' k).map (number k) = some n at hk
  obtain ⟨v, hv, hn⟩ := Option.map_eq_some_iff.mp hk
  obtain ⟨old, hold, hsame⟩ := h k v hv
  change (lookup m k).map (number k) = some n
  rw [hold, Option.map_some, ← hsame, hn]

theorem gives_insert {k : κ} {v : ν} (hnumber : number k v = next) :
    Gives limit (of number m next)
      (of number (m.insert k v) (succ limit next)) := by
  have heq : of number (m.insert k v) (succ limit next) =
      (of number m next).give limit k := by
    rw [of, give]
    congr 1
    funext k'
    by_cases hk : k' = k
    · subst hk
      simp [hnumber, of]
    · simp [hk, of]
  rw [heq]
  exact .give _ k

theorem gives_insertIfNew {k : κ} {v : ν} (hnumber : number k v = next) :
    Gives limit (of number m next)
      (of number (m.insertIfNew k v) (succ limit next)) := by
  cases hk : lookup m k with
  | none =>
      rw [insertIfNew_eq_insert v hk]
      exact gives_insert hnumber
  | some old =>
      rw [insertIfNew_eq_self_iff.mpr (by rw [hk]; exact Option.some_ne_none _)]
      exact .waste _

end Records

end Register

end FlowOffload.Foundation

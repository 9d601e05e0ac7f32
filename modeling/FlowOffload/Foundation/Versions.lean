import Mathlib.Order.Basic

/-!
# Versioned values

A value gives way to one of a higher version, or to one of its own version that
stands for the same thing.  Whatever goes through such steps never falls back,
and shows at most one thing under each version.
-/

namespace FlowOffload.Foundation

variable {α : Type} (version : α → Nat) (same : α → α → Prop)

/-- The new value has a higher version, or is the old one in another form. -/
def Supersedes (old new : α) : Prop :=
  version old < version new ∨ version old = version new ∧ same old new

namespace Supersedes

variable {version same} {a b c : α}

theorem refl (hrefl : ∀ a, same a a) (a : α) : Supersedes version same a a :=
  Or.inr ⟨rfl, hrefl a⟩

theorem le (h : Supersedes version same a b) : version a ≤ version b := by
  rcases h with hlt | ⟨heq, -⟩
  · exact Nat.le_of_lt hlt
  · exact Nat.le_of_eq heq

/-- At one version there is one value. -/
theorem same_of_eq (h : Supersedes version same a b)
    (heq : version a = version b) : same a b := by
  rcases h with hlt | ⟨-, hsame⟩
  · omega
  · exact hsame

theorem trans (htrans : ∀ a b c, same a b → same b c → same a c)
    (hab : Supersedes version same a b) (hbc : Supersedes version same b c) :
    Supersedes version same a c := by
  have hle := hab.le
  have hle' := hbc.le
  by_cases heq : version a = version c
  · refine Or.inr ⟨heq, htrans a b c ?_ ?_⟩
    · exact hab.same_of_eq (by omega)
    · exact hbc.same_of_eq (by omega)
  · exact Or.inl (by omega)

end Supersedes

end FlowOffload.Foundation

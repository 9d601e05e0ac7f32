import Mathlib.Data.List.Basic

/-!
# Machines driven by inputs

A machine is a step function together with what its environment promises about
each input.  `Admits` says that a run takes only promised inputs that also meet
a guard, each in the state it is taken in.  The rules below turn a fact about
one step into a fact about every run.
-/

namespace FlowOffload.Foundation

structure Machine (σ ι : Type) where
  step : σ → ι → σ
  allowed : σ → ι → Prop

namespace Machine

variable {σ ι : Type} (M : Machine σ ι)

def run (s : σ) (inputs : List ι) : σ := inputs.foldl M.step s

@[simp] theorem run_nil (s : σ) : M.run s [] = s := rfl

@[simp] theorem run_cons (s : σ) (i : ι) (inputs : List ι) :
    M.run s (i :: inputs) = M.run (M.step s i) inputs := rfl

def Admits (guard : σ → ι → Prop) : σ → List ι → Prop
  | _, [] => True
  | s, i :: inputs =>
      M.allowed s i ∧ guard s i ∧ Admits guard (M.step s i) inputs

instance Admits.instDecidable (guard : σ → ι → Prop)
    [∀ s i, Decidable (M.allowed s i)] [∀ s i, Decidable (guard s i)] :
    ∀ s inputs, Decidable (M.Admits guard s inputs)
  | _, [] => isTrue trivial
  | s, i :: inputs =>
      have := Admits.instDecidable guard (M.step s i) inputs
      inferInstanceAs (Decidable (_ ∧ _ ∧ _))

theorem run_append (s : σ) (inputs more : List ι) :
    M.run s (inputs ++ more) = M.run (M.run s inputs) more :=
  List.foldl_append

variable {M}

theorem admits_append {guard : σ → ι → Prop} {s : σ} {inputs more : List ι} :
    M.Admits guard s (inputs ++ more) ↔
      M.Admits guard s inputs ∧ M.Admits guard (M.run s inputs) more := by
  induction inputs generalizing s with
  | nil => simp [Admits]
  | cons i inputs ih =>
      simp only [List.cons_append, Admits, run_cons, ih, and_assoc]

/-- What every guarded step preserves holds after every guarded run. -/
theorem Admits.invariant {guard : σ → ι → Prop} {P : σ → Prop}
    (hstep : ∀ s i, P s → M.allowed s i → guard s i → P (M.step s i))
    {s : σ} {inputs : List ι} (hs : P s) (hrun : M.Admits guard s inputs) :
    P (M.run s inputs) := by
  induction inputs generalizing s with
  | nil => exact hs
  | cons i inputs ih =>
      obtain ⟨hallowed, hguard, hrest⟩ := hrun
      exact ih (hstep s i hs hallowed hguard) hrest

/-- What every step preserves may be added to the guard of a run. -/
theorem Admits.strengthen {guard : σ → ι → Prop} {P : σ → Prop}
    (hstep : ∀ s i, P s → M.allowed s i → guard s i → P (M.step s i))
    {s : σ} {inputs : List ι} (hs : P s) (hrun : M.Admits guard s inputs) :
    M.Admits (fun s i => guard s i ∧ P s) s inputs := by
  induction inputs generalizing s with
  | nil => trivial
  | cons i inputs ih =>
      obtain ⟨hallowed, hguard, hrest⟩ := hrun
      exact ⟨hallowed, ⟨hguard, hs⟩, ih (hstep s i hs hallowed hguard) hrest⟩

end Machine

end FlowOffload.Foundation

import FlowOffload.Engine.Survey
import FlowOffload.Laws.Removal

/-!
# Declared targets are well described

A target that is declared and ready has passed the checks of its declaration:
it has an execution domain and a host, and an offload target has a device.
-/

namespace FlowOffload

open Foundation

/-- What the checks in front of a declaration promise of a descriptor. -/
structure TargetDescriptor.Described (target : TargetDescriptor) : Prop where
  domain : target.domain ≠ .unknown
  host : target.host.isValid = true
  device : target.domain = .offloadDevice → target.device.isValid = true

namespace Impl

variable {s : Impl} {op : Op}

theorem described_of_targetRefusal {target : TargetDescriptor}
    (h : s.targetRefusal target = none) : target.Described := by
  simp only [targetRefusal, passes_iff] at h
  obtain ⟨-, hkind, -, hdevice, hhost, -⟩ := h
  refine ⟨?_, by simpa using hhost, fun hoffload => ?_⟩
  · intro hunknown
    simp [hunknown] at hkind
  · simpa [hoffload] using hdevice

/-- The entry of a target is well described if the target may be used. -/
def DescribedEntry (target : TargetState) : Prop :=
  target.declared = true → target.descriptor.lifecycle = .ready →
    target.descriptor.Described

def DeclaresDescribed (s : Impl) : Prop :=
  ∀ id, ∀ target ∈ s.entry id, DescribedEntry target

theorem DeclaresDescribed.described (h : s.DeclaresDescribed) {id : TargetId}
    {target : TargetState} (hfound : lookup s.targets id = some target)
    (hready : target.declared = true ∧ target.descriptor.lifecycle = .ready) :
    target.descriptor.Described :=
  h id (unscheduled target)
    (Option.map_eq_some_iff.mpr ⟨target, hfound, rfl⟩) hready.1 hready.2

/-- What happens to an entry keeps it well described, when what is declared
is. -/
theorem EntryStep.describedEntry {id : TargetId}
    {before after : Option TargetState} (h : EntryStep op id before after)
    (hop : ∀ target ∈ op.declared, target.Described)
    (hbefore : ∀ target ∈ before, DescribedEntry target) :
    ∀ target ∈ after, DescribedEntry target := by
  intro target htarget
  cases h with
  | same => exact hbefore target htarget
  | undeclared before =>
      cases htarget
      intro hdeclared
      cases hdeclared
  | registered call | updated call | advanced call | replaced call =>
      cases htarget
      exact fun _ _ => hop _ call
  | removed call =>
      cases htarget
      intro _ hready
      cases hready
  | loaded call named incarnation capability =>
      cases htarget
      obtain ⟨hdeclared, hdescriptor⟩ := declared_mergeEvidence _ _
      unfold DescribedEntry
      rw [hdescriptor, hdeclared]
      exact hbefore _ rfl

theorem declaresDescribed_of_undeclared
    (h : ∀ id target, lookup s.targets id = some target →
      target.declared = false) : s.DeclaresDescribed := by
  intro id target htarget hdeclared
  obtain ⟨found, hfound, rfl⟩ := Option.map_eq_some_iff.mp htarget
  have hundeclared : (unscheduled found).declared = false :=
    h id found hfound
  exact absurd (hundeclared.symm.trans hdeclared) (by decide)

theorem declaresDescribed_declareTarget (h : s.DeclaresDescribed)
    (target : TargetDescriptor) (answer : Status) :
    (s.declareTarget target answer).1.DeclaresDescribed := by
  cases hchecked : s.isOpen && (s.targetRefusal target).isNone with
  | false =>
      rw [declareTarget_of_refused hchecked]
      exact h
  | true =>
      rw [Bool.and_eq_true, Option.isNone_iff_eq_none] at hchecked
      intro id
      refine (entryStep_declareTarget s target answer id).describedEntry ?_
        (h id)
      intro declared hdeclared
      cases hdeclared
      exact described_of_targetRefusal hchecked.2

theorem declaresDescribed_step (hkeyed : s.ledger.Keyed)
    (h : s.DeclaresDescribed) (op : Op) : (s.step op).DeclaresDescribed := by
  cases hanew : s.startsAnew op with
  | false =>
      cases hcall : op.declared with
      | some target =>
          cases op with
          | declareTarget target answer =>
              exact declaresDescribed_declareTarget h target answer
          | _ => cases hcall
      | none =>
          intro id
          refine (entryStep_step hkeyed.attempt hanew id).describedEntry ?_
            (h id)
          intro target htarget
          rw [hcall] at htarget
          cases htarget
  | true =>
      cases op with
      | restart config =>
          refine declaresDescribed_of_undeclared fun id target htarget => ?_
          change lookup ∅ id = some target at htarget
          simp at htarget
      | openEngine opening answer =>
          have hclosed : s.isOpen = false := by simpa [startsAnew] using hanew
          rcases enters_openEngine opening answer hclosed with
            hsame | hfound
          · obtain ⟨_, _, _, _, _, _, _, _, heq⟩ := hsame
            rw [step, heq]
            exact h
          · obtain ⟨_, _, _, _, _, _, _, _, heq⟩ := hfound
            rw [step, heq]
            change (s.found opening).1.DeclaresDescribed
            unfold found
            split
            · exact h
            · split
              · exact h
              · exact declaresDescribed_of_undeclared
                  fun id target htarget =>
                    (restored_undeclared s opening htarget).1
      | _ => cases hanew

/-- In every reachable state the records name the keys they are under. -/
theorem keyed_of_run {guard : Impl → Op → Prop} {config : EngineConfig}
    {inputs : List Op} (h : engine.Admits guard (init config []) inputs) :
    (engine.run (init config []) inputs).ledger.Keyed :=
  keyed_run (Disk.synced_start config []).keyed h

/-- In every reachable state the targets that may be used are well
described. -/
theorem declaresDescribed_run {guard : Impl → Op → Prop}
    {config : EngineConfig} {inputs : List Op}
    (h : engine.Admits guard (init config []) inputs) :
    (engine.run (init config []) inputs).DeclaresDescribed := by
  refine (h.invariant (P := fun s => s.ledger.Keyed ∧ s.DeclaresDescribed)
    (fun _ op hs _ _ => ⟨keyed_step hs.1 op,
      declaresDescribed_step hs.1 hs.2 op⟩)
    ⟨(Disk.synced_start config []).keyed, ?_⟩).2
  refine declaresDescribed_of_undeclared fun id target htarget => ?_
  change lookup ∅ id = some target at htarget
  simp at htarget

end Impl

end FlowOffload

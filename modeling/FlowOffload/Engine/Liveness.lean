import FlowOffload.Engine.Targets

/-!
# Live targets

A target is live once it has been declared in the incarnation, until it is
removed.  Only a declaration of the target itself makes it live.
-/

namespace FlowOffload

open Foundation
open Std (ExtTreeMap)

namespace Impl

variable {s t : Impl} {answer : Status} {id : TargetId}

def Live (s : Impl) (id : TargetId) : Prop :=
  ∃ target, lookup s.targets id = some target ∧ target.declared = true ∧
    target.descriptor.lifecycle ≠ .removed

/-! ## Properties of entries -/

/-- The target has an entry with the property. -/
def Entry (s : Impl) (p : TargetState → Prop) (id : TargetId) : Prop :=
  ∃ target, lookup s.targets id = some target ∧ p target

/-- No operation gives the property to an entry, but a declaration of the
target or evidence for it. -/
structure Lasting (p : TargetState → Prop) : Prop where
  scheduled : ∀ before after, unscheduled before = unscheduled after →
    p after → p before
  undeclared : ∀ target, p (undeclaredEntry target) → p target
  retired : ∀ target, p (retiredEntry target) → p target

variable {p : TargetState → Prop}

/-- Cached demand is no part of the property. -/
theorem Lasting.entry_iff (hp : Lasting p) :
    s.Entry p id ↔ ∃ target, s.entry id = some target ∧ p target := by
  constructor
  · rintro ⟨target, hfound, hholds⟩
    exact ⟨unscheduled target, by rw [entry, hfound]; rfl,
      hp.scheduled (unscheduled target) target rfl hholds⟩
  · rintro ⟨_, hentry, hholds⟩
    obtain ⟨target, hfound, rfl⟩ := Option.map_eq_some_iff.mp hentry
    exact ⟨target, hfound,
      hp.scheduled target (unscheduled target) rfl hholds⟩

/-- A declaration writes one entry, and takes others down at most. -/
theorem entry_declareTarget (hp : Lasting p) {target : TargetDescriptor}
    (h : (s.declareTarget target answer).1.Entry p id) :
    s.Entry p id ∨ id = target.target ∧
      (p { descriptor := target, declared := true } ∨
        ∃ existing, s.entry id = some existing ∧
          (p (declaredEntry target existing) ∨
            p { declaredEntry target existing with
              hasLoad := false
              conflicting := false })) := by
  have hstep := entryStep_declareTarget s target answer id
  rw [hp.entry_iff] at h ⊢
  obtain ⟨state, hstate, hholds⟩ := h
  rw [hstate] at hstep
  generalize hbefore : s.entry id = before at hstep
  generalize hafter : some state = after at hstep
  cases hstep with
  | same _ => exact Or.inl ⟨state, hafter.symm, hholds⟩
  | undeclared existing =>
      cases hafter
      exact Or.inl ⟨existing, rfl, hp.undeclared existing hholds⟩
  | registered call named =>
      cases hafter
      cases call
      exact Or.inr ⟨named.symm, Or.inl hholds⟩
  | updated call named identity =>
      cases hafter
      cases call
      exact Or.inr ⟨named.symm, Or.inr ⟨_, rfl, Or.inl hholds⟩⟩
  | advanced call named incarnation capability =>
      cases hafter
      cases call
      exact Or.inr ⟨named.symm, Or.inr ⟨_, rfl, Or.inr hholds⟩⟩
  | replaced call named incarnation =>
      cases hafter
      cases call
      exact Or.inr ⟨named.symm, Or.inl hholds⟩
  | removed call => cases call
  | loaded call => cases call

/-- Everything but a declaration, evidence and a new incarnation. -/
theorem entry_step (hp : Lasting p)
    (hkeyed : ∀ k record, lookup s.migrations k = some record →
      record.intent.attempt = k) {op : Op} (hop : s.startsAnew op = false)
    (hdeclare : op.declared = none)
    (hevidence : op.observes = none)
    (h : (s.step op).Entry p id) : s.Entry p id := by
  have hstep := entryStep_step hkeyed hop id
  rw [hp.entry_iff] at h ⊢
  obtain ⟨state, hstate, hholds⟩ := h
  rw [hstate] at hstep
  generalize hbefore : s.entry id = before at hstep
  generalize hafter : some state = after at hstep
  cases hstep with
  | same _ => exact ⟨state, hafter.symm, hholds⟩
  | undeclared existing =>
      cases hafter
      exact ⟨existing, rfl, hp.undeclared existing hholds⟩
  | removed call =>
      cases hafter
      exact ⟨_, rfl, hp.retired _ hholds⟩
  | loaded call =>
      subst call
      cases hevidence
  | registered call | updated call | advanced call | replaced call =>
      rw [hdeclare] at call
      cases call

/-- A refused declaration that never reached the store changes no target. -/
theorem Ends.targets_of_refused {op : Op} (h : s.Ends op answer t false)
    (hsubmitted : t.submitted = s.submitted) : t.targets = s.targets := by
  generalize hfalse : false = accepted at h
  cases h with
  | refused counted =>
      obtain ⟨_, _, rfl⟩ := counted
      rfl
  | repeated counted known => cases hfalse
  | redeclared call found known => cases hfalse
  | placed call executed commit => cases hfalse
  | @committed u stays targets change =>
      rw [← stays.submitted] at hsubmitted
      unfold persistLocked at hsubmitted hfalse
      split at hfalse
      · cases hfalse
      next hpersist =>
        rw [if_neg hpersist] at hsubmitted
        dsimp only at hsubmitted
        split at hsubmitted
        · exact absurd hsubmitted (by simp)
        · exact absurd hsubmitted (by simp)

/-! ## Live targets -/

/-- The operation declares the target and its declaration reaches the maps: it
is accepted, or only its commit fails. -/
def Declares (s : Impl) (op : Op) (id : TargetId) : Prop :=
  (∃ target, op.declared = some target ∧ target.target = id) ∧
    (s.accepted op = true ∨ (s.step op).submitted ≠ s.submitted)

theorem lasting_live : Lasting fun target => target.declared = true ∧
    target.descriptor.lifecycle ≠ .removed where
  scheduled := by
    intro before after heq hlive
    have hfields := TargetState.mk.inj heq
    rw [hfields.1, hfields.2.1]
    exact hlive
  undeclared := fun _ h => nomatch h.1
  retired := fun _ h => absurd rfl h.2

theorem declared_mergeEvidence (target : TargetState)
    (evidence : LoadEvidence) :
    (mergeEvidence target evidence).declared = target.declared ∧
      (mergeEvidence target evidence).descriptor = target.descriptor := by
  unfold mergeEvidence
  dsimp only
  split_ifs <;> exact ⟨rfl, rfl⟩

theorem live_ingestLoad {evidence : LoadEvidence}
    (hlive : (s.ingestLoad evidence).1.Live id) : s.Live id := by
  have hstep := entryStep_ingestLoad s evidence id
  have hiff := @lasting_live.entry_iff
  change Entry _ _ id at hlive
  change Entry s _ id
  rw [hiff] at hlive ⊢
  obtain ⟨state, hstate, hholds⟩ := hlive
  rw [hstate] at hstep
  generalize hbefore : s.entry id = before at hstep
  generalize hafter : some state = after at hstep
  cases hstep with
  | same _ => exact ⟨state, hafter.symm, hholds⟩
  | undeclared existing =>
      cases hafter
      exact absurd hholds.1 (by simp [undeclaredEntry])
  | @loaded _ existing call named incarnation capability =>
      cases hafter
      obtain ⟨hdeclared, hdescriptor⟩ := declared_mergeEvidence existing _
      rw [hdeclared, hdescriptor] at hholds
      exact ⟨existing, rfl, hholds⟩
  | removed call => cases call
  | registered call | updated call | advanced call | replaced call =>
      cases call

theorem live_step (hkeyed : ∀ k record, lookup s.migrations k = some record →
      record.intent.attempt = k) {op : Op} (hop : s.startsAnew op = false)
    (hlive : (s.step op).Live id) : s.Live id ∨ s.Declares op id := by
  have hother : op.declared = none → op.observes = none → s.Live id :=
    fun hdeclare hevidence =>
      entry_step lasting_live hkeyed hop hdeclare hevidence hlive
  cases op with
  | ingestLoad evidence => exact Or.inl (live_ingestLoad hlive)
  | declareTarget target answer =>
      by_cases hreached : s.accepted (.declareTarget target answer) = true ∨
          (s.step (.declareTarget target answer)).submitted ≠ s.submitted
      · rcases entry_declareTarget lasting_live hlive with hold | ⟨hid, -⟩
        · exact Or.inl hold
        · exact Or.inr ⟨⟨target, rfl, hid.symm⟩, hreached⟩
      · rw [not_or, Bool.not_eq_true, ne_eq, not_not] at hreached
        have hends : s.Ends (.declareTarget target answer) answer _ _ :=
          ends_step hkeyed rfl
        rw [hreached.1] at hends
        have htargets := hends.targets_of_refused hreached.2
        obtain ⟨state, hfound, hholds⟩ := hlive
        rw [htargets] at hfound
        exact Or.inl ⟨state, hfound, hholds⟩
  | _ => exact Or.inl (hother rfl rfl)

end Impl

end FlowOffload

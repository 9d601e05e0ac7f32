import FlowOffload.Engine.EffectiveLoad
import FlowOffload.Laws.Watermarks

/-!
# Evidence behind a placement

The evidence of a target is about its present descriptor in every state, and
under a policy that needs evidence a request places flows only on targets whose
evidence is known, undisputed and recent.  A request that was executed before is
answered from the committed assignments, without looking at evidence again.
-/

namespace FlowOffload

open Foundation

namespace Impl

variable {s : Impl} {op : Op}

/-! ## Evidence and descriptors -/

/-- The evidence of a target is about its present incarnation. -/
def AboutPresent (target : TargetState) : Prop :=
  target.hasLoad = true →
    target.load.incarnation = target.descriptor.incarnation ∧
      target.load.capabilityGeneration =
        target.descriptor.capabilityGeneration

def EvidenceMatches (s : Impl) : Prop :=
  ∀ id target, lookup s.targets id = some target → AboutPresent target

theorem aboutPresent_of_unloaded {target : TargetState}
    (h : target.hasLoad = false) : AboutPresent target := by
  intro hload
  rw [h] at hload
  cases hload

theorem aboutPresent_mergeEvidence {target : TargetState}
    {evidence : LoadEvidence}
    (hincarnation : evidence.incarnation = target.descriptor.incarnation)
    (hcapability : evidence.capabilityGeneration =
      target.descriptor.capabilityGeneration) :
    AboutPresent (mergeEvidence target evidence) := by
  intro _
  rw [descriptor_mergeEvidence]
  exact ⟨hincarnation, hcapability⟩

/-- What happens to an entry keeps its evidence and its descriptor together. -/
theorem EntryStep.aboutPresent {id : TargetId}
    {before after : Option TargetState} (h : EntryStep op id before after)
    (hbefore : ∀ target ∈ before, AboutPresent target) :
    ∀ target ∈ after, AboutPresent target := by
  intro target htarget
  cases h with
  | same => exact hbefore target htarget
  | updated call named identity =>
      cases htarget
      intro hload
      obtain ⟨hincarnation, hcapability⟩ := hbefore _ rfl hload
      simp only [sameTargetIdentity, Bool.and_eq_true,
        decide_eq_true_eq] at identity
      constructor
      · exact hincarnation.trans (by simp [declaredEntry, identity])
      · exact hcapability.trans (by simp [declaredEntry, identity])
  | loaded call named incarnation capability =>
      cases htarget
      exact aboutPresent_mergeEvidence incarnation capability
  | undeclared | registered | advanced | replaced | removed =>
      cases htarget
      exact aboutPresent_of_unloaded rfl

theorem evidenceMatches_iff_entry : s.EvidenceMatches ↔
    ∀ id, ∀ target ∈ s.entry id, AboutPresent target := by
  constructor
  · intro h id target htarget
    obtain ⟨found, hfound, rfl⟩ := Option.map_eq_some_iff.mp htarget
    exact h id found hfound
  · intro h id target htarget
    exact h id (unscheduled target)
      (Option.map_eq_some_iff.mpr ⟨target, htarget, rfl⟩)

theorem evidenceMatches_of_undeclared
    (h : ∀ id target, lookup s.targets id = some target →
      target.hasLoad = false) : s.EvidenceMatches :=
  fun id target htarget => aboutPresent_of_unloaded (h id target htarget)

theorem evidenceMatches_found (h : s.EvidenceMatches)
    (opening : StoreOpening) : (s.found opening).1.EvidenceMatches := by
  unfold found
  split
  · exact h
  · split
    · exact h
    next state hstate =>
      exact evidenceMatches_of_undeclared fun id target htarget =>
        (restored_undeclared s opening htarget).2

theorem evidenceMatches_step (hkeyed : s.ledger.Keyed)
    (h : s.EvidenceMatches) (op : Op) : (s.step op).EvidenceMatches := by
  cases hanew : s.startsAnew op with
  | false =>
      rw [evidenceMatches_iff_entry] at h ⊢
      exact fun id =>
        (entryStep_step hkeyed.attempt hanew id).aboutPresent (h id)
  | true =>
      cases op with
      | restart config =>
          intro id target htarget
          change lookup ∅ id = some target at htarget
          simp at htarget
      | openEngine opening answer =>
          have hclosed : s.isOpen = false := by simpa [startsAnew] using hanew
          rcases enters_openEngine opening answer hclosed with
            hsame | hfound
          · obtain ⟨_, _, _, _, _, _, _, _, heq⟩ := hsame
            rw [step, heq]
            exact h
          · obtain ⟨_, _, _, _, _, _, _, _, heq⟩ := hfound
            rw [step, heq]
            exact evidenceMatches_found h opening
      | _ => cases hanew

theorem evidenceMatches_run {guard : Impl → Op → Prop} {config : EngineConfig}
    {inputs : List Op}
    (h : engine.Admits guard (init config []) inputs) :
    (engine.run (init config []) inputs).EvidenceMatches := by
  have hkeyed : (init config []).ledger.Keyed :=
    (Disk.synced_start config []).keyed
  refine (h.invariant (P := fun s => s.ledger.Keyed ∧ s.EvidenceMatches)
    (fun _ op hs _ _ => ⟨keyed_step hs.1 op,
      evidenceMatches_step hs.1 hs.2 op⟩) ⟨hkeyed, ?_⟩).2
  intro id target htarget
  change lookup ∅ id = some target at htarget
  simp at htarget

/-! ## Placements -/

/-- A placement is on a declared, ready target with current evidence. -/
structure OnCurrentTarget (s : Impl) (instant : Timestamp)
    (placement : FlowPlacement) (target : TargetState) : Prop where
  found : lookup s.targets placement.target = some target
  incarnation : placement.incarnation = target.descriptor.incarnation
  declared : target.declared = true
  ready : target.descriptor.lifecycle = .ready
  current : s.Current target instant

theorem Passed.onCurrentTarget {instant : Timestamp}
    {placement : FlowPlacement} {target : TargetState}
    (hpolicy : s.policy.needsEvidence = true)
    (h : s.Passed instant placement target) :
    s.OnCurrentTarget instant placement target := by
  obtain ⟨hdeclared, hready⟩ := h.ready
  obtain ⟨flow, scheduled, heligible⟩ := h.eligible
  have hcurrent := current_of_evaluateTargetLocked hpolicy heligible
  exact ⟨h.target, h.incarnation, hdeclared, hready, hcurrent.loaded,
    hcurrent.agreed, hcurrent.known, hcurrent.recent⟩

/--
In every reachable state evidence is about the present descriptors, and what a
request accepts under a policy that needs evidence is on a target with current
evidence.  A duplicate repeats the assignments of the request it duplicates.
-/
theorem only_current_evidence_places (config : EngineConfig)
    (inputs : List Op)
    (h : engine.Admits (fun _ _ => True) (init config []) inputs) :
    (engine.run (init config []) inputs).EvidenceMatches ∧
      ∀ request answer,
        (engine.run (init config []) inputs).policy.needsEvidence = true →
        ∀ placement ∈ ((engine.run (init config []) inputs).placeLocked
            request answer).2.placements, placement.accepted = true →
          (∃ target, (engine.run (init config []) inputs).OnCurrentTarget
            request.evaluationInstant placement target) ∨
          ((engine.run (init config []) inputs).placeLocked request
              answer).2.duplicate = true ∧
            (engine.run (init config []) inputs).Replays request answer
              placement := by
  have hkeyed : (init config []).ledger.Keyed :=
    (Disk.synced_start config []).keyed
  have htargets := targets_of_keyed (keyed_run hkeyed h)
  refine ⟨evidenceMatches_run h, ?_⟩
  intro request answer hpolicy placement hmem haccepted
  rcases passed_or_replays htargets hmem haccepted with
    ⟨target, hpassed⟩ | hreplays
  · exact Or.inl ⟨target, hpassed.onCurrentTarget hpolicy⟩
  · exact Or.inr hreplays

/-- A policy that places flows on observed load only. -/
def observedPolicy : Policy :=
  { samplePolicy false with loadModel := .observedOnly }

/-- One flow, and one host with current evidence. -/
def observedHost : List Op :=
  [.openEngine {} committed, .setPolicy observedPolicy committed,
    .declareTarget (sampleHost 1) committed,
    .registerFlow (sampleFlow 1 7 10) committed,
    .ingestLoad (Feed.sampleLoad 1 1)]

theorem observed_host_is_current :
    (engine.run (init sampleConfig []) observedHost).EvidenceMatches ∧
      (engine.run (init sampleConfig [])
        observedHost).policy.needsEvidence = true ∧
      (((engine.run (init sampleConfig []) observedHost).placeLocked
        (sampleRequest 1 1 [1]) committed).2.placements.any
          fun placement => placement.accepted) = true ∧
      ((engine.run (init sampleConfig []) observedHost).placeLocked
        (sampleRequest 1 1 [1]) committed).2.duplicate = false ∧
      ∀ placement ∈ ((engine.run (init sampleConfig [])
          observedHost).placeLocked (sampleRequest 1 1 [1])
            committed).2.placements, placement.accepted = true →
        (∃ target, (engine.run (init sampleConfig [])
          observedHost).OnCurrentTarget ⟨1⟩ placement target) ∨
        ((engine.run (init sampleConfig []) observedHost).placeLocked
            (sampleRequest 1 1 [1]) committed).2.duplicate = true ∧
          (engine.run (init sampleConfig []) observedHost).Replays
            (sampleRequest 1 1 [1]) committed placement := by
  have hpolicy : (engine.run (init sampleConfig [])
      observedHost).policy.needsEvidence = true := by decide +kernel
  obtain ⟨hmatches, hplaces⟩ := only_current_evidence_places sampleConfig
    observedHost (by decide +kernel)
  exact ⟨hmatches, hpolicy, by decide +kernel, by decide +kernel,
    hplaces (sampleRequest 1 1 [1]) committed hpolicy⟩

/-- The flow is placed, and then the host is removed. -/
def removedHost : List Op :=
  observedHost ++ [.place (sampleRequest 1 1 [1]) committed,
    .removeTarget ⟨1⟩ ⟨1⟩ ⟨2⟩ committed]

example : (engine.run (init sampleConfig [])
    removedHost).counters.targetsRemoved = 1 := by
  decide +kernel

/-- The same request again is accepted on the host that was removed. -/
theorem duplicate_is_placed_without_evidence :
    engine.Admits (fun _ _ => True) (init sampleConfig []) removedHost ∧
      (engine.run (init sampleConfig [])
        removedHost).policy.needsEvidence = true ∧
      ¬ ∀ placement ∈ ((engine.run (init sampleConfig [])
          removedHost).placeLocked (sampleRequest 1 1 [1])
            committed).2.placements, placement.accepted = true →
        ∃ target, lookup (engine.run (init sampleConfig [])
            removedHost).targets placement.target = some target ∧
          target.declared = true ∧ target.descriptor.lifecycle = .ready ∧
          target.hasLoad = true := by
  refine ⟨by decide +kernel, by decide +kernel, ?_⟩
  intro h
  have hplaced : (((engine.run (init sampleConfig [])
      removedHost).placeLocked (sampleRequest 1 1 [1])
        committed).2.placements.any fun placement =>
          placement.accepted && placement.target = ⟨1⟩) = true := by
    decide +kernel
  have hgone : ((lookup (engine.run (init sampleConfig [])
      removedHost).targets ⟨1⟩).any fun target => target.hasLoad) = false := by
    decide +kernel
  obtain ⟨placement, hmem, hplacement⟩ := List.any_eq_true.mp hplaced
  simp only [Bool.and_eq_true, decide_eq_true_eq] at hplacement
  obtain ⟨target, htarget, -, -, hload⟩ := h placement hmem hplacement.1
  rw [hplacement.2] at htarget
  rw [htarget] at hgone
  simp [hload] at hgone

end Impl

end FlowOffload

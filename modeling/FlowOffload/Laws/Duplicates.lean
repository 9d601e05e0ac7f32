import FlowOffload.Laws.Conflicts

/-!
# Repeated sequences

A source that repeats a sequence must repeat its report.  The engine compares
with the one report that the target holds, and the watermark of the source
lets an equal sequence through, so a repetition goes unnoticed once the target
holds another report, or none.
-/

namespace FlowOffload

open Foundation

/-- The same source, sequence, target, incarnation and capabilities. -/
def LoadEvidence.SameReport (a b : LoadEvidence) : Prop :=
  a.source = b.source ∧ a.sourceSequence = b.sourceSequence ∧
    a.target = b.target ∧ a.incarnation = b.incarnation ∧
    a.capabilityGeneration = b.capabilityGeneration

instance (a b : LoadEvidence) : Decidable (a.SameReport b) :=
  inferInstanceAs (Decidable (_ ∧ _ ∧ _ ∧ _ ∧ _))

/-- An engine, and every observation it has accepted. -/
structure Listener where
  engine : Impl
  /-- The latest first. -/
  accepted : List LoadEvidence := []

namespace Listener

open Impl

variable {w : Listener} {op : Op}

def heard (s : Impl) (op : Op) : List LoadEvidence :=
  op.observes.toList.filter fun evidence => (s.ingestLoad evidence).2.ok

def step (w : Listener) (op : Op) : Listener :=
  { engine := w.engine.step op, accepted := heard w.engine op ++ w.accepted }

def begin (config : EngineConfig) : Listener := { engine := init config [] }

/-- Whatever was accepted twice as one report was equal. -/
def Consistent (w : Listener) : Prop :=
  ∀ a ∈ w.accepted, ∀ b ∈ w.accepted, a.SameReport b → a = b

instance (w : Listener) : Decidable w.Consistent :=
  inferInstanceAs (Decidable (∀ a ∈ w.accepted, ∀ b ∈ w.accepted, _))

/-- The observation repeats what was accepted with other content, and nothing
that the target holds or the source is marked with tells. -/
def unnoticed (w : Listener) (op : Op) : Prop :=
  ∃ evidence ∈ op.observes,
    (∃ r ∈ w.accepted, r.SameReport evidence ∧ r ≠ evidence) ∧
    ∃ target ∈ w.engine.targets[evidence.target]?,
      w.engine.Matches evidence target ∧ holds target evidence = false ∧
      (predates target evidence = true → agrees target evidence = true) ∧
      (predates target evidence = false → w.engine.hasRoomFor evidence = true)

instance (w : Listener) (op : Op) : Decidable (w.unnoticed op) :=
  inferInstanceAs (Decidable (∃ evidence ∈ op.observes, _))

end Listener

/-- An engine with everything it accepts, as a machine. -/
def listener : Machine Listener Op where
  step := Listener.step
  allowed w op := engine.allowed w.engine op

instance (w : Listener) (op : Op) : Decidable (listener.allowed w op) :=
  inferInstanceAs (Decidable (engine.allowed w.engine op))

namespace Listener

open Impl

variable {w : Listener} {op : Op}

/-- Every load was accepted. -/
structure Heard (w : Listener) : Prop where
  keyed : w.engine.ledger.Keyed
  loads : ∀ id target, lookup w.engine.targets id = some target →
    target.hasLoad = true → target.load ∈ w.accepted

theorem mem_step {evidence : LoadEvidence} :
    evidence ∈ (w.step op).accepted ↔
      (op = .ingestLoad evidence ∧
        (w.engine.ingestLoad evidence).2.ok = true) ∨
      evidence ∈ w.accepted := by
  cases op with
  | ingestLoad call =>
      simp only [step, heard, Op.observes, List.mem_append, List.mem_filter,
        Option.toList_some, List.mem_singleton, Op.ingestLoad.injEq]
      refine or_congr ⟨?_, ?_⟩ Iff.rfl
      · rintro ⟨rfl, hok⟩
        exact ⟨rfl, hok⟩
      · rintro ⟨rfl, hok⟩
        exact ⟨rfl, hok⟩
  | _ => simp [step, heard, Op.observes]

theorem heard_step (h : w.Heard) (op : Op) : (w.step op).Heard := by
  refine ⟨keyed_step h.keyed op, fun id target htarget hload => ?_⟩
  rw [mem_step]
  by_cases hop : ∃ evidence ∈ op.observes, evidence.target = id
  · obtain ⟨evidence, hobserves, rfl⟩ := hop
    have hcall := Op.eq_ingestLoad hobserves
    subst hcall
    have hkept : (w.engine.ingestLoad evidence).1.targets = w.engine.targets →
        target.load ∈ w.accepted := by
      intro htargets
      change lookup (w.engine.ingestLoad evidence).1.targets _ = _ at htarget
      rw [htargets] at htarget
      exact h.loads _ target htarget hload
    have htakes := takes_ingestLoad w.engine evidence
    cases htakes with
    | refused refused counted => exact Or.inr (hkept counted.targets)
    | repeated matched stored same accepted targets =>
        exact Or.inr (hkept targets)
    | agreed matched unstored older agreed accepted targets =>
        exact Or.inr (hkept targets)
    | @recorded before matched unstored notOlder room accepted targets =>
        change lookup (w.engine.ingestLoad evidence).1.targets _ = _ at htarget
        rw [targets, lookup_insert, Function.update_self] at htarget
        cases htarget
        rw [(load_mergeEvidence before evidence).1]
        exact Or.inl ⟨rfl, accepted⟩
  · obtain ⟨old, hold, hhas, hsame, -⟩ := load_kept h.keyed
      (fun evidence hcall hid => hop ⟨evidence, hcall, hid⟩) htarget hload
    exact Or.inr (hsame ▸ h.loads id old hold hhas)

/-- What is accepted equals whatever it repeats. -/
theorem repeats_of_accepted (h : w.Heard) (hconsistent : w.Consistent)
    {evidence : LoadEvidence} (hguard : ¬ w.unnoticed (.ingestLoad evidence))
    (hok : (w.engine.ingestLoad evidence).2.ok = true) {r : LoadEvidence}
    (hr : r ∈ w.accepted) (hsame : r.SameReport evidence) : r = evidence := by
  have hnoticed : ∀ target, w.engine.Matches evidence target →
      holds target evidence = false →
      (predates target evidence = true → agrees target evidence = true) →
      (predates target evidence = false →
        w.engine.hasRoomFor evidence = true) → r = evidence := by
    intro target hmatches hunstored hagrees hroom
    by_contra hne
    exact hguard ⟨evidence, rfl, ⟨r, hr, hsame, hne⟩, target, hmatches.known,
      hmatches, hunstored, hagrees, hroom⟩
  have htakes := takes_ingestLoad w.engine evidence
  cases htakes with
  | refused refused => exact absurd (hok.symm.trans refused) (by decide)
  | @repeated target matched stored same accepted targets =>
      have hload : target.hasLoad = true := by
        simp only [holds, Bool.and_eq_true] at stored
        exact stored.1.1
      have hheld : evidence ∈ w.accepted :=
        same ▸ h.loads _ target matched.known hload
      exact hconsistent r hr evidence hheld hsame
  | @agreed target matched unstored older agreed accepted targets =>
      refine hnoticed target matched unstored (fun _ => agreed) ?_
      intro hlater
      rw [older] at hlater
      cases hlater
  | @recorded target matched unstored notOlder room accepted targets =>
      refine hnoticed target matched unstored ?_ (fun _ => room)
      intro hearlier
      rw [notOlder] at hearlier
      cases hearlier

theorem consistent_step (h : w.Heard) (hconsistent : w.Consistent)
    (hguard : ¬ w.unnoticed op) : (w.step op).Consistent := by
  intro a ha b hb hsame
  have hreversed : b.SameReport a :=
    ⟨hsame.1.symm, hsame.2.1.symm, hsame.2.2.1.symm, hsame.2.2.2.1.symm,
      hsame.2.2.2.2.symm⟩
  rcases mem_step.mp ha with ⟨rfl, hok⟩ | hold
  · rcases mem_step.mp hb with ⟨hcall, -⟩ | hold
    · cases hcall
      rfl
    · exact (repeats_of_accepted h hconsistent hguard hok hold
        hreversed).symm
  · rcases mem_step.mp hb with ⟨rfl, hok⟩ | hold'
    · exact repeats_of_accepted h hconsistent hguard hok hold hsame
    · exact hconsistent a hold b hold' hsame

/-- A repetition that goes unnoticed is accepted. -/
theorem not_consistent_of_unnoticed (h : w.unnoticed op) :
    ¬ (w.step op).Consistent := by
  obtain ⟨evidence, hcall, ⟨r, hr, hsame, hne⟩, target, -, hmatches,
    hunstored, hagrees, hroom⟩ := h
  have hop : op = .ingestLoad evidence := by
    cases op with
    | ingestLoad call =>
        cases hcall
        rfl
    | _ => cases hcall
  subst hop
  have hok := accepts_of_matches hmatches hunstored hagrees hroom
  intro hconsistent
  exact hne (hconsistent r (mem_step.mpr (Or.inr hr)) evidence
    (mem_step.mpr (Or.inl ⟨rfl, hok⟩)) hsame)

/-! ## Runs -/

theorem accepted_subset_run (w : Listener) (inputs : List Op) :
    w.accepted ⊆ (listener.run w inputs).accepted := by
  induction inputs generalizing w with
  | nil => exact List.Subset.refl _
  | cons op inputs ih =>
      exact fun _ h => ih (w.step op) (mem_step.mpr (Or.inr h))

theorem consistent_run_iff {inputs : List Op} (h : w.Heard)
    (hconsistent : w.Consistent)
    (hrun : listener.Admits (fun _ _ => True) w inputs) :
    (listener.run w inputs).Consistent ↔
      listener.Admits (fun w op => ¬ w.unnoticed op) w inputs := by
  induction inputs generalizing w with
  | nil => exact ⟨fun _ => trivial, fun _ => hconsistent⟩
  | cons op inputs ih =>
      obtain ⟨hallowed, -, hrest⟩ := hrun
      have hheard := heard_step h op
      constructor
      · intro hall
        have hstep : (w.step op).Consistent := fun a ha b hb =>
          hall a (accepted_subset_run _ inputs ha) b
            (accepted_subset_run _ inputs hb)
        have hguard : ¬ w.unnoticed op := fun hunnoticed =>
          not_consistent_of_unnoticed hunnoticed hstep
        exact ⟨hallowed, hguard, (ih hheard hstep hrest).mp hall⟩
      · rintro ⟨-, hguard, hguards⟩
        exact (ih hheard (consistent_step h hconsistent hguard) hrest).mpr
          hguards

/--
In a run whatever is accepted twice under one sequence is the same if, and
only if, no repetition comes when the target holds another report of no older
or no different content, or none at all.
-/
theorem repetitions_are_equal_iff (config : EngineConfig) (inputs : List Op)
    (h : listener.Admits (fun _ _ => True) (begin config) inputs) :
    (listener.run (begin config) inputs).Consistent ↔
      listener.Admits (fun w op => ¬ w.unnoticed op) (begin config)
        inputs := by
  refine consistent_run_iff ⟨(Disk.synced_start config []).keyed, ?_⟩ ?_ h
  · intro id target htarget
    change lookup ∅ id = some target at htarget
    simp at htarget
  · intro a ha
    cases ha

/-- What a source says of a host under one sequence. -/
def repeating (source used : UInt64) : Op :=
  .ingestLoad { Feed.sampleLoad source 1 with
    utilized := ⟨used, 0, 0, 0⟩ }

/-- A host that one source reports on. -/
def saidOnce : List Op :=
  [.openEngine {} committed, .declareTarget (sampleHost 1) committed,
    repeating 1 10]

example : (FlowOffload.engine.run (Impl.init sampleConfig [])
    saidOnce).counters.evidenceAccepted = 1 := by
  decide +kernel

theorem held_report_is_not_replaced :
    ((listener.run (begin sampleConfig)
        (saidOnce ++ [repeating 1 10, repeating 1 30])).accepted.map
          fun evidence => evidence.utilized.packetsPerSecond) = [10, 10] ∧
      (listener.run (begin sampleConfig)
        (saidOnce ++ [repeating 1 10, repeating 1 30])).Consistent :=
  ⟨by decide +kernel,
    (repetitions_are_equal_iff sampleConfig
      (saidOnce ++ [repeating 1 10, repeating 1 30])
      (by decide +kernel)).mpr (by decide +kernel)⟩

/-- Another source reports in between. -/
theorem replaced_report_is_replaced_again :
    listener.Admits (fun _ _ => True) (begin sampleConfig)
        (saidOnce ++ [repeating 2 10, repeating 1 30]) ∧
      ((listener.run (begin sampleConfig)
        (saidOnce ++ [repeating 2 10, repeating 1 30])).accepted.map
          fun evidence => evidence.utilized.packetsPerSecond) = [30, 10, 10] ∧
      ¬ (listener.run (begin sampleConfig)
        (saidOnce ++ [repeating 2 10, repeating 1 30])).Consistent := by
  decide +kernel

end Listener

end FlowOffload

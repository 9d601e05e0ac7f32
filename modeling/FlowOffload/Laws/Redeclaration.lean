import FlowOffload.Engine.Generations
import FlowOffload.Laws.Declared
import FlowOffload.Laws.Exclusive

/-!
# Targets that a newer topology overtakes

A newer topology takes down every declaration made under an older one, and
asks for those targets to be declared again.  The identity of a declaration
includes its topology, so the same target under the new topology conflicts
with the entry that was taken down.
-/

namespace FlowOffload

open Foundation

/-- The topology an operation may put in force. -/
def Op.newTopology : Op → Option TopologyGeneration
  | .setTopologyGeneration generation _ => some generation
  | .declareTarget target _ => some target.topologyGeneration
  | _ => none

namespace Impl

variable {s : Impl} {op : Op} {id : TargetId}

def isDeclared (s : Impl) (id : TargetId) : Bool :=
  (s.targets[id]?).any fun target => target.declared

def isUndeclared (s : Impl) (id : TargetId) : Bool :=
  (s.targets[id]?).any fun target => !target.declared

/-- The operation advances the topology, and the target is declared no
longer. -/
def overtakes (s : Impl) (id : TargetId) (op : Op) : Bool :=
  (op.newTopology.any fun generation => s.topologyGeneration < generation) &&
    s.isDeclared id && (s.step op).isUndeclared id

/-- A newer topology took the declaration of the target, and within that
incarnation nothing has declared it since. -/
def Overtaken (s : Impl) (inputs : List Op) (id : TargetId) : Prop :=
  ∃ before op after, inputs = before ++ op :: after ∧
    (engine.run s before).overtakes id op = true ∧
    engine.Admits
      (fun t next => t.startsAnew next = false ∧
        (t.step next).isUndeclared id = true)
      (engine.run s (before ++ [op])) after

/-- The target is not declared, and known under an older topology only. -/
structure Outdated (s : Impl) (id : TargetId) (target : TargetState) :
    Prop where
  known : lookup s.targets id = some target
  undeclared : target.declared = false
  older : target.descriptor.topologyGeneration < s.topologyGeneration

/-- The same target under the topology in force, ready. -/
def renewed (s : Impl) (target : TargetDescriptor) : TargetDescriptor :=
  { target with
    topologyGeneration := s.topologyGeneration
    lifecycle := .ready }

/-! ## The declaration again -/

theorem sameTargetIdentity_renewed {target : TargetDescriptor}
    (h : target.topologyGeneration < s.topologyGeneration) :
    sameTargetIdentity target (s.renewed target) = false := by
  have hne : target.topologyGeneration ≠ s.topologyGeneration := by
    rw [TypedId.lt_iff_toNat_lt] at h
    rw [Ne, TypedId.eq_iff_toNat_eq]
    omega
  simp [sameTargetIdentity, renewed, hne]

/-- Whatever the checks in front say, the entry known is another identity. -/
theorem declareTarget_renewed {target : TargetState}
    (hnamed : target.descriptor.target = id) (h : s.Outdated id target)
    (answer : Status) :
    (s.declareTarget (s.renewed target.descriptor) answer).1 = s ∧
      (s.declareTarget (s.renewed target.descriptor) answer).2.ok =
        false := by
  have hknown : s.targets[(s.renewed target.descriptor).target]? =
      some target := by
    have hget : s.targets[id]? = some target := h.known
    rw [← hget, ← hnamed]
    rfl
  have hirrefl : ∀ {tag : IdTag} (a : TypedId tag), ¬ a < a := by
    intro tag a hlt
    rw [TypedId.lt_iff_toNat_lt] at hlt
    omega
  have hincarnation : ¬ (s.renewed target.descriptor).incarnation <
      target.descriptor.incarnation := hirrefl _
  have hcapability : ¬ (s.renewed target.descriptor).capabilityGeneration <
      target.descriptor.capabilityGeneration := hirrefl _
  have hsame : (s.renewed target.descriptor).incarnation =
        target.descriptor.incarnation ∧
      (s.renewed target.descriptor).capabilityGeneration =
        target.descriptor.capabilityGeneration := ⟨rfl, rfl⟩
  have hconflict : (!sameTargetIdentity target.descriptor
      (s.renewed target.descriptor)) = true := by
    rw [sameTargetIdentity_renewed h.older]
    rfl
  unfold declareTarget
  split
  · exact ⟨rfl, rfl⟩
  · split
    next code hcode => exact ⟨rfl, rejects_targetRefusal hcode⟩
    next hchecked =>
      rw [hknown]
      dsimp only
      rw [if_neg hincarnation, if_pos hsame.1, if_neg hcapability,
        if_pos hsame.2, if_pos hconflict]
      exact ⟨rfl, rfl⟩

/-! ## The step that overtakes -/

theorem isDeclared_iff : s.isDeclared id = true ↔
    ∃ target, s.entry id = some target ∧ target.declared = true := by
  change (lookup s.targets id).any _ = true ↔ _
  unfold entry
  cases lookup s.targets id with
  | none => simp
  | some target => simp [unscheduled]

theorem isUndeclared_iff : s.isUndeclared id = true ↔
    ∃ target, s.entry id = some target ∧ target.declared = false := by
  change (lookup s.targets id).any _ = true ↔ _
  unfold entry
  cases lookup s.targets id with
  | none => simp
  | some target => simp [unscheduled]

/-- What is known of the target is older than the topology in force. -/
def KnownBefore (s : Impl) (id : TargetId) : Prop :=
  ∃ target, s.entry id = some target ∧ target.declared = false ∧
    target.descriptor.topologyGeneration < s.topologyGeneration

theorem KnownBefore.outdated (h : s.KnownBefore id) :
    ∃ target, s.Outdated id target := by
  obtain ⟨target, htarget, hundeclared, holder⟩ := h
  obtain ⟨found, hfound, rfl⟩ := Option.map_eq_some_iff.mp htarget
  exact ⟨found, hfound, hundeclared, holder⟩

theorem knownBefore_invalidateOlder {keep : TargetId → Bool}
    {generation : TopologyGeneration} (hdeclared : s.isDeclared id = true)
    (h : (s.invalidateOlder keep generation).isUndeclared id = true) :
    (s.invalidateOlder keep generation).KnownBefore id := by
  rw [isDeclared_iff] at hdeclared
  rw [isUndeclared_iff] at h
  obtain ⟨before, hbefore, hdeclared⟩ := hdeclared
  obtain ⟨after, hafter, hundeclared⟩ := h
  refine ⟨after, hafter, hundeclared, ?_⟩
  obtain ⟨found, hfound, rfl⟩ := Option.map_eq_some_iff.mp hbefore
  simp only [entry, invalidateOlder, lookup_map, hfound, Option.map_some,
    Option.some.injEq] at hafter
  subst hafter
  split at hundeclared
  next hold =>
    rw [if_pos hold]
    simp only [Bool.and_eq_true, decide_eq_true_eq] at hold
    exact hold.2
  next => exact absurd (hdeclared.symm.trans hundeclared) (by decide)

theorem knownBefore_of_eq {t : Impl} (hentry : t.entry id = s.entry id)
    (htopology : t.topologyGeneration = s.topologyGeneration)
    (h : s.KnownBefore id) : t.KnownBefore id := by
  unfold KnownBefore
  rw [hentry, htopology]
  exact h

theorem isUndeclared_of_entry {t : Impl} (hentry : t.entry id = s.entry id)
    (h : t.isUndeclared id = true) : s.isUndeclared id = true := by
  rw [isUndeclared_iff] at h ⊢
  rwa [← hentry]

theorem knownBefore_persistThen {answer : Status} {outcome : ReasonCode}
    (hknown : s.isUndeclared id = true → s.KnownBefore id)
    (h : (s.persistThen answer outcome).1.isUndeclared id = true) :
    (s.persistThen answer outcome).1.KnownBefore id := by
  have hentry := entry_persistThen s answer outcome id
  have hheader := congrArg Header.topology (header_persistThen s answer outcome)
  exact knownBefore_of_eq hentry hheader
    (hknown (isUndeclared_of_entry hentry h))

/-- Nothing is both declared and not. -/
theorem not_isUndeclared (hdeclared : s.isDeclared id = true) :
    s.isUndeclared id = false := by
  rw [isDeclared_iff] at hdeclared
  obtain ⟨before, hbefore, hdeclared⟩ := hdeclared
  rw [← Bool.not_eq_true, isUndeclared_iff]
  rintro ⟨after, hafter, hundeclared⟩
  rw [hbefore] at hafter
  cases hafter
  exact absurd (hdeclared.symm.trans hundeclared) (by decide)

theorem knownBefore_finishDeclaration {target : TargetDescriptor}
    {answer : Status} {outcome : ReasonCode}
    (hdeclared : s.isDeclared id = true)
    (h : (s.finishDeclaration target answer outcome).1.isUndeclared id =
      true) :
    (s.finishDeclaration target answer outcome).1.KnownBefore id := by
  unfold finishDeclaration at h ⊢
  dsimp only at h ⊢
  refine knownBefore_persistThen (fun hundeclared => ?_) h
  have hundeclared := isUndeclared_of_entry
    (entry_recomputeScheduledLocked _ id) hundeclared
  refine knownBefore_of_eq (entry_recomputeScheduledLocked _ id) rfl ?_
  revert hundeclared
  split
  · exact knownBefore_invalidateOlder hdeclared
  · rw [not_isUndeclared hdeclared]
    exact nofun

theorem isDeclared_setTarget {t : Impl} (htargets : t.targets = s.targets)
    (hdeclared : s.isDeclared id = true) {other : TargetId}
    {state : TargetState} (hstate : state.declared = true) :
    (t.setTarget other state).isDeclared id = true := by
  rw [isDeclared_iff] at hdeclared ⊢
  by_cases hid : id = other
  · subst hid
    rw [entry_setTarget]
    exact ⟨unscheduled state, rfl, hstate⟩
  · have hother : t.entry id = s.entry id := by rw [entry, entry, htargets]
    rw [entry_setTarget_of_ne hid, hother]
    exact hdeclared

/-- A declaration is refused, or its target is declared in the entry it writes
before it finishes. -/
theorem declareTarget_writes (s : Impl) (target : TargetDescriptor)
    (answer : Status) :
    (s.declareTarget target answer).1 = s ∨
      ∃ (t : Impl) (state : TargetState) (outcome : ReasonCode),
        t.targets = s.targets ∧ state.declared = true ∧
          ((s.declareTarget target answer).1 =
              t.setTarget target.target state ∨
            (s.declareTarget target answer).1 =
              ((t.setTarget target.target state).finishDeclaration target
                answer outcome).1) := by
  generalize hafter : s.declareTarget target answer = after
  unfold declareTarget at hafter
  split at hafter
  · exact Or.inl (by rw [← hafter])
  · split at hafter
    · exact Or.inl (by rw [← hafter])
    · split at hafter
      · split at hafter
        · exact Or.inl (by rw [← hafter])
        · refine Or.inr ⟨_, _, _, ?_, ?_,
            Or.inr (congrArg Prod.fst hafter.symm)⟩
          · rfl
          · rfl
      next existing hexisting =>
        dsimp only at hafter
        split at hafter
        · exact Or.inl (by rw [← hafter])
        · split at hafter
          · split at hafter
            · exact Or.inl (by rw [← hafter])
            · split at hafter
              · split at hafter
                · exact Or.inl (by rw [← hafter])
                · split at hafter
                  · refine Or.inr ⟨_, _, .acceptedNoChangeRequired, ?_, ?_,
                      Or.inl (congrArg Prod.fst hafter.symm)⟩
                    · rfl
                    · rfl
                  · refine Or.inr ⟨_, _, _, ?_, ?_,
                      Or.inr (congrArg Prod.fst hafter.symm)⟩
                    · rfl
                    · rfl
              · refine Or.inr ⟨_, _, _, ?_, ?_,
                  Or.inr (congrArg Prod.fst hafter.symm)⟩
                · rfl
                · rfl
          · refine Or.inr ⟨_, _, _, ?_, ?_,
              Or.inr (congrArg Prod.fst hafter.symm)⟩
            · rfl
            · rfl

theorem knownBefore_declareTarget {target : TargetDescriptor}
    {answer : Status} (hdeclared : s.isDeclared id = true)
    (h : (s.declareTarget target answer).1.isUndeclared id = true) :
    (s.declareTarget target answer).1.KnownBefore id := by
  rcases declareTarget_writes s target answer with
    heq | ⟨t, state, outcome, htargets, hstate, heq | heq⟩
  · rw [heq, not_isUndeclared hdeclared] at h
    cases h
  · rw [heq, not_isUndeclared
      (isDeclared_setTarget htargets hdeclared hstate)] at h
    cases h
  · rw [heq] at h ⊢
    exact knownBefore_finishDeclaration
      (isDeclared_setTarget htargets hdeclared hstate) h

theorem knownBefore_setTopologyGeneration {generation : TopologyGeneration}
    {answer : Status} (hdeclared : s.isDeclared id = true)
    (h : (s.setTopologyGeneration generation answer).1.isUndeclared id =
      true) :
    (s.setTopologyGeneration generation answer).1.KnownBefore id := by
  have hundeclared := not_isUndeclared hdeclared
  generalize hafter : s.setTopologyGeneration generation answer = after at h ⊢
  unfold setTopologyGeneration at hafter
  repeat' split at hafter
  all_goals subst hafter
  case isFalse.isFalse.isFalse.isFalse =>
    exact knownBefore_persistThen (knownBefore_invalidateOlder hdeclared) h
  all_goals
    rw [hundeclared] at h
    cases h

/-- Whoever loses its declaration to a newer topology is known under an older
one. -/
theorem knownBefore_of_overtakes (h : s.overtakes id op = true) :
    (s.step op).KnownBefore id := by
  simp only [overtakes, Bool.and_eq_true] at h
  obtain ⟨⟨hnewer, hdeclared⟩, hundeclared⟩ := h
  cases op with
  | declareTarget target answer =>
      exact knownBefore_declareTarget hdeclared hundeclared
  | setTopologyGeneration generation answer =>
      exact knownBefore_setTopologyGeneration hdeclared hundeclared
  | _ => cases hnewer

/-! ## The steps after it -/

theorem HeaderStep.topology_le {before after : Header}
    (h : HeaderStep op before after) :
    before.topology.value.toNat ≤ after.topology.value.toNat := by
  cases h with
  | topology newer =>
      rw [TypedId.lt_iff_toNat_lt] at newer
      exact Nat.le_of_lt newer
  | _ => exact Nat.le_refl _

/-- What stays undeclared stays as it is known. -/
theorem KnownBefore.step (hkeyed : s.ledger.Keyed) (h : s.KnownBefore id)
    (hanew : s.startsAnew op = false)
    (hundeclared : (s.step op).isUndeclared id = true) :
    (s.step op).KnownBefore id := by
  obtain ⟨before, hbefore, -, holder⟩ := h
  rw [isUndeclared_iff] at hundeclared
  obtain ⟨after, hafter, hundeclared⟩ := hundeclared
  have hstep := entryStep_step hkeyed.attempt hanew id
  rw [hbefore, hafter] at hstep
  have hheader : HeaderStep op s.header (s.step op).header :=
    headerStep_step hanew
  have htopology := hheader.topology_le
  have hsame : after.descriptor = before.descriptor := by
    cases hstep with
    | same => rfl
    | undeclared => rfl
    | updated | advanced | replaced | removed => cases hundeclared
    | loaded => exact (declared_mergeEvidence _ _).2
  refine ⟨after, hafter, hundeclared, ?_⟩
  rw [hsame, TypedId.lt_iff_toNat_lt]
  rw [TypedId.lt_iff_toNat_lt] at holder
  exact Nat.lt_of_lt_of_le holder htopology

/-- An overtaken target is known under an older topology for as long as
nothing declares it. -/
theorem knownBefore_of_overtaken {inputs : List Op}
    (hkeyed : s.ledger.Keyed) (h : s.Overtaken inputs id) :
    (engine.run s inputs).KnownBefore id := by
  obtain ⟨before, op, after, rfl, hovertakes, hafter⟩ := h
  have hrun : engine.run s (before ++ op :: after) =
      engine.run (engine.run s (before ++ [op])) after := by
    rw [← Machine.run_append, List.append_assoc, List.singleton_append]
  have hkeyedRun : ∀ inputs, (engine.run s inputs).ledger.Keyed := by
    intro inputs
    induction inputs using List.reverseRecOn with
    | nil => exact hkeyed
    | append_singleton inputs op ih =>
        rw [Machine.run_append]
        exact keyed_step ih op
  have hknown : (engine.run s (before ++ [op])).KnownBefore id := by
    rw [Machine.run_append]
    exact knownBefore_of_overtakes hovertakes
  rw [hrun]
  refine (hafter.invariant
    (P := fun t => t.ledger.Keyed ∧ t.KnownBefore id)
    (fun t next ht _ hnext => ⟨keyed_step ht.1 next,
      ht.2.step ht.1 hnext.1 hnext.2⟩) ⟨hkeyedRun _, hknown⟩).2

/--
In every reachable state a target that lost its declaration to a newer
topology is outdated, and an outdated target that is declared again under the
topology in force is refused, whatever it was.
-/
theorem overtaken_targets_are_not_taken_back (config : EngineConfig)
    (inputs : List Op)
    (h : engine.Admits (fun _ _ => True) (init config []) inputs)
    (id : TargetId) :
    ((init config []).Overtaken inputs id →
        ∃ target, (engine.run (init config []) inputs).Outdated id target) ∧
      ∀ (target : TargetState) (answer : Status),
        (engine.run (init config []) inputs).Outdated id target →
        ((engine.run (init config []) inputs).declareTarget
            ((engine.run (init config []) inputs).renewed target.descriptor)
            answer).1 = engine.run (init config []) inputs ∧
          ((engine.run (init config []) inputs).declareTarget
            ((engine.run (init config []) inputs).renewed target.descriptor)
            answer).2.ok = false := by
  refine ⟨fun hovertaken => (knownBefore_of_overtaken
    (Disk.synced_start config []).keyed hovertaken).outdated, ?_⟩
  intro target answer houtdated
  refine declareTarget_renewed ?_ houtdated answer
  exact (keyed_of_run h).target id target.descriptor
    (Option.map_eq_some_iff.mpr ⟨target, houtdated.known, rfl⟩)

/-- A host is declared, and then the topology moves on. -/
def declaredOnce : List Op :=
  [.openEngine {} committed, .declareTarget (sampleHost 1) committed]

theorem overtaken_host_is_refused :
    ∃ target, (engine.run (init sampleConfig []) (declaredOnce ++
        [.setTopologyGeneration ⟨2⟩ committed])).Outdated ⟨1⟩ target ∧
      ((engine.run (init sampleConfig []) (declaredOnce ++
        [.setTopologyGeneration ⟨2⟩ committed])).declareTarget
          ((engine.run (init sampleConfig []) (declaredOnce ++
            [.setTopologyGeneration ⟨2⟩ committed])).renewed
              target.descriptor) committed).2.ok = false := by
  have hovertaken : (init sampleConfig []).Overtaken (declaredOnce ++
      [.setTopologyGeneration ⟨2⟩ committed]) ⟨1⟩ :=
    ⟨declaredOnce, .setTopologyGeneration ⟨2⟩ committed, [], rfl,
      by decide +kernel, trivial⟩
  obtain ⟨hlost, hrefused⟩ := overtaken_targets_are_not_taken_back
    sampleConfig (declaredOnce ++ [.setTopologyGeneration ⟨2⟩ committed])
    (by decide +kernel) ⟨1⟩
  obtain ⟨target, htarget⟩ := hlost hovertaken
  exact ⟨target, htarget, (hrefused target committed htarget).2⟩

/-- Another host brings the newer topology; the first one, as it was but under
that topology, is a conflicting duplicate. -/
theorem overtaken_host_conflicts :
    (init sampleConfig []).Overtaken (declaredOnce ++ [.declareTarget
        { sampleHost 2 with topologyGeneration := ⟨2⟩ } committed]) ⟨1⟩ ∧
      engine.Admits (fun _ _ => True) (init sampleConfig [])
        (declaredOnce ++ [.declareTarget
          { sampleHost 2 with topologyGeneration := ⟨2⟩ } committed]) ∧
      (engine.run (init sampleConfig []) (declaredOnce ++ [.declareTarget
          { sampleHost 2 with topologyGeneration := ⟨2⟩ } committed])
        ).targets.size < sampleConfig.maxTargets ∧
      ((engine.run (init sampleConfig []) (declaredOnce ++ [.declareTarget
          { sampleHost 2 with topologyGeneration := ⟨2⟩ } committed])
        ).declareTarget { sampleHost 1 with topologyGeneration := ⟨2⟩ }
          committed).2 = .refused .rejectedConflictingDuplicate := by
  refine ⟨⟨declaredOnce, _, [], rfl, ?_, trivial⟩, ?_⟩
  · decide +kernel
  · decide +kernel

end Impl

end FlowOffload

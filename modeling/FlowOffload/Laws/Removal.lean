import FlowOffload.Laws.Freshness

/-!
# Removed targets

A target that was removed is never ready again at the incarnation it had,
unless a declaration takes it at that incarnation once more.  Declarations
compare everything but the lifecycle, so that one is taken.
-/

namespace FlowOffload

open Foundation

namespace Impl

variable {s : Impl} {op : Op} {id : TargetId}
  {incarnation : TargetIncarnation}

/-- The target is past an incarnation, or has it and is not ready. -/
def Withdrawn (s : Impl) (id : TargetId) (incarnation : TargetIncarnation) :
    Prop :=
  ∃ target, lookup s.targets id = some target ∧
    ¬ target.descriptor.incarnation < incarnation ∧
    (target.descriptor.incarnation = incarnation →
      target.descriptor.lifecycle ≠ .ready)

/-- A target that passes the checks in front of a declaration is taken when it
is the target as known, or the same incarnation with newer capabilities. -/
def retakes (s : Impl) (target : TargetDescriptor) : Bool :=
  s.isOpen && (s.targetRefusal target).isNone &&
    (s.targets[target.target]?).any fun existing =>
      existing.descriptor.incarnation = target.incarnation &&
        (sameTargetIdentity existing.descriptor target ||
          existing.descriptor.capabilityGeneration <
            target.capabilityGeneration)

/-- The call declares a target ready at an incarnation it already has. -/
def reinstates (s : Impl) (id : TargetId) (incarnation : TargetIncarnation)
    (op : Op) : Bool :=
  op.declared.any fun target =>
    target.target = id && target.incarnation = incarnation &&
      target.lifecycle = .ready && s.retakes target

theorem withdrawn_iff_entry : s.Withdrawn id incarnation ↔
    ∃ target, s.entry id = some target ∧
      ¬ target.descriptor.incarnation < incarnation ∧
      (target.descriptor.incarnation = incarnation →
        target.descriptor.lifecycle ≠ .ready) := by
  constructor
  · rintro ⟨target, htarget, hwithdrawn⟩
    exact ⟨unscheduled target,
      Option.map_eq_some_iff.mpr ⟨target, htarget, rfl⟩, hwithdrawn⟩
  · rintro ⟨entry, hentry, hwithdrawn⟩
    obtain ⟨target, htarget, rfl⟩ := Option.map_eq_some_iff.mp hentry
    exact ⟨target, htarget, hwithdrawn⟩

/-- A declaration that is not looked at changes nothing. -/
theorem declareTarget_of_refused {target : TargetDescriptor} {answer : Status}
    (h : (s.isOpen && (s.targetRefusal target).isNone) = false) :
    (s.declareTarget target answer).1 = s := by
  unfold declareTarget
  cases hopen : s.isOpen with
  | false => rfl
  | true =>
      cases hrefusal : s.targetRefusal target with
      | none => simp [hopen, hrefusal] at h
      | some code => rfl

theorem retakes_of_entry {target : TargetDescriptor} {before : TargetState}
    (hchecked : (s.isOpen && (s.targetRefusal target).isNone) = true)
    (hentry : s.entry target.target = some before)
    (hincarnation : before.descriptor.incarnation = target.incarnation)
    (h : sameTargetIdentity before.descriptor target = true ∨
      before.descriptor.capabilityGeneration < target.capabilityGeneration) :
    s.retakes target = true := by
  obtain ⟨existing, hfound, rfl⟩ := Option.map_eq_some_iff.mp hentry
  have hget : s.targets[target.target]? = some existing := hfound
  have hsame : existing.descriptor.incarnation = target.incarnation :=
    hincarnation
  rw [retakes, hchecked, hget]
  simp only [Option.any_some, Bool.true_and, hsame, decide_true,
    Bool.or_eq_true, decide_eq_true_eq]
  exact h

/-- A declaration that leaves the entry of its target at its incarnation was
taken, so it is not one of a ready target. -/
theorem not_ready_of_declared {target : TargetDescriptor} {answer : Status}
    {before : TargetState}
    (hop : s.reinstates id incarnation (.declareTarget target answer) = false)
    (hnamed : target.target = id) (hentry : s.entry id = some before)
    (hchecked : (s.isOpen && (s.targetRefusal target).isNone) = true)
    (hincarnation : before.descriptor.incarnation = target.incarnation)
    (h : sameTargetIdentity before.descriptor target = true ∨
      before.descriptor.capabilityGeneration < target.capabilityGeneration)
    (hat : target.incarnation = incarnation) : target.lifecycle ≠ .ready := by
  intro hready
  rw [← hnamed] at hentry
  have htaken := retakes_of_entry hchecked hentry hincarnation h
  simp [reinstates, Op.declared, hnamed, hat, hready, htaken] at hop

/-- Nothing but a declaration that is taken makes a target ready again. -/
theorem withdrawn_declareTarget {target : TargetDescriptor} {answer : Status}
    (hop : s.reinstates id incarnation (.declareTarget target answer) = false)
    (h : s.Withdrawn id incarnation) :
    (s.declareTarget target answer).1.Withdrawn id incarnation := by
  cases hchecked : s.isOpen && (s.targetRefusal target).isNone with
  | false =>
      rw [declareTarget_of_refused hchecked]
      exact h
  | true =>
      have hstep := entryStep_declareTarget s target answer id
      rw [withdrawn_iff_entry] at h ⊢
      obtain ⟨before, hentry, hpast, hnotReady⟩ := h
      have hdeclared := @not_ready_of_declared s id incarnation target answer before hop
      rw [hentry] at hstep
      generalize hafter :
        (s.declareTarget target answer).1.entry id = after at hstep ⊢
      cases hstep with
      | same => exact ⟨before, rfl, hpast, hnotReady⟩
      | undeclared => exact ⟨_, rfl, hpast, hnotReady⟩
      | removed call => cases call
      | loaded call => cases call
      | updated call named identity =>
          cases call
          have hsame : before.descriptor.incarnation = target.incarnation := by
            simp only [sameTargetIdentity, Bool.and_eq_true,
              decide_eq_true_eq] at identity
            exact identity.1.1.1.1.1.1.1.1.1.1.1.1.2
          refine ⟨_, rfl, ?_, ?_⟩
          · rw [hsame] at hpast
            exact hpast
          · exact hdeclared named hentry hchecked hsame (Or.inl identity)
      | advanced call named incarnation capability =>
          cases call
          refine ⟨_, rfl, ?_, ?_⟩
          · rw [← incarnation] at hpast
            exact hpast
          · exact hdeclared named hentry hchecked incarnation.symm
              (Or.inr capability)
      | replaced call named newer =>
          cases call
          rw [TypedId.lt_iff_toNat_lt] at hpast newer
          refine ⟨_, rfl, ?_, ?_⟩
          · rw [TypedId.lt_iff_toNat_lt]
            change ¬ target.incarnation.value.toNat < incarnation.value.toNat
            omega
          · intro hat
            have : target.incarnation = incarnation := hat
            rw [TypedId.eq_iff_toNat_eq] at this
            omega

theorem withdrawn_step (hkeyed : s.ledger.Keyed)
    (hanew : s.startsAnew op = false)
    (hop : s.reinstates id incarnation op = false)
    (h : s.Withdrawn id incarnation) :
    (s.step op).Withdrawn id incarnation := by
  cases hcall : op.declared with
  | some target =>
      cases op with
      | declareTarget _ answer => exact withdrawn_declareTarget hop h
      | _ => cases hcall
  | none =>
      have hstep := entryStep_step hkeyed.attempt hanew id
      rw [withdrawn_iff_entry] at h ⊢
      obtain ⟨before, hentry, hpast, hnotReady⟩ := h
      rw [hentry] at hstep
      generalize hafter : (s.step op).entry id = after at hstep ⊢
      cases hstep with
      | same => exact ⟨before, rfl, hpast, hnotReady⟩
      | undeclared => exact ⟨_, rfl, hpast, hnotReady⟩
      | removed call => exact ⟨_, rfl, hpast, nofun⟩
      | loaded call named =>
          refine ⟨_, rfl, ?_⟩
          rw [descriptor_mergeEvidence]
          exact ⟨hpast, hnotReady⟩
      | updated call | advanced call | replaced call =>
          rw [hcall] at call
          cases call

/-- An accepted removal withdraws its target. -/
theorem withdrawn_removeTarget {wanted : TargetIncarnation}
    {instant : Timestamp} {answer : Status} {existing : TargetState}
    (hfound : lookup s.targets id = some existing)
    (h : (s.removeTarget id wanted instant answer).2.ok = true) :
    (s.removeTarget id wanted instant answer).1.Withdrawn id
      existing.descriptor.incarnation := by
  have hget : s.targets[id]? = some existing := hfound
  unfold removeTarget at h ⊢
  split at h
  · cases h
  next hopen =>
    rw [if_neg hopen]
    simp only [hget] at h ⊢
    split at h
    · cases h
    next hincarnation =>
      rw [if_neg hincarnation, withdrawn_iff_entry]
      obtain ⟨u, heq, -, hwithdraws⟩ :=
        withdraws_retireTarget s id existing instant
      rw [heq, entry_persistThen, entry_recomputeScheduledLocked, entry,
        hwithdraws.targets, lookup_insert, Function.update_self]
      refine ⟨_, rfl, ?_, fun _ hready => by cases hready⟩
      rw [TypedId.lt_iff_toNat_lt]
      exact Nat.lt_irrefl _

/-! ## Runs -/

theorem withdrawn_run {inputs : List Op} (hkeyed : s.ledger.Keyed)
    (h : s.Withdrawn id incarnation)
    (hrun : engine.Admits (fun s op => s.startsAnew op = false ∧
      s.reinstates id incarnation op = false) s inputs) :
    (engine.run s inputs).Withdrawn id incarnation :=
  (hrun.invariant (P := fun s => s.ledger.Keyed ∧
      s.Withdrawn id incarnation)
    (fun _ op hs _ hop => ⟨keyed_step hs.1 op,
      withdrawn_step hs.1 hop.1 hop.2 hs.2⟩) ⟨hkeyed, h⟩).2

theorem Withdrawn.not_ready (h : s.Withdrawn id incarnation)
    {target : TargetState} (htarget : lookup s.targets id = some target)
    (hat : target.descriptor.incarnation = incarnation) :
    target.descriptor.lifecycle ≠ .ready := by
  obtain ⟨found, hfound, -, hnotReady⟩ := h
  rw [hfound] at htarget
  cases htarget
  exact hnotReady hat

/-- No placement passes on a target that is withdrawn. -/
theorem Withdrawn.not_passed (h : s.Withdrawn id incarnation)
    {instant : Timestamp} {placement : FlowPlacement} {target : TargetState}
    (hpassed : s.Passed instant placement target)
    (hid : placement.target = id) : placement.incarnation ≠ incarnation := by
  intro hat
  have htarget := hpassed.target
  rw [hid] at htarget
  exact h.not_ready htarget (hpassed.incarnation.symm.trans hat)
    hpassed.ready.2

/--
Once the removal of a target is accepted, the target is not ready at that
incarnation in any later state of a run that does not declare it so, and no
request that is decided in such a state is placed on it at that incarnation.
-/
theorem removal_ends_an_incarnation (config : EngineConfig)
    (before after : List Op) (id : TargetId) (wanted : TargetIncarnation)
    (instant : Timestamp) (answer : Status) (existing : TargetState)
    (hbefore : engine.Admits (fun _ _ => True) (init config []) before)
    (hfound : lookup (engine.run (init config []) before).targets id =
      some existing)
    (haccepted : (engine.run (init config []) before).accepted
      (.removeTarget id wanted instant answer) = true)
    (hafter : engine.Admits (fun s op => s.startsAnew op = false ∧
        s.reinstates id existing.descriptor.incarnation op = false)
      (engine.run (init config []) (before ++
        [.removeTarget id wanted instant answer])) after) :
    (∀ target, lookup (engine.run (init config []) (before ++
          .removeTarget id wanted instant answer :: after)).targets id =
        some target →
      target.descriptor.incarnation = existing.descriptor.incarnation →
        target.descriptor.lifecycle ≠ .ready) ∧
    ∀ request answer', ((engine.run (init config []) (before ++
          .removeTarget id wanted instant answer :: after)).placeLocked
            request answer').2.duplicate = false →
      ∀ placement ∈ ((engine.run (init config []) (before ++
          .removeTarget id wanted instant answer :: after)).placeLocked
            request answer').2.placements,
        placement.accepted = true → placement.target = id →
          placement.incarnation ≠ existing.descriptor.incarnation := by
  have hstart : (init config []).ledger.Keyed :=
    (Disk.synced_start config []).keyed
  have hkeyed := keyed_run hstart hbefore
  have hremoved : (engine.run (init config []) (before ++
      [.removeTarget id wanted instant answer])).Withdrawn id
        existing.descriptor.incarnation := by
    rw [Machine.run_append]
    exact withdrawn_removeTarget hfound haccepted
  have hkeyed' : (engine.run (init config []) (before ++
      [.removeTarget id wanted instant answer])).ledger.Keyed := by
    rw [Machine.run_append]
    exact keyed_step hkeyed (.removeTarget id wanted instant answer)
  have hwithdrawn := withdrawn_run hkeyed' hremoved hafter
  have hlast := keyed_run hkeyed' hafter
  rw [← Machine.run_append, List.append_assoc, List.singleton_append]
    at hwithdrawn hlast
  refine ⟨fun target => hwithdrawn.not_ready, ?_⟩
  intro request answer' hfresh placement hmem hplaced hid
  rcases passed_or_replays (targets_of_keyed hlast) hmem hplaced with
    ⟨target, hpassed⟩ | ⟨hduplicate, -⟩
  · exact hwithdrawn.not_passed hpassed hid
  · rw [hfresh] at hduplicate
    cases hduplicate

/-- A later incarnation of the removed host is declared. -/
def replacedHost : List Op :=
  [.declareTarget { sampleHost 1 with incarnation := ⟨2⟩ } committed]

theorem removed_host_is_replaced :
    (lookup (engine.run (init sampleConfig []) (observedHost ++
        .removeTarget ⟨1⟩ ⟨1⟩ ⟨2⟩ committed :: replacedHost)).targets
          ⟨1⟩).isSome = true ∧
      ∀ target, lookup (engine.run (init sampleConfig []) (observedHost ++
          .removeTarget ⟨1⟩ ⟨1⟩ ⟨2⟩ committed :: replacedHost)).targets ⟨1⟩ =
        some target →
      target.descriptor.incarnation = ⟨1⟩ →
        target.descriptor.lifecycle ≠ .ready := by
  have hfound : ((lookup (engine.run (init sampleConfig [])
      observedHost).targets ⟨1⟩).map fun target => target.descriptor) =
        some (sampleHost 1) := by
    decide +kernel
  obtain ⟨existing, hexisting, hdescriptor⟩ :=
    Option.map_eq_some_iff.mp hfound
  have hincarnation : existing.descriptor.incarnation = ⟨1⟩ := by
    rw [hdescriptor]
    rfl
  have hends := removal_ends_an_incarnation sampleConfig observedHost
    replacedHost ⟨1⟩ ⟨1⟩ ⟨2⟩ committed existing (by decide +kernel) hexisting
    (by decide +kernel)
    (by rw [hincarnation]; decide +kernel)
  rw [hincarnation] at hends
  exact ⟨by decide +kernel, hends.1⟩

/--
The same host is declared again at the incarnation that was removed, and is
ready; and before that, the old request is accepted on it once more.
-/
theorem removed_host_is_ready_again :
    engine.Admits (fun _ _ => True) (init sampleConfig []) removedHost ∧
      (((engine.run (init sampleConfig []) removedHost).placeLocked
        (sampleRequest 1 1 [1]) committed).2.placements.any
          fun placement => placement.accepted && placement.target = ⟨1⟩ &&
            placement.incarnation = ⟨1⟩) = true ∧
      ((lookup (engine.run (init sampleConfig []) (removedHost ++
          [.declareTarget (sampleHost 1) committed])).targets ⟨1⟩).any
        fun target => target.declared &&
          target.descriptor.incarnation = ⟨1⟩ &&
          target.descriptor.lifecycle = .ready) = true := by
  refine ⟨by decide +kernel, by decide +kernel, by decide +kernel⟩

end Impl

end FlowOffload

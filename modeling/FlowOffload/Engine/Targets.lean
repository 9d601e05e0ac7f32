import FlowOffload.Engine.Handoff
import FlowOffload.Engine.Reception

/-!
# Entries of the target table

What one operation can do to the entry of one target, up to its cached demand.
Only a declaration, a removal, evidence or a newer topology touches one.
-/

namespace FlowOffload

open Foundation
open Std (ExtTreeMap)

/-- The observation that an operation delivers. -/
def Op.observes : Op → Option LoadEvidence
  | .ingestLoad evidence => some evidence
  | _ => none

theorem Op.eq_ingestLoad {op : Op} {evidence : LoadEvidence}
    (h : evidence ∈ op.observes) : op = .ingestLoad evidence := by
  cases op with
  | ingestLoad delivered =>
      cases h
      rfl
  | _ => cases h

/-- The target that an operation declares. -/
def Op.declared : Op → Option TargetDescriptor
  | .declareTarget target _ => some target
  | _ => none

namespace Impl

variable {s t : Impl} {id : TargetId} {op : Op}

/-- The operation begins another incarnation. -/
def startsAnew (s : Impl) : Op → Bool
  | .restart _ => true
  | .openEngine _ _ => !s.isOpen
  | _ => false

/-! ## What can happen to an entry -/

/-- What a declaration writes into the entry of its target. -/
def declaredEntry (target : TargetDescriptor) (existing : TargetState) :
    TargetState :=
  { existing with descriptor := target, declared := true }

/-- What a newer topology leaves of an entry. -/
def undeclaredEntry (existing : TargetState) : TargetState :=
  { existing with declared := false, hasLoad := false, conflicting := false }

/-- How an operation changes the entry of a target. -/
inductive EntryStep (op : Op) (id : TargetId) :
    Option TargetState → Option TargetState → Prop where
  | same (entry : Option TargetState) : EntryStep op id entry entry
  | undeclared (before : TargetState) :
      EntryStep op id (some before) (some (undeclaredEntry before))
  | registered {target : TargetDescriptor}
      (call : op.declared = some target) (named : target.target = id) :
      EntryStep op id none (some { descriptor := target, declared := true })
  | updated {target : TargetDescriptor} {before : TargetState}
      (call : op.declared = some target) (named : target.target = id)
      (identity : sameTargetIdentity before.descriptor target = true) :
      EntryStep op id (some before) (some (declaredEntry target before))
  | advanced {target : TargetDescriptor} {before : TargetState}
      (call : op.declared = some target) (named : target.target = id)
      (incarnation : target.incarnation = before.descriptor.incarnation)
      (capability : before.descriptor.capabilityGeneration <
        target.capabilityGeneration) :
      EntryStep op id (some before) (some { declaredEntry target before with
        hasLoad := false
        conflicting := false })
  | replaced {target : TargetDescriptor} {before : TargetState}
      (call : op.declared = some target) (named : target.target = id)
      (incarnation : before.descriptor.incarnation < target.incarnation) :
      EntryStep op id (some before)
        (some { descriptor := target, declared := true })
  | removed {incarnation : TargetIncarnation} {instant : Timestamp}
      {answer : Status} {before : TargetState}
      (call : op = .removeTarget id incarnation instant answer) :
      EntryStep op id (some before) (some (retiredEntry before))
  | loaded {evidence : LoadEvidence} {before : TargetState}
      (call : op = .ingestLoad evidence) (named : evidence.target = id)
      (incarnation : evidence.incarnation = before.descriptor.incarnation)
      (capability : evidence.capabilityGeneration =
        before.descriptor.capabilityGeneration) :
      EntryStep op id (some before) (some (mergeEvidence before evidence))

/-- The entry of a target, up to its cached demand. -/
def entry (s : Impl) (id : TargetId) : Option TargetState :=
  (lookup s.targets id).map unscheduled

theorem SameTargets.entryStep (h : s.SameTargets t) (op : Op)
    (id : TargetId) : EntryStep op id (s.entry id) (t.entry id) := by
  rw [show t.entry id = s.entry id from h id]
  exact .same _

theorem EntryStep.of_targets (h : t.targets = s.targets) :
    EntryStep op id (s.entry id) (t.entry id) := by
  rw [entry, entry, h]
  exact .same _

theorem entry_persistLocked (t : Impl) (answer : Status) (id : TargetId) :
    (t.persistLocked answer).1.entry id = t.entry id := by
  obtain ⟨counters, submitted, heq⟩ := persistLocked_fst t answer
  rw [heq]
  rfl

theorem entry_persistThen (t : Impl) (answer : Status) (outcome : ReasonCode)
    (id : TargetId) :
    (t.persistThen answer outcome).1.entry id = t.entry id := by
  rw [persistThen_fst]
  exact entry_persistLocked t answer id

theorem entry_recomputeScheduledLocked (t : Impl) (id : TargetId) :
    t.recomputeScheduledLocked.entry id = t.entry id :=
  unscheduled_recomputeScheduledLocked t id

theorem entry_setTarget (t : Impl) (id : TargetId) (state : TargetState) :
    (t.setTarget id state).entry id = some (unscheduled state) := by
  simp [entry, setTarget]

theorem entry_setTarget_of_ne {other : TargetId} (h : id ≠ other) (t : Impl)
    (state : TargetState) : (t.setTarget other state).entry id =
      t.entry id := by
  simp [entry, setTarget, h]

/-- A newer topology takes an entry down or leaves it alone. -/
theorem entry_invalidateOlder (t : Impl) (keep : TargetId → Bool)
    (generation : TopologyGeneration) (id : TargetId) :
    (t.invalidateOlder keep generation).entry id = t.entry id ∨
      keep id = false ∧ ∃ before, t.entry id = some before ∧
        (t.invalidateOlder keep generation).entry id =
          some (undeclaredEntry before) := by
  simp only [entry, invalidateOlder, lookup_map, Option.map_map]
  cases hfound : lookup t.targets id with
  | none => exact Or.inl rfl
  | some state =>
      simp only [Option.map_some, Function.comp_apply]
      split
      next hold =>
        refine Or.inr ⟨?_, unscheduled state, rfl, rfl⟩
        simp only [Bool.and_eq_true, Bool.not_eq_true'] at hold
        exact hold.1
      next => exact Or.inl rfl

/-- The end of a declaration keeps the entry that was declared. -/
theorem entry_finishDeclaration (t : Impl) (target : TargetDescriptor)
    (answer : Status) (outcome : ReasonCode) (id : TargetId) :
    (t.finishDeclaration target answer outcome).1.entry id = t.entry id ∨
      id ≠ target.target ∧ ∃ before, t.entry id = some before ∧
        (t.finishDeclaration target answer outcome).1.entry id =
          some (undeclaredEntry before) := by
  unfold finishDeclaration
  dsimp only
  rw [entry_persistThen, entry_recomputeScheduledLocked]
  split
  · rcases entry_invalidateOlder t (fun id => id = target.target)
      target.topologyGeneration id with hsame | ⟨hother, hundeclared⟩
    · exact Or.inl hsame
    · exact Or.inr ⟨by simpa using hother, hundeclared⟩
  · exact Or.inl rfl

/-! ## Declarations -/

/-- A declaration writes the entry of its target, and then finishes. -/
theorem EntryStep.finishDeclaration {u : Impl} {target : TargetDescriptor}
    {state : TargetState} {answer : Status} {outcome : ReasonCode}
    (htargets : u.targets = s.targets)
    (hwritten : EntryStep op target.target (s.entry target.target)
      (some (unscheduled state))) (id : TargetId) :
    EntryStep op id (s.entry id) (((u.setTarget target.target
      state).finishDeclaration target answer outcome).1.entry id) := by
  have hother : u.entry id = s.entry id := by rw [entry, entry, htargets]
  rcases entry_finishDeclaration (u.setTarget target.target state) target
    answer outcome id with hsame | ⟨hne, before, hbefore, hundeclared⟩
  · rw [hsame]
    by_cases hid : id = target.target
    · subst hid
      rw [entry_setTarget]
      exact hwritten
    · rw [entry_setTarget_of_ne hid, hother]
      exact .same _
  · rw [entry_setTarget_of_ne hne, hother] at hbefore
    rw [hundeclared, hbefore]
    exact .undeclared before

theorem entryStep_declareTarget (s : Impl) (target : TargetDescriptor)
    (answer : Status) (id : TargetId) :
    EntryStep (.declareTarget target answer) id (s.entry id)
      ((s.declareTarget target answer).1.entry id) := by
  have hset : ∀ (u : Impl) (state : TargetState) (outcome : ReasonCode),
      u.targets = s.targets →
      EntryStep (.declareTarget target answer) target.target
        (s.entry target.target) (some (unscheduled state)) →
      EntryStep (.declareTarget target answer) id (s.entry id)
        (((u.setTarget target.target state).finishDeclaration target answer
          outcome).1.entry id) :=
    fun u state outcome htargets hwritten =>
      .finishDeclaration htargets hwritten id
  unfold declareTarget
  split
  · exact .same _
  · split
    · exact .same _
    · split
      next hnone =>
        have hentry : s.entry target.target = none := by
          rw [entry, show lookup s.targets target.target = none from hnone]
          rfl
        split
        · exact .same _
        · refine hset _ _ _ rfl ?_
          rw [hentry]
          exact .registered rfl rfl
      next existing hexisting =>
        have hentry : s.entry target.target =
            some (unscheduled existing) := by
          rw [entry, show lookup s.targets target.target = some existing from
            hexisting]
          rfl
        rw [hentry] at hset
        dsimp only
        split
        · exact .same _
        next hnewer =>
          split
          next hincarnation =>
            split
            · exact .same _
            next hnotOlder =>
              split
              next hcapability =>
                split
                · exact .same _
                next hidentity =>
                  have hsame : sameTargetIdentity existing.descriptor
                      target = true := by simpa using hidentity
                  split
                  · by_cases hid : id = target.target
                    · subst hid
                      rw [entry_setTarget, hentry]
                      exact .updated rfl rfl hsame
                    · rw [entry_setTarget_of_ne hid]
                      exact .same _
                  · exact hset _ _ _ rfl (.updated rfl rfl hsame)
              next hcapability =>
                refine hset _ _ _ rfl (.advanced rfl rfl hincarnation ?_)
                rw [TypedId.lt_iff_toNat_lt] at hnotOlder ⊢
                rw [TypedId.eq_iff_toNat_eq] at hcapability
                change existing.descriptor.capabilityGeneration.value.toNat <
                  target.capabilityGeneration.value.toNat
                omega
          next hincarnation =>
            refine hset _ _ _ rfl (.replaced rfl rfl ?_)
            rw [TypedId.lt_iff_toNat_lt] at hnewer ⊢
            rw [TypedId.eq_iff_toNat_eq] at hincarnation
            change existing.descriptor.incarnation.value.toNat <
              target.incarnation.value.toNat
            omega

/-! ## The other operations -/

theorem entryStep_removeTarget (s : Impl) (target : TargetId)
    (incarnation : TargetIncarnation) (instant : Timestamp)
    (answer : Status) (id : TargetId) :
    EntryStep (.removeTarget target incarnation instant answer) id
      (s.entry id)
      ((s.removeTarget target incarnation instant answer).1.entry id) := by
  unfold removeTarget
  split
  · exact .same _
  · split
    · exact .same _
    next existing hexisting =>
      split
      · exact .same _
      · obtain ⟨u, heq, -, hwithdraws⟩ :=
          withdraws_retireTarget s target existing instant
        rw [heq, entry_persistThen, entry_recomputeScheduledLocked]
        simp only [entry, hwithdraws.targets, lookup_insert]
        by_cases hid : id = target
        · subst hid
          rw [Function.update_self,
            show lookup s.targets id = some existing from hexisting]
          exact .removed rfl
        · rw [Function.update_of_ne hid]
          exact .same _

/-- Evidence that matches its target is recorded for it, or only the
accounting moves. -/
theorem ingestLoad_cases (s : Impl) (evidence : LoadEvidence) :
    (∃ watermarks counters, (s.ingestLoad evidence).1 =
        { s with watermarks := watermarks, counters := counters }) ∨
      ∃ target, lookup s.targets evidence.target = some target ∧
        evidence.incarnation = target.descriptor.incarnation ∧
        evidence.capabilityGeneration =
          target.descriptor.capabilityGeneration ∧
        (s.ingestLoad evidence).1 = (s.recordEvidence target evidence).1 := by
  have hreceived := receives_ingestLoad s evidence
  generalize s.ingestLoad evidence = after at hreceived ⊢
  cases hreceived with
  | refused | rejected | repeated => exact Or.inl ⟨_, _, rfl⟩
  | @outOfOrder target =>
      unfold ingestOutOfOrder
      split
      · exact Or.inl ⟨_, _, rfl⟩
      · exact Or.inl ⟨_, _, rfl⟩
  | @recorded target matched =>
      exact Or.inr ⟨target, matched.known, matched.incarnation,
        matched.capability, rfl⟩

theorem unscheduled_mergeEvidence (target : TargetState)
    (evidence : LoadEvidence) :
    unscheduled (mergeEvidence target evidence) =
      mergeEvidence (unscheduled target) evidence := by
  obtain ⟨_, _, _, _, _, _, _⟩ := target
  unfold mergeEvidence unscheduled
  dsimp only
  split_ifs <;> rfl

theorem entryStep_ingestLoad (s : Impl) (evidence : LoadEvidence)
    (id : TargetId) :
    EntryStep (.ingestLoad evidence) id (s.entry id)
      ((s.ingestLoad evidence).1.entry id) := by
  rcases ingestLoad_cases s evidence with ⟨watermarks, counters, heq⟩ |
    ⟨target, htarget, hincarnation, hcapability, heq⟩
  · rw [heq]
    exact .same _
  · rw [heq]
    simp only [entry, recordEvidence, lookup_insert]
    by_cases hid : id = evidence.target
    · subst hid
      rw [Function.update_self, htarget, Option.map_some, Option.map_some,
        unscheduled_mergeEvidence]
      exact .loaded rfl rfl hincarnation hcapability
    · rw [Function.update_of_ne hid]
      exact .same _

theorem entryStep_setTopologyGeneration (s : Impl)
    (generation : TopologyGeneration) (answer : Status) (id : TargetId) :
    EntryStep op id (s.entry id)
      ((s.setTopologyGeneration generation answer).1.entry id) := by
  unfold setTopologyGeneration
  split
  · exact .same _
  · split
    · exact .same _
    · split
      · exact .same _
      · split
        · exact .same _
        · rw [entry_persistThen]
          rcases entry_invalidateOlder s (fun _ => false) generation id with
            hsame | ⟨-, before, hbefore, hundeclared⟩
          · rw [hsame]
            exact .same _
          · rw [hundeclared, hbefore]
            exact .undeclared before

/-- A rebalance reports and counts; it changes nothing else. -/
theorem rebalanceLocked_eq (s : Impl) (request : RebalanceRequest)
    (answer : Status) :
    ∃ counters submitted, (s.rebalanceLocked request answer).1 =
      { s with counters := counters, submitted := submitted } := by
  generalize hafter : s.rebalanceLocked request answer = after
  unfold rebalanceLocked at hafter
  dsimp only at hafter
  split at hafter
  · exact ⟨_, _, by rw [← hafter]⟩
  · split at hafter
    · exact ⟨_, _, by rw [← hafter]⟩
    · split at hafter
      · exact ⟨_, _, by rw [← hafter]⟩
      · split at hafter
        · exact ⟨_, _, by rw [← hafter, countRebalance]⟩
        · obtain ⟨counters, submitted, heq⟩ :=
            persistLocked_fst (s.countRebalance _) answer
          exact ⟨counters, submitted, by rw [← hafter, heq, countRebalance]⟩

theorem targets_authorize (s : Impl) (recommendation : RecommendationId)
    (instant : Timestamp) :
    (s.authorize recommendation instant).1.targets = s.targets := by
  unfold authorize
  repeat' split
  all_goals rfl

theorem targets_revokeAuthorization (s : Impl)
    (authorization : AuthorizationId) :
    (s.revokeAuthorization authorization).1.targets = s.targets := by
  unfold revokeAuthorization
  repeat' split
  all_goals rfl

theorem targets_shutdown (s : Impl) (answer : Status) :
    (s.shutdown answer).targets = s.targets := by
  obtain ⟨counters, submitted, heq⟩ := persistLocked_fst s answer
  unfold shutdown
  split
  · rw [heq]
  · rfl

/-- Committing a batch refreshes cached demand and touches no target else. -/
theorem Committed.sameTargets {request : PlacementRequest} {answer : Status}
    (h : s.Committed request answer t) : s.SameTargets t := by
  obtain ⟨published, result, rfl⟩ := h
  intro id
  change Impl.entry _ id = s.entry id
  obtain ⟨_, _, _, _, _, _, heq⟩ := foldl_commitPending_eq request published
    (s.planOf request).commits
    (s.scheduledFor request published, (s.planOf request).placements)
  have htargets := congrArg Impl.targets heq
  have hloop : Impl.entry (((s.scheduledFor request published).commitBatch
      request published (s.planOf request)).1.recordRequest request result
        answer) id = (s.scheduledFor request published).entry id := by
    refine (entry_persistLocked _ answer id).trans ?_
    exact congrArg (fun m => (lookup m id).map unscheduled) htargets
  rw [hloop]
  unfold scheduledFor
  split
  · exact entry_recomputeScheduledLocked { s.withPlan _ with
      scheduleGeneration := published } id
  · rfl

theorem Ends.entryStep {answer : Status} {accepted : Bool}
    (h : s.Ends op answer t accepted) (hop : op.retargets = false)
    (id : TargetId) : EntryStep op id (s.entry id) (t.entry id) := by
  cases h with
  | refused counted =>
      obtain ⟨_, _, rfl⟩ := counted
      exact .same _
  | repeated counted known =>
      obtain ⟨_, _, rfl⟩ := counted
      exact .same _
  | redeclared call found known =>
      subst call
      cases hop
  | placed call executed commit => exact commit.sameTargets.entryStep op id
  | @committed u stays targets change =>
      rw [entry_persistLocked]
      exact (targets hop).entryStep op id

/-- Every operation within an incarnation. -/
theorem entryStep_step (hkeyed : ∀ k record,
      lookup s.migrations k = some record → record.intent.attempt = k)
    (hanew : s.startsAnew op = false) (id : TargetId) :
    EntryStep op id (s.entry id) ((s.step op).entry id) := by
  cases op with
  | openEngine opening answer =>
      have hopen : s.isOpen = true := by simpa [startsAnew] using hanew
      refine .of_targets ?_
      simp [step, openEngine, hopen]
  | shutdown answer => exact .of_targets (targets_shutdown s answer)
  | restart config => cases hanew
  | ingestLoad evidence => exact entryStep_ingestLoad s evidence id
  | authorize recommendation instant =>
      exact .of_targets (targets_authorize s recommendation instant)
  | revokeAuthorization authorization =>
      exact .of_targets (targets_revokeAuthorization s authorization)
  | rebalance request answer =>
      obtain ⟨_, _, heq⟩ := rebalanceLocked_eq s request answer
      refine .of_targets ?_
      simp only [step, heq]
  | removeTarget target incarnation instant answer =>
      exact entryStep_removeTarget s target incarnation instant answer id
  | setTopologyGeneration generation answer =>
      exact entryStep_setTopologyGeneration s generation answer id
  | declareTarget target answer =>
      exact entryStep_declareTarget s target answer id
  | place request answer =>
      rcases placeLocked_cases s request answer with
        hcounted | ⟨-, hcommitted⟩
      · obtain ⟨_, _, heq⟩ := hcounted
        refine .of_targets ?_
        simp only [step, heq]
      · exact hcommitted.sameTargets.entryStep _ id
  | _ => exact (ends_step hkeyed rfl).entryStep rfl id

end Impl

end FlowOffload

import FlowOffload.Engine.Incarnation
import FlowOffload.Engine.PlanSpec

/-!
# How a decision ends

An operation that decides something is refused, repeats what the engine holds
already, or changes the state and ends with one commit.  There is one lemma
per operation; for a commit it also says when the change in front of it is
none at all.
-/

namespace FlowOffload

open Foundation
open Std (ExtTreeMap)

/-- The operation may change what is known of a target. -/
def Op.retargets : Op → Bool
  | .declareTarget _ _ | .removeTarget _ _ _ _ | .setTopologyGeneration _ _ =>
      true
  | _ => false

namespace Impl

/-- The outcome that an operation reports to its caller. -/
def accepted (s : Impl) : Op → Bool
  | .openEngine opening answer => (s.openEngine opening answer).2.ok
  | .shutdown _ => true
  | .restart _ => true
  | .registerFlow flow answer => (s.registerFlow flow answer).2.ok
  | .removeFlow flow generation answer =>
      (s.removeFlow flow generation answer).2.ok
  | .declareTarget target answer => (s.declareTarget target answer).2.ok
  | .removeTarget target incarnation instant answer =>
      (s.removeTarget target incarnation instant answer).2.ok
  | .ingestLoad evidence => (s.ingestLoad evidence).2.ok
  | .setPolicy policy answer => (s.setPolicy policy answer).2.ok
  | .setTopologyGeneration generation answer =>
      (s.setTopologyGeneration generation answer).2.ok
  | .registerMigrationContract contract answer =>
      (s.registerMigrationContract contract answer).2.ok
  | .place request answer => (s.placeLocked request answer).2.accepted
  | .rebalance request answer =>
      (s.rebalanceLocked request answer).2.status.isAcceptance
  | .authorize recommendation instant =>
      (s.authorize recommendation instant).2.1.ok
  | .revokeAuthorization authorization =>
      (s.revokeAuthorization authorization).2.ok
  | .issueIntent authorization wanted answer =>
      (s.issueIntent authorization wanted answer).2.1.ok
  | .acknowledge ack answer => (s.acknowledge ack answer).2.ok
  | .reportApplied effect answer => (s.reportApplied effect answer).2.ok
  | .observe observation answer => (s.observe observation answer).2.ok
  | .abortMigration attempt reason answer =>
      (s.abortMigration attempt reason answer).2.ok

/-! ## Calls that repeat what is known -/

/-- The call asks for what the engine holds already. -/
def repeats (s : Impl) : Op → Bool
  | .registerFlow flow _ => s.flows[flow.flow]? = some flow
  | .declareTarget target _ =>
      (s.targets[target.target]?).any fun existing =>
        existing.declared && sameTargetIdentity existing.descriptor target &&
          existing.descriptor.lifecycle = target.lifecycle
  | .setPolicy policy _ => s.policyPresent && canonicalize policy = s.policy
  | .setTopologyGeneration generation _ => generation = s.topologyGeneration
  | .registerMigrationContract contract _ =>
      s.contracts[contract.id]? = some contract
  | .place request _ =>
      (s.requests[request.request]?).any fun record =>
        record.requestDigest = placementRequestDigest request
  | .acknowledge ack _ =>
      (s.migrations[ack.attempt]?).any fun record =>
        acknowledgedBy record (ack.actor = .source) = some ack
  | .reportApplied effect _ =>
      (s.migrations[effect.attempt]?).any fun record =>
        record.effectApplied && record.applied = effect
  | .abortMigration attempt _ _ =>
      (s.migrations[attempt]?).any fun record =>
        record.intent.phase = .aborted || record.intent.phase = .fenced
  | _ => false

/-! ## Changes that change nothing -/

/-- What a decision may change, apart from accounting and history. -/
structure SameState (s t : Impl) : Prop where
  flows : t.flows = s.flows
  targets : t.targets = s.targets
  assignments : t.assignments = s.assignments
  holders : t.holders = s.holders
  migrations : t.migrations = s.migrations
  contracts : t.contracts = s.contracts
  fences : t.fences = s.fences
  policy : t.policy = s.policy
  policyPresent : t.policyPresent = s.policyPresent
  policyGeneration : t.policyGeneration = s.policyGeneration
  scheduleGeneration : t.scheduleGeneration = s.scheduleGeneration
  topologyGeneration : t.topologyGeneration = s.topologyGeneration

/-- A new fence is not kept: its identity is taken, or there is no room. -/
def DropsFence (s : Impl) (flow : FlowId) (target : TargetId)
    (reason : ReasonCode) (instant : Timestamp) : Prop :=
  (s.issueFenceLocked flow target reason instant).1.fences = s.fences

/-- The target is removed already and nothing about it is left to undo. -/
structure Retired (s : Impl) (target : TargetId) (existing : TargetState) :
    Prop where
  lifecycle : existing.descriptor.lifecycle = .removed
  declared : existing.declared = true
  hasLoad : existing.hasLoad = false
  conflicting : existing.conflicting = false
  effects : ∀ flow a, lookup s.assignments flow = some a →
    a.target = target → a.effect = .unknown
  attempts : ∀ k record, lookup s.migrations k = some record →
    touchesTarget target record = true → record.inFlight = false
  scheduled : s.recomputeScheduledLocked.targets = s.targets

/-- The identities of the attempt and of its fence are taken, and the flow is
shown as being moved. -/
structure Exhausted (s : Impl) (stored : Authorization)
    (wanted : MigrationIntent) : Prop where
  flow : ∀ descriptor ∈ lookup s.flows stored.flow,
    descriptor.statefulness ≠ .stateful
  effect : ∀ source ∈ lookup s.assignments stored.flow,
    source.effect = .intentIssued
  attempt : lookup s.migrations ⟨s.nextAttempt⟩ ≠ none
  fence : s.DropsFence stored.flow stored.target
    .acceptedMigrationIntentIssued wanted.issuedAt

/-- The change in front of the commit leaves everything as it is. -/
def Idle (s : Impl) : Op → Prop
  | .removeTarget target _ instant _ =>
      ∃ existing, lookup s.targets target = some existing ∧
        s.Retired target existing ∧
        s.DropsFence {} target .rejectedTargetRemoved instant
  | .issueIntent authorization wanted _ =>
      ∃ stored, lookup s.authorizations authorization = some stored ∧
        s.Exhausted stored wanted
  | _ => False

/-! ## Targets up to their cached demand -/

/-- Everything of a target but its cached demand. -/
def unscheduled (state : TargetState) : TargetState :=
  { state with scheduled := .zero }

theorem unscheduled_chargeAssignment
    (flows : ExtTreeMap FlowId FlowDescriptor)
    (targets : ExtTreeMap TargetId TargetState)
    (entry : FlowId × Assignment) (id : TargetId) :
    (lookup (chargeAssignment flows targets entry) id).map unscheduled =
      (lookup targets id).map unscheduled := by
  unfold chargeAssignment
  split
  next state flow hstate hflow =>
    by_cases hid : id = entry.2.target
    · subst hid
      have hstate' : lookup targets entry.2.target = some state := hstate
      simp [hstate', unscheduled]
    · simp [hid]
  next => rfl

theorem unscheduled_foldl_chargeAssignment
    (flows : ExtTreeMap FlowId FlowDescriptor)
    (entries : List (FlowId × Assignment))
    (targets : ExtTreeMap TargetId TargetState) (id : TargetId) :
    (lookup (entries.foldl (chargeAssignment flows) targets) id).map
        unscheduled =
      (lookup targets id).map unscheduled := by
  induction entries generalizing targets with
  | nil => rfl
  | cons entry entries ih =>
      rw [List.foldl_cons, ih, unscheduled_chargeAssignment]

theorem unscheduled_recomputeScheduledLocked (s : Impl) (id : TargetId) :
    (lookup s.recomputeScheduledLocked.targets id).map unscheduled =
      (lookup s.targets id).map unscheduled := by
  change (lookup (List.foldl _ _ _) id).map _ = _
  rw [unscheduled_foldl_chargeAssignment]
  simp only [lookup_map, Option.map_map]
  rfl

/-- Nothing but cached demand has changed in the targets. -/
def SameTargets (s t : Impl) : Prop :=
  ∀ id, (lookup t.targets id).map unscheduled =
    (lookup s.targets id).map unscheduled

/-! ## Endings -/

/-- What belongs to the incarnation and to the store, and that the generation
in force is the one of the policy. -/
structure Stays (s t : Impl) : Prop where
  config : t.config = s.config
  isOpen : t.isOpen = s.isOpen
  epoch : t.epoch = s.epoch
  boot : t.boot = s.boot
  submitted : t.submitted = s.submitted
  stamp : s.policyGeneration = s.policy.generation →
    t.policyGeneration = t.policy.generation

/-- What every decision but a placement leaves alone. -/
structure Settles (s t : Impl) : Prop extends s.Stays t where
  recommendations : t.recommendations = s.recommendations
  authorizations : t.authorizations = s.authorizations
  watermarks : t.watermarks = s.watermarks
  nextRecommendation : t.nextRecommendation = s.nextRecommendation

/-- How a decision ends: the state it leaves and whether it is accepted. -/
inductive Ends (s : Impl) (op : Op) (answer : Status) : Impl → Bool → Prop where
  | refused {after : Impl} (counted : s.Counted after) :
      Ends s op answer after false
  | repeated {after : Impl} (counted : s.Counted after)
      (known : s.repeats op = true) : Ends s op answer after true
  | redeclared {target : TargetDescriptor} {existing : TargetState}
      (call : op = .declareTarget target answer)
      (found : lookup s.targets target.target = some existing)
      (known : s.repeats op = true) :
      Ends s op answer (s.setTarget target.target
        { existing with descriptor := target, declared := true }) true
  | placed {request : PlacementRequest} {after : Impl}
      (call : op = .place request answer)
      (executed : s.executes request = true)
      (commit : s.Committed request answer after) :
      Ends s op answer after true
  | committed {t : Impl} (stays : s.Settles t)
      (targets : op.retargets = false → s.SameTargets t)
      (change : s.SameState t ↔ s.Idle op) :
      Ends s op answer (t.persistLocked answer).1 (t.persistLocked answer).2.ok

variable {s : Impl} {answer : Status}

/-- The tables, their numbers and the accounting may change freely. -/
theorem Settles.tables {s : Impl} {flows : ExtTreeMap FlowId FlowDescriptor}
    {targets : ExtTreeMap TargetId TargetState}
    {assignments : ExtTreeMap FlowId Assignment}
    {holders : ExtTreeMap ExclusiveStateKeyId StateHolder}
    {migrations : ExtTreeMap MigrationAttemptId MigrationRecord}
    {contracts : ExtTreeMap MigrationContractId MigrationContract}
    {fences : ExtTreeMap FenceId FenceRecord}
    {requests : ExtTreeMap RequestId RequestRecord}
    {refusalCounts : ExtTreeMap ReasonCode UInt64} {counters : Counters}
    {scheduleGeneration : ScheduleGeneration}
    {topologyGeneration : TopologyGeneration}
    {nextAssignment nextAuthorization nextAttempt nextFence : UInt64}
    {recovery : RecoveryReport} :
    s.Settles { s with
      flows := flows
      targets := targets
      assignments := assignments
      holders := holders
      migrations := migrations
      contracts := contracts
      fences := fences
      requests := requests
      refusalCounts := refusalCounts
      counters := counters
      scheduleGeneration := scheduleGeneration
      topologyGeneration := topologyGeneration
      nextAssignment := nextAssignment
      nextAuthorization := nextAuthorization
      nextAttempt := nextAttempt
      nextFence := nextFence
      recovery := recovery } :=
  ⟨⟨rfl, rfl, rfl, rfl, rfl, id⟩, rfl, rfl, rfl, rfl⟩

theorem Settles.recomputeScheduledLocked {t : Impl} (h : s.Settles t) :
    s.Settles t.recomputeScheduledLocked :=
  ⟨⟨h.config, h.isOpen, h.epoch, h.boot, h.submitted, h.stamp⟩,
    h.recommendations, h.authorizations, h.watermarks, h.nextRecommendation⟩

theorem Counted.refl (s : Impl) : s.Counted s := ⟨_, _, rfl⟩

theorem persistThen_fst (t : Impl) (answer : Status) (outcome : ReasonCode) :
    (t.persistThen answer outcome).1 = (t.persistLocked answer).1 := by
  unfold persistThen
  split
  next t' persisted heq =>
    rw [heq]
    split <;> rfl

theorem ok_persistThen (t : Impl) (answer : Status) {outcome : ReasonCode}
    (h : outcome.isAcceptance = true) :
    (t.persistThen answer outcome).2.ok = (t.persistLocked answer).2.ok := by
  unfold persistThen
  split
  next t' persisted heq =>
    rw [heq]
    split
    · rfl
    next hok =>
      have hpersisted : persisted.ok = true := by
        simpa [Status.failed] using hok
      rw [hpersisted]
      exact h

theorem Ends.persistThen {op : Op} {t : Impl} {outcome : ReasonCode}
    (stays : s.Settles t) (houtcome : outcome.isAcceptance = true)
    (targets : op.retargets = false → s.SameTargets t)
    (change : s.SameState t ↔ s.Idle op) :
    s.Ends op answer (t.persistThen answer outcome).1
      (t.persistThen answer outcome).2.ok := by
  rw [persistThen_fst, ok_persistThen t answer houtcome]
  exact .committed stays targets change

/-- A change that shows in the state is not idle, when idling is not an
option of the operation. -/
theorem sameState_iff_of_ne {op : Op} {t : Impl} (hop : ¬ s.Idle op)
    (h : s.SameState t → False) : s.SameState t ↔ s.Idle op :=
  ⟨fun hsame => (h hsame).elim, fun hidle => (hop hidle).elim⟩

/-! ## Flows -/

theorem rejects_flowRefusal {flow : FlowDescriptor} {code : ReasonCode}
    (h : flowRefusal flow = some code) : code.isAcceptance = false := by
  unfold flowRefusal at h
  repeat' split at h
  all_goals cases h
  all_goals rfl

theorem stays_releaseAssignment (s : Impl) (flow : FlowId) :
    s.Settles (s.releaseAssignment flow) := by
  unfold releaseAssignment
  split <;> exact .tables

theorem flows_releaseAssignment (s : Impl) (flow : FlowId) :
    (s.releaseAssignment flow).flows = s.flows := by
  unfold releaseAssignment
  split <;> rfl

theorem sameTargets_releaseAssignment (s : Impl) (flow : FlowId) :
    s.SameTargets (s.releaseAssignment flow) := by
  unfold releaseAssignment
  split
  · exact unscheduled_recomputeScheduledLocked _
  · exact fun _ => rfl

theorem stays_supersedeFlow (s : Impl) (old flow : FlowDescriptor) :
    s.Settles (s.supersedeFlow old flow) := by
  have h := stays_releaseAssignment (s.releaseHolder old flow.flow) flow.flow
  unfold supersedeFlow
  dsimp only
  generalize Impl.releaseAssignment _ flow.flow = released at h ⊢
  exact ⟨⟨h.config, h.isOpen, h.epoch, h.boot, h.submitted, h.stamp⟩,
    h.recommendations, h.authorizations, h.watermarks, h.nextRecommendation⟩

theorem ends_registerFlow (s : Impl) (flow : FlowDescriptor)
    (answer : Status) :
    s.Ends (.registerFlow flow answer) answer
      (s.registerFlow flow answer).1 (s.registerFlow flow answer).2.ok := by
  unfold registerFlow
  split
  · exact .refused (.refl s)
  · split
    next code hcode =>
      rw [show (Status.refused code).ok = false from rejects_flowRefusal hcode]
      exact .refused (.refl s)
    · split
      next hnone =>
        split
        · exact .refused (.refl s)
        · refine .persistThen .tables rfl (fun _ _ => rfl) ?_
          refine sameState_iff_of_ne id fun hsame => ?_
          have hflow := congrArg (fun m => lookup m flow.flow) hsame.flows
          have hnone' : lookup s.flows flow.flow = none := hnone
          simp [hnone'] at hflow
      next old hold =>
        split
        next heq =>
          subst heq
          exact .repeated (.refl s) (by simpa [repeats] using hold)
        next hne =>
          split
          · exact .refused (.refl s)
          · split
            · exact .refused (.refl s)
            · refine .persistThen (stays_supersedeFlow s old flow) rfl
                (fun _ => sameTargets_releaseAssignment _ flow.flow) ?_
              refine sameState_iff_of_ne id fun hsame => hne ?_
              have hflow := congrArg (fun m => lookup m flow.flow) hsame.flows
              have hold' : lookup s.flows flow.flow = some old := hold
              simp only [supersedeFlow, lookup_insert, Function.update_self,
                hold', Option.some.injEq] at hflow
              exact hflow.symm

theorem stays_dropFlow (s : Impl) (old : FlowDescriptor) (flow : FlowId) :
    s.Settles (s.dropFlow old flow) := by
  have h := stays_releaseAssignment
    { s.releaseHolder old flow with
      flows := (s.releaseHolder old flow).flows.erase flow } flow
  unfold dropFlow
  dsimp only
  generalize Impl.releaseAssignment _ flow = released at h ⊢
  exact ⟨⟨h.config, h.isOpen, h.epoch, h.boot, h.submitted, h.stamp⟩,
    h.recommendations, h.authorizations, h.watermarks, h.nextRecommendation⟩

theorem lookup_dropFlow (s : Impl) (old : FlowDescriptor) (flow : FlowId) :
    lookup (s.dropFlow old flow).flows flow = none := by
  have hflows : (s.dropFlow old flow).flows = s.flows.erase flow :=
    flows_releaseAssignment _ flow
  rw [hflows, lookup_erase, Function.update_self]

theorem ends_removeFlow (s : Impl) (flow : FlowId)
    (generation : FlowGeneration) (answer : Status) :
    s.Ends (.removeFlow flow generation answer) answer
      (s.removeFlow flow generation answer).1
      (s.removeFlow flow generation answer).2.ok := by
  unfold removeFlow
  split
  · exact .refused (.refl s)
  · split
    · exact .refused (.refl s)
    next old hold =>
      split
      · exact .refused (.refl s)
      · refine .persistThen (stays_dropFlow s old flow) rfl
          (fun _ => sameTargets_releaseAssignment _ flow) ?_
        refine sameState_iff_of_ne id fun hsame => ?_
        have hflow := lookup_dropFlow s old flow
        rw [hsame.flows] at hflow
        have hold' : lookup s.flows flow = some old := hold
        rw [hold'] at hflow
        cases hflow

/-! ## Targets -/

theorem rejects_targetRefusal {target : TargetDescriptor} {code : ReasonCode}
    (h : s.targetRefusal target = some code) : code.isAcceptance = false := by
  unfold targetRefusal at h
  repeat' split at h
  all_goals cases h
  all_goals rfl

/-- A declaration that shows in the entry of its target. -/
theorem Ends.finishDeclaration {op : Op} {t : Impl}
    {target : TargetDescriptor} {outcome : ReasonCode} (stays : s.Settles t)
    (houtcome : outcome.isAcceptance = true)
    (hretargets : op.retargets = true) (hop : ¬ s.Idle op)
    (hne : (lookup t.targets target.target).map unscheduled ≠
      (lookup s.targets target.target).map unscheduled) :
    s.Ends op answer (t.finishDeclaration target answer outcome).1
      (t.finishDeclaration target answer outcome).2.ok := by
  unfold Impl.finishDeclaration
  dsimp only
  generalize hadvanced : (if t.topologyGeneration < target.topologyGeneration
    then t.invalidateOlder (fun id => id = target.target)
      target.topologyGeneration else t) = advanced
  have hstays : s.Settles advanced := by
    subst hadvanced
    split
    · exact ⟨⟨stays.config, stays.isOpen, stays.epoch, stays.boot,
        stays.submitted, stays.stamp⟩, stays.recommendations,
        stays.authorizations, stays.watermarks,
        stays.nextRecommendation⟩
    · exact stays
  have hlookup : lookup advanced.targets target.target =
      lookup t.targets target.target := by
    subst hadvanced
    split
    · simp [invalidateOlder]
    · rfl
  refine .persistThen hstays.recomputeScheduledLocked houtcome
    (fun h => absurd (hretargets.symm.trans h) (by decide)) ?_
  refine sameState_iff_of_ne hop fun hsame => hne ?_
  rw [← hlookup, ← unscheduled_recomputeScheduledLocked advanced,
    hsame.targets]

theorem ends_declareTarget (s : Impl) (target : TargetDescriptor)
    (answer : Status) :
    s.Ends (.declareTarget target answer) answer
      (s.declareTarget target answer).1
      (s.declareTarget target answer).2.ok := by
  unfold declareTarget
  split
  · exact .refused (.refl s)
  · split
    next code hcode =>
      rw [show (Status.refused code).ok = false from
        rejects_targetRefusal hcode]
      exact .refused (.refl s)
    · split
      next hnone =>
        split
        · exact .refused (.refl s)
        · refine .finishDeclaration .tables rfl rfl id ?_
          have hnone' : lookup s.targets target.target = none := hnone
          simp [setTarget, hnone']
      next existing hexisting =>
        have hfound : lookup s.targets target.target = some existing :=
          hexisting
        dsimp only
        split
        · exact .refused (.refl s)
        · split
          · split
            · exact .refused (.refl s)
            · split
              · split
                · exact .refused (.refl s)
                next hidentity =>
                  split
                  next hunchanged =>
                    refine .redeclared rfl hfound ?_
                    simp_all [repeats]
                  next hchanged =>
                    refine .finishDeclaration .tables rfl rfl id ?_
                    intro hsame
                    simp only [setTarget, lookup_insert, Function.update_self,
                      hfound, Option.map_some, unscheduled,
                      Option.some.injEq, TargetState.mk.injEq] at hsame
                    simp [← hsame.1, ← hsame.2.1] at hchanged
              next hcapability =>
                refine .finishDeclaration .tables rfl rfl id ?_
                intro hsame
                simp only [advanceCapability, setTarget, demoteEffects,
                  lookup_insert, Function.update_self, hfound,
                  Option.map_some, unscheduled, Option.some.injEq,
                  TargetState.mk.injEq] at hsame
                exact hcapability (by rw [hsame.1])
          next hincarnation =>
            refine .finishDeclaration .tables rfl rfl id ?_
            intro hsame
            simp only [advanceIncarnation, setTarget, lookup_insert,
              mapHolders, abortAttempts, demoteEffects,
              Function.update_self, hfound, Option.map_some, unscheduled,
              Option.some.injEq, TargetState.mk.injEq] at hsame
            exact hincarnation (by rw [hsame.1])

/-- The entry that a retired target is left with. -/
def retiredEntry (existing : TargetState) : TargetState :=
  { existing with
    declared := true
    descriptor.lifecycle := .removed
    hasLoad := false
    conflicting := false }

/-- The retirement of a target, up to the accounting and the last refresh. -/
structure Withdraws (s : Impl) (target : TargetId) (existing : TargetState)
    (instant : Timestamp) (t : Impl) : Prop where
  targets : t.targets = s.targets.insert target (retiredEntry existing)
  flows : t.flows = s.flows
  assignments : t.assignments = s.assignments.map fun _ a =>
    if a.target = target then { a with effect := .unknown } else a
  migrations : t.migrations = s.migrations.map fun _ record =>
    endAttempt (touchesTarget target) .aborted .rejectedTargetRemoved record
  holders : t.holders = s.holders.map fun _ holder =>
    clearPending (fun attempt => s.migrations.toList.any fun entry =>
      entry.2.inFlight && touchesTarget target entry.2 &&
        entry.2.intent.attempt = attempt) holder
  fences : t.fences = (s.issueFenceLocked {} target .rejectedTargetRemoved
    instant).1.fences
  contracts : t.contracts = s.contracts
  policy : t.policy = s.policy
  policyPresent : t.policyPresent = s.policyPresent
  policyGeneration : t.policyGeneration = s.policyGeneration
  scheduleGeneration : t.scheduleGeneration = s.scheduleGeneration
  topologyGeneration : t.topologyGeneration = s.topologyGeneration

theorem withdraws_retireTarget (s : Impl) (target : TargetId)
    (existing : TargetState) (instant : Timestamp) :
    ∃ t, s.retireTarget target existing instant = t.recomputeScheduledLocked ∧
      s.Settles t ∧ s.Withdraws target existing instant t := by
  unfold retireTarget
  dsimp only
  refine ⟨_, rfl, ?_, ?_⟩
  · refine ⟨⟨?_, ?_, ?_, ?_, ?_, ?_⟩, ?_, ?_, ?_, ?_⟩ <;> simp only
      [issueFenceLocked, mapHolders, abortAttempts, demoteEffects, setTarget,
        imp_self]
  · constructor <;> simp only [issueFenceLocked, mapHolders, abortAttempts,
      demoteEffects, setTarget, retiredEntry]

theorem endAttempt_eq_self_iff {ends : MigrationRecord → Bool}
    {reason : ReasonCode} {record : MigrationRecord} :
    endAttempt ends .aborted reason record = record ↔
      (ends record = true → record.inFlight = false) := by
  unfold endAttempt
  split
  next hends =>
    rw [Bool.and_eq_true] at hends
    refine iff_of_false (fun heq => ?_) (fun h => ?_)
    · have hphase : record.intent.phase = .aborted := by rw [← heq]
      rw [MigrationRecord.inFlight_iff] at hends
      exact hends.1.2.1 hphase
    · rw [h hends.2] at hends
      cases hends.1
  next hends =>
    refine iff_of_true rfl fun hrecord => ?_
    simpa [hrecord] using hends

/-- The refresh reads flows, assignments and targets. -/
theorem recomputeScheduledLocked_congr {s t : Impl} (hflows : t.flows = s.flows)
    (hassignments : t.assignments = s.assignments)
    (htargets : t.targets = s.targets) :
    t.recomputeScheduledLocked.targets = s.recomputeScheduledLocked.targets := by
  simp only [recomputeScheduledLocked, hflows, hassignments, htargets]

theorem eq_retiredEntry_iff {existing : TargetState} :
    retiredEntry existing = existing ↔
      existing.descriptor.lifecycle = .removed ∧ existing.declared = true ∧
        existing.hasLoad = false ∧ existing.conflicting = false := by
  constructor
  · intro h
    rw [← h]
    exact ⟨rfl, rfl, rfl, rfl⟩
  · rintro ⟨hlifecycle, hdeclared, hload, hconflicting⟩
    obtain ⟨descriptor, _, _, _, _, _, _⟩ := existing
    cases descriptor
    simp_all [retiredEntry]

theorem demoted_eq_self_iff {target : TargetId} {a : Assignment} :
    (if a.target = target then { a with effect := .unknown } else a) = a ↔
      (a.target = target → a.effect = .unknown) := by
  split
  next htarget =>
    constructor
    · intro heq _
      rw [← heq]
    · intro h
      rw [← h htarget]
  next hne => exact iff_of_true rfl fun h => absurd h hne

theorem Withdraws.sameState {target : TargetId} {existing : TargetState}
    {instant : Timestamp} {t : Impl}
    (hfound : lookup s.targets target = some existing)
    (h : s.Withdraws target existing instant t)
    (hretired : s.Retired target existing)
    (hfence : s.DropsFence {} target .rejectedTargetRemoved instant) :
    s.SameState t.recomputeScheduledLocked := by
  have htargets : t.targets = s.targets := by
    rw [h.targets, eq_retiredEntry_iff.mpr ⟨hretired.lifecycle,
      hretired.declared, hretired.hasLoad, hretired.conflicting⟩]
    exact insert_eq_self hfound
  have hassignments : t.assignments = s.assignments := by
    rw [h.assignments]
    exact map_eq_self_iff.mpr fun k a ha =>
      demoted_eq_self_iff.mpr (hretired.effects k a ha)
  have hmigrations : t.migrations = s.migrations := by
    rw [h.migrations]
    exact map_eq_self_iff.mpr fun k record hrecord =>
      endAttempt_eq_self_iff.mpr (hretired.attempts k record hrecord)
  have hholders : t.holders = s.holders := by
    rw [h.holders]
    refine map_eq_self_iff.mpr fun key holder _ => ?_
    unfold clearPending
    rw [if_neg]
    simp only [List.any_eq_true, Bool.and_eq_true, not_exists, not_and]
    intro entry hentry hended
    have hidle := hretired.attempts entry.1 entry.2
      (lookup_eq_some_iff_mem_toList.mpr hentry) hended.2
    rw [hidle] at hended
    cases hended.1
  exact
    { flows := h.flows
      targets := (recomputeScheduledLocked_congr h.flows hassignments
        htargets).trans hretired.scheduled
      assignments := hassignments
      holders := hholders
      migrations := hmigrations
      contracts := h.contracts
      fences := h.fences.trans hfence
      policy := h.policy
      policyPresent := h.policyPresent
      policyGeneration := h.policyGeneration
      scheduleGeneration := h.scheduleGeneration
      topologyGeneration := h.topologyGeneration }

theorem Withdraws.retired {target : TargetId} {existing : TargetState}
    {instant : Timestamp} {t : Impl}
    (hfound : lookup s.targets target = some existing)
    (h : s.Withdraws target existing instant t)
    (hsame : s.SameState t.recomputeScheduledLocked) :
    s.Retired target existing ∧
      s.DropsFence {} target .rejectedTargetRemoved instant := by
  have hentry : retiredEntry existing = existing := by
    have hunscheduled := unscheduled_recomputeScheduledLocked t target
    rw [hsame.targets, hfound, h.targets, lookup_insert,
      Function.update_self, Option.map_some, Option.map_some,
      Option.some.injEq] at hunscheduled
    have hfields := TargetState.mk.inj hunscheduled
    rw [eq_retiredEntry_iff]
    exact ⟨congrArg TargetDescriptor.lifecycle hfields.1, hfields.2.1,
      hfields.2.2.1, hfields.2.2.2.2.1⟩
  obtain ⟨hlifecycle, hdeclared, hload, hconflicting⟩ :=
    eq_retiredEntry_iff.mp hentry
  have htargets : t.targets = s.targets := by
    rw [h.targets, hentry]
    exact insert_eq_self hfound
  have hassignments : t.assignments = s.assignments := hsame.assignments
  have hmigrations : t.migrations = s.migrations := hsame.migrations
  refine ⟨⟨hlifecycle, hdeclared, hload, hconflicting, ?_, ?_, ?_⟩, ?_⟩
  · intro flow a ha
    rw [h.assignments] at hassignments
    exact demoted_eq_self_iff.mp (map_eq_self_iff.mp hassignments flow a ha)
  · intro k record hrecord
    rw [h.migrations] at hmigrations
    exact endAttempt_eq_self_iff.mp
      (map_eq_self_iff.mp hmigrations k record hrecord)
  · exact (recomputeScheduledLocked_congr h.flows hassignments
      htargets).symm.trans hsame.targets
  · exact h.fences.symm.trans hsame.fences

theorem ends_removeTarget (s : Impl) (target : TargetId)
    (incarnation : TargetIncarnation) (instant : Timestamp)
    (answer : Status) :
    s.Ends (.removeTarget target incarnation instant answer) answer
      (s.removeTarget target incarnation instant answer).1
      (s.removeTarget target incarnation instant answer).2.ok := by
  unfold removeTarget
  split
  · exact .refused (.refl s)
  · split
    · exact .refused (.refl s)
    next existing hexisting =>
      have hfound : lookup s.targets target = some existing := hexisting
      split
      · exact .refused (.refl s)
      · obtain ⟨t, heq, hstays, hwithdraws⟩ :=
          withdraws_retireTarget s target existing instant
        rw [heq]
        refine .persistThen hstays.recomputeScheduledLocked rfl
          (fun h => nomatch h) ⟨?_, ?_⟩
        · exact fun hsame => ⟨existing, hfound,
            hwithdraws.retired hfound hsame⟩
        · rintro ⟨found, hsame, hretired, hfence⟩
          have heq : some found = some existing := hsame.symm.trans hfound
          cases heq
          exact hwithdraws.sameState hfound hretired hfence

/-! ## Policy, topology and contracts -/

theorem rejects_policyInputRefusal {policy : Policy} {code : ReasonCode}
    (h : policyInputRefusal policy = some code) :
    code.isAcceptance = false := by
  unfold policyInputRefusal at h
  repeat' split at h
  all_goals cases h
  all_goals rfl

theorem ends_setPolicy (s : Impl) (policy : Policy) (answer : Status) :
    s.Ends (.setPolicy policy answer) answer (s.setPolicy policy answer).1
      (s.setPolicy policy answer).2.ok := by
  unfold setPolicy
  split
  · exact .refused (.refl s)
  · split
    next code hcode =>
      rw [show (Status.refused code).ok = false from
        rejects_policyInputRefusal hcode]
      exact .refused (.refl s)
    · dsimp only
      split
      · exact .refused (.refl s)
      next hstale =>
        split
        next hgeneration =>
          split
          next heq =>
            refine .repeated (.refl s) ?_
            simp_all [repeats]
          · exact .refused (.refl s)
        next hgeneration =>
          refine .persistThen ⟨⟨rfl, rfl, rfl, rfl, rfl, fun _ => rfl⟩, rfl,
            rfl, rfl, rfl⟩ rfl (fun _ _ => rfl) ?_
          refine sameState_iff_of_ne id fun hsame => hgeneration ?_
          have hpresent : true = s.policyPresent := hsame.policyPresent
          have hsame' : (canonicalize policy).generation =
            s.policyGeneration := hsame.policyGeneration
          simp [← hpresent, hsame']

theorem ends_setTopologyGeneration (s : Impl)
    (generation : TopologyGeneration) (answer : Status) :
    s.Ends (.setTopologyGeneration generation answer) answer
      (s.setTopologyGeneration generation answer).1
      (s.setTopologyGeneration generation answer).2.ok := by
  unfold setTopologyGeneration
  split
  · exact .refused (.refl s)
  · split
    · exact .refused (.refl s)
    · split
      · exact .refused (.refl s)
      · split
        next heq => exact .repeated (.refl s) (by simpa [repeats] using heq)
        next hne =>
          refine .persistThen .tables rfl (fun h => nomatch h) ?_
          exact sameState_iff_of_ne id fun hsame =>
            hne hsame.topologyGeneration

theorem ends_registerMigrationContract (s : Impl)
    (contract : MigrationContract) (answer : Status) :
    s.Ends (.registerMigrationContract contract answer) answer
      (s.registerMigrationContract contract answer).1
      (s.registerMigrationContract contract answer).2.ok := by
  unfold registerMigrationContract
  split
  · exact .refused (.refl s)
  · split
    · exact .refused (.refl s)
    · split
      next existing hexisting =>
        split
        next heq =>
          subst heq
          exact .repeated (.refl s) (by simpa [repeats] using hexisting)
        · exact .refused (.refl s)
      next hnone =>
        split
        · exact .refused (.refl s)
        · refine .persistThen .tables rfl (fun _ _ => rfl) ?_
          refine sameState_iff_of_ne id fun hsame => ?_
          have hcontract := congrArg (fun m => lookup m contract.id)
            hsame.contracts
          have hnone' : lookup s.contracts contract.id = none := hnone
          simp [hnone'] at hcontract

/-! ## Placement -/

/-- A request that was executed is accepted, whatever the store answered. -/
theorem ends_executeRequest {request : PlacementRequest}
    {result : PlacementResult} (hwet : request.dryRun = false)
    (hexecutes : s.executes request = true)
    (hresult : result.accepted = false) :
    s.Ends (.place request answer) answer
      (s.executeRequest request (itemsOf request) result answer).1
      (s.executeRequest request (itemsOf request) result
        answer).2.accepted := by
  unfold executeRequest
  dsimp only
  rw [← planOf]
  simp only [hwet, Bool.not_false, Bool.and_true, Bool.false_eq_true, if_false]
  cases hchange : (s.planOf request).anyChange with
  | true =>
      simp only [Bool.true_and, if_true]
      split
      · simp only [refuseRequest, hresult]
        exact .refused ⟨_, _, rfl⟩
      · refine .placed rfl hexecutes ?_
        simp only [Committed, scheduledFor, hchange, if_true]
        exact ⟨_, _, rfl⟩
  | false =>
      simp only [Bool.false_and, Bool.false_eq_true, if_false]
      refine .placed rfl hexecutes ?_
      simp only [Committed, scheduledFor, hchange, Bool.false_eq_true,
        if_false]
      exact ⟨_, _, rfl⟩

theorem ends_placeLocked (s : Impl) (request : PlacementRequest)
    (answer : Status) (hwet : request.dryRun = false) :
    s.Ends (.place request answer) answer (s.placeLocked request answer).1
      (s.placeLocked request answer).2.accepted := by
  unfold placeLocked
  dsimp only
  split
  · exact .refused (.refl s)
  next hopen =>
    split
    · exact .refused ⟨_, _, rfl⟩
    next hrefusal =>
      split
      next record hrecord =>
        split
        · exact .refused ⟨_, _, rfl⟩
        next hdigest =>
          refine .repeated ⟨_, _, rfl⟩ ?_
          simpa [repeats, hrecord] using hdigest
      next hrecord =>
        split
        · exact .refused ⟨_, _, rfl⟩
        next hconflict =>
          have hexecutes : s.executes request = true := by
            simp_all [executes]
          exact ends_executeRequest hwet hexecutes rfl

end Impl

end FlowOffload

import FlowOffload.Engine.Incarnation
import FlowOffload.Foundation.Numbering
import FlowOffload.Laws.Accounting
import FlowOffload.Ledger.Fences

/-!
# Identities as numbers

Assignments, attempts and fences take their identities from three counters.
Each table with its counter is a register, and every operation of a running
engine gives numbers out in order or lets go of some.
-/

namespace FlowOffload

open Foundation
open Std (ExtTreeMap)

/-- The value at which an identity counter stops. -/
def counterLimit : Nat := 2 ^ 64 - 1

theorem toNat_increment_eq_succ (value : UInt64) :
    (saturatingIncrement value).toNat =
      Register.succ counterLimit value.toNat := by
  unfold saturatingIncrement Register.succ
  by_cases hfull : value = 0xFFFFFFFFFFFFFFFF
  · subst hfull
    rfl
  · have hne : value.toNat ≠ counterLimit := by
      intro heq
      exact hfull (UInt64.toNat_inj.mp heq)
    have hlt := value.toNat_lt
    have hmax : value.toNat < 2 ^ 64 - 1 := by
      have : counterLimit = 2 ^ 64 - 1 := rfl
      omega
    rw [if_neg hfull, if_neg hne, UInt64.toNat_add]
    exact Nat.mod_eq_of_lt (by change value.toNat + 1 < 2 ^ 64; omega)

namespace Impl

variable {s t : Impl} {op : Op}

def assignmentNumber (_ : FlowId) (assignment : Assignment) : Nat :=
  assignment.assignment.value.toNat

def attemptNumber (attempt : MigrationAttemptId) (_ : MigrationRecord) : Nat :=
  attempt.value.toNat

def fenceNumber (fence : FenceId) (_ : FenceRecord) : Nat :=
  fence.value.toNat

def assignmentRegister (s : Impl) : Register FlowId :=
  .of assignmentNumber s.assignments s.nextAssignment.toNat

def attemptRegister (s : Impl) : Register MigrationAttemptId :=
  .of attemptNumber s.migrations s.nextAttempt.toNat

def fenceRegister (s : Impl) : Register FenceId :=
  .of fenceNumber s.fences s.nextFence.toNat

/-! ## Attempts and fences -/

theorem gives_posts {b after : Books} (h : b.Posts after) :
    Register.Gives counterLimit
      (.of attemptNumber b.attempts b.nextAttempt.toNat)
      (.of attemptNumber after.attempts after.nextAttempt.toNat) := by
  have hwrite : ∀ {k : MigrationAttemptId} {record after : MigrationRecord},
      lookup b.attempts k = some record →
      Register.Gives counterLimit
        (.of attemptNumber b.attempts b.nextAttempt.toNat)
        (.of attemptNumber (b.attempts.insert k after)
          b.nextAttempt.toNat) := by
    intro k record after hfound
    refine Register.gives_sub _ fun other v hv => ?_
    by_cases hother : other = k
    · subst hother
      exact ⟨record, hfound, rfl⟩
    · rw [lookup_insert, Function.update_of_ne hother] at hv
      exact ⟨v, hv, rfl⟩
  have hends : ∀ (ends : MigrationRecord → Bool) (phase : MigrationPhase)
      (reason : ReasonCode), Register.Gives counterLimit
        (.of attemptNumber b.attempts b.nextAttempt.toNat)
        (.of attemptNumber (b.endAttempts ends phase reason)
          b.nextAttempt.toNat) := by
    intro ends phase reason
    refine Register.gives_sub _ fun k v hv => ?_
    rw [Books.endAttempts, lookup_map, Option.map_eq_some_iff] at hv
    obtain ⟨old, hold, -⟩ := hv
    exact ⟨old, hold, rfl⟩
  cases h with
  | refused codes =>
      have hsame : ∀ b : Books,
          (codes.foldl Books.refuse b).attempts = b.attempts ∧
            (codes.foldl Books.refuse b).nextAttempt = b.nextAttempt := by
        induction codes with
        | nil => exact fun _ => ⟨rfl, rfl⟩
        | cons code codes ih => exact fun b => ih (b.refuse code)
      rw [(hsame b).1, (hsame b).2]
      exact .refl _
  | fenced ends reason => exact hends ends .fenced reason
  | aborted ends reason => exact hends ends .aborted reason
  | issued attempt phase =>
      change Register.Gives counterLimit _ (.of attemptNumber
        (b.attempts.insertIfNew _ _) (saturatingIncrement b.nextAttempt).toNat)
      rw [toNat_increment_eq_succ]
      exact Register.gives_insertIfNew rfl
  | advanced found => exact hwrite found
  | declined found => exact hwrite found
  | completed found => exact hwrite found

theorem gives_issue (b : FenceTable) (record : FenceRecord)
    (evictions : UInt64) :
    Register.Gives counterLimit (.of fenceNumber b.fences b.next.toNat)
      (.of fenceNumber (b.issue record evictions).fences
        (b.issue record evictions).next.toNat) := by
  have hinserted : Register.Gives counterLimit
      (.of fenceNumber b.fences b.next.toNat)
      (.of fenceNumber (b.fences.insertIfNew ⟨b.next⟩ record)
        (saturatingIncrement b.next).toNat) := by
    rw [toNat_increment_eq_succ]
    exact Register.gives_insertIfNew rfl
  refine hinserted.trans (Register.gives_sub _ fun k v hv => ?_)
  exact ⟨v, lookup_of_evictFences hv, rfl⟩

theorem gives_turns {b after : FenceTable} {issues : Prop}
    (h : b.Turns issues after) :
    Register.Gives counterLimit (.of fenceNumber b.fences b.next.toNat)
      (.of fenceNumber after.fences after.next.toNat) := by
  cases h with
  | same => exact .refl _
  | issued allowed record evictions id =>
      exact gives_issue b record evictions
  | released fence reason =>
      refine Register.gives_sub _ fun k v hv => ?_
      rw [FenceTable.release, lookup_modify] at hv
      by_cases hk : k = fence
      · subst hk
        rw [Function.update_self, Option.map_eq_some_iff] at hv
        obtain ⟨old, hold, -⟩ := hv
        exact ⟨old, hold, rfl⟩
      · rw [Function.update_of_ne hk] at hv
        exact ⟨v, hv, rfl⟩

/-! ## Assignments -/

@[simp] theorem nextAssignment_persistLocked (s : Impl) (answer : Status) :
    (s.persistLocked answer).1.nextAssignment = s.nextAssignment := by
  obtain ⟨counters, submitted, heq⟩ := persistLocked_fst s answer
  rw [heq]

@[simp] theorem nextAssignment_persistThen (s : Impl) (answer : Status)
    (outcome : ReasonCode) :
    (s.persistThen answer outcome).1.nextAssignment = s.nextAssignment := by
  rw [persistThen_fst, nextAssignment_persistLocked]

theorem nextAssignment_releaseAssignment (s : Impl) (flow : FlowId) :
    (s.releaseAssignment flow).nextAssignment = s.nextAssignment := by
  unfold releaseAssignment
  split <;> rfl

@[simp] theorem nextAssignment_supersedeFlow (s : Impl)
    (old flow : FlowDescriptor) :
    (s.supersedeFlow old flow).nextAssignment = s.nextAssignment :=
  nextAssignment_releaseAssignment (s.releaseHolder old flow.flow) flow.flow

@[simp] theorem nextAssignment_dropFlow (s : Impl) (old : FlowDescriptor)
    (flow : FlowId) : (s.dropFlow old flow).nextAssignment = s.nextAssignment :=
  nextAssignment_releaseAssignment
    { s.releaseHolder old flow with
      flows := (s.releaseHolder old flow).flows.erase flow } flow

theorem nextAssignment_registerFlow (s : Impl) (flow : FlowDescriptor)
    (answer : Status) :
    (s.registerFlow flow answer).1.nextAssignment = s.nextAssignment := by
  unfold registerFlow
  repeat' split
  all_goals simp only [nextAssignment_persistThen, nextAssignment_supersedeFlow]

theorem nextAssignment_removeFlow (s : Impl) (flow : FlowId)
    (generation : FlowGeneration) (answer : Status) :
    (s.removeFlow flow generation answer).1.nextAssignment =
      s.nextAssignment := by
  unfold removeFlow
  repeat' split
  all_goals simp only [nextAssignment_persistThen, nextAssignment_dropFlow]

theorem nextAssignment_finishDeclaration (s : Impl) (target : TargetDescriptor)
    (answer : Status) (outcome : ReasonCode) :
    (s.finishDeclaration target answer outcome).1.nextAssignment =
      s.nextAssignment := by
  unfold finishDeclaration
  dsimp only
  rw [nextAssignment_persistThen]
  split <;> rfl

theorem nextAssignment_declareTarget (s : Impl) (target : TargetDescriptor)
    (answer : Status) :
    (s.declareTarget target answer).1.nextAssignment = s.nextAssignment := by
  unfold declareTarget
  dsimp only
  repeat' split
  all_goals simp only [nextAssignment_finishDeclaration]
  all_goals rfl

theorem nextAssignment_retireTarget (s : Impl) (target : TargetId)
    (existing : TargetState) (instant : Timestamp) :
    (s.retireTarget target existing instant).nextAssignment =
      s.nextAssignment := by
  simp only [retireTarget, recomputeScheduledLocked, issueFenceLocked,
    mapHolders, abortAttempts, demoteEffects, setTarget]

theorem nextAssignment_removeTarget (s : Impl) (target : TargetId)
    (incarnation : TargetIncarnation) (instant : Timestamp)
    (answer : Status) :
    (s.removeTarget target incarnation instant answer).1.nextAssignment =
      s.nextAssignment := by
  unfold removeTarget
  repeat' split
  all_goals simp only [nextAssignment_persistThen, nextAssignment_retireTarget]

theorem nextAssignment_ingestLoad (s : Impl) (evidence : LoadEvidence) :
    (s.ingestLoad evidence).1.nextAssignment = s.nextAssignment := by
  rcases ingestLoad_cases s evidence with ⟨_, _, heq⟩ | ⟨_, -, -, -, heq⟩
  · rw [heq]
  · rw [heq]
    rfl

theorem nextAssignment_setPolicy (s : Impl) (policy : Policy)
    (answer : Status) :
    (s.setPolicy policy answer).1.nextAssignment = s.nextAssignment := by
  unfold setPolicy
  dsimp only
  repeat' split
  all_goals simp only [nextAssignment_persistThen]
  rfl

theorem nextAssignment_setTopologyGeneration (s : Impl)
    (generation : TopologyGeneration) (answer : Status) :
    (s.setTopologyGeneration generation answer).1.nextAssignment =
      s.nextAssignment := by
  unfold setTopologyGeneration
  repeat' split
  all_goals simp only [nextAssignment_persistThen]
  rfl

theorem nextAssignment_registerMigrationContract (s : Impl)
    (contract : MigrationContract) (answer : Status) :
    (s.registerMigrationContract contract answer).1.nextAssignment =
      s.nextAssignment := by
  unfold registerMigrationContract
  repeat' split
  all_goals simp only [nextAssignment_persistThen]

theorem nextAssignment_rebalanceLocked (s : Impl) (request : RebalanceRequest)
    (answer : Status) :
    (s.rebalanceLocked request answer).1.nextAssignment =
      s.nextAssignment := by
  obtain ⟨_, _, heq⟩ := rebalanceLocked_eq s request answer
  rw [heq]

theorem nextAssignment_authorize (s : Impl)
    (recommendation : RecommendationId) (instant : Timestamp) :
    (s.authorize recommendation instant).1.nextAssignment =
      s.nextAssignment := by
  unfold authorize
  repeat' split
  all_goals rfl

theorem nextAssignment_revokeAuthorization (s : Impl)
    (authorization : AuthorizationId) :
    (s.revokeAuthorization authorization).1.nextAssignment =
      s.nextAssignment := by
  unfold revokeAuthorization
  repeat' split
  all_goals rfl

theorem nextAssignment_openAttempt (s : Impl) (stored : Authorization)
    (descriptor : FlowDescriptor) (source : Assignment)
    (wanted : MigrationIntent) (contract : MigrationContractId) :
    (s.openAttempt stored descriptor source wanted contract).1.nextAssignment =
      s.nextAssignment := by
  unfold openAttempt
  dsimp only
  split <;> rfl

theorem nextAssignment_issueIntent (s : Impl) (authorization : AuthorizationId)
    (wanted : MigrationIntent) (answer : Status) :
    (s.issueIntent authorization wanted answer).1.nextAssignment =
      s.nextAssignment := by
  unfold issueIntent
  repeat' split
  all_goals simp only [nextAssignment_persistThen, nextAssignment_openAttempt]

theorem nextAssignment_persistedAbort (s : Impl) (answer : Status) :
    (s.persistedAbort answer).1.nextAssignment = s.nextAssignment := by
  unfold persistedAbort
  split
  next t persisted heq =>
    have hnext := nextAssignment_persistLocked s answer
    rw [heq] at hnext
    split <;> exact hnext

theorem nextAssignment_acceptAcknowledgement (s : Impl)
    (record : MigrationRecord) (isSource : Bool)
    (ack : MigrationAcknowledgement) (answer : Status) :
    (s.acceptAcknowledgement record isSource ack answer).1.nextAssignment =
      s.nextAssignment := by
  unfold acceptAcknowledgement
  dsimp only
  split
  · rw [nextAssignment_persistedAbort]
    rfl
  · rw [nextAssignment_persistThen]
    rfl

theorem nextAssignment_acknowledge (s : Impl) (ack : MigrationAcknowledgement)
    (answer : Status) :
    (s.acknowledge ack answer).1.nextAssignment = s.nextAssignment := by
  unfold acknowledge
  dsimp only
  repeat' split
  all_goals first
    | exact nextAssignment_acceptAcknowledgement s _ _ _ _
    | rfl

theorem nextAssignment_reportApplied (s : Impl) (effect : AppliedEffect)
    (answer : Status) :
    (s.reportApplied effect answer).1.nextAssignment = s.nextAssignment := by
  unfold reportApplied
  repeat' split
  all_goals first
    | rw [nextAssignment_persistThen]; rfl
    | rfl

theorem nextAssignment_abortMigration (s : Impl) (attempt : MigrationAttemptId)
    (reason : ReasonCode) (answer : Status) :
    (s.abortMigration attempt reason answer).1.nextAssignment =
      s.nextAssignment := by
  unfold abortMigration
  repeat' split
  all_goals simp only [nextAssignment_persistThen]
  rfl

theorem nextAssignment_shutdown (s : Impl) (answer : Status) :
    (s.shutdown answer).nextAssignment = s.nextAssignment := by
  obtain ⟨counters, submitted, heq⟩ := persistLocked_fst s answer
  unfold shutdown
  split
  · rw [heq]
  · rfl

/-! ## Assignments that are given out -/

theorem holdState_frame (s : Impl) (flow : FlowId) (holder : StateHolder) :
    (s.holdState flow holder).assignmentRegister = s.assignmentRegister := by
  unfold holdState
  repeat' split
  all_goals rfl

theorem gives_commitAssignment (s : Impl) (request : PlacementRequest)
    (published : ScheduleGeneration) (pending : PendingCommit) :
    Register.Gives counterLimit s.assignmentRegister
      (s.commitAssignment request published pending).1.assignmentRegister := by
  unfold commitAssignment
  split
  · exact .refl _
  · dsimp only
    rw [holdState_frame]
    change Register.Gives counterLimit _ (.of assignmentNumber
      (s.assignments.insert _ _) (saturatingIncrement s.nextAssignment).toNat)
    rw [toNat_increment_eq_succ]
    exact Register.gives_insert rfl

theorem gives_foldl_commitPending (request : PlacementRequest)
    (published : ScheduleGeneration) (commits : List PendingCommit)
    (state : Impl × List FlowPlacement) :
    Register.Gives counterLimit state.1.assignmentRegister
      (commits.foldl (commitPending request published)
        state).1.assignmentRegister := by
  induction commits generalizing state with
  | nil => exact .refl _
  | cons pending commits ih =>
      have hfirst : Register.Gives counterLimit state.1.assignmentRegister
          (commitPending request published state pending).1.assignmentRegister
          := gives_commitAssignment
            { state.1 with nextRecommendation :=
                saturatingIncrement state.1.nextRecommendation }
            request published pending
      exact hfirst.trans (ih _)

theorem assignmentRegister_recordRequest (s : Impl)
    (request : PlacementRequest) (result : PlacementResult)
    (answer : Status) :
    (s.recordRequest request result answer).assignmentRegister =
      s.assignmentRegister := by
  have hpersisted : ∀ u : Impl, (u.evictHistoryLocked.persistLocked
      answer).1.assignmentRegister = u.assignmentRegister := by
    intro u
    obtain ⟨counters, submitted, heq⟩ :=
      persistLocked_fst u.evictHistoryLocked answer
    rw [heq]
    rfl
  exact hpersisted _

theorem gives_placeLocked (s : Impl) (request : PlacementRequest)
    (answer : Status) :
    Register.Gives counterLimit s.assignmentRegister
      (s.placeLocked request answer).1.assignmentRegister := by
  rcases placeLocked_cases s request answer with
    ⟨counters, refusalCounts, heq⟩ | ⟨-, published, result, heq⟩
  · rw [heq]
    exact .refl _
  · have hscheduled : (s.scheduledFor request published).assignmentRegister =
        s.assignmentRegister := by
      unfold scheduledFor
      split <;> rfl
    rw [heq, assignmentRegister_recordRequest, ← hscheduled]
    exact gives_foldl_commitPending request published
      (s.planOf request).commits
      (s.scheduledFor request published, (s.planOf request).placements)

theorem gives_moveAssignment (s : Impl) (intent : MigrationIntent)
    (observation : EffectObservation) :
    Register.Gives counterLimit s.assignmentRegister
      (s.moveAssignment intent observation).assignmentRegister := by
  unfold moveAssignment
  dsimp only
  split
  · exact .refl _
  next previous hprevious =>
    rw [holdState_frame]
    change Register.Gives counterLimit _ (.of assignmentNumber
      (s.assignments.insert _ _) (saturatingIncrement s.nextAssignment).toNat)
    rw [toNat_increment_eq_succ]
    exact Register.gives_insert rfl

theorem assignmentRegister_persistThen (s : Impl) (answer : Status)
    (outcome : ReasonCode) :
    (s.persistThen answer outcome).1.assignmentRegister =
      s.assignmentRegister := by
  obtain ⟨counters, submitted, heq⟩ := persistLocked_fst s answer
  rw [persistThen_fst, heq]
  rfl

theorem gives_observe (s : Impl) (observation : EffectObservation)
    (answer : Status) :
    Register.Gives counterLimit s.assignmentRegister
      (s.observe observation answer).1.assignmentRegister := by
  have hcompleted : ∀ (attempt : MigrationAttemptId)
      (record : MigrationRecord), Register.Gives counterLimit
        s.assignmentRegister
        (s.completeAttempt attempt record observation).assignmentRegister :=
    fun attempt record => gives_moveAssignment
      (s.setAttempt attempt (completedRecord record observation))
      record.intent observation
  unfold observe
  dsimp only
  repeat' split
  all_goals first
    | rw [assignmentRegister_persistThen]; exact hcompleted _ _
    | exact .refl _

/-- The operations that make assignments. -/
def assigns : Op → Bool
  | .place _ _ | .observe _ _ => true
  | _ => false

/-- What the other operations leave of the assignments keeps its number. -/
theorem gives_kept (hkeyed : s.ledger.Keyed)
    (hnext : t.nextAssignment = s.nextAssignment) (hstep : s.step op = t)
    (hwithin : op.within = true) (hassigns : assigns op = false) :
    Register.Gives counterLimit s.assignmentRegister
      (s.step op).assignmentRegister := by
  rw [assignmentRegister, assignmentRegister, hstep, hnext, ← hstep]
  refine Register.gives_sub _ fun k v hv => ?_
  change (s.step op).ledger.assignment k = some v at hv
  rcases step_ledger hkeyed op with
    (heq | ⟨event, hproduces, -, heq⟩) | ⟨config, rfl, -⟩ | ⟨state, hstate, -⟩
  · rw [heq] at hv
    exact ⟨v, hv, rfl⟩
  · rw [heq] at hv
    rcases Ledger.assignment_apply hv with
      ⟨old, effect, hold, rfl⟩ | ⟨batch, rfl, -⟩ |
        ⟨record, observation, next, old, rfl, -⟩
    · exact ⟨old, hold, rfl⟩
    · cases hproduces
      cases hassigns
    · cases hproduces
      cases hassigns
  · cases hwithin
  · cases op with
    | openEngine opening answer => cases hwithin
    | _ => cases hstate

theorem gives_assignments_step (hkeyed : s.ledger.Keyed)
    (hwithin : op.within = true) :
    Register.Gives counterLimit s.assignmentRegister
      (s.step op).assignmentRegister := by
  cases op with
  | openEngine opening answer => cases hwithin
  | shutdown answer => cases hwithin
  | restart config => cases hwithin
  | place request answer => exact gives_placeLocked s request answer
  | observe observation answer => exact gives_observe s observation answer
  | registerFlow flow answer =>
      exact gives_kept hkeyed (nextAssignment_registerFlow s flow answer) rfl rfl rfl
  | removeFlow flow generation answer =>
      exact gives_kept hkeyed
        (nextAssignment_removeFlow s flow generation answer) rfl rfl rfl
  | declareTarget target answer =>
      exact gives_kept hkeyed (nextAssignment_declareTarget s target answer)
        rfl rfl rfl
  | removeTarget target incarnation instant answer =>
      exact gives_kept hkeyed
        (nextAssignment_removeTarget s target incarnation instant answer)
        rfl rfl rfl
  | ingestLoad evidence =>
      exact gives_kept hkeyed (nextAssignment_ingestLoad s evidence) rfl rfl rfl
  | setPolicy policy answer =>
      exact gives_kept hkeyed (nextAssignment_setPolicy s policy answer) rfl rfl rfl
  | setTopologyGeneration generation answer =>
      exact gives_kept hkeyed
        (nextAssignment_setTopologyGeneration s generation answer) rfl rfl rfl
  | registerMigrationContract contract answer =>
      exact gives_kept hkeyed
        (nextAssignment_registerMigrationContract s contract answer) rfl rfl rfl
  | rebalance request answer =>
      exact gives_kept hkeyed (nextAssignment_rebalanceLocked s request answer)
        rfl rfl rfl
  | authorize recommendation instant =>
      exact gives_kept hkeyed
        (nextAssignment_authorize s recommendation instant) rfl rfl rfl
  | revokeAuthorization authorization =>
      exact gives_kept hkeyed
        (nextAssignment_revokeAuthorization s authorization) rfl rfl rfl
  | issueIntent authorization wanted answer =>
      exact gives_kept hkeyed
        (nextAssignment_issueIntent s authorization wanted answer) rfl rfl rfl
  | acknowledge ack answer =>
      exact gives_kept hkeyed (nextAssignment_acknowledge s ack answer) rfl rfl rfl
  | reportApplied effect answer =>
      exact gives_kept hkeyed (nextAssignment_reportApplied s effect answer)
        rfl rfl rfl
  | abortMigration attempt reason answer =>
      exact gives_kept hkeyed
        (nextAssignment_abortMigration s attempt reason answer) rfl rfl rfl

/-! ## One operation of a running engine -/

/-- Each register gives out numbers in order. -/
structure Numbers (s t : Impl) : Prop where
  assignments : Register.Gives counterLimit s.assignmentRegister
    t.assignmentRegister
  attempts : Register.Gives counterLimit s.attemptRegister t.attemptRegister
  fences : Register.Gives counterLimit s.fenceRegister t.fenceRegister

theorem Numbers.of_eq (hassignments : t.assignments = s.assignments)
    (hnextAssignment : t.nextAssignment = s.nextAssignment)
    (hmigrations : t.migrations = s.migrations)
    (hnextAttempt : t.nextAttempt = s.nextAttempt)
    (hfences : t.fences = s.fences) (hnextFence : t.nextFence = s.nextFence) :
    s.Numbers t := by
  refine ⟨?_, ?_, ?_⟩
  · rw [assignmentRegister, assignmentRegister, hassignments, hnextAssignment]
    exact .refl _
  · rw [attemptRegister, attemptRegister, hmigrations, hnextAttempt]
    exact .refl _
  · rw [fenceRegister, fenceRegister, hfences, hnextFence]
    exact .refl _

theorem numbers_step (hkeyed : s.ledger.Keyed) (hwithin : op.within = true) :
    s.Numbers (s.step op) where
  assignments := gives_assignments_step hkeyed hwithin
  attempts := gives_posts (posts_step hkeyed.attempt hwithin)
  fences := gives_turns (turns_step hkeyed hwithin)

theorem numbers_shutdown (s : Impl) (answer : Status) :
    s.Numbers (s.shutdown answer) := by
  obtain ⟨counters, submitted, heq⟩ := persistLocked_fst s answer
  unfold shutdown
  split
  · rw [heq]
    exact .of_eq rfl rfl rfl rfl rfl rfl
  · exact .of_eq rfl rfl rfl rfl rfl rfl

/-! ## Openings -/

/-- The tables that an opening starts from. -/
def reloaded (s : Impl) (opening : StoreOpening) : Impl :=
  if s.isOpen || (s.config.persistenceEnabled && !opening.report.usable) then s
  else (s.found opening).1

theorem gives_issueFenceLocked (s : Impl) (flow : FlowId) (target : TargetId)
    (reason : ReasonCode) (instant : Timestamp) :
    Register.Gives counterLimit s.fenceRegister
      (s.issueFenceLocked flow target reason instant).1.fenceRegister :=
  gives_issue s.fenceTable _ s.counters.historyEvictions

theorem gives_fencePrevious (s : Impl) (boot : BootId) :
    Register.Gives counterLimit s.fenceRegister
      (s.fencePrevious boot).fenceRegister := by
  have hretired : Register.Gives counterLimit s.fenceRegister
      { s with fences := s.fences.map fun _ f =>
          retireFence f }.fenceRegister := by
    refine Register.gives_sub _ fun k v hv => ?_
    rw [lookup_map, Option.map_eq_some_iff] at hv
    obtain ⟨old, hold, -⟩ := hv
    exact ⟨old, hold, rfl⟩
  have hfenced := hretired.trans (gives_issueFenceLocked _ {} {}
    .rejectedFencedByRestart {})
  unfold fencePrevious
  split
  · dsimp only
    split <;> exact hfenced
  · exact .refl _

theorem numbers_startIncarnation (s : Impl) (epoch : CoordinatorEpoch)
    (boot : BootId) (answer : Status) :
    s.Numbers (s.startIncarnation epoch boot answer).1 := by
  rcases startIncarnation_cases s epoch boot answer with
    heq | ⟨-, persisted, hpersisted, heq⟩
  · rw [heq]
    exact .of_eq rfl rfl rfl rfl rfl rfl
  · obtain ⟨counters, submitted, hfst⟩ := persistLocked_fst
      { (s.enterIncarnation ⟨epoch.value + 1⟩ boot).fencePrevious boot with
        isOpen := true } answer
    rw [hpersisted] at hfst
    have hgives := gives_fencePrevious
      (s.enterIncarnation ⟨epoch.value + 1⟩ boot) boot
    obtain ⟨fences, nextFence, _, _, hfenced⟩ := fencePrevious_eq
      (s.enterIncarnation ⟨epoch.value + 1⟩ boot) boot
    rw [hfenced] at hgives hfst
    rw [heq, hfst]
    split
    · exact ⟨.refl _, .refl _, hgives⟩
    · exact ⟨.refl _, .refl _, hgives⟩

theorem openEngine_of_usable {opening : StoreOpening} {answer : Status}
    (hclosed : s.isOpen = false)
    (husable : s.config.persistenceEnabled = true →
      opening.report.usable = true) :
    s.openEngine opening answer =
      (s.found opening).1.startIncarnation (s.found opening).2.1
        (s.found opening).2.2 answer := by
  unfold openEngine found
  rw [if_neg (by simp [hclosed])]
  split
  · rfl
  next hpersist =>
    dsimp only
    rw [if_neg (by simp [husable (by simpa using hpersist)])]
    cases opening.state with
    | none => rfl
    | some state => rfl

theorem numbers_openEngine (s : Impl) (opening : StoreOpening)
    (answer : Status) :
    (s.reloaded opening).Numbers (s.openEngine opening answer).1 := by
  unfold reloaded
  split
  next hstays =>
    cases hopen : s.isOpen with
    | true =>
        simp only [openEngine, hopen, if_true]
        exact .of_eq rfl rfl rfl rfl rfl rfl
    | false =>
        have hrefused : s.openEngine opening answer =
            ({ s with recovery := opening.report },
              .refused opening.report.code) := by
          simp_all [openEngine]
        rw [hrefused]
        exact .of_eq rfl rfl rfl rfl rfl rfl
  next hfound =>
    rw [Bool.or_eq_true, Bool.and_eq_true, not_or, not_and] at hfound
    rw [openEngine_of_usable (by simpa using hfound.1)
      (fun hpersist => by simpa using hfound.2 hpersist)]
    exact numbers_startIncarnation _ _ _ _

/-! ## Counters after a recovery -/

theorem below_resumed {values : List UInt64} {value : UInt64}
    (hmem : value ∈ values)
    (hlimit : (saturatingIncrement (largest values)).toNat < counterLimit) :
    value.toNat < (saturatingIncrement (largest values)).toNat := by
  rw [toNat_increment_eq_succ] at hlimit ⊢
  exact Nat.lt_of_le_of_lt ((largest_spec values 0).2.1 value hmem)
    (Register.lt_succ hlimit)

/-- The counters resume above every record that was recovered. -/
theorem below_restoreLocked (s : Impl) (state : DurableState) :
    ((s.restoreLocked state).nextAssignment.toNat < counterLimit →
        (s.restoreLocked state).assignmentRegister.Below) ∧
      ((s.restoreLocked state).nextAttempt.toNat < counterLimit →
        (s.restoreLocked state).attemptRegister.Below) ∧
      ((s.restoreLocked state).nextFence.toNat < counterLimit →
        (s.restoreLocked state).fenceRegister.Below) := by
  refine ⟨fun hlimit k n hk => ?_, fun hlimit k n hk => ?_,
    fun hlimit k n hk => ?_⟩
  · obtain ⟨v, hv, rfl⟩ := Option.map_eq_some_iff.mp hk
    refine below_resumed ?_ hlimit
    exact List.mem_map.mpr
      ⟨(k, v), lookup_eq_some_iff_mem_toList.mp hv, rfl⟩
  · obtain ⟨v, hv, rfl⟩ := Option.map_eq_some_iff.mp hk
    have hmap : lookup (ExtTreeMap.map (fun _ record =>
        endAttempt (fun _ => true) .fenced .rejectedFencedByRestart record)
        (indexBy (fun record => record.intent.attempt) state.migrations)) k =
          some v := hv
    rw [lookup_map, Option.map_eq_some_iff] at hmap
    obtain ⟨old, hold, -⟩ := hmap
    refine below_resumed ?_ hlimit
    refine List.mem_map.mpr
      ⟨(k, old), lookup_eq_some_iff_mem_toList.mp hold, ?_⟩
    exact congrArg TypedId.value (mem_of_lookup_indexBy hold).2
  · obtain ⟨v, hv, rfl⟩ := Option.map_eq_some_iff.mp hk
    refine below_resumed ?_ hlimit
    refine List.mem_map.mpr
      ⟨(k, v), lookup_eq_some_iff_mem_toList.mp hv, ?_⟩
    exact congrArg TypedId.value (mem_of_lookup_indexBy hv).2

/-! ## Keys of the fences -/

def FencesKeyed (fences : ExtTreeMap FenceId FenceRecord) : Prop :=
  ∀ k fence, lookup fences k = some fence → fence.id = k

theorem fencesKeyed_issue {b : FenceTable} (h : FencesKeyed b.fences)
    {record : FenceRecord} (hid : record.id = ⟨b.next⟩) (evictions : UInt64) :
    FencesKeyed (b.issue record evictions).fences := by
  intro k fence hfound
  have hinserted : lookup (b.fences.insertIfNew ⟨b.next⟩ record) k =
      some fence := lookup_of_evictFences hfound
  cases hnext : lookup b.fences ⟨b.next⟩ with
  | some old =>
      rw [insertIfNew_eq_self_iff.mpr
        (by rw [hnext]; exact Option.some_ne_none _)] at hinserted
      exact h k fence hinserted
  | none =>
      rw [insertIfNew_eq_insert record hnext, lookup_insert] at hinserted
      by_cases hk : k = ⟨b.next⟩
      · subst hk
        rw [Function.update_self] at hinserted
        cases hinserted
        exact hid
      · rw [Function.update_of_ne hk] at hinserted
        exact h k fence hinserted

theorem fencesKeyed_turns {b after : FenceTable} {issues : Prop}
    (hkeyed : FencesKeyed b.fences) (h : b.Turns issues after) :
    FencesKeyed after.fences := by
  cases h with
  | same => exact hkeyed
  | issued allowed record evictions id =>
      exact fencesKeyed_issue hkeyed id evictions
  | released fence reason =>
      intro k kept hfound
      rw [FenceTable.release, lookup_modify] at hfound
      by_cases hk : k = fence
      · subst hk
        rw [Function.update_self, Option.map_eq_some_iff] at hfound
        obtain ⟨old, hold, rfl⟩ := hfound
        exact hkeyed k old hold
      · rw [Function.update_of_ne hk] at hfound
        exact hkeyed k kept hfound

theorem fencesKeyed_issueFenceLocked (h : FencesKeyed s.fences)
    (flow : FlowId) (target : TargetId) (reason : ReasonCode)
    (instant : Timestamp) :
    FencesKeyed (s.issueFenceLocked flow target reason instant).1.fences := by
  obtain ⟨record, evictions, hid, heq⟩ :=
    fenceTable_issueFenceLocked s flow target reason instant
  have hissued := @fencesKeyed_issue s.fenceTable h record hid evictions
  rw [← heq] at hissued
  exact hissued

theorem fencesKeyed_fencePrevious (h : FencesKeyed s.fences) (boot : BootId) :
    FencesKeyed (s.fencePrevious boot).fences := by
  have hretired : FencesKeyed (s.fences.map fun _ f => retireFence f) := by
    intro k fence hfound
    rw [lookup_map, Option.map_eq_some_iff] at hfound
    obtain ⟨old, hold, rfl⟩ := hfound
    unfold retireFence
    split <;> exact h k old hold
  have hfenced : FencesKeyed (s.fenceAllActiveLocked {}).fences :=
    @fencesKeyed_issueFenceLocked
      { s with fences := s.fences.map fun _ f => retireFence f } hretired {}
      {} .rejectedFencedByRestart {}
  unfold fencePrevious
  split
  · dsimp only
    split <;> exact hfenced
  · exact h

theorem fencesKeyed_reloaded (h : FencesKeyed s.fences)
    (opening : StoreOpening) : FencesKeyed (s.reloaded opening).fences := by
  unfold reloaded found
  split
  · exact h
  · split
    · exact h
    · cases opening.state with
      | none => exact h
      | some state => exact fun k fence hk => (mem_of_lookup_indexBy hk).2

theorem fencesKeyed_openEngine (h : FencesKeyed s.fences)
    (opening : StoreOpening) (answer : Status) :
    FencesKeyed (s.openEngine opening answer).1.fences := by
  have hstarts : ∀ (t : Impl) (epoch : CoordinatorEpoch) (boot : BootId),
      FencesKeyed t.fences →
        FencesKeyed (t.startIncarnation epoch boot answer).1.fences := by
    intro t epoch boot ht
    rcases startIncarnation_cases t epoch boot answer with
      heq | ⟨-, persisted, hpersisted, heq⟩
    · rw [heq]
      exact ht
    · obtain ⟨counters, submitted, hfst⟩ := persistLocked_fst
        { (t.enterIncarnation ⟨epoch.value + 1⟩ boot).fencePrevious boot with
          isOpen := true } answer
      have hfenced := @fencesKeyed_fencePrevious
        (t.enterIncarnation ⟨epoch.value + 1⟩ boot) ht boot
      rw [hpersisted] at hfst
      rw [heq, hfst]
      split <;> exact hfenced
  have hreloaded := fencesKeyed_reloaded h opening
  unfold reloaded at hreloaded
  split at hreloaded
  next hstays =>
    cases hopen : s.isOpen with
    | true => simpa only [openEngine, hopen, if_true] using h
    | false =>
        have hrefused : s.openEngine opening answer =
            ({ s with recovery := opening.report },
              .refused opening.report.code) := by
          simp_all [openEngine]
        rw [hrefused]
        exact h
  next hfound =>
    rw [Bool.or_eq_true, Bool.and_eq_true, not_or, not_and] at hfound
    rw [openEngine_of_usable (by simpa using hfound.1)
      (fun hpersist => by simpa using hfound.2 hpersist)]
    exact hstarts _ _ _ hreloaded

theorem fencesKeyed_step (hkeyed : s.ledger.Keyed) (h : FencesKeyed s.fences)
    (op : Op) : FencesKeyed (s.step op).fences := by
  have hwithin : op.within = true → FencesKeyed (s.step op).fences :=
    fun hop => fencesKeyed_turns h (turns_step hkeyed hop)
  cases op with
  | openEngine opening answer => exact fencesKeyed_openEngine h opening answer
  | shutdown answer =>
      obtain ⟨counters, submitted, heq⟩ := persistLocked_fst s answer
      change FencesKeyed (s.shutdown answer).fences
      unfold shutdown
      split
      · rw [heq]
        exact h
      · exact h
  | restart config =>
      intro k fence hk
      change lookup ∅ k = some fence at hk
      simp at hk
  | _ => exact hwithin rfl

end Impl

end FlowOffload

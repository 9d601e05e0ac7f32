import FlowOffload.Engine.Evidence
import FlowOffload.Foundation.Versions

/-!
# Generations in force

Which operation moves the topology, the policy or the schedule on, and by how
much.  The rest leaves all three alone.
-/

namespace FlowOffload

open Foundation

/-- The generations in force, and the policy behind them. -/
structure Header where
  topology : TopologyGeneration
  schedule : ScheduleGeneration
  policyGeneration : PolicyGeneration
  policyPresent : Bool
  policy : Policy

namespace Impl

variable {s t : Impl} {op : Op}

def header (s : Impl) : Header where
  topology := s.topologyGeneration
  schedule := s.scheduleGeneration
  policyGeneration := s.policyGeneration
  policyPresent := s.policyPresent
  policy := s.policy

/-! ## What leaves the header alone -/

@[simp] theorem header_persistLocked (s : Impl) (answer : Status) :
    (s.persistLocked answer).1.header = s.header := by
  obtain ⟨counters, submitted, heq⟩ := persistLocked_fst s answer
  rw [heq]
  rfl

@[simp] theorem header_persistThen (s : Impl) (answer : Status)
    (outcome : ReasonCode) :
    (s.persistThen answer outcome).1.header = s.header := by
  rw [persistThen_fst, header_persistLocked]

@[simp] theorem header_releaseAssignment (s : Impl) (flow : FlowId) :
    (s.releaseAssignment flow).header = s.header := by
  unfold releaseAssignment
  split <;> rfl

@[simp] theorem header_supersedeFlow (s : Impl) (old flow : FlowDescriptor) :
    (s.supersedeFlow old flow).header = s.header := by
  have hreleased := header_releaseAssignment (s.releaseHolder old flow.flow)
    flow.flow
  exact hreleased

@[simp] theorem header_dropFlow (s : Impl) (old : FlowDescriptor)
    (flow : FlowId) : (s.dropFlow old flow).header = s.header := by
  have hreleased := header_releaseAssignment
    { s.releaseHolder old flow with
      flows := (s.releaseHolder old flow).flows.erase flow } flow
  exact hreleased

theorem header_registerFlow (s : Impl) (flow : FlowDescriptor)
    (answer : Status) : (s.registerFlow flow answer).1.header = s.header := by
  unfold registerFlow
  repeat' split
  all_goals simp only [header_persistThen, header_supersedeFlow]
  rfl

theorem header_removeFlow (s : Impl) (flow : FlowId)
    (generation : FlowGeneration) (answer : Status) :
    (s.removeFlow flow generation answer).1.header = s.header := by
  unfold removeFlow
  repeat' split
  all_goals simp only [header_persistThen, header_dropFlow]

theorem header_retireTarget (s : Impl) (target : TargetId)
    (existing : TargetState) (instant : Timestamp) :
    (s.retireTarget target existing instant).header = s.header := by
  obtain ⟨u, heq, -, hwithdraws⟩ :=
    withdraws_retireTarget s target existing instant
  have hheader : u.header = s.header := by
    simp only [header, hwithdraws.topologyGeneration,
      hwithdraws.scheduleGeneration, hwithdraws.policyGeneration,
      hwithdraws.policyPresent, hwithdraws.policy]
  rw [heq]
  exact hheader

theorem header_removeTarget (s : Impl) (target : TargetId)
    (incarnation : TargetIncarnation) (instant : Timestamp)
    (answer : Status) :
    (s.removeTarget target incarnation instant answer).1.header =
      s.header := by
  unfold removeTarget
  repeat' split
  all_goals simp only [header_persistThen, header_retireTarget]

theorem header_ingestLoad (s : Impl) (evidence : LoadEvidence) :
    (s.ingestLoad evidence).1.header = s.header := by
  rcases ingestLoad_cases s evidence with ⟨_, _, heq⟩ | ⟨_, -, -, -, heq⟩
  · rw [heq]
    rfl
  · rw [heq]
    rfl

theorem header_registerMigrationContract (s : Impl)
    (contract : MigrationContract) (answer : Status) :
    (s.registerMigrationContract contract answer).1.header = s.header := by
  unfold registerMigrationContract
  repeat' split
  all_goals simp only [header_persistThen]
  rfl

theorem header_rebalanceLocked (s : Impl) (request : RebalanceRequest)
    (answer : Status) :
    (s.rebalanceLocked request answer).1.header = s.header := by
  obtain ⟨_, _, heq⟩ := rebalanceLocked_eq s request answer
  rw [heq]
  rfl

theorem header_shutdown (s : Impl) (answer : Status) :
    (s.shutdown answer).header = s.header := by
  obtain ⟨counters, submitted, heq⟩ := persistLocked_fst s answer
  unfold shutdown
  split
  · rw [heq]
    rfl
  · rfl

theorem header_authorize (s : Impl) (recommendation : RecommendationId)
    (instant : Timestamp) :
    (s.authorize recommendation instant).1.header = s.header := by
  unfold authorize
  repeat' split
  all_goals rfl

theorem header_revokeAuthorization (s : Impl)
    (authorization : AuthorizationId) :
    (s.revokeAuthorization authorization).1.header = s.header := by
  unfold revokeAuthorization
  repeat' split
  all_goals rfl

@[simp] theorem header_openAttempt (s : Impl) (stored : Authorization)
    (descriptor : FlowDescriptor) (source : Assignment)
    (wanted : MigrationIntent) (contract : MigrationContractId) :
    (s.openAttempt stored descriptor source wanted contract).1.header =
      s.header := by
  obtain ⟨intent, hopens⟩ :=
    opens_openAttempt s stored descriptor source wanted contract
  simp only [header, hopens.topologyGeneration, hopens.scheduleGeneration,
    hopens.policyGeneration, hopens.policyPresent, hopens.policy]

theorem header_issueIntent (s : Impl) (authorization : AuthorizationId)
    (wanted : MigrationIntent) (answer : Status) :
    (s.issueIntent authorization wanted answer).1.header = s.header := by
  unfold issueIntent
  repeat' split
  all_goals simp only [header_persistThen, header_openAttempt]

@[simp] theorem header_persistedAbort (s : Impl) (answer : Status) :
    (s.persistedAbort answer).1.header = s.header := by
  unfold persistedAbort
  split
  next t persisted heq =>
    have hheader := header_persistLocked s answer
    rw [heq] at hheader
    split <;> exact hheader

theorem header_acceptAcknowledgement (s : Impl) (record : MigrationRecord)
    (isSource : Bool) (ack : MigrationAcknowledgement) (answer : Status) :
    (s.acceptAcknowledgement record isSource ack answer).1.header =
      s.header := by
  unfold acceptAcknowledgement
  dsimp only
  split
  · rw [header_persistedAbort]
    rfl
  · rw [header_persistThen]
    rfl

theorem header_acknowledge (s : Impl) (ack : MigrationAcknowledgement)
    (answer : Status) : (s.acknowledge ack answer).1.header = s.header := by
  unfold acknowledge
  dsimp only
  repeat' split
  all_goals first
    | exact header_acceptAcknowledgement s _ _ _ _
    | rfl

theorem header_setEffect (s : Impl) (flow : FlowId) (effect : EffectState) :
    (s.setEffect flow effect).header = s.header := rfl

theorem header_applyEffect (s : Impl) (record : MigrationRecord)
    (effect : AppliedEffect) : (s.applyEffect record effect).header =
      s.header :=
  header_setEffect (s.setAttempt effect.attempt
    { record with
      applied := effect
      effectApplied := true
      intent.phase := .effectApplied }) record.intent.flow .applied

theorem header_reportApplied (s : Impl) (effect : AppliedEffect)
    (answer : Status) :
    (s.reportApplied effect answer).1.header = s.header := by
  unfold reportApplied
  repeat' split
  all_goals first
    | rw [header_persistThen, header_applyEffect]
    | rfl

@[simp] theorem header_moveAssignment (s : Impl) (intent : MigrationIntent)
    (observation : EffectObservation) :
    (s.moveAssignment intent observation).header = s.header := by
  unfold moveAssignment holdState
  dsimp only
  repeat' split
  all_goals rfl

@[simp] theorem header_completeAttempt (s : Impl)
    (attempt : MigrationAttemptId) (record : MigrationRecord)
    (observation : EffectObservation) :
    (s.completeAttempt attempt record observation).header = s.header := by
  have hmoved := header_moveAssignment
    (s.setAttempt attempt (completedRecord record observation)) record.intent
    observation
  exact hmoved

theorem header_observe (s : Impl) (observation : EffectObservation)
    (answer : Status) : (s.observe observation answer).1.header =
      s.header := by
  unfold observe
  dsimp only
  repeat' split
  all_goals first
    | rw [header_persistThen, header_completeAttempt]
    | rfl

theorem header_abortAttempt (s : Impl) (attempt : MigrationAttemptId)
    (record : MigrationRecord) (reason : ReasonCode) :
    (s.abortAttempt attempt record reason).header = s.header :=
  header_setEffect _ record.intent.flow .unknown

theorem header_abortMigration (s : Impl) (attempt : MigrationAttemptId)
    (reason : ReasonCode) (answer : Status) :
    (s.abortMigration attempt reason answer).1.header = s.header := by
  unfold abortMigration
  repeat' split
  all_goals simp only [header_persistThen, header_abortAttempt]

/-! ## What moves a generation on -/

/-- How an operation moves the generations in force. -/
inductive HeaderStep (op : Op) (before : Header) : Header → Prop where
  | same : HeaderStep op before before
  | topology {generation : TopologyGeneration}
      (newer : before.topology < generation) :
      HeaderStep op before { before with topology := generation }
  | policy {policy : Policy} {answer : Status}
      (call : op = .setPolicy policy answer)
      (newer : before.policyPresent = true →
        before.policyGeneration < policy.generation) :
      HeaderStep op before
        { before with
          policyGeneration := policy.generation
          policyPresent := true
          policy := canonicalize policy }
  | schedule {generation : ScheduleGeneration}
      (newer : before.schedule < generation) :
      HeaderStep op before { before with schedule := generation }

/-- Only `set_policy` changes the policy. -/
theorem HeaderStep.policy_eq {before after : Header}
    (h : HeaderStep op before after)
    (hop : ∀ policy answer, op ≠ .setPolicy policy answer) :
    after.policy = before.policy := by
  cases h with
  | policy call => exact absurd call (hop _ _)
  | _ => rfl

theorem HeaderStep.of_eq (h : t.header = s.header) :
    HeaderStep op s.header t.header := by
  rw [h]
  exact .same

/-- A generation that is not older and not the same is newer. -/
theorem newer_of_not {tag : IdTag} {a b : TypedId tag} (hnotOlder : ¬ a < b)
    (hne : a ≠ b) : b < a := by
  rw [TypedId.lt_iff_toNat_lt] at hnotOlder ⊢
  rw [Ne, TypedId.eq_iff_toNat_eq] at hne
  omega

theorem headerStep_finishDeclaration {u : Impl}
    (hheader : u.header = s.header) (target : TargetDescriptor)
    (answer : Status) (outcome : ReasonCode) :
    HeaderStep op s.header
      (u.finishDeclaration target answer outcome).1.header := by
  unfold finishDeclaration
  dsimp only
  rw [header_persistThen, ← hheader]
  split
  next hnewer => exact .topology hnewer
  next => exact .same

theorem headerStep_declareTarget (s : Impl) (target : TargetDescriptor)
    (answer : Status) :
    HeaderStep op s.header (s.declareTarget target answer).1.header := by
  unfold declareTarget
  dsimp only
  repeat' split
  all_goals first
    | exact .same
    | exact headerStep_finishDeclaration (by rfl) target answer _

theorem headerStep_setTopologyGeneration (s : Impl)
    (generation : TopologyGeneration) (answer : Status) :
    HeaderStep op s.header
      (s.setTopologyGeneration generation answer).1.header := by
  unfold setTopologyGeneration
  split
  · exact .same
  · split
    · exact .same
    · split
      · exact .same
      next hnotOlder =>
        split
        · exact .same
        next hne =>
          rw [header_persistThen]
          exact .topology (newer_of_not hnotOlder hne)

@[simp] theorem generation_canonicalize (policy : Policy) :
    (canonicalize policy).generation = policy.generation := rfl

theorem headerStep_setPolicy (s : Impl) (policy : Policy) (answer : Status) :
    HeaderStep (.setPolicy policy answer) s.header
      (s.setPolicy policy answer).1.header := by
  unfold setPolicy
  dsimp only
  split
  · exact .same
  · split
    · exact .same
    · split
      · exact .same
      next hnotOlder =>
        split
        · split <;> exact .same
        next hne =>
          rw [header_persistThen]
          refine .policy rfl fun hpresent => ?_
          have hpresent' : s.policyPresent = true := hpresent
          have hnot : ¬ policy.generation < s.policyGeneration :=
            fun hlt => hnotOlder (by simp [hpresent', hlt])
          have hother : policy.generation ≠ s.policyGeneration :=
            fun heq => hne (by simp [hpresent', heq])
          exact newer_of_not hnot hother

theorem header_withPlan (s : Impl) (plan : BatchPlan) :
    (s.withPlan plan).header = s.header := rfl

theorem header_publishSchedule (s : Impl) (published : ScheduleGeneration) :
    (s.publishSchedule published).header =
      { s.header with schedule := published } := rfl

theorem header_foldl_commitPending (request : PlacementRequest)
    (published : ScheduleGeneration) (commits : List PendingCommit)
    (state : Impl × List FlowPlacement) :
    (commits.foldl (commitPending request published) state).1.header =
      state.1.header := by
  obtain ⟨_, _, _, _, _, _, heq⟩ :=
    foldl_commitPending_eq request published commits state
  rw [heq]
  rfl

theorem header_recordRequest (s : Impl) (request : PlacementRequest)
    (result : PlacementResult) (answer : Status) :
    (s.recordRequest request result answer).header = s.header := by
  unfold recordRequest
  dsimp only
  rw [header_persistLocked]
  rfl

/-- A published generation that is valid did not wrap around. -/
theorem newer_of_published {generation : ScheduleGeneration}
    (h : (⟨generation.value + 1⟩ : ScheduleGeneration).isValid = true) :
    generation < ⟨generation.value + 1⟩ := by
  rw [TypedId.lt_iff_toNat_lt]
  have hne : generation.value + 1 ≠ 0 := by
    simpa [TypedId.isValid] using h
  have hlt := generation.value.toNat_lt
  have hadd := UInt64.toNat_add generation.value 1
  have hpositive : (generation.value + 1).toNat ≠ 0 := fun hzero =>
    hne (UInt64.toNat_inj.mp hzero)
  simp only [UInt64.toNat_one] at hadd
  change generation.value.toNat < (generation.value + 1).toNat
  omega

theorem headerStep_executeRequest (s : Impl) (request : PlacementRequest)
    (items : List PlacementItem) (result : PlacementResult)
    (answer : Status) :
    HeaderStep op s.header
      (s.executeRequest request items result answer).1.header := by
  unfold executeRequest
  dsimp only
  cases hchanges : (s.planBatch request items).anyChange && !request.dryRun
    with
  | false =>
      simp only [Bool.false_and, Bool.false_eq_true, if_false]
      split
      · exact .same
      · rw [header_recordRequest, commitBatch, header_foldl_commitPending]
        exact .same
  | true =>
      simp only [Bool.true_and, if_true]
      split
      · exact .same
      next hvalid =>
        have hnewer := @newer_of_published s.scheduleGeneration
          (by simpa using hvalid)
        split
        · exact .schedule hnewer
        · rw [header_recordRequest, commitBatch, header_foldl_commitPending,
            header_publishSchedule]
          exact .schedule hnewer

theorem headerStep_placeLocked (s : Impl) (request : PlacementRequest)
    (answer : Status) :
    HeaderStep op s.header (s.placeLocked request answer).1.header := by
  unfold placeLocked
  dsimp only
  repeat' split
  all_goals first
    | exact headerStep_executeRequest s request _ _ answer
    | exact .same

/-- Every operation within an incarnation. -/
theorem headerStep_step (hanew : s.startsAnew op = false) :
    HeaderStep op s.header (s.step op).header := by
  cases op with
  | openEngine opening answer =>
      have hopen : s.isOpen = true := by simpa [startsAnew] using hanew
      refine .of_eq ?_
      simp [step, openEngine, hopen]
  | restart config => cases hanew
  | declareTarget target answer => exact headerStep_declareTarget s target answer
  | setPolicy policy answer => exact headerStep_setPolicy s policy answer
  | setTopologyGeneration generation answer =>
      exact headerStep_setTopologyGeneration s generation answer
  | place request answer => exact headerStep_placeLocked s request answer
  | shutdown answer => exact .of_eq (header_shutdown s answer)
  | registerFlow flow answer => exact .of_eq (header_registerFlow s flow answer)
  | removeFlow flow generation answer =>
      exact .of_eq (header_removeFlow s flow generation answer)
  | removeTarget target incarnation instant answer =>
      exact .of_eq (header_removeTarget s target incarnation instant answer)
  | ingestLoad evidence => exact .of_eq (header_ingestLoad s evidence)
  | registerMigrationContract contract answer =>
      exact .of_eq (header_registerMigrationContract s contract answer)
  | rebalance request answer =>
      exact .of_eq (header_rebalanceLocked s request answer)
  | authorize recommendation instant =>
      exact .of_eq (header_authorize s recommendation instant)
  | revokeAuthorization authorization =>
      exact .of_eq (header_revokeAuthorization s authorization)
  | issueIntent authorization wanted answer =>
      exact .of_eq (header_issueIntent s authorization wanted answer)
  | acknowledge ack answer => exact .of_eq (header_acknowledge s ack answer)
  | reportApplied effect answer =>
      exact .of_eq (header_reportApplied s effect answer)
  | observe observation answer =>
      exact .of_eq (header_observe s observation answer)
  | abortMigration attempt reason answer =>
      exact .of_eq (header_abortMigration s attempt reason answer)

end Impl

end FlowOffload

import FlowOffload.Engine.PlanSpec
import FlowOffload.Engine.Reception

/-!
# What reaches the store

Every operation ends with at most one commit, of the state it leaves behind.
So whatever a step adds to `submitted` is the durable image of the engine
after that step, up to the operational counters.
-/

namespace FlowOffload

open Foundation
open Std (ExtTreeMap)

namespace Impl

/-- A state handed to the store by a step that ended in `after`. -/
def Recorded (s after : Impl) : Prop :=
  ∀ state ∈ after.submitted, state ∈ s.submitted ∨
    ∃ counters, state =
      ({ after with counters := counters } : Impl).buildDurableLocked

variable {s : Impl}

theorem Recorded.same {after : Impl} (h : after.submitted = s.submitted) :
    s.Recorded after := by
  intro state hstate
  rw [h] at hstate
  exact Or.inl hstate

theorem Recorded.persistLocked {t : Impl} {answer : Status}
    (h : t.submitted = s.submitted) :
    s.Recorded (t.persistLocked answer).1 := by
  have hstored : ∀ (counters : Counters) (state : DurableState),
      state ∈ ({ t with counters := counters } : Impl).buildDurableLocked ::
        t.submitted →
      state ∈ s.submitted ∨ ∃ counters, state =
        ({ t with counters := counters } : Impl).buildDurableLocked := by
    intro counters state hstate
    rcases List.mem_cons.mp hstate with rfl | hstate
    · exact Or.inr ⟨counters, rfl⟩
    · rw [h] at hstate
      exact Or.inl hstate
  unfold Impl.persistLocked
  split
  · exact .same h
  · dsimp only
    split
    · intro state hstate
      exact hstored _ state hstate
    · intro state hstate
      exact hstored _ state hstate

theorem Recorded.persistThen {t : Impl} {answer : Status}
    {outcome : ReasonCode} (h : t.submitted = s.submitted) :
    s.Recorded (t.persistThen answer outcome).1 := by
  have hrecorded : s.Recorded (t.persistLocked answer).1 := .persistLocked h
  unfold Impl.persistThen
  split
  next persisted heq =>
    rw [heq] at hrecorded
    split <;> exact hrecorded

theorem Recorded.persistedAbort {t : Impl} {answer : Status}
    (h : t.submitted = s.submitted) :
    s.Recorded (t.persistedAbort answer).1 := by
  have hrecorded : s.Recorded (t.persistLocked answer).1 := .persistLocked h
  unfold Impl.persistedAbort
  split
  next persisted heq =>
    rw [heq] at hrecorded
    split <;> exact hrecorded

/-! ## Operations -/

theorem submitted_releaseAssignment (s : Impl) (flow : FlowId) :
    (s.releaseAssignment flow).submitted = s.submitted := by
  unfold releaseAssignment
  split <;> rfl

theorem recorded_registerFlow (flow : FlowDescriptor) (answer : Status) :
    s.Recorded (s.registerFlow flow answer).1 := by
  unfold registerFlow
  split
  · exact .same rfl
  · split
    · exact .same rfl
    · split
      · split
        · exact .same rfl
        · exact .persistThen rfl
      · split
        · exact .same rfl
        · split
          · exact .same rfl
          · split
            · exact .same rfl
            · exact .persistThen (submitted_releaseAssignment _ flow.flow)

theorem recorded_removeFlow (flow : FlowId) (generation : FlowGeneration)
    (answer : Status) : s.Recorded (s.removeFlow flow generation answer).1 := by
  unfold removeFlow
  split
  · exact .same rfl
  · split
    · exact .same rfl
    · split
      · exact .same rfl
      · exact .persistThen (submitted_releaseAssignment _ flow)

theorem Recorded.finishDeclaration {t : Impl} {target : TargetDescriptor}
    {answer : Status} {outcome : ReasonCode}
    (h : t.submitted = s.submitted) :
    s.Recorded (t.finishDeclaration target answer outcome).1 := by
  unfold Impl.finishDeclaration
  dsimp only
  refine .persistThen ?_
  change (Impl.submitted (if _ then _ else _)) = _
  split
  · exact h
  · exact h

theorem recorded_declareTarget (target : TargetDescriptor) (answer : Status) :
    s.Recorded (s.declareTarget target answer).1 := by
  unfold declareTarget
  split
  · exact .same rfl
  · split
    · exact .same rfl
    · split
      · split
        · exact .same rfl
        · exact .finishDeclaration rfl
      · dsimp only
        split
        · exact .same rfl
        · split
          · split
            · exact .same rfl
            · split
              · split
                · exact .same rfl
                · split
                  · exact .same rfl
                  · exact .finishDeclaration rfl
              · exact .finishDeclaration rfl
          · exact .finishDeclaration rfl

theorem submitted_retireTarget (s : Impl) (target : TargetId)
    (existing : TargetState) (instant : Timestamp) :
    (s.retireTarget target existing instant).submitted = s.submitted := by
  have hrecompute : ∀ t : Impl,
      t.recomputeScheduledLocked.submitted = t.submitted := fun _ => rfl
  have hfence : ∀ t : Impl, (t.issueFenceLocked {} target
      .rejectedTargetRemoved instant).1.submitted = t.submitted :=
    fun _ => rfl
  unfold retireTarget
  rw [hrecompute]
  dsimp only
  rw [hfence]
  rfl

theorem recorded_removeTarget (target : TargetId)
    (incarnation : TargetIncarnation) (instant : Timestamp)
    (answer : Status) :
    s.Recorded (s.removeTarget target incarnation instant answer).1 := by
  unfold removeTarget
  split
  · exact .same rfl
  · split
    · exact .same rfl
    · split
      · exact .same rfl
      · exact .persistThen (submitted_retireTarget s _ _ _)

theorem recorded_ingestLoad (evidence : LoadEvidence) :
    s.Recorded (s.ingestLoad evidence).1 := by
  obtain ⟨targets, watermarks, counters, heq⟩ := ingestLoad_frame s evidence
  rw [heq]
  exact .same rfl

theorem recorded_setPolicy (policy : Policy) (answer : Status) :
    s.Recorded (s.setPolicy policy answer).1 := by
  unfold setPolicy
  split
  · exact .same rfl
  · split
    · exact .same rfl
    · dsimp only
      split
      · exact .same rfl
      · split
        · split <;> exact .same rfl
        · exact .persistThen rfl

theorem recorded_setTopologyGeneration (generation : TopologyGeneration)
    (answer : Status) :
    s.Recorded (s.setTopologyGeneration generation answer).1 := by
  unfold setTopologyGeneration
  split
  · exact .same rfl
  · split
    · exact .same rfl
    · split
      · exact .same rfl
      · split
        · exact .same rfl
        · exact .persistThen rfl

theorem recorded_registerMigrationContract (contract : MigrationContract)
    (answer : Status) :
    s.Recorded (s.registerMigrationContract contract answer).1 := by
  unfold registerMigrationContract
  split
  · exact .same rfl
  · split
    · exact .same rfl
    · split
      · split <;> exact .same rfl
      · split
        · exact .same rfl
        · exact .persistThen rfl

theorem submitted_foldl_commitPending (request : PlacementRequest)
    (published : ScheduleGeneration) (commits : List PendingCommit)
    (state : Impl × List FlowPlacement) :
    (commits.foldl (commitPending request published) state).1.submitted =
      state.1.submitted := by
  obtain ⟨_, _, _, _, _, _, heq⟩ :=
    foldl_commitPending_eq request published commits state
  rw [heq]

theorem recorded_placeLocked (request : PlacementRequest) (answer : Status) :
    s.Recorded (s.placeLocked request answer).1 := by
  rcases placeLocked_cases s request answer with
    ⟨counters, refusals, heq⟩ | ⟨hwet, published, result, heq⟩
  · rw [heq]
    exact .same rfl
  · rw [heq]
    refine .persistLocked ?_
    refine (submitted_foldl_commitPending request published _ _).trans ?_
    unfold scheduledFor
    split <;> rfl

theorem recorded_rebalanceLocked (request : RebalanceRequest)
    (answer : Status) : s.Recorded (s.rebalanceLocked request answer).1 := by
  unfold rebalanceLocked
  dsimp only
  split
  · exact .same rfl
  · split
    · exact .same rfl
    · split
      · exact .same rfl
      · split
        · exact .same rfl
        · exact .persistLocked rfl

theorem recorded_authorize (recommendation : RecommendationId)
    (instant : Timestamp) :
    s.Recorded (s.authorize recommendation instant).1 := by
  unfold authorize
  split
  · exact .same rfl
  · split
    · exact .same rfl
    · split <;> exact .same rfl

theorem recorded_revokeAuthorization (authorization : AuthorizationId) :
    s.Recorded (s.revokeAuthorization authorization).1 := by
  unfold revokeAuthorization
  split
  · exact .same rfl
  · split
    · exact .same rfl
    · split <;> exact .same rfl

theorem submitted_openAttempt (stored : Authorization)
    (descriptor : FlowDescriptor) (source : Assignment)
    (wanted : MigrationIntent) (contract : MigrationContractId) :
    (s.openAttempt stored descriptor source wanted contract).1.submitted =
      s.submitted := by
  unfold openAttempt
  dsimp only
  split <;> rfl

theorem recorded_issueIntent (authorization : AuthorizationId)
    (wanted : MigrationIntent) (answer : Status) :
    s.Recorded (s.issueIntent authorization wanted answer).1 := by
  unfold issueIntent
  split
  · exact .same rfl
  · split
    · exact .same rfl
    · split
      · exact .same rfl
      · split
        · exact .same rfl
        · split
          · exact .same rfl
          · split
            · exact .same rfl
            · split
              · exact .same rfl
              · split
                · exact .same rfl
                · exact .persistThen (submitted_openAttempt _ _ _ _ _)

theorem recorded_acceptAcknowledgement (record : MigrationRecord)
    (isSource : Bool) (ack : MigrationAcknowledgement) (answer : Status) :
    s.Recorded (s.acceptAcknowledgement record isSource ack answer).1 := by
  unfold acceptAcknowledgement
  dsimp only
  split
  · exact .persistedAbort rfl
  · exact .persistThen rfl

theorem recorded_acknowledge (ack : MigrationAcknowledgement)
    (answer : Status) : s.Recorded (s.acknowledge ack answer).1 := by
  unfold acknowledge
  split
  · exact .same rfl
  · split
    · exact .same rfl
    · split
      · exact .same rfl
      · split
        · exact .same rfl
        · dsimp only
          split
          · exact .same rfl
          · split
            · split <;> exact .same rfl
            · generalize (if decide (ack.actor = .source) = true
                then MigrationPhase.intentIssued
                else MigrationPhase.sourceAcknowledged) = expected
              split
              · exact .same rfl
              · exact recorded_acceptAcknowledgement _ _ _ _

theorem recorded_reportApplied (effect : AppliedEffect) (answer : Status) :
    s.Recorded (s.reportApplied effect answer).1 := by
  unfold reportApplied
  split
  · exact .same rfl
  · split
    · exact .same rfl
    · split
      · exact .same rfl
      · split
        · exact .same rfl
        · split
          · split <;> exact .same rfl
          · split
            · exact .same rfl
            · exact .persistThen rfl

theorem submitted_completeAttempt (attempt : MigrationAttemptId)
    (record : MigrationRecord) (observation : EffectObservation) :
    (s.completeAttempt attempt record observation).submitted =
      s.submitted := by
  have hmove : ∀ t : Impl, (t.moveAssignment record.intent
      observation).submitted = t.submitted := by
    intro t
    unfold moveAssignment holdState
    split
    · rfl
    · dsimp only
      split
      · split <;> rfl
      · rfl
  exact hmove _

theorem recorded_observe (observation : EffectObservation)
    (answer : Status) : s.Recorded (s.observe observation answer).1 := by
  unfold observe
  split
  · exact .same rfl
  · split
    · exact .same rfl
    · split
      · exact .same rfl
      · dsimp only
        split
        · exact .same rfl
        · exact .persistThen (submitted_completeAttempt _ _ _)
      · exact .same rfl

theorem recorded_abortMigration (attempt : MigrationAttemptId)
    (reason : ReasonCode) (answer : Status) :
    s.Recorded (s.abortMigration attempt reason answer).1 := by
  unfold abortMigration
  split
  · exact .same rfl
  · split
    · exact .same rfl
    · split
      · exact .same rfl
      · split
        · exact .same rfl
        · exact .persistThen rfl

end Impl

end FlowOffload

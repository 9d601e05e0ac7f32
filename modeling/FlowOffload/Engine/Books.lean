import FlowOffload.Engine.Handoff
import FlowOffload.Engine.Reception
import FlowOffload.Foundation.OrdSum

/-!
# The books of the engine

The attempts, the identity of the next one, and what is counted about attempts
and refusals.  An operation makes at most one posting to the books; there is
one lemma per operation.
-/

namespace FlowOffload

open Foundation
open Std (ExtTreeMap)

structure Books where
  attempts : ExtTreeMap MigrationAttemptId MigrationRecord
  nextAttempt : UInt64
  issued : UInt64
  completed : UInt64
  aborted : UInt64
  fenced : UInt64
  refusals : UInt64
  refusalCounts : ExtTreeMap ReasonCode UInt64

namespace Books

def of (attempts : ExtTreeMap MigrationAttemptId MigrationRecord)
    (nextAttempt : UInt64) (counters : Counters)
    (refusalCounts : ExtTreeMap ReasonCode UInt64) : Books where
  attempts := attempts
  nextAttempt := nextAttempt
  issued := counters.migrationsIssued
  completed := counters.migrationsCompleted
  aborted := counters.migrationsAborted
  fenced := counters.migrationsFenced
  refusals := counters.refusalsByReasonTotal
  refusalCounts := refusalCounts

/-! ## Postings -/

def refuse (b : Books) (code : ReasonCode) : Books :=
  { b with
    refusals := saturatingIncrement b.refusals
    refusalCounts := Impl.bumpRefusal b.refusalCounts code }

/-- The attempts in flight among those selected. -/
def ending (b : Books) (ends : MigrationRecord → Bool) : Nat :=
  b.attempts.toList.countP fun entry => entry.2.inFlight && ends entry.2

def endAttempts (b : Books) (ends : MigrationRecord → Bool)
    (phase : MigrationPhase) (reason : ReasonCode) :
    ExtTreeMap MigrationAttemptId MigrationRecord :=
  b.attempts.map fun _ record => Impl.endAttempt ends phase reason record

def fenceAll (b : Books) (ends : MigrationRecord → Bool)
    (reason : ReasonCode) : Books :=
  { b with
    attempts := b.endAttempts ends .fenced reason
    fenced := Impl.bumpBy (b.ending ends) b.fenced }

def abortAll (b : Books) (ends : MigrationRecord → Bool)
    (reason : ReasonCode) : Books :=
  { b with
    attempts := b.endAttempts ends .aborted reason
    aborted := Impl.bumpBy (b.ending ends) b.aborted }

def issue (b : Books) (intent : MigrationIntent) : Books :=
  { b with
    attempts := b.attempts.insertIfNew ⟨b.nextAttempt⟩ { intent := intent }
    nextAttempt := saturatingIncrement b.nextAttempt
    issued := saturatingIncrement b.issued }

def write (b : Books) (k : MigrationAttemptId) (record : MigrationRecord) :
    Books :=
  { b with attempts := b.attempts.insert k record }

/-- What one operation may do to the books. -/
inductive Posts (b : Books) : Books → Prop where
  | refused (codes : List ReasonCode) : Posts b (codes.foldl refuse b)
  | fenced (ends : MigrationRecord → Bool) (reason : ReasonCode) :
      Posts b (b.fenceAll ends reason)
  | aborted (ends : MigrationRecord → Bool) (reason : ReasonCode) :
      Posts b (b.abortAll ends reason)
  | issued {intent : MigrationIntent} (attempt : intent.attempt =
      ⟨b.nextAttempt⟩) (phase : intent.phase = .intentIssued) :
      Posts b (b.issue intent)
  | advanced {k : MigrationAttemptId} {record after : MigrationRecord}
      (found : lookup b.attempts k = some record)
      (before : record.inFlight = true) (flight : after.inFlight = true)
      (attempt : after.intent.attempt = record.intent.attempt) :
      Posts b (b.write k after)
  | declined {k : MigrationAttemptId} {record after : MigrationRecord}
      (found : lookup b.attempts k = some record)
      (before : record.inFlight = true) (phase : after.intent.phase = .aborted)
      (attempt : after.intent.attempt = record.intent.attempt) :
      Posts b { b.write k after with aborted := saturatingIncrement b.aborted }
  | completed {k : MigrationAttemptId} {record after : MigrationRecord}
      (found : lookup b.attempts k = some record)
      (before : record.inFlight = true)
      (phase : after.intent.phase = .completed)
      (attempt : after.intent.attempt = record.intent.attempt) :
      Posts b { b.write k after with
        completed := saturatingIncrement b.completed }

theorem Posts.none (b : Books) : b.Posts b := .refused []

end Books

def Impl.books (s : Impl) : Books :=
  .of s.migrations s.nextAttempt s.counters s.refusalCounts

namespace Impl

variable {s : Impl}

/-! ## What the books do not show -/

@[simp] theorem books_persistLocked (t : Impl) (answer : Status) :
    (t.persistLocked answer).1.books = t.books := by
  unfold persistLocked
  split
  · rfl
  · dsimp only
    split <;> rfl

@[simp] theorem books_persistThen (t : Impl) (answer : Status)
    (outcome : ReasonCode) :
    (t.persistThen answer outcome).1.books = t.books := by
  rw [persistThen_fst, books_persistLocked]

@[simp] theorem books_releaseHolder (s : Impl) (old : FlowDescriptor)
    (flow : FlowId) : (s.releaseHolder old flow).books = s.books := rfl

@[simp] theorem books_releaseAssignment (s : Impl) (flow : FlowId) :
    (s.releaseAssignment flow).books = s.books := by
  unfold releaseAssignment
  split <;> rfl

@[simp] theorem books_recomputeScheduledLocked (s : Impl) :
    s.recomputeScheduledLocked.books = s.books := rfl

@[simp] theorem books_issueFenceLocked (s : Impl) (flow : FlowId)
    (target : TargetId) (reason : ReasonCode) (instant : Timestamp) :
    (s.issueFenceLocked flow target reason instant).1.books = s.books := rfl

@[simp] theorem books_finishDeclaration (s : Impl) (target : TargetDescriptor)
    (answer : Status) (outcome : ReasonCode) :
    (s.finishDeclaration target answer outcome).1.books = s.books := by
  unfold finishDeclaration
  dsimp only
  rw [books_persistThen, books_recomputeScheduledLocked]
  split <;> rfl

@[simp] theorem books_fenceAttempts (s : Impl) (ends : MigrationRecord → Bool)
    (reason : ReasonCode) :
    (s.fenceAttempts ends reason).books = s.books.fenceAll ends reason := rfl

@[simp] theorem books_abortAttempts (s : Impl) (ends : MigrationRecord → Bool)
    (reason : ReasonCode) :
    (s.abortAttempts ends reason).books = s.books.abortAll ends reason := rfl

/-! ## Flows and targets -/

theorem books_supersedeFlow (s : Impl) (old flow : FlowDescriptor) :
    (s.supersedeFlow old flow).books =
      s.books.fenceAll (attemptOf flow.flow) .rejectedStaleFlowGeneration := by
  change (fenceAttempts _ _ _).books = _
  rw [books_fenceAttempts, books_releaseAssignment, books_releaseHolder]

theorem posts_registerFlow (s : Impl) (flow : FlowDescriptor)
    (answer : Status) :
    s.books.Posts (s.registerFlow flow answer).1.books := by
  unfold registerFlow
  split
  · exact .none _
  · split
    · exact .none _
    · split
      · split
        · exact .none _
        · rw [books_persistThen]
          exact .none _
      · split
        · exact .none _
        · split
          · exact .none _
          · split
            · exact .none _
            · rw [books_persistThen]
              rw [books_supersedeFlow]
              exact .fenced _ _

theorem posts_removeFlow (s : Impl) (flow : FlowId)
    (generation : FlowGeneration) (answer : Status) :
    s.books.Posts (s.removeFlow flow generation answer).1.books := by
  unfold removeFlow
  split
  · exact .none _
  · split
    · exact .none _
    · split
      · exact .none _
      · rw [books_persistThen]
        unfold dropFlow
        dsimp only
        rw [books_issueFenceLocked, books_fenceAttempts,
          books_releaseAssignment]
        exact .fenced _ _

theorem posts_declareTarget (s : Impl) (target : TargetDescriptor)
    (answer : Status) :
    s.books.Posts (s.declareTarget target answer).1.books := by
  unfold declareTarget
  split
  · exact .none _
  · split
    · exact .none _
    · split
      · split
        · exact .none _
        · dsimp only
          rw [books_finishDeclaration]
          exact .none _
      · dsimp only
        split
        · exact .none _
        · split
          · split
            · exact .none _
            · split
              · split
                · exact .none _
                · split
                  · exact .none _
                  · rw [books_finishDeclaration]
                    exact .none _
              · rw [books_finishDeclaration]
                exact .none _
          · rw [books_finishDeclaration]
            exact .aborted _ _

theorem books_retireTarget (s : Impl) (target : TargetId)
    (existing : TargetState) (instant : Timestamp) :
    (s.retireTarget target existing instant).books =
      s.books.abortAll (touchesTarget target) .rejectedTargetRemoved := by
  have hcount : ∀ (t : Impl) (count : UInt64),
      ({ t with counters.targetsRemoved := count } : Impl).books =
        t.books := fun _ _ => rfl
  have hholders : ∀ (t : Impl) (f : StateHolder → StateHolder),
      (t.mapHolders f).books = t.books := fun _ _ => rfl
  unfold retireTarget
  dsimp only
  rw [books_recomputeScheduledLocked, hcount, books_issueFenceLocked,
    hholders, books_abortAttempts]
  rfl

theorem posts_removeTarget (s : Impl) (target : TargetId)
    (incarnation : TargetIncarnation) (instant : Timestamp)
    (answer : Status) :
    s.books.Posts (s.removeTarget target incarnation instant answer).1.books := by
  unfold removeTarget
  split
  · exact .none _
  · split
    · exact .none _
    · split
      · exact .none _
      · rw [books_persistThen]
        rw [books_retireTarget]
        exact .aborted _ _

/-! ## Evidence, policy, topology and contracts -/

theorem books_ingestLoad (s : Impl) (evidence : LoadEvidence) :
    (s.ingestLoad evidence).1.books = s.books := by
  have hreceived := receives_ingestLoad s evidence
  generalize s.ingestLoad evidence = after at hreceived ⊢
  cases hreceived with
  | refused | rejected | repeated | recorded => rfl
  | @outOfOrder target =>
      unfold ingestOutOfOrder
      split
      · rfl
      · rfl

theorem books_setPolicy (s : Impl) (policy : Policy) (answer : Status) :
    (s.setPolicy policy answer).1.books = s.books := by
  unfold setPolicy
  split
  · rfl
  · split
    · rfl
    · dsimp only
      split
      · rfl
      · split
        · split <;> rfl
        · rw [books_persistThen]
          rfl

theorem books_setTopologyGeneration (s : Impl)
    (generation : TopologyGeneration) (answer : Status) :
    (s.setTopologyGeneration generation answer).1.books = s.books := by
  unfold setTopologyGeneration
  split
  · rfl
  · split
    · rfl
    · split
      · rfl
      · split
        · rfl
        · rw [books_persistThen]
          rfl

theorem books_registerMigrationContract (s : Impl)
    (contract : MigrationContract) (answer : Status) :
    (s.registerMigrationContract contract answer).1.books = s.books := by
  unfold registerMigrationContract
  split
  · rfl
  · split
    · rfl
    · split
      · split <;> rfl
      · split
        · rfl
        · rw [books_persistThen]
          rfl

/-! ## Placement -/

/-- The books with the counters that planning has advanced. -/
def plannedBooks (s : Impl) (plan : BatchPlan) : Books :=
  .of s.migrations s.nextAttempt plan.counters plan.refusalCounts

theorem plannedBooks_planItem (request : PlacementRequest) (plan : BatchPlan)
    (item : PlacementItem) :
    ∃ codes : List ReasonCode,
      s.plannedBooks (s.planItem request plan item) =
        codes.foldl Books.refuse (s.plannedBooks plan) := by
  unfold planItem
  cases s.decideItem request plan item with
  | refused placement reason => exact ⟨[reason], rfl⟩
  | accepted flow current chosen fallback placement => exact ⟨[], rfl⟩

theorem plannedBooks_foldl_planItem (request : PlacementRequest)
    (items : List PlacementItem) (plan : BatchPlan) :
    ∃ codes : List ReasonCode,
      s.plannedBooks (items.foldl (s.planItem request) plan) =
        codes.foldl Books.refuse (s.plannedBooks plan) := by
  induction items generalizing plan with
  | nil => exact ⟨[], rfl⟩
  | cons item items ih =>
      obtain ⟨first, hfirst⟩ :=
        plannedBooks_planItem (s := s) request plan item
      obtain ⟨rest, hrest⟩ := ih (s.planItem request plan item)
      refine ⟨first ++ rest, ?_⟩
      rw [List.foldl_cons, hrest, hfirst, List.foldl_append]

/-- The books after planning: only refusals are posted. -/
theorem books_withPlan (request : PlacementRequest)
    (items : List PlacementItem) :
    ∃ codes : List ReasonCode,
      (s.withPlan (s.planBatch request items)).books =
        codes.foldl Books.refuse s.books :=
  plannedBooks_foldl_planItem request items s.initialPlan

theorem books_foldl_commitPending (request : PlacementRequest)
    (published : ScheduleGeneration) (commits : List PendingCommit)
    (state : Impl × List FlowPlacement) :
    (commits.foldl (commitPending request published) state).1.books =
      state.1.books := by
  induction commits generalizing state with
  | nil => rfl
  | cons pending commits ih =>
      rw [List.foldl_cons, ih]
      unfold commitPending commitAssignment holdState
      dsimp only
      split
      · rfl
      · split
        · split <;> rfl
        · rfl

theorem books_recordRequest (t : Impl) (request : PlacementRequest)
    (result : PlacementResult) (answer : Status) :
    (t.recordRequest request result answer).books = t.books := by
  unfold recordRequest
  dsimp only
  rw [books_persistLocked]
  rfl

theorem posts_executeRequest (s : Impl) (request : PlacementRequest)
    (items : List PlacementItem) (result : PlacementResult)
    (answer : Status) :
    s.books.Posts (s.executeRequest request items result answer).1.books := by
  obtain ⟨codes, hcodes⟩ := books_withPlan (s := s) request items
  have hplan : s.books.Posts
      (s.withPlan (s.planBatch request items)).books := by
    rw [hcodes]
    exact .refused codes
  unfold executeRequest
  dsimp only
  generalize ((s.planBatch request items).anyChange && !request.dryRun) =
    changes
  generalize hscheduled : (if changes = true then
    (s.withPlan (s.planBatch request items)).publishSchedule _
    else s.withPlan (s.planBatch request items)) = scheduled
  have hbooks : scheduled.books =
      (s.withPlan (s.planBatch request items)).books := by
    subst hscheduled
    cases changes <;> rfl
  cases hrefused : (changes && !(if changes = true then
      (⟨s.scheduleGeneration.value + 1⟩ : ScheduleGeneration)
      else s.scheduleGeneration).isValid) with
  | true =>
      simp only [if_true]
      change s.books.Posts ((s.withPlan (s.planBatch request
        items)).books.refuse .rejectedInternalInvariant)
      rw [hcodes]
      have hposted := Books.Posts.refused (b := s.books)
        (codes ++ [.rejectedInternalInvariant])
      rwa [List.foldl_concat] at hposted
  | false =>
      simp only [Bool.false_eq_true, if_false]
      split
      · rw [hbooks]
        exact hplan
      · rw [books_recordRequest, commitBatch, books_foldl_commitPending,
          hbooks]
        exact hplan

theorem posts_placeLocked (s : Impl) (request : PlacementRequest)
    (answer : Status) :
    s.books.Posts (s.placeLocked request answer).1.books := by
  unfold placeLocked
  dsimp only
  split
  · exact .none _
  · split
    · exact .refused [_]
    · split
      · split
        · exact .refused [_]
        · exact .none _
      · split
        · exact .refused [_]
        · exact posts_executeRequest s request _ _ answer

theorem books_rebalanceLocked (s : Impl) (request : RebalanceRequest)
    (answer : Status) :
    (s.rebalanceLocked request answer).1.books = s.books := by
  unfold rebalanceLocked
  dsimp only
  split
  · rfl
  · split
    · rfl
    · split
      · rfl
      · split
        · rfl
        · rw [books_persistLocked]
          rfl

/-! ## Authority and attempts -/

theorem posts_authorize (s : Impl) (recommendation : RecommendationId)
    (instant : Timestamp) :
    s.books.Posts (s.authorize recommendation instant).1.books := by
  unfold authorize
  split
  · exact .none _
  · split
    · exact .none _
    · split
      · exact .refused [_]
      · exact .none _

theorem books_revokeAuthorization (s : Impl)
    (authorization : AuthorizationId) :
    (s.revokeAuthorization authorization).1.books = s.books := by
  unfold revokeAuthorization
  repeat' split
  all_goals rfl

theorem posts_issueIntent (s : Impl) (authorization : AuthorizationId)
    (wanted : MigrationIntent) (answer : Status) :
    s.books.Posts (s.issueIntent authorization wanted answer).1.books := by
  unfold issueIntent
  split
  · exact .none _
  · split
    · exact .none _
    next stored hstored =>
      split
      · exact .none _
      · split
        · exact .none _
        next descriptor hflow =>
          split
          · exact .none _
          · split
            · exact .none _
            next source hsource =>
              split
              · exact .none _
              · split
                · exact .none _
                next contract hallowed =>
                  dsimp only
                  rw [books_persistThen]
                  have hbooks : (s.openAttempt stored descriptor source wanted
                      contract).1.books = s.books.issue (s.openAttempt stored
                        descriptor source wanted contract).2 := by
                    unfold openAttempt
                    dsimp only
                    split <;> rfl
                  rw [hbooks]
                  exact .issued rfl rfl

theorem posts_acceptAcknowledgement {record : MigrationRecord}
    {ack : MigrationAcknowledgement} (isSource : Bool) (answer : Status)
    (hrecord : lookup s.migrations ack.attempt = some record)
    (hflight : record.inFlight = true) :
    s.books.Posts
      (s.acceptAcknowledgement record isSource ack answer).1.books := by
  unfold acceptAcknowledgement
  dsimp only
  split
  · rw [persistedAbort_eq, books_persistThen]
    exact .declined hrecord hflight rfl (by cases isSource <;> rfl)
  · rw [books_persistThen]
    refine .advanced hrecord hflight ?_ (by cases isSource <;> rfl)
    cases isSource <;> rfl

theorem inFlight_of_incarnationRefusal {record : MigrationRecord}
    {ack : MigrationAcknowledgement}
    (h : s.incarnationRefusal record ack = none) : record.inFlight = true := by
  rw [MigrationRecord.inFlight_iff]
  unfold incarnationRefusal at h
  grind

theorem posts_acknowledge (s : Impl) (ack : MigrationAcknowledgement)
    (answer : Status) :
    s.books.Posts (s.acknowledge ack answer).1.books := by
  unfold acknowledge
  split
  · exact .none _
  · split
    · exact .none _
    next record hrecord =>
      split
      · exact .none _
      next hcurrent =>
        split
        · exact .none _
        · dsimp only
          split
          · exact .none _
          · split
            · split <;> exact .none _
            · generalize hexpected : (if decide (ack.actor = .source) = true
                then MigrationPhase.intentIssued else .sourceAcknowledged) =
                  expected
              split
              · exact .none _
              · exact posts_acceptAcknowledgement _ _ hrecord
                  (inFlight_of_incarnationRefusal hcurrent)

theorem posts_reportApplied (s : Impl) (effect : AppliedEffect)
    (answer : Status) :
    s.books.Posts (s.reportApplied effect answer).1.books := by
  unfold reportApplied
  split
  · exact .none _
  · split
    · exact .none _
    next record hrecord =>
      split
      · exact .none _
      next hfenced =>
        split
        · exact .none _
        next hterminal =>
          split
          · split <;> exact .none _
          · split
            · exact .none _
            · rw [books_persistThen]
              refine .advanced hrecord ?_ rfl rfl
              rw [MigrationRecord.inFlight_iff]
              simp_all

theorem books_completeAttempt (s : Impl) (attempt : MigrationAttemptId)
    (record : MigrationRecord) (observation : EffectObservation) :
    (s.completeAttempt attempt record observation).books =
      { s.books.write attempt (completedRecord record observation) with
        completed := saturatingIncrement s.books.completed } := by
  unfold completeAttempt
  dsimp only
  rw [books_recomputeScheduledLocked]
  unfold moveAssignment holdState
  split
  · rfl
  · dsimp only
    split
    · split <;> rfl
    · rfl

theorem posts_observe (s : Impl) (hkeyed : ∀ k record,
    lookup s.migrations k = some record → record.intent.attempt = k)
    (observation : EffectObservation) (answer : Status) :
    s.books.Posts (s.observe observation answer).1.books := by
  unfold observe
  split
  · exact .none _
  · split
    · exact .none _
    · split
      · exact .none _
      next attempt hattempt =>
        dsimp only
        split
        · exact .none _
        · obtain ⟨record, hrecord, hflight⟩ :=
            exists_of_inFlightAttempts hkeyed
              (hattempt ▸ List.mem_singleton_self attempt)
          have hgetD : s.migrations.getD attempt {} = record := by
            have hfound : s.migrations[attempt]? = some record := hrecord
            simp [ExtTreeMap.getD_eq_getD_getElem?, hfound]
          rw [books_persistThen, books_completeAttempt, hgetD]
          exact .completed hrecord hflight rfl rfl
      · exact .none _

theorem posts_abortMigration (s : Impl) (attempt : MigrationAttemptId)
    (reason : ReasonCode) (answer : Status) :
    s.books.Posts (s.abortMigration attempt reason answer).1.books := by
  unfold abortMigration
  split
  · exact .none _
  · split
    · exact .none _
    next record hrecord =>
      split
      · exact .none _
      next hcompleted =>
        split
        · exact .none _
        next hended =>
          rw [books_persistThen]
          refine .declined hrecord ?_ rfl rfl
          rw [MigrationRecord.inFlight_iff]
          simp_all

end Impl

end FlowOffload

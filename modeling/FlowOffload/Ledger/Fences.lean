import FlowOffload.Engine.History
import FlowOffload.Engine.Reports
import FlowOffload.Ledger.Content

/-!
# Fences

What each operation does to the table of fences: most leave it, an authority
or a removal issues one fence under the next identity, and an ending that
cleans up releases one.  A fence that is active after an operation was active
before it, or is the one that it issued.
-/

namespace FlowOffload

open Foundation
open Std (ExtTreeMap)

structure FenceTable where
  fences : ExtTreeMap FenceId FenceRecord
  next : UInt64
  limit : Nat

namespace FenceTable

def issue (b : FenceTable) (record : FenceRecord) (evictions : UInt64) :
    FenceTable :=
  { b with
    fences := (Impl.evictFences b.limit
      (b.fences.insertIfNew ⟨b.next⟩ record).size
      (b.fences.insertIfNew ⟨b.next⟩ record) evictions).1
    next := saturatingIncrement b.next }

def release (b : FenceTable) (fence : FenceId) (reason : ReasonCode) :
    FenceTable :=
  { b with
    fences := b.fences.modify fence fun record =>
      { record with active := false, reason := reason } }

/-- The fence is in the table and active. -/
def Active (b : FenceTable) (k : FenceId) : Prop :=
  ∃ fence, lookup b.fences k = some fence ∧ fence.active = true

/-- The next fence has a free identity and will be kept. -/
def Opens (b : FenceTable) : Prop :=
  lookup b.fences ⟨b.next⟩ = none ∧ b.limit ≠ 0

variable {b : FenceTable} {k : FenceId}

theorem contains_of_mem_toList {fences : ExtTreeMap FenceId FenceRecord}
    {entry : FenceId × FenceRecord} (h : entry ∈ fences.toList) :
    fences.contains entry.1 = true := by
  have hfound : fences[entry.1]? = some entry.2 :=
    lookup_eq_some_iff_mem_toList.mpr h
  rw [ExtTreeMap.contains_eq_isSome_getElem?, hfound]
  rfl

/-- Without room no fence is kept. -/
theorem evictFences_zero (fuel : Nat)
    (fences : ExtTreeMap FenceId FenceRecord) (evictions : UInt64)
    (h : fences.size ≤ fuel) :
    (Impl.evictFences 0 fuel fences evictions).1 = ∅ := by
  induction fuel generalizing fences evictions with
  | zero =>
      have hsize : fences.size = 0 := by omega
      exact ExtTreeMap.eq_empty_iff_size_eq_zero.mpr hsize
  | succ fuel ih =>
      have hlength := ExtTreeMap.length_toList (t := fences)
      unfold Impl.evictFences
      split
      next hlarge =>
        have hsmaller : ∀ entry ∈ fences.toList,
            (fences.erase entry.1).size ≤ fuel := by
          intro entry hentry
          rw [ExtTreeMap.size_erase, if_pos (contains_of_mem_toList hentry)]
          omega
        dsimp only
        cases hfind : fences.toList.find? fun entry => !entry.2.active with
        | some entry =>
            exact ih _ _ (hsmaller entry (List.mem_of_find?_eq_some hfind))
        | none =>
            cases hhead : fences.toList.head? with
            | none =>
                rw [List.head?_eq_none_iff.mp hhead, List.length_nil]
                  at hlength
                omega
            | some entry =>
                exact ih _ _ (hsmaller entry (List.mem_of_head? hhead))
      next hsmall =>
        have hsize : fences.size = 0 := by omega
        exact ExtTreeMap.eq_empty_iff_size_eq_zero.mpr hsize

theorem active_issue {record : FenceRecord} {evictions : UInt64}
    (h : (b.issue record evictions).Active k) :
    b.Active k ∨ k = ⟨b.next⟩ ∧ b.Opens := by
  obtain ⟨fence, hfence, hactive⟩ := h
  have hinserted := Impl.lookup_of_evictFences hfence
  cases hfree : lookup b.fences ⟨b.next⟩ with
  | some taken =>
      rw [lookup_insertIfNew_of_some _ hfree] at hinserted
      exact Or.inl ⟨fence, hinserted, hactive⟩
  | none =>
      by_cases hk : k = ⟨b.next⟩
      · refine Or.inr ⟨hk, hfree, ?_⟩
        intro hlimit
        unfold issue at hfence
        rw [hlimit, evictFences_zero _ _ _ (Nat.le_refl _)] at hfence
        simp at hfence
      · exact Or.inl ⟨fence, lookup_of_insertIfNew hk hinserted, hactive⟩

theorem active_release {fence : FenceId} {reason : ReasonCode}
    (h : (b.release fence reason).Active k) : b.Active k ∧ k ≠ fence := by
  obtain ⟨found, hfound, hactive⟩ := h
  simp only [release, lookup_modify] at hfound
  by_cases hk : k = fence
  · subst hk
    rw [Function.update_self, Option.map_eq_some_iff] at hfound
    obtain ⟨old, -, rfl⟩ := hfound
    cases hactive
  · rw [Function.update_of_ne hk] at hfound
    exact ⟨⟨found, hfound, hactive⟩, hk⟩

/-- What one operation may do to the table. -/
inductive Turns (b : FenceTable) (issues : Prop) : FenceTable → Prop where
  | same : Turns b issues b
  | issued (allowed : issues) (record : FenceRecord) (evictions : UInt64)
      (id : record.id = ⟨b.next⟩) : Turns b issues (b.issue record evictions)
  | released (fence : FenceId) (reason : ReasonCode) :
      Turns b issues (b.release fence reason)

theorem Turns.active {issues : Prop} {after : FenceTable}
    (h : b.Turns issues after) (hactive : after.Active k) :
    b.Active k ∨ issues ∧ k = ⟨b.next⟩ ∧ b.Opens := by
  cases h with
  | same => exact Or.inl hactive
  | issued allowed record evictions id =>
      rcases active_issue hactive with hold | hnew
      · exact Or.inl hold
      · exact Or.inr ⟨allowed, hnew⟩
  | released fence reason => exact Or.inl (active_release hactive).1

end FenceTable

namespace Impl

variable {s : Impl}

def fenceTable (s : Impl) : FenceTable :=
  ⟨s.fences, s.nextFence, s.config.maxHistory⟩

/-- The operation gets as far as issuing a fence. -/
def issues (s : Impl) (op : Op) : Bool :=
  s.isOpen && match op with
    | .removeFlow flow generation _ => (s.flows[flow]?).any fun old =>
        !generation.isValid || generation = old.generation
    | .removeTarget target incarnation _ _ =>
        (s.targets[target]?).any fun existing => !incarnation.isValid ||
          incarnation = existing.descriptor.incarnation
    | .authorize recommendation _ =>
        (s.recommendations[recommendation]?).any fun rec =>
          (s.authorizationRefusal rec).isNone
    | .issueIntent authorization _ _ =>
        (s.authorizations[authorization]?).any fun stored =>
          (s.authorityRefusal stored).isNone
    | _ => false

/-! ## Operations that leave the table -/

@[simp] theorem fenceTable_persistLocked (t : Impl) (answer : Status) :
    (t.persistLocked answer).1.fenceTable = t.fenceTable := by
  obtain ⟨counters, submitted, heq⟩ := persistLocked_fst t answer
  rw [heq]
  rfl

@[simp] theorem fenceTable_persistThen (t : Impl) (answer : Status)
    (outcome : ReasonCode) :
    (t.persistThen answer outcome).1.fenceTable = t.fenceTable := by
  rw [persistThen_fst, fenceTable_persistLocked]

@[simp] theorem fenceTable_recomputeScheduledLocked (s : Impl) :
    s.recomputeScheduledLocked.fenceTable = s.fenceTable := rfl

@[simp] theorem fenceTable_releaseAssignment (s : Impl) (flow : FlowId) :
    (s.releaseAssignment flow).fenceTable = s.fenceTable := by
  unfold releaseAssignment
  split <;> rfl

@[simp] theorem fenceTable_finishDeclaration (s : Impl)
    (target : TargetDescriptor) (answer : Status) (outcome : ReasonCode) :
    (s.finishDeclaration target answer outcome).1.fenceTable =
      s.fenceTable := by
  unfold finishDeclaration
  dsimp only
  rw [fenceTable_persistThen, fenceTable_recomputeScheduledLocked]
  split <;> rfl

theorem fenceTable_registerFlow (s : Impl) (flow : FlowDescriptor)
    (answer : Status) :
    (s.registerFlow flow answer).1.fenceTable = s.fenceTable := by
  have hsupersede : ∀ old : FlowDescriptor,
      (s.supersedeFlow old flow).fenceTable = s.fenceTable := by
    intro old
    change (releaseAssignment _ _).fenceTable = _
    rw [fenceTable_releaseAssignment]
    rfl
  unfold registerFlow
  repeat' split
  all_goals try rw [fenceTable_persistThen]
  all_goals first | rfl | exact hsupersede _

theorem fenceTable_declareTarget (s : Impl) (target : TargetDescriptor)
    (answer : Status) :
    (s.declareTarget target answer).1.fenceTable = s.fenceTable := by
  unfold declareTarget
  repeat' split
  all_goals try dsimp only
  all_goals repeat' split
  all_goals try rw [fenceTable_finishDeclaration]
  all_goals rfl

theorem fenceTable_ingestLoad (s : Impl) (evidence : LoadEvidence) :
    (s.ingestLoad evidence).1.fenceTable = s.fenceTable := by
  obtain ⟨targets, watermarks, counters, heq⟩ := ingestLoad_frame s evidence
  rw [heq]
  rfl

theorem fenceTable_setPolicy (s : Impl) (policy : Policy) (answer : Status) :
    (s.setPolicy policy answer).1.fenceTable = s.fenceTable := by
  unfold setPolicy
  repeat' split
  all_goals try dsimp only
  all_goals repeat' split
  all_goals try rw [fenceTable_persistThen]
  all_goals rfl

theorem fenceTable_setTopologyGeneration (s : Impl)
    (generation : TopologyGeneration) (answer : Status) :
    (s.setTopologyGeneration generation answer).1.fenceTable =
      s.fenceTable := by
  unfold setTopologyGeneration
  repeat' split
  all_goals try rw [fenceTable_persistThen]
  all_goals rfl

theorem fenceTable_registerMigrationContract (s : Impl)
    (contract : MigrationContract) (answer : Status) :
    (s.registerMigrationContract contract answer).1.fenceTable =
      s.fenceTable := by
  unfold registerMigrationContract
  repeat' split
  all_goals try rw [fenceTable_persistThen]
  all_goals rfl

theorem fenceTable_foldl_commitPending (request : PlacementRequest)
    (published : ScheduleGeneration) (commits : List PendingCommit)
    (state : Impl × List FlowPlacement) :
    (commits.foldl (commitPending request published) state).1.fenceTable =
      state.1.fenceTable := by
  induction commits generalizing state with
  | nil => rfl
  | cons pending commits ih =>
      rw [List.foldl_cons, ih]
      unfold commitPending commitAssignment holdState
      dsimp only
      split
      · rfl
      · split
        · split <;> rfl
        · rfl

theorem fenceTable_placeLocked (s : Impl) (request : PlacementRequest)
    (answer : Status) :
    (s.placeLocked request answer).1.fenceTable = s.fenceTable := by
  rcases placeLocked_cases s request answer with
    ⟨_, _, heq⟩ | ⟨-, published, result, heq⟩
  · rw [heq]
    rfl
  · rw [heq]
    unfold recordRequest
    dsimp only
    rw [fenceTable_persistLocked]
    change (commitBatch _ _ _ _).1.fenceTable = _
    rw [commitBatch, fenceTable_foldl_commitPending]
    change (s.scheduledFor request published).fenceTable = _
    unfold scheduledFor
    split <;> rfl

theorem fenceTable_rebalanceLocked (s : Impl) (request : RebalanceRequest)
    (answer : Status) :
    (s.rebalanceLocked request answer).1.fenceTable = s.fenceTable := by
  obtain ⟨counters, submitted, heq⟩ := rebalanceLocked_eq s request answer
  rw [heq]
  rfl

theorem fenceTable_acknowledge (s : Impl) (ack : MigrationAcknowledgement)
    (answer : Status) :
    (s.acknowledge ack answer).1.fenceTable = s.fenceTable := by
  have haccept : ∀ (record : MigrationRecord) (isSource : Bool),
      (s.acceptAcknowledgement record isSource ack answer).1.fenceTable =
        s.fenceTable := by
    intro record isSource
    unfold acceptAcknowledgement
    dsimp only
    split
    · rw [persistedAbort_eq, fenceTable_persistThen]
      rfl
    · rw [fenceTable_persistThen]
      rfl
  unfold acknowledge
  split
  · rfl
  · split
    · rfl
    · split
      · rfl
      · split
        · rfl
        · dsimp only
          split
          · rfl
          · split
            · split <;> rfl
            · generalize (if decide (ack.actor = .source) = true
                then MigrationPhase.intentIssued else .sourceAcknowledged) =
                  expected
              split
              · rfl
              · exact haccept _ _

theorem fenceTable_reportApplied (s : Impl) (effect : AppliedEffect)
    (answer : Status) :
    (s.reportApplied effect answer).1.fenceTable = s.fenceTable := by
  unfold reportApplied
  repeat' split
  all_goals try rw [fenceTable_persistThen]
  all_goals rfl

/-! ## Operations that issue a fence -/

theorem fenceTable_issueFenceLocked (s : Impl) (flow : FlowId)
    (target : TargetId) (reason : ReasonCode) (instant : Timestamp) :
    ∃ record evictions, record.id = ⟨s.fenceTable.next⟩ ∧
      (s.issueFenceLocked flow target reason instant).1.fenceTable =
        s.fenceTable.issue record evictions :=
  ⟨_, _, rfl, rfl⟩

/-- Issuing a fence from a state with the same table. -/
theorem turns_issueFenceLocked {t : Impl} {issues : Prop} (h : issues)
    (htable : t.fenceTable = s.fenceTable) (flow : FlowId)
    (target : TargetId) (reason : ReasonCode) (instant : Timestamp) :
    s.fenceTable.Turns issues
      (t.issueFenceLocked flow target reason instant).1.fenceTable := by
  obtain ⟨record, evictions, hid, heq⟩ :=
    fenceTable_issueFenceLocked t flow target reason instant
  rw [htable] at hid heq
  rw [heq]
  exact .issued h record evictions hid

theorem turns_removeFlow (s : Impl) (flow : FlowId)
    (generation : FlowGeneration) (answer : Status) :
    s.fenceTable.Turns (s.issues (.removeFlow flow generation answer) = true)
      (s.removeFlow flow generation answer).1.fenceTable := by
  unfold removeFlow
  split
  · exact .same
  next hopen =>
    split
    · exact .same
    next old hold =>
      split
      · exact .same
      next hcurrent =>
        rw [fenceTable_persistThen]
        refine turns_issueFenceLocked ?_ ?_ _ _ _ _
        · cases hvalid : generation.isValid <;> simp_all [issues]
        · change (releaseAssignment _ _).fenceTable = _
          rw [fenceTable_releaseAssignment]
          rfl

theorem turns_removeTarget (s : Impl) (target : TargetId)
    (incarnation : TargetIncarnation) (instant : Timestamp)
    (answer : Status) :
    s.fenceTable.Turns
      (s.issues (.removeTarget target incarnation instant answer) = true)
      (s.removeTarget target incarnation instant answer).1.fenceTable := by
  have hcount : ∀ (t : Impl) (count : UInt64),
      ({ t with counters.targetsRemoved := count } : Impl).fenceTable =
        t.fenceTable := fun _ _ => rfl
  unfold removeTarget
  split
  · exact .same
  next hopen =>
    split
    · exact .same
    next existing hexisting =>
      split
      · exact .same
      next hcurrent =>
        rw [fenceTable_persistThen]
        unfold retireTarget
        dsimp only
        rw [fenceTable_recomputeScheduledLocked, hcount]
        refine turns_issueFenceLocked ?_ ?_ _ _ _ _
        · cases hvalid : incarnation.isValid <;> simp_all [issues]
        · rfl

theorem turns_authorize (s : Impl) (recommendation : RecommendationId)
    (instant : Timestamp) :
    s.fenceTable.Turns (s.issues (.authorize recommendation instant) = true)
      (s.authorize recommendation instant).1.fenceTable := by
  unfold authorize
  split
  · exact .same
  next hopen =>
    split
    · exact .same
    next rec hrec =>
      split
      · exact .same
      next hnone =>
        refine turns_issueFenceLocked (t := { s with
          nextAuthorization := saturatingIncrement s.nextAuthorization })
          ?_ rfl _ _ _ _
        simp_all [issues]

theorem turns_issueIntent (s : Impl) (authorization : AuthorizationId)
    (wanted : MigrationIntent) (answer : Status) :
    s.fenceTable.Turns
      (s.issues (.issueIntent authorization wanted answer) = true)
      (s.issueIntent authorization wanted answer).1.fenceTable := by
  unfold issueIntent
  split
  · exact .same
  next hopen =>
    split
    · exact .same
    next stored hstored =>
      split
      · exact .same
      next hauthority =>
        split
        · exact .same
        next descriptor hflow =>
          split
          · exact .same
          · split
            · exact .same
            next source hsource =>
              split
              · exact .same
              · split
                · exact .same
                next contract hallowed =>
                  dsimp only
                  rw [fenceTable_persistThen]
                  have hissued : (s.openAttempt stored descriptor source
                      wanted contract).1.fenceTable = ({ s with
                        nextAttempt := saturatingIncrement s.nextAttempt
                        }.issueFenceLocked stored.flow stored.target
                          .acceptedMigrationIntentIssued
                          wanted.issuedAt).1.fenceTable := by
                    unfold openAttempt
                    dsimp only
                    split <;> rfl
                  rw [hissued]
                  refine turns_issueFenceLocked ?_ ?_ _ _ _ _
                  · simp_all [issues]
                  · rfl

/-! ## Operations that release a fence -/

theorem turns_revokeAuthorization (s : Impl)
    (authorization : AuthorizationId) (issues : Prop) :
    s.fenceTable.Turns issues
      (s.revokeAuthorization authorization).1.fenceTable := by
  unfold revokeAuthorization
  split
  · exact .same
  · split
    · exact .same
    · split
      · exact .same
      · exact .released _ _

/-- An observation completes an attempt and releases its fence, or it leaves
the attempts and the fences. -/
theorem fenceTable_observe (hkeyed : s.ledger.Keyed)
    (observation : EffectObservation) (answer : Status) :
    ((s.observe observation answer).1.fenceTable = s.fenceTable ∧
        (s.observe observation answer).1.migrations = s.migrations) ∨
      ∃ attempt record, lookup s.migrations attempt = some record ∧
        record.inFlight = true ∧ record.intent.flow = observation.flow ∧
        (s.observe observation answer).1.fenceTable =
          s.fenceTable.release record.intent.fence
            .acceptedVerifiedEffectRecorded := by
  unfold observe
  split
  · exact Or.inl ⟨rfl, rfl⟩
  · split
    · exact Or.inl ⟨rfl, rfl⟩
    · split
      · exact Or.inl ⟨rfl, rfl⟩
      next attempt hattempt =>
        dsimp only
        split
        · exact Or.inl ⟨rfl, rfl⟩
        · obtain ⟨record, hrecord, hflight, hflow, -⟩ :=
            unique_of_inFlightAttempts hkeyed hattempt
          have hgetD : s.migrations.getD attempt {} = record := by
            have hfound : s.migrations[attempt]? = some record := hrecord
            simp [ExtTreeMap.getD_eq_getD_getElem?, hfound]
          refine Or.inr ⟨attempt, record, hrecord, hflight, hflow, ?_⟩
          rw [fenceTable_persistThen, hgetD]
          unfold completeAttempt
          dsimp only
          rw [fenceTable_recomputeScheduledLocked]
          unfold moveAssignment holdState
          split
          · rfl
          · dsimp only
            split
            · split <;> rfl
            · rfl
      · exact Or.inl ⟨rfl, rfl⟩

theorem fenceTable_abortMigration (s : Impl) (attempt : MigrationAttemptId)
    (reason : ReasonCode) (answer : Status) :
    ((s.abortMigration attempt reason answer).1.fenceTable = s.fenceTable ∧
        (s.abortMigration attempt reason answer).1.migrations =
          s.migrations) ∨
      ∃ record code, lookup s.migrations attempt = some record ∧
        (s.abortMigration attempt reason answer).1.fenceTable =
          s.fenceTable.release record.intent.fence code := by
  unfold abortMigration
  split
  · exact Or.inl ⟨rfl, rfl⟩
  · split
    · exact Or.inl ⟨rfl, rfl⟩
    next record hrecord =>
      split
      · exact Or.inl ⟨rfl, rfl⟩
      · split
        · exact Or.inl ⟨rfl, rfl⟩
        · refine Or.inr ⟨record, if reason = .ok then
            .rejectedMigrationFenced else reason, hrecord, ?_⟩
          rw [fenceTable_persistThen]
          rfl

/-! ## Every operation of a running engine -/

theorem turns_step (hkeyed : s.ledger.Keyed) {op : Op} (hwithin : op.within = true) :
    s.fenceTable.Turns (s.issues op = true) (s.step op).fenceTable := by
  have hsame : ∀ t : Impl, t.fenceTable = s.fenceTable →
      s.fenceTable.Turns (s.issues op = true) t.fenceTable := by
    intro t h
    rw [h]
    exact .same
  cases op with
  | openEngine opening answer => cases hwithin
  | shutdown answer => cases hwithin
  | restart config => cases hwithin
  | registerFlow flow answer =>
      exact hsame _ (fenceTable_registerFlow s flow answer)
  | removeFlow flow generation answer =>
      exact turns_removeFlow s flow generation answer
  | declareTarget target answer =>
      exact hsame _ (fenceTable_declareTarget s target answer)
  | removeTarget target incarnation instant answer =>
      exact turns_removeTarget s target incarnation instant answer
  | ingestLoad evidence => exact hsame _ (fenceTable_ingestLoad s evidence)
  | setPolicy policy answer =>
      exact hsame _ (fenceTable_setPolicy s policy answer)
  | setTopologyGeneration generation answer =>
      exact hsame _ (fenceTable_setTopologyGeneration s generation answer)
  | registerMigrationContract contract answer =>
      exact hsame _ (fenceTable_registerMigrationContract s contract answer)
  | place request answer =>
      exact hsame _ (fenceTable_placeLocked s request answer)
  | rebalance request answer =>
      exact hsame _ (fenceTable_rebalanceLocked s request answer)
  | authorize recommendation instant =>
      exact turns_authorize s recommendation instant
  | revokeAuthorization authorization =>
      exact turns_revokeAuthorization s authorization _
  | issueIntent authorization wanted answer =>
      exact turns_issueIntent s authorization wanted answer
  | acknowledge ack answer =>
      exact hsame _ (fenceTable_acknowledge s ack answer)
  | reportApplied effect answer =>
      exact hsame _ (fenceTable_reportApplied s effect answer)
  | observe observation answer =>
      rcases fenceTable_observe hkeyed observation answer with
        ⟨heq, -⟩ | ⟨attempt, record, -, -, -, heq⟩
      · exact hsame _ heq
      · change s.fenceTable.Turns _ (s.observe observation answer).1.fenceTable
        rw [heq]
        exact .released _ _
  | abortMigration attempt reason answer =>
      rcases fenceTable_abortMigration s attempt reason answer with
        ⟨heq, -⟩ | ⟨record, code, -, heq⟩
      · exact hsame _ heq
      · change s.fenceTable.Turns _
          (s.abortMigration attempt reason answer).1.fenceTable
        rw [heq]
        exact .released _ _

end Impl

end FlowOffload

import FlowOffload.Engine.Outcome

/-!
# How the steps of a migration end

The endings of the operations that issue an intent and drive its attempt.  An
attempt that is acknowledged, applied, completed or aborted enters another
phase, so its commit always has something to say.
-/

namespace FlowOffload

open Foundation
open Std (ExtTreeMap)

namespace Impl

variable {s : Impl} {answer : Status}

/-! ## Intent -/

theorem rejects_authorityRefusal {stored : Authorization} {code : ReasonCode}
    (h : s.authorityRefusal stored = some code) :
    code.isAcceptance = false := by
  unfold authorityRefusal at h
  repeat' split at h
  all_goals cases h
  all_goals rfl

theorem rejects_destinationRefusal {flow : FlowDescriptor}
    {source : Assignment} {wanted : MigrationIntent} {code : ReasonCode}
    (h : s.destinationRefusal flow source wanted = some code) :
    code.isAcceptance = false := by
  unfold destinationRefusal at h
  repeat' split at h
  all_goals cases h
  all_goals rfl

theorem rejects_statefulRefusal {flow : FlowId} {descriptor : FlowDescriptor}
    {wanted : MigrationIntent} {code : ReasonCode}
    (h : s.statefulRefusal flow descriptor wanted = .error code) :
    code.isAcceptance = false := by
  unfold statefulRefusal at h
  repeat' split at h
  all_goals cases h
  all_goals rfl

/-- The state that a stateful flow may hand over is not being handed over. -/
theorem holder_of_statefulRefusal {flow : FlowId}
    {descriptor : FlowDescriptor} {wanted : MigrationIntent}
    {contract : MigrationContractId} {holder : StateHolder}
    (h : s.statefulRefusal flow descriptor wanted = .ok contract)
    (hstateful : descriptor.statefulness = .stateful)
    (hholder : lookup s.holders descriptor.exclusiveStateKey = some holder) :
    holder.handoffPending = false := by
  have hfind : s.findHolderLocked descriptor.exclusiveStateKey = some holder :=
    hholder
  unfold statefulRefusal at h
  rw [if_neg (by simp [hstateful])] at h
  rw [hfind] at h
  cases hpending : holder.handoffPending with
  | false => rfl
  | true =>
      simp only [hpending, if_true] at h
      repeat' split at h
      all_goals cases h

theorem stays_openAttempt (s : Impl) (stored : Authorization)
    (descriptor : FlowDescriptor) (source : Assignment)
    (wanted : MigrationIntent) (contract : MigrationContractId) :
    s.Settles (s.openAttempt stored descriptor source wanted contract).1 := by
  unfold openAttempt
  dsimp only
  split <;> exact .tables

/-- What opening an attempt does to the tables it touches. -/
structure Opens (s : Impl) (stored : Authorization)
    (descriptor : FlowDescriptor) (source : Assignment)
    (wanted : MigrationIntent) (intent : MigrationIntent) (t : Impl) :
    Prop where
  flows : t.flows = s.flows
  targets : t.targets = s.targets
  assignments : t.assignments = s.assignments.modify stored.flow fun a =>
    { a with effect := .intentIssued }
  holders : t.holders = if descriptor.statefulness = .stateful then
    s.holders.insert descriptor.exclusiveStateKey
      (handoffHolder stored.flow descriptor source ⟨s.nextAttempt⟩)
    else s.holders
  migrations : t.migrations = s.migrations.insertIfNew ⟨s.nextAttempt⟩
    { intent := intent }
  contracts : t.contracts = s.contracts
  fences : t.fences = (s.issueFenceLocked stored.flow stored.target
    .acceptedMigrationIntentIssued wanted.issuedAt).1.fences
  policy : t.policy = s.policy
  policyPresent : t.policyPresent = s.policyPresent
  policyGeneration : t.policyGeneration = s.policyGeneration
  scheduleGeneration : t.scheduleGeneration = s.scheduleGeneration
  topologyGeneration : t.topologyGeneration = s.topologyGeneration

theorem opens_openAttempt (s : Impl) (stored : Authorization)
    (descriptor : FlowDescriptor) (source : Assignment)
    (wanted : MigrationIntent) (contract : MigrationContractId) :
    ∃ intent, s.Opens stored descriptor source wanted intent
      (s.openAttempt stored descriptor source wanted contract).1 := by
  refine ⟨s.newIntent stored descriptor source wanted contract
    (s.issueFenceLocked stored.flow stored.target
      .acceptedMigrationIntentIssued wanted.issuedAt).2, ?_⟩
  unfold openAttempt
  dsimp only
  split
  next hstateful =>
    constructor <;> simp only [hstateful, if_true] <;> rfl
  next hstateless =>
    constructor <;> simp only [hstateless, if_false] <;> rfl

theorem modify_effect_eq_self_iff {assignments : ExtTreeMap FlowId Assignment}
    {flow : FlowId} {effect : EffectState} :
    (assignments.modify flow fun a => { a with effect := effect }) =
        assignments ↔
      ∀ a : Assignment, a ∈ lookup assignments flow → a.effect = effect := by
  constructor
  · intro heq a ha
    have hlookup := congrArg (fun m => lookup m flow) heq
    simp only [lookup_modify, Function.update_self] at hlookup
    rw [Option.mem_def.mp ha, Option.map_some, Option.some.injEq] at hlookup
    rw [← hlookup]
  · intro h
    refine ExtTreeMap.ext_getElem? fun k => ?_
    change lookup (assignments.modify flow _) k = lookup assignments k
    rw [lookup_modify]
    by_cases hk : k = flow
    · subst hk
      rw [Function.update_self]
      cases ha : lookup assignments k with
      | none => rfl
      | some a => rw [Option.map_some, ← h a ha]
    · rw [Function.update_of_ne hk]

theorem Opens.sameState_iff {stored : Authorization}
    {descriptor : FlowDescriptor} {source : Assignment}
    {wanted intent : MigrationIntent} {contract : MigrationContractId}
    {t : Impl} (h : s.Opens stored descriptor source wanted intent t)
    (hflow : lookup s.flows stored.flow = some descriptor)
    (hallowed : s.statefulRefusal stored.flow descriptor wanted =
      .ok contract) :
    s.SameState t ↔ s.Exhausted stored wanted := by
  constructor
  · intro hsame
    refine ⟨?_, ?_, ?_, h.fences.symm.trans hsame.fences⟩
    · intro found hfound hstateful
      rw [hflow] at hfound
      cases hfound
      -- the entry written for a stateful flow is marked as pending
      have hholders := h.holders.symm.trans hsame.holders
      rw [if_pos hstateful] at hholders
      have hlookup := congrArg
        (fun m => lookup m descriptor.exclusiveStateKey) hholders
      simp only [lookup_insert, Function.update_self] at hlookup
      have hpending := holder_of_statefulRefusal hallowed hstateful
        hlookup.symm
      cases hpending
    · exact modify_effect_eq_self_iff.mp
        (h.assignments.symm.trans hsame.assignments)
    · exact insertIfNew_eq_self_iff.mp
        (h.migrations.symm.trans hsame.migrations)
  · intro hexhausted
    exact
      { flows := h.flows
        targets := h.targets
        assignments := h.assignments.trans
          (modify_effect_eq_self_iff.mpr hexhausted.effect)
        holders := h.holders.trans
          (if_neg (hexhausted.flow descriptor hflow))
        migrations := h.migrations.trans
          (insertIfNew_eq_self_iff.mpr hexhausted.attempt)
        contracts := h.contracts
        fences := h.fences.trans hexhausted.fence
        policy := h.policy
        policyPresent := h.policyPresent
        policyGeneration := h.policyGeneration
        scheduleGeneration := h.scheduleGeneration
        topologyGeneration := h.topologyGeneration }

theorem ends_issueIntent (s : Impl) (authorization : AuthorizationId)
    (wanted : MigrationIntent) (answer : Status) :
    s.Ends (.issueIntent authorization wanted answer) answer
      (s.issueIntent authorization wanted answer).1
      (s.issueIntent authorization wanted answer).2.1.ok := by
  unfold issueIntent
  split
  · exact .refused (.refl s)
  · split
    · exact .refused (.refl s)
    next stored hstored =>
      split
      next code hcode =>
        rw [show (Status.refused code).ok = false from
          rejects_authorityRefusal hcode]
        exact .refused (.refl s)
      · split
        · exact .refused (.refl s)
        next descriptor hflow =>
          split
          · exact .refused (.refl s)
          · split
            · exact .refused (.refl s)
            next source hsource =>
              split
              next code hcode =>
                rw [show (Status.refused code).ok = false from
                  rejects_destinationRefusal hcode]
                exact .refused (.refl s)
              · split
                next code hcode =>
                  rw [show (Status.refused code).ok = false from
                    rejects_statefulRefusal hcode]
                  exact .refused (.refl s)
                next contract hallowed =>
                  dsimp only
                  obtain ⟨intent, hopens⟩ := opens_openAttempt s stored
                    descriptor source wanted contract
                  refine .persistThen (stays_openAttempt s _ _ _ _ _) rfl
                    (fun _ _ => by rw [hopens.targets]) ?_
                  rw [hopens.sameState_iff hflow hallowed]
                  constructor
                  · exact fun h => ⟨stored, hstored, h⟩
                  · rintro ⟨found, hfound, h⟩
                    have hsame : some found = some stored :=
                      hfound.symm.trans hstored
                    cases hsame
                    exact h

/-! ## Acknowledgement and application -/

/-- An attempt whose phase is another one afterwards. -/
theorem not_sameState_of_phase {t : Impl} {k : MigrationAttemptId}
    {before after : MigrationRecord}
    (hbefore : lookup s.migrations k = some before)
    (hafter : lookup t.migrations k = some after)
    (hphase : after.intent.phase ≠ before.intent.phase) :
    s.SameState t → False := by
  intro hsame
  rw [hsame.migrations, hbefore] at hafter
  cases hafter
  exact hphase rfl

theorem rejects_incarnationRefusal {record : MigrationRecord}
    {ack : MigrationAcknowledgement} {code : ReasonCode}
    (h : s.incarnationRefusal record ack = some code) :
    code.isAcceptance = false := by
  unfold incarnationRefusal at h
  repeat' split at h
  all_goals cases h
  all_goals rfl

theorem rejects_partyRefusal {intent : MigrationIntent} {isSource : Bool}
    {ack : MigrationAcknowledgement} {code : ReasonCode}
    (h : partyRefusal intent isSource ack = some code) :
    code.isAcceptance = false := by
  unfold partyRefusal at h
  dsimp only at h
  repeat' split at h
  all_goals cases h
  all_goals rfl

/-- The two codes that an abort tolerates are acceptances. -/
theorem persistedAbort_eq (t : Impl) (answer : Status) :
    t.persistedAbort answer =
      t.persistThen answer .acceptedMigrationAborted := by
  unfold persistedAbort persistThen
  generalize t.persistLocked answer = persisted
  cases hfailed : persisted.2.failed with
  | false => simp [hfailed]
  | true =>
      have hne : ∀ code : ReasonCode, code.isAcceptance = true →
          persisted.2.code ≠ code := by
        rintro code hcode rfl
        simp [Status.failed, Status.ok, hcode] at hfailed
      simp [hfailed, hne .persistNotConfigured rfl,
        hne .recoveryCompacted rfl]

theorem ends_acceptAcknowledgement {record : MigrationRecord}
    {isSource : Bool} {ack : MigrationAcknowledgement}
    (hrecord : lookup s.migrations ack.attempt = some record)
    (hphase : record.intent.phase = if isSource then .intentIssued
      else .sourceAcknowledged) :
    s.Ends (.acknowledge ack answer) answer
      (s.acceptAcknowledgement record isSource ack answer).1
      (s.acceptAcknowledgement record isSource ack answer).2.ok := by
  unfold acceptAcknowledgement
  dsimp only
  split
  · rw [persistedAbort_eq]
    refine .persistThen .tables rfl (fun _ _ => rfl) ?_
    refine sameState_iff_of_ne id (not_sameState_of_phase hrecord
      (by simp [refuseHandoff, clearHandoff, mapHolders, setAttempt]; rfl) ?_)
    rw [hphase]
    cases isSource <;> simp
  · refine .persistThen .tables ?_ (fun _ _ => rfl) ?_
    · cases isSource <;> rfl
    · refine sameState_iff_of_ne id (not_sameState_of_phase hrecord
        (by simp [setEffect, setAttempt]; rfl) ?_)
      rw [hphase]
      cases isSource <;> simp

theorem ends_acknowledge (s : Impl) (ack : MigrationAcknowledgement)
    (answer : Status) :
    s.Ends (.acknowledge ack answer) answer (s.acknowledge ack answer).1
      (s.acknowledge ack answer).2.ok := by
  unfold acknowledge
  split
  · exact .refused (.refl s)
  · split
    · exact .refused ⟨_, _, rfl⟩
    next record hrecord =>
      split
      next code hcode =>
        rw [rejectAcknowledgement,
          show (Status.refused code).ok = false from
            rejects_incarnationRefusal hcode]
        exact .refused ⟨_, _, rfl⟩
      · split
        · exact .refused (.refl s)
        · dsimp only
          split
          next code hcode =>
            rw [rejectAcknowledgement,
              show (Status.refused code).ok = false from
                rejects_partyRefusal hcode]
            exact .refused ⟨_, _, rfl⟩
          · split
            next slot hslot =>
              split
              next heq =>
                subst heq
                refine .repeated ⟨_, _, rfl⟩ ?_
                simp [repeats, hrecord, hslot]
              · exact .refused ⟨_, _, rfl⟩
            · generalize hexpected : (if decide (ack.actor = .source) = true
                then MigrationPhase.intentIssued
                else MigrationPhase.sourceAcknowledged) = expected
              split
              · exact .refused ⟨_, _, rfl⟩
              next hphase =>
                refine ends_acceptAcknowledgement hrecord ?_
                rw [hexpected]
                exact not_not.mp hphase

theorem rejects_effectRefusal {record : MigrationRecord}
    {effect : AppliedEffect} {code : ReasonCode}
    (h : s.effectRefusal record effect = some code) :
    code.isAcceptance = false := by
  unfold effectRefusal at h
  dsimp only at h
  repeat' split at h
  all_goals cases h
  all_goals rfl

theorem phase_of_effectRefusal {record : MigrationRecord}
    {effect : AppliedEffect} (h : s.effectRefusal record effect = none) :
    record.intent.phase = .destinationAcknowledged := by
  unfold effectRefusal at h
  dsimp only at h
  split at h
  · cases h
  next hphase => exact not_not.mp hphase

theorem ends_reportApplied (s : Impl) (effect : AppliedEffect)
    (answer : Status) :
    s.Ends (.reportApplied effect answer) answer
      (s.reportApplied effect answer).1
      (s.reportApplied effect answer).2.ok := by
  unfold reportApplied
  split
  · exact .refused (.refl s)
  · split
    · exact .refused (.refl s)
    next record hrecord =>
      split
      · exact .refused ⟨_, _, rfl⟩
      · split
        · exact .refused ⟨_, _, rfl⟩
        · split
          next happlied =>
            split
            next heq =>
              refine .repeated (.refl s) ?_
              simp [repeats, hrecord, happlied, heq]
            · exact .refused (.refl s)
          · split
            next code hcode =>
              rw [rejectEffect, show (Status.refused code).ok = false from
                rejects_effectRefusal hcode]
              exact .refused ⟨_, _, rfl⟩
            next hallowed =>
              refine .persistThen .tables rfl (fun _ _ => rfl) ?_
              refine sameState_iff_of_ne id (not_sameState_of_phase hrecord
                (by simp [applyEffect, setEffect, setAttempt]; rfl) ?_)
              rw [phase_of_effectRefusal hallowed]
              simp

/-! ## Observation and abort -/

theorem rejects_observationRefusal {record : MigrationRecord}
    {observation : EffectObservation} {code : ReasonCode}
    (h : observationRefusal record observation = some code) :
    code.isAcceptance = false := by
  have hevidence : ∀ code, evidenceRefusal observation.state = some code →
      code.isAcceptance = false := by
    intro code hcode
    unfold evidenceRefusal at hcode
    split at hcode
    all_goals cases hcode
    all_goals rfl
  have hlifecycle : ∀ code,
      observedLifecycleRefusal observation.lifecycle = some code →
      code.isAcceptance = false := by
    intro code hcode
    unfold observedLifecycleRefusal at hcode
    split at hcode
    all_goals cases hcode
    all_goals rfl
  have hverification : ∀ code,
      verificationRefusal record observation = some code →
      code.isAcceptance = false := by
    intro code hcode
    unfold verificationRefusal at hcode
    dsimp only at hcode
    repeat' split at hcode
    all_goals cases hcode
    all_goals rfl
  unfold observationRefusal at h
  rcases Option.or_eq_some_iff.mp h with h | ⟨-, h⟩
  · exact hevidence code h
  · rcases Option.or_eq_some_iff.mp h with h | ⟨-, h⟩
    · exact hlifecycle code h
    · exact hverification code h

theorem exists_of_inFlightAttempts
    (hkeyed : ∀ k record, lookup s.migrations k = some record →
      record.intent.attempt = k) {flow : FlowId} {attempt : MigrationAttemptId}
    (h : attempt ∈ s.inFlightAttempts flow) :
    ∃ record, lookup s.migrations attempt = some record ∧
      record.inFlight = true := by
  obtain ⟨entry, hentry, hsome⟩ := List.mem_filterMap.mp h
  split at hsome
  next hflight =>
    have hlookup := lookup_eq_some_iff_mem_toList.mpr hentry
    rw [Bool.and_eq_true] at hflight
    cases hsome
    refine ⟨entry.2, ?_, hflight.2⟩
    rw [hkeyed _ _ hlookup]
    exact hlookup
  · cases hsome

theorem stays_completeAttempt (s : Impl) (attempt : MigrationAttemptId)
    (record : MigrationRecord) (observation : EffectObservation) :
    s.Settles (s.completeAttempt attempt record observation) := by
  have hmove : ∀ t : Impl, t.Settles (t.moveAssignment record.intent
      observation) := by
    intro t
    unfold moveAssignment holdState
    split
    · exact .tables
    · dsimp only
      split
      · split <;> exact .tables
      · exact .tables
  have h := hmove (s.setAttempt attempt (completedRecord record observation))
  exact ⟨⟨h.config, h.isOpen, h.epoch, h.boot, h.submitted, h.stamp⟩,
    h.recommendations, h.authorizations, h.watermarks, h.nextRecommendation⟩

theorem sameTargets_completeAttempt (s : Impl) (attempt : MigrationAttemptId)
    (record : MigrationRecord) (observation : EffectObservation) :
    s.SameTargets (s.completeAttempt attempt record observation) := by
  have hmove : ∀ t : Impl, (t.moveAssignment record.intent
      observation).targets = t.targets := by
    intro t
    unfold moveAssignment holdState
    split
    · rfl
    · dsimp only
      split
      · split <;> rfl
      · rfl
  intro id
  refine (unscheduled_recomputeScheduledLocked _ id).trans ?_
  exact congrArg (fun targets => (lookup targets id).map unscheduled)
    (hmove _)

theorem lookup_completeAttempt (s : Impl) (attempt : MigrationAttemptId)
    (record : MigrationRecord) (observation : EffectObservation) :
    lookup (s.completeAttempt attempt record observation).migrations attempt =
      some (completedRecord record observation) := by
  have hmove : ∀ t : Impl, (t.moveAssignment record.intent
      observation).migrations = t.migrations := by
    intro t
    unfold moveAssignment holdState
    split
    · rfl
    · dsimp only
      split
      · split <;> rfl
      · rfl
  have h : (s.completeAttempt attempt record observation).migrations =
      s.migrations.insert attempt (completedRecord record observation) :=
    hmove _
  rw [h, lookup_insert, Function.update_self]

theorem ends_observe
    (hkeyed : ∀ k record, lookup s.migrations k = some record →
      record.intent.attempt = k)
    (observation : EffectObservation) (answer : Status) :
    s.Ends (.observe observation answer) answer
      (s.observe observation answer).1 (s.observe observation answer).2.ok := by
  unfold observe
  split
  · exact .refused (.refl s)
  · split
    · exact .refused (.refl s)
    · split
      · exact .refused ⟨_, _, rfl⟩
      next attempt hattempt =>
        dsimp only
        split
        next code hcode =>
          rw [rejectObservation, show (Status.refused code).ok = false from
            rejects_observationRefusal hcode]
          exact .refused ⟨_, _, rfl⟩
        · refine .persistThen (stays_completeAttempt s _ _ _) rfl
            (fun _ => sameTargets_completeAttempt s _ _ _) ?_
          obtain ⟨record, hrecord, hflight⟩ :=
            exists_of_inFlightAttempts hkeyed
              (hattempt ▸ List.mem_singleton_self attempt)
          refine sameState_iff_of_ne id (not_sameState_of_phase hrecord
            (lookup_completeAttempt s _ _ _) ?_)
          rw [MigrationRecord.inFlight_iff] at hflight
          exact fun heq => hflight.1 heq.symm
      · exact .refused ⟨_, _, rfl⟩

theorem stays_abortAttempt (s : Impl) (attempt : MigrationAttemptId)
    (record : MigrationRecord) (reason : ReasonCode) :
    s.Settles (s.abortAttempt attempt record reason) := by
  refine ⟨⟨?_, ?_, ?_, ?_, ?_, ?_⟩, ?_, ?_, ?_, ?_⟩ <;> simp only [abortAttempt,
    setEffect, releaseFence, clearHandoff, mapHolders, setAttempt, imp_self]

theorem ends_abortMigration (s : Impl) (attempt : MigrationAttemptId)
    (reason : ReasonCode) (answer : Status) :
    s.Ends (.abortMigration attempt reason answer) answer
      (s.abortMigration attempt reason answer).1
      (s.abortMigration attempt reason answer).2.ok := by
  unfold abortMigration
  split
  · exact .refused (.refl s)
  · split
    · exact .refused (.refl s)
    next record hrecord =>
      split
      · exact .refused (.refl s)
      · split
        next hended =>
          refine .repeated (.refl s) ?_
          simpa [repeats, hrecord] using hended
        next hflight =>
          refine .persistThen (stays_abortAttempt s _ _ _) rfl
            (fun _ _ => rfl) ?_
          refine sameState_iff_of_ne id (not_sameState_of_phase hrecord
            (by simp [abortAttempt, setEffect, releaseFence, clearHandoff,
              mapHolders, setAttempt]; rfl) ?_)
          intro heq
          simp [← heq] at hflight

/-! ## Decisions -/

end Impl

/-- The answer that the store gives to an operation that decides something. -/
def Op.decision : Op → Option Status
  | .registerFlow _ answer => some answer
  | .removeFlow _ _ answer => some answer
  | .declareTarget _ answer => some answer
  | .removeTarget _ _ _ answer => some answer
  | .setPolicy _ answer => some answer
  | .setTopologyGeneration _ answer => some answer
  | .registerMigrationContract _ answer => some answer
  | .place request answer => if request.dryRun then none else some answer
  | .issueIntent _ _ answer => some answer
  | .acknowledge _ answer => some answer
  | .reportApplied _ answer => some answer
  | .observe _ answer => some answer
  | .abortMigration _ _ answer => some answer
  | _ => none

namespace Impl

variable {s : Impl} {answer : Status}

theorem ends_step
    (hkeyed : ∀ k record, lookup s.migrations k = some record →
      record.intent.attempt = k) {op : Op} (h : op.decision = some answer) :
    s.Ends op answer (s.step op) (s.accepted op) := by
  cases op with
  | place request answer =>
      cases hdry : request.dryRun with
      | true => simp [Op.decision, hdry] at h
      | false =>
          simp only [Op.decision, hdry, Bool.false_eq_true, if_false] at h
          cases h
          exact ends_placeLocked s request answer hdry
  | registerFlow flow answer =>
      cases h
      exact ends_registerFlow s flow answer
  | removeFlow flow generation answer =>
      cases h
      exact ends_removeFlow s flow generation answer
  | declareTarget target answer =>
      cases h
      exact ends_declareTarget s target answer
  | removeTarget target incarnation instant answer =>
      cases h
      exact ends_removeTarget s target incarnation instant answer
  | setPolicy policy answer =>
      cases h
      exact ends_setPolicy s policy answer
  | setTopologyGeneration generation answer =>
      cases h
      exact ends_setTopologyGeneration s generation answer
  | registerMigrationContract contract answer =>
      cases h
      exact ends_registerMigrationContract s contract answer
  | issueIntent authorization wanted answer =>
      cases h
      exact ends_issueIntent s authorization wanted answer
  | acknowledge ack answer =>
      cases h
      exact ends_acknowledge s ack answer
  | reportApplied effect answer =>
      cases h
      exact ends_reportApplied s effect answer
  | observe observation answer =>
      cases h
      exact ends_observe hkeyed observation answer
  | abortMigration attempt reason answer =>
      cases h
      exact ends_abortMigration s attempt reason answer
  | _ => cases h

end Impl

end FlowOffload

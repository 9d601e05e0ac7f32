import FlowOffload.Ledger.Steps

/-!
# Events of the migration lifecycle

The operations that open, advance and end attempts, each as one event.
-/

namespace FlowOffload

open Foundation
open Std (ExtTreeMap)

namespace Impl

variable {s : Impl}

/-! ## Intent -/

theorem lookup_insertIfNew_getD {κ ν : Type} [Ord κ] [Std.TransOrd κ]
    [Std.LawfulEqOrd κ] [DecidableEq κ] (m : ExtTreeMap κ ν) (k : κ) (v : ν) :
    lookup (m.insertIfNew k v) =
      Function.update (lookup m) k (some ((lookup m k).getD v)) := by
  cases hlookup : lookup m k with
  | none => exact lookup_insertIfNew_of_none m v hlookup
  | some old =>
      rw [lookup_insertIfNew_of_some m hlookup, Option.getD_some, ← hlookup,
        Function.update_eq_self]

theorem ledger_insertAttempt (s : Impl) (k : MigrationAttemptId)
    (record : MigrationRecord) :
    ({ s with migrations := s.migrations.insertIfNew k record } : Impl).ledger =
      { s.ledger with
        attempt := Function.update s.ledger.attempt k
          (some ((s.ledger.attempt k).getD record)) } := by
  unfold ledger
  rw [lookup_insertIfNew_getD]

theorem holdState_eq_ite {flow : FlowId} {descriptor : FlowDescriptor}
    {holder : StateHolder} (h : s.flows[flow]? = some descriptor) :
    (if descriptor.statefulness = .stateful then
      { s with holders := s.holders.insert descriptor.exclusiveStateKey holder }
      else s) = s.holdState flow holder := by
  unfold holdState
  rw [h]

theorem ledger_openAttempt {stored : Authorization}
    {descriptor : FlowDescriptor} {source : Assignment}
    {wanted : MigrationIntent} {contract : MigrationContractId}
    (hflow : s.flows[stored.flow]? = some descriptor) :
    (s.openAttempt stored descriptor source wanted contract).1.ledger =
      (Ledger.Event.issue descriptor source
        (s.openAttempt stored descriptor source wanted contract).2).apply
        s.ledger := by
  have hcount : ∀ (t : Impl) (count : UInt64),
      ({ t with counters.migrationsIssued := count } : Impl).ledger =
        t.ledger := fun _ _ => rfl
  refine (hcount _ _).trans ?_
  refine (congrArg Impl.ledger (holdState_eq_ite (by exact hflow))).trans ?_
  refine (ledger_holdState _ _ _).trans ?_
  rw [ledger_setEffect, ledger_insertAttempt]
  rfl

/-- The destination of an accepted intent is known and current. -/
theorem exists_of_destinationRefusal {flow : FlowDescriptor}
    {source : Assignment} {wanted : MigrationIntent}
    (h : s.destinationRefusal flow source wanted = none) :
    ∃ target, s.ledger.target wanted.destinationTarget = some target ∧
      target.incarnation = wanted.destinationIncarnation ∧
      target.capabilityGeneration =
        wanted.destinationCapabilityGeneration := by
  unfold destinationRefusal at h
  split at h
  · cases h
  · split at h
    · cases h
    · split at h
      · cases h
      next destination hdestination =>
        split at h
        · cases h
        · split at h
          · cases h
          · split at h
            · cases h
            next hincarnation =>
              split at h
              · cases h
              next hcapability =>
                exact ⟨destination.descriptor,
                  ledger_target_of_lookup hdestination,
                  not_not.mp hincarnation, not_not.mp hcapability⟩

theorem covers_of_matchingContract {flow : FlowId}
    {descriptor : FlowDescriptor} {wanted : MigrationIntent}
    {contract : MigrationContract}
    (h : s.matchingContract flow descriptor wanted = some contract) :
    (∃ k, s.ledger.contract k = some contract) ∧ contract.flow = flow ∧
      contract.flowGeneration = descriptor.generation ∧
      contract.destinationTarget = wanted.destinationTarget ∧
      contract.destinationIncarnation = wanted.destinationIncarnation ∧
      contract.destinationCapabilityGeneration =
        wanted.destinationCapabilityGeneration := by
  unfold matchingContract at h
  rw [Option.map_eq_some_iff] at h
  obtain ⟨entry, hfind, rfl⟩ := h
  have hmem := List.mem_of_find?_eq_some hfind
  have hcovers := List.find?_some hfind
  simp only [Bool.and_eq_true, decide_eq_true_eq] at hcovers
  obtain ⟨⟨⟨⟨⟨h1, h2⟩, h3⟩, h4⟩, h5⟩, -⟩ := hcovers
  exact ⟨⟨entry.1, lookup_eq_some_iff_mem_toList.mpr hmem⟩, h1, h2, h3, h4,
    h5⟩

/-- The contract an intent names covers it, and its state is free to move. -/
theorem covered_of_statefulRefusal (hkeyed : s.ledger.Keyed)
    {descriptor : FlowDescriptor} {wanted intent : MigrationIntent}
    {contract : MigrationContractId}
    (h : s.statefulRefusal intent.flow descriptor wanted = .ok contract)
    (hstateful : descriptor.statefulness = .stateful)
    (hcontract : intent.contract = contract)
    (hgeneration : intent.flowGeneration = descriptor.generation)
    (htarget : intent.destinationTarget = wanted.destinationTarget)
    (hincarnation : intent.destinationIncarnation =
      wanted.destinationIncarnation)
    (hcapability : intent.destinationCapabilityGeneration =
      wanted.destinationCapabilityGeneration) :
    Ledger.Covered s.ledger intent ∧
      ∀ holder ∈ s.ledger.holder descriptor.exclusiveStateKey,
        holder.handoffPending = false ∧ holder.flow = intent.flow := by
  unfold statefulRefusal at h
  rw [if_neg (not_not.mpr hstateful)] at h
  split at h
  · cases h
  next found hfound =>
    obtain ⟨⟨k, hk⟩, h1, h2, h3, h4, h5⟩ := covers_of_matchingContract hfound
    split at h
    · cases h
    next hkind =>
      split at h
      · cases h
      next hsafe =>
        split at h
        · cases h
        · have hcovered : contract = found.id →
              Ledger.Covered s.ledger intent := by
            intro hid
            refine ⟨found, ?_, by simpa using hsafe, not_not.mp hkind, h1,
              h2.trans hgeneration.symm, h3.trans htarget.symm,
              h4.trans hincarnation.symm, h5.trans hcapability.symm⟩
            rw [hcontract, hid, hkeyed.contract _ _ hk]
            exact hk
          split at h
          next hnone =>
            refine ⟨hcovered (Except.ok.inj h).symm, ?_⟩
            intro holder hholder
            have hlookup : s.holders[descriptor.exclusiveStateKey]? =
                some holder := hholder
            rw [show s.holders[descriptor.exclusiveStateKey]? = none from
              hnone] at hlookup
            cases hlookup
          next held hheld =>
            split at h
            · cases h
            next hpending =>
              split at h
              · cases h
              next hflow =>
                refine ⟨hcovered (Except.ok.inj h).symm, ?_⟩
                intro holder hholder
                have hlookup : s.holders[descriptor.exclusiveStateKey]? =
                    some holder := hholder
                rw [show s.holders[descriptor.exclusiveStateKey]? =
                  some held from hheld] at hlookup
                cases hlookup
                exact ⟨by simpa using hpending, not_not.mp hflow⟩

theorem steps_issueIntent (hkeyed : s.ledger.Keyed)
    (authorization : AuthorizationId) (wanted : MigrationIntent)
    (answer : Status) :
    s.Steps (.issueIntent authorization wanted answer)
      (s.issueIntent authorization wanted answer).1.ledger := by
  unfold issueIntent
  split
  · exact .stay rfl
  · split
    · exact .stay rfl
    next stored hstored =>
      split
      · exact .stay rfl
      · split
        · exact .stay rfl
        next descriptor hflow =>
          split
          · exact .stay rfl
          · split
            · exact .stay rfl
            next source hsource =>
              split
              · exact .stay rfl
              next hdestination =>
                split
                · exact .stay rfl
                next contract hstateful =>
                  dsimp only
                  rw [ledger_persistThen, ledger_openAttempt hflow]
                  refine .move (.issue descriptor source (s.openAttempt stored
                    descriptor source wanted contract).2)
                    (.issue hstored rfl rfl ⟨rfl, rfl, rfl⟩) ?_ rfl
                  exact ⟨rfl, hflow, rfl, hsource, ⟨rfl, rfl, rfl⟩, rfl,
                    exists_of_destinationRefusal hdestination,
                    fun h => covered_of_statefulRefusal hkeyed hstateful h
                      rfl rfl rfl rfl rfl⟩

/-! ## Acknowledgement -/

theorem of_incarnationRefusal {record : MigrationRecord}
    {ack : MigrationAcknowledgement}
    (h : s.incarnationRefusal record ack = none) :
    record.inFlight = true ∧ ack.epoch = record.intent.epoch ∧
      ack.boot = record.intent.boot := by
  unfold incarnationRefusal at h
  rw [MigrationRecord.inFlight_iff]
  grind

theorem of_partyRefusal {intent : MigrationIntent} {isSource : Bool}
    {ack : MigrationAcknowledgement}
    (h : partyRefusal intent isSource ack = none) :
    (ack.target, ack.incarnation, ack.capabilityGeneration) =
      expectedParty intent isSource := by
  unfold partyRefusal at h
  dsimp only at h
  generalize expectedParty intent isSource = party at h ⊢
  obtain ⟨target, incarnation, capability⟩ := party
  grind

theorem intent_storeAcknowledgement (record : MigrationRecord)
    (isSource : Bool) (ack : MigrationAcknowledgement) :
    (storeAcknowledgement record isSource ack).intent = record.intent := by
  cases isSource <;> rfl

theorem ledger_refuseHandoff {record : MigrationRecord} {isSource : Bool}
    {ack : MigrationAcknowledgement}
    (hattempt : record.intent.attempt = ack.attempt) :
    (s.refuseHandoff (storeAcknowledgement record isSource ack) ack).ledger =
      (Ledger.Event.decline record isSource ack).apply s.ledger := by
  unfold refuseHandoff
  cases isSource with
  | true =>
      rw [ledger_clearHandoff, ledger_setAttempt _ (by exact hattempt)]
      rfl
  | false =>
      rw [ledger_clearHandoff, ledger_setAttempt _ (by exact hattempt)]
      rfl

theorem steps_acceptAcknowledgement {record : MigrationRecord}
    {isSource : Bool} {ack : MigrationAcknowledgement} {answer : Status}
    (hrecord : s.ledger.attempt record.intent.attempt = some record)
    (hattempt : record.intent.attempt = ack.attempt)
    (hrefusal : s.incarnationRefusal record ack = none)
    (hparty : partyRefusal record.intent isSource ack = none)
    (hphase : record.intent.phase =
      if isSource then .intentIssued else .sourceAcknowledged)
    (hends : ack.accepted = false →
      s.ends (.acknowledge ack answer) record = true) :
    s.Steps (.acknowledge ack answer)
      (s.acceptAcknowledgement record isSource ack answer).1.ledger := by
  obtain ⟨hflight, hepoch, hboot⟩ := of_incarnationRefusal hrefusal
  unfold acceptAcknowledgement
  dsimp only
  split
  next hnegative =>
    rw [ledger_persistedAbort, ledger_refuseHandoff hattempt]
    exact .move _ (.decline hattempt (hends (by simpa using hnegative)))
      ⟨hrecord, hflight⟩ rfl
  next hpositive =>
    rw [ledger_persistThen, ledger_setEffect]
    rw [ledger_setAttempt _ (by
      rw [← hattempt, ← intent_storeAcknowledgement record isSource ack])]
    have haccepted : ack.accepted = true := by simpa using hpositive
    exact .move _ (.acknowledge hattempt haccepted hrefusal)
      ⟨hrecord, .acknowledged hphase haccepted (of_partyRefusal hparty) hepoch
        hboot⟩ rfl

theorem steps_acknowledge (hkeyed : s.ledger.Keyed)
    (ack : MigrationAcknowledgement) (answer : Status) :
    s.Steps (.acknowledge ack answer)
      (s.acknowledge ack answer).1.ledger := by
  unfold acknowledge
  split
  · exact .stay rfl
  next hopen =>
    split
    · exact .stay rfl
    next record hrecord =>
      have hattempt := hkeyed.attempt _ _ hrecord
      split
      · exact .stay rfl
      next hrefusal =>
        split
        · exact .stay rfl
        next hactor =>
          dsimp only
          split
          · exact .stay rfl
          next hparty =>
            split
            · split <;> exact .stay rfl
            next hfirst =>
              generalize hexpected : (if decide (ack.actor = .source) = true
                then MigrationPhase.intentIssued
                else MigrationPhase.sourceAcknowledged) = expected
              split
              · exact .stay rfl
              next hphase =>
                have hreached := (not_not.mp hphase).trans hexpected.symm
                refine steps_acceptAcknowledgement ?_ hattempt hrefusal hparty
                  hreached ?_
                · rw [hattempt]
                  exact hrecord
                · intro hnegative
                  simp only [ends, declines, hnegative, hrefusal,
                    hparty, hfirst, hattempt]
                  simp_all

/-! ## Application and observation -/

theorem progress_of_effectRefusal {record : MigrationRecord}
    {effect : AppliedEffect} (h : s.effectRefusal record effect = none) :
    Ledger.Progress record
      { record with
        applied := effect
        effectApplied := true
        intent.phase := .effectApplied } .applied := by
  unfold effectRefusal at h
  dsimp only at h
  apply Ledger.Progress.applied <;> grind

theorem ledger_applyEffect {record : MigrationRecord} {effect : AppliedEffect}
    (hattempt : record.intent.attempt = effect.attempt) :
    (s.applyEffect record effect).ledger =
      (Ledger.Event.progress record { record with
        applied := effect
        effectApplied := true
        intent.phase := .effectApplied } .applied).apply s.ledger := by
  have hcount : ∀ (t : Impl) (count : UInt64),
      ({ t with counters.effectsApplied := count } : Impl).ledger =
        t.ledger := fun _ _ => rfl
  refine (hcount _ _).trans ?_
  rw [ledger_setEffect, ledger_setAttempt _ (by exact hattempt)]
  rfl

theorem steps_reportApplied (hkeyed : s.ledger.Keyed)
    (effect : AppliedEffect) (answer : Status) :
    s.Steps (.reportApplied effect answer)
      (s.reportApplied effect answer).1.ledger := by
  unfold reportApplied
  split
  · exact .stay rfl
  · split
    · exact .stay rfl
    next record hrecord =>
      have hattempt := hkeyed.attempt _ _ hrecord
      split
      · exact .stay rfl
      · split
        · exact .stay rfl
        · split
          · split <;> exact .stay rfl
          · split
            · exact .stay rfl
            next hrefusal =>
              rw [ledger_persistThen, ledger_applyEffect hattempt]
              refine .move _ (.apply hattempt hrefusal)
                ⟨?_, progress_of_effectRefusal hrefusal⟩ rfl
              rw [hattempt]
              exact hrecord

/-- The attempt an observation is about, when it is the only one in flight. -/
theorem unique_of_inFlightAttempts (hkeyed : s.ledger.Keyed) {flow : FlowId}
    {attempt : MigrationAttemptId}
    (h : s.inFlightAttempts flow = [attempt]) :
    ∃ record, s.ledger.attempt attempt = some record ∧
      record.inFlight = true ∧ record.intent.flow = flow ∧
      ∀ k other, s.ledger.attempt k = some other → other.inFlight = true →
        other.intent.flow = flow → other = record := by
  have hmem : ∀ (k : MigrationAttemptId) (other : MigrationRecord),
      s.ledger.attempt k = some other → other.inFlight = true →
      other.intent.flow = flow → other.intent.attempt = attempt := by
    intro k other hother hflight hflow
    have hlist : other.intent.attempt ∈ s.inFlightAttempts flow := by
      unfold inFlightAttempts
      refine List.mem_filterMap.mpr ⟨(k, other),
        lookup_eq_some_iff_mem_toList.mp hother, ?_⟩
      simp [hflight, hflow]
    rw [h] at hlist
    exact List.mem_singleton.mp hlist
  have hsingle : attempt ∈ s.inFlightAttempts flow := by
    rw [h]
    exact List.mem_singleton_self attempt
  obtain ⟨entry, hentry, hsome⟩ := List.mem_filterMap.mp hsingle
  split at hsome
  next hselected =>
    simp only [Bool.and_eq_true, decide_eq_true_eq] at hselected
    have hlookup : s.ledger.attempt entry.1 = some entry.2 :=
      lookup_eq_some_iff_mem_toList.mpr hentry
    have hkey : entry.1 = attempt := by
      rw [← hkeyed.attempt _ _ hlookup]
      exact Option.some.inj hsome
    rw [hkey] at hlookup
    refine ⟨entry.2, hlookup, hselected.2, hselected.1, ?_⟩
    intro k other hother hflight hflow
    have hk : k = attempt := by
      rw [← hkeyed.attempt _ _ hother]
      exact hmem k other hother hflight hflow
    rw [hk, hlookup] at hother
    exact (Option.some.inj hother).symm
  next => cases hsome

theorem ledger_completeAttempt {attempt : MigrationAttemptId}
    {record : MigrationRecord} {observation : EffectObservation}
    (hattempt : record.intent.attempt = attempt) :
    (s.completeAttempt attempt record observation).ledger =
      (Ledger.Event.complete record observation s.nextAssignment).apply
        s.ledger := by
  have hcount : ∀ (t : Impl) (verified completed : UInt64),
      ({ t with
        counters.effectsVerified := verified
        counters.migrationsCompleted := completed } : Impl).ledger =
        t.ledger := fun _ _ _ => rfl
  refine (ledger_recomputeScheduledLocked _).trans ?_
  refine (hcount _ _ _).trans ?_
  rw [ledger_releaseFence, ledger_moveAssignment,
    ledger_setAttempt _ (by exact hattempt)]
  rfl

theorem of_observationRefusal {record : MigrationRecord}
    {observation : EffectObservation}
    (h : observationRefusal record observation = none) :
    record.effectApplied = true ∧
      observation.effectDigest = record.applied.effectDigest := by
  unfold observationRefusal at h
  rw [Option.or_eq_none_iff, Option.or_eq_none_iff] at h
  obtain ⟨-, -, h⟩ := h
  unfold verificationRefusal at h
  grind

theorem steps_observe (hkeyed : s.ledger.Keyed)
    (observation : EffectObservation) (answer : Status) :
    s.Steps (.observe observation answer)
      (s.observe observation answer).1.ledger := by
  unfold observe
  split
  · exact .stay rfl
  · split
    · exact .stay rfl
    · split
      · exact .stay rfl
      next attempt hattempts =>
        obtain ⟨record, hrecord, hflight, hflow, hunique⟩ :=
          unique_of_inFlightAttempts hkeyed hattempts
        have hkey := hkeyed.attempt _ _ hrecord
        have hgetD : s.migrations.getD attempt {} = record := by
          have hlookup : s.migrations[attempt]? = some record := hrecord
          rw [ExtTreeMap.getD_eq_getD_getElem?, hlookup]
          rfl
        dsimp only
        rw [hgetD]
        split
        · exact .stay rfl
        next hrefusal =>
          obtain ⟨happlied, hdigest⟩ := of_observationRefusal hrefusal
          rw [ledger_persistThen, ledger_completeAttempt hkey]
          refine .move _ (.complete hflow hrefusal)
            ⟨?_, hflight, happlied, hdigest, ?_⟩ rfl
          · rw [hkey]
            exact hrecord
          · rw [hflow]
            exact hunique
      · exact .stay rfl

theorem ledger_abortAttempt {attempt : MigrationAttemptId}
    {record : MigrationRecord} {reason : ReasonCode}
    (hattempt : record.intent.attempt = attempt) :
    (s.abortAttempt attempt record reason).ledger =
      (Ledger.Event.abort record reason).apply s.ledger := by
  unfold abortAttempt
  dsimp only
  rw [ledger_setEffect, ledger_releaseFence, ledger_clearHandoff,
    ledger_setAttempt _ (by exact hattempt)]
  subst hattempt
  rfl

theorem steps_abortMigration (hkeyed : s.ledger.Keyed)
    (attempt : MigrationAttemptId) (reason : ReasonCode) (answer : Status) :
    s.Steps (.abortMigration attempt reason answer)
      (s.abortMigration attempt reason answer).1.ledger := by
  unfold abortMigration
  split
  · exact .stay rfl
  · split
    · exact .stay rfl
    next record hrecord =>
      have hattempt := hkeyed.attempt _ _ hrecord
      split
      · exact .stay rfl
      next hcompleted =>
        split
        · exact .stay rfl
        next hended =>
          rw [ledger_persistThen, ledger_abortAttempt hattempt]
          refine .move _ (.abort hattempt) ⟨?_, ?_⟩ rfl
          · rw [hattempt]
            exact hrecord
          · rw [MigrationRecord.inFlight_iff]
            grind

end Impl

end FlowOffload

import FlowOffload.Laws.Attempts

/-!
# Phases and their evidence

The phase of an attempt can be recomputed from the messages its record keeps,
and an assignment is verified only by a completed attempt.  Both hold in every
reachable state, whatever the inputs.  A record that has ended is final within
one incarnation of the coordinator; opening replaces the records by those of
the state the store recovered.
-/

namespace FlowOffload

open Foundation

/-! ## Evidence -/

/-- An accepted acknowledgement of the named party, under one boot and one
epoch of the coordinator. -/
structure Acknowledges
    (party : TargetId × TargetIncarnation × CapabilityGeneration)
    (epoch : CoordinatorEpoch) (boot : BootId)
    (ack : MigrationAcknowledgement) : Prop where
  accepted : ack.accepted = true
  target : ack.target = party.1
  incarnation : ack.incarnation = party.2.1
  capability : ack.capabilityGeneration = party.2.2
  epoch : ack.epoch = epoch
  boot : ack.boot = boot

namespace MigrationRecord

def SourceAcked (r : MigrationRecord) : Prop :=
  r.sourceAcknowledged = true ∧ Acknowledges
    (r.intent.sourceTarget, r.intent.sourceIncarnation,
      r.intent.sourceCapabilityGeneration) r.intent.epoch r.intent.boot
    r.sourceAcknowledgement

def DestinationAcked (r : MigrationRecord) : Prop :=
  r.destinationAcknowledged = true ∧ Acknowledges
    (r.intent.destinationTarget, r.intent.destinationIncarnation,
      r.intent.destinationCapabilityGeneration) r.intent.epoch r.intent.boot
    r.destinationAcknowledgement

def Applied (r : MigrationRecord) : Prop :=
  r.effectApplied = true ∧
    r.applied.target = r.intent.destinationTarget ∧
    r.applied.incarnation = r.intent.destinationIncarnation ∧
    r.applied.capabilityGeneration =
      r.intent.destinationCapabilityGeneration ∧
    r.applied.effectDigest.isZero = false

/-- The evidence that each phase stands for, and nothing beyond it. -/
def Justified (r : MigrationRecord) : Prop :=
  match r.intent.phase with
  | .intentIssued =>
      r.sourceAcknowledged = false ∧ r.destinationAcknowledged = false ∧
        r.effectApplied = false ∧ r.effectVerified = false
  | .sourceAcknowledged =>
      r.SourceAcked ∧ r.destinationAcknowledged = false ∧
        r.effectApplied = false ∧ r.effectVerified = false
  | .destinationAcknowledged =>
      r.SourceAcked ∧ r.DestinationAcked ∧ r.effectApplied = false ∧
        r.effectVerified = false
  | .effectApplied =>
      r.SourceAcked ∧ r.DestinationAcked ∧ r.Applied ∧
        r.effectVerified = false
  | .completed =>
      r.SourceAcked ∧ r.DestinationAcked ∧ r.Applied ∧
        r.effectVerified = true ∧ r.verifiedDigest = r.applied.effectDigest
  | .aborted | .fenced => True
  -- no operation of the engine stores a record in one of these
  | .unknown | .planned | .effectVerified => False

theorem justified_of_ended {r : MigrationRecord}
    (h : r.intent.phase = .aborted ∨ r.intent.phase = .fenced) :
    r.Justified := by
  unfold Justified
  rcases h with h | h <;> rw [h] <;> trivial

/-- Within a justified record the flag alone tells the phase. -/
theorem Justified.phase_of_applied {r : MigrationRecord} (h : r.Justified)
    (hflight : r.inFlight = true) (happlied : r.effectApplied = true) :
    r.intent.phase = .effectApplied := by
  unfold Justified at h
  rw [inFlight_iff] at hflight
  cases hphase : r.intent.phase <;> simp_all

theorem justified_completedRecord {r : MigrationRecord} (h : r.Justified)
    (hflight : r.inFlight = true) (happlied : r.effectApplied = true)
    {observation : EffectObservation}
    (hdigest : observation.effectDigest = r.applied.effectDigest) :
    (Impl.completedRecord r observation).Justified := by
  have hphase := h.phase_of_applied hflight happlied
  unfold Justified at h
  rw [hphase] at h
  exact ⟨h.1, h.2.1, h.2.2.1, rfl, hdigest⟩

theorem acknowledges_of_party {intent : MigrationIntent} {isSource : Bool}
    {ack : MigrationAcknowledgement} (haccepted : ack.accepted = true)
    (hparty : (ack.target, ack.incarnation, ack.capabilityGeneration) =
      Impl.expectedParty intent isSource)
    (hepoch : ack.epoch = intent.epoch) (hboot : ack.boot = intent.boot) :
    Acknowledges (Impl.expectedParty intent isSource) intent.epoch intent.boot
      ack := by
  rw [← hparty]
  exact ⟨haccepted, rfl, rfl, rfl, hepoch, hboot⟩

end MigrationRecord

namespace Ledger

variable {l : Ledger} {e : Event}

theorem Progress.justified {record advanced : MigrationRecord}
    {effect : EffectState} (h : Progress record advanced effect)
    (hrecord : record.Justified) : advanced.Justified := by
  unfold MigrationRecord.Justified at hrecord
  cases h with
  | @acknowledged isSource ack phase accepted party epoch boot =>
      have hack := MigrationRecord.acknowledges_of_party accepted party epoch
        boot
      cases isSource with
      | true =>
          rw [show record.intent.phase = .intentIssued from phase] at hrecord
          exact ⟨⟨rfl, hack⟩, hrecord.2⟩
      | false =>
          rw [show record.intent.phase = .sourceAcknowledged from phase]
            at hrecord
          exact ⟨hrecord.1, ⟨rfl, hack⟩, hrecord.2.2⟩
  | @applied effect phase target incarnation capability digest =>
      rw [phase] at hrecord
      exact ⟨hrecord.1, hrecord.2.1,
        ⟨rfl, target, incarnation, capability, digest⟩, hrecord.2.2.2⟩

theorem Progress.effect_ne {record advanced : MigrationRecord}
    {effect : EffectState} (h : Progress record advanced effect) :
    effect ≠ .verified := by
  cases h <;> decide

/-- The completed attempt that verified a placement. -/
def VerifiedBy (l : Ledger) (flow : FlowId) (a : Assignment)
    (record : MigrationRecord) : Prop :=
  (∃ k, l.attempt k = some record) ∧ record.intent.phase = .completed ∧
    record.intent.flow = flow ∧ record.intent.destinationTarget = a.target ∧
    record.intent.destinationIncarnation = a.incarnation ∧
    record.intent.destinationCapabilityGeneration = a.capabilityGeneration

structure Evidenced (l : Ledger) : Prop where
  justified : ∀ k record, l.attempt k = some record → record.Justified
  verified : ∀ flow a, l.assignment flow = some a → a.effect = .verified →
    ∃ record, VerifiedBy l flow a record

theorem verified_of_setEffect {flow k : FlowId} {effect : EffectState}
    {a : Assignment} (hne : effect ≠ .verified)
    (h : (l.setEffect flow effect).assignment k = some a)
    (hverified : a.effect = .verified) : l.assignment k = some a := by
  by_cases hk : k = flow
  · subst hk
    simp only [setEffect, Function.update_self, Option.map_eq_some_iff] at h
    obtain ⟨old, -, rfl⟩ := h
    exact absurd hverified hne
  · simpa only [setEffect, Function.update_of_ne hk] using h

theorem verified_of_demoteOn {target : TargetId} {k : FlowId}
    {a : Assignment} (h : (l.demoteOn target).assignment k = some a)
    (hverified : a.effect = .verified) : l.assignment k = some a := by
  simp only [demoteOn, Option.map_eq_some_iff] at h
  obtain ⟨old, hold, rfl⟩ := h
  unfold demote at hverified ⊢
  split at hverified
  · cases hverified
  next hne =>
    rw [if_neg hne]
    exact hold

/-- Only a completion makes a placement verified. -/
theorem verified_apply (henabled : e.enabled l) {k : FlowId} {a : Assignment}
    (h : (e.apply l).assignment k = some a)
    (hverified : a.effect = .verified) :
    l.assignment k = some a ∨
      ∃ record observation next old,
        e = .complete record observation next ∧ record.intent.flow = k ∧
        a = Impl.completedAssignment record.intent observation next old := by
  cases e with
  | supersede old flow =>
      exact Or.inl (assignment_release old .rejectedStaleFlowGeneration h).1
  | remove old flow =>
      exact Or.inl (assignment_release old .rejectedUnknownFlow h).1
  | advanceCapability target =>
      exact Or.inl (verified_of_demoteOn h hverified)
  | advanceIncarnation target =>
      exact Or.inl (verified_of_demoteOn h hverified)
  | retire target => exact Or.inl (verified_of_demoteOn h hverified)
  | place batch =>
      rcases assignment_foldl_commit h with ⟨hmem, -⟩ | ⟨hold, -⟩
      · rw [(henabled.2 a hmem).effect] at hverified
        cases hverified
      · exact Or.inl hold
  | issue descriptor source intent =>
      simp only [Event.apply, assignment_hold] at h
      exact Or.inl (verified_of_setEffect (by decide) h hverified)
  | progress record advanced effect =>
      exact Or.inl (verified_of_setEffect henabled.2.effect_ne h hverified)
  | complete record observation next =>
      simp only [Event.apply, assignment_move] at h
      by_cases hk : k = record.intent.flow
      · subst hk
        rw [Function.update_self, Option.map_eq_some_iff] at h
        obtain ⟨old, -, rfl⟩ := h
        exact Or.inr ⟨record, observation, next, old, rfl, rfl, rfl⟩
      · rw [Function.update_of_ne hk] at h
        exact Or.inl h
  | abort record reason =>
      exact Or.inl (verified_of_setEffect (by decide) h hverified)
  | _ => exact Or.inl h

theorem Evidenced.apply (hwf : WellFormed l) (henabled : e.enabled l)
    (h : Evidenced l) : Evidenced (e.apply l) where
  justified := by
    intro k record hrecord
    rcases attempt_apply henabled hrecord with
      hold | ⟨old, hold, hflight, hadvances⟩ |
        ⟨descriptor, source, intent, rfl, -, -, rfl⟩
    · exact h.justified k record hold
    · cases hadvances with
      | ended hterminal => exact MigrationRecord.justified_of_ended hterminal
      | progress event =>
          subst event
          exact henabled.2.justified (h.justified k old hold)
      | @declined isSource ack event =>
          refine MigrationRecord.justified_of_ended (Or.inl ?_)
          cases isSource <;> rfl
      | completed event =>
          subst event
          exact MigrationRecord.justified_completedRecord
            (h.justified k old hold) hflight henabled.2.2.1 henabled.2.2.2.1
    · have hphase : intent.phase = .intentIssued := henabled.1
      unfold MigrationRecord.Justified
      rw [hphase]
      exact ⟨rfl, rfl, rfl, rfl⟩
  verified := by
    intro flow a ha hverified
    rcases verified_apply henabled ha hverified with
      hold | ⟨record, observation, next, old, rfl, rfl, rfl⟩
    · obtain ⟨record, ⟨k, hk⟩, hphase, hrest⟩ :=
        h.verified flow a hold hverified
      have hended : record.inFlight = false := by
        simp [MigrationRecord.inFlight, hphase, MigrationPhase.isTerminal]
      exact ⟨record, ⟨k, attempt_apply_of_ended henabled hk hended⟩, hphase,
        hrest⟩
    · exact ⟨Impl.completedRecord record observation,
        ⟨_, attempt_complete hwf.toKeyed henabled.1 observation next⟩, rfl,
        rfl, rfl, rfl, rfl⟩

theorem Evidenced.restart {l' : Ledger} (h : Evidenced l)
    (hrestart : Restarted l l') : Evidenced l' where
  justified := by
    intro k record hrecord
    rw [hrestart.attempt, Option.map_eq_some_iff] at hrecord
    obtain ⟨old, hold, rfl⟩ := hrecord
    unfold Impl.endAttempt
    split
    · exact MigrationRecord.justified_of_ended (Or.inr rfl)
    · exact h.justified k old hold
  verified := by
    intro flow a ha hverified
    rw [hrestart.assignment, Option.map_eq_some_iff] at ha
    obtain ⟨old, hold, rfl⟩ := ha
    unfold Impl.durableAssignment at hverified ⊢
    split at hverified
    · cases hverified
    next hkept =>
      rw [if_neg hkept]
      obtain ⟨record, ⟨k, hk⟩, hphase, hrest⟩ :=
        h.verified flow old hold hverified
      refine ⟨record, ⟨k, ?_⟩, hphase, hrest⟩
      rw [hrestart.attempt, hk]
      simp [Impl.endAttempt, MigrationRecord.inFlight, hphase,
        MigrationPhase.isTerminal]

end Ledger

/-! ## Runs -/

namespace Impl

variable {s : Impl}

theorem law_evidenced (guard : Impl → Op → Prop) :
    Law guard Ledger.Evidenced where
  empty := by
    constructor
    · intro k record h
      cases h
    · intro flow a h
      cases h
  event := fun _ _ _ hwf hlaw _ _ henabled => hlaw.apply hwf henabled
  restart := fun _ _ _ hlaw hrestart => hlaw.restart hrestart

/-- Every phase is justified and every verified placement was completed. -/
def PhasesEvidenced (s : Impl) : Prop :=
  (∀ k record, lookup s.migrations k = some record → record.Justified) ∧
    ∀ flow a, lookup s.assignments flow = some a → a.effect = .verified →
      ∃ k record, lookup s.migrations k = some record ∧
        record.intent.phase = .completed ∧ record.intent.flow = flow ∧
        record.intent.destinationTarget = a.target ∧
        record.intent.destinationIncarnation = a.incarnation ∧
        record.intent.destinationCapabilityGeneration =
          a.capabilityGeneration

/-- The operation leaves the phase of every ended attempt as it is. -/
def KeepsEnded (s : Impl) (op : Op) : Prop :=
  ∀ k record after, lookup s.migrations k = some record →
    record.inFlight = false →
    lookup (s.step op).migrations k = some after →
    after.intent.phase = record.intent.phase

/-- The records after an opening are the old ones, or those of the recovered
state with only the attempts in flight changed. -/
def KeepsRecovered (s : Impl) (op : Op) (state : DurableState) : Prop :=
  ∀ k after, lookup (s.step op).migrations k = some after →
    lookup s.migrations k = some after ∨
      ∃ record ∈ state.migrations, record.intent.attempt = k ∧
        (after = record ∨
          record.inFlight = true ∧ after.intent.phase = .fenced)

theorem phasesEvidenced_of_evidenced (h : s.ledger.Evidenced) :
    s.PhasesEvidenced := by
  refine ⟨h.justified, ?_⟩
  intro flow a ha hverified
  obtain ⟨record, ⟨k, hk⟩, hrest⟩ := h.verified flow a ha hverified
  exact ⟨k, record, hk, hrest⟩

theorem restored_attempt_mem {state : DurableState} {k : MigrationAttemptId}
    {after : MigrationRecord}
    (h : (restoredLedger state).attempt k = some after) :
    ∃ record ∈ state.migrations, record.intent.attempt = k ∧
      (after = record ∨
        record.inFlight = true ∧ after.intent.phase = .fenced) := by
  have hmap : lookup (Std.ExtTreeMap.map (fun _ record =>
      endAttempt (fun _ => true) .fenced .rejectedFencedByRestart record)
      (indexBy (fun record => record.intent.attempt) state.migrations)) k =
        some after := h
  rw [lookup_map, Option.map_eq_some_iff] at hmap
  obtain ⟨record, hrecord, rfl⟩ := hmap
  obtain ⟨hmem, hkey⟩ := mem_of_lookup_indexBy hrecord
  refine ⟨record, hmem, hkey, ?_⟩
  unfold endAttempt
  split
  next hended =>
    exact Or.inr ⟨by simpa using hended, rfl⟩
  next => exact Or.inl rfl

theorem keepsRecovered {op : Op} {state : DurableState} (hrecovered : op.recovered = some state) :
    s.KeepsRecovered op state := by
  intro k after hafter
  cases op with
  | openEngine opening answer =>
      have hattempt : (s.openEngine opening answer).1.ledger.attempt k =
          some after := hafter
      rcases ledger_openEngine s opening answer with
        heq | ⟨found, hfound, heq⟩
      · rw [heq] at hattempt
        exact Or.inl hattempt
      · have hsame : some found = some state := hfound.symm.trans hrecovered
        cases hsame
        rw [heq] at hattempt
        exact Or.inr (restored_attempt_mem hattempt)
  | _ => cases hrecovered

/--
Phases are justified in every reachable state, an operation that recovers no
state leaves ended attempts alone, and an opening keeps the ended attempts of
the state it recovers.
-/
theorem phases_are_justified (config : EngineConfig) (inputs : List Op)
    (h : engine.Admits (fun _ _ => True) (init config []) inputs) :
    (engine.run (init config []) inputs).PhasesEvidenced ∧
      ∀ op, (op.recovered = none →
          (engine.run (init config []) inputs).KeepsEnded op) ∧
        ∀ state, op.recovered = some state →
          (engine.run (init config []) inputs).KeepsRecovered op state := by
  have hkeyed := (wellFormed_run h).toKeyed
  refine ⟨phasesEvidenced_of_evidenced ((law_evidenced _).run h), ?_⟩
  intro op
  refine ⟨?_, fun state hstate => keepsRecovered hstate⟩
  intro hnone k record after hrecord hended hafter
  by_cases hrestart : ∃ config, op = .restart config
  · obtain ⟨fresh, rfl⟩ := hrestart
    have hempty : lookup (∅ : Std.ExtTreeMap MigrationAttemptId
        MigrationRecord) k = some after := hafter
    simp at hempty
  · have hkept := migrations_step_of_ended hkeyed op hnone
      (fun fresh heq => hrestart ⟨fresh, heq⟩) hrecord hended
    rw [hkept] at hafter
    cases hafter
    rfl

/-- A store that commits up to the applied effect and then fails. -/
def durableConfig : EngineConfig :=
  { sampleConfig with persistenceEnabled := true }

def durableHandoff : List Op :=
  [.openEngine { report := { usable := true } } committed] ++
    (plainIntent true).tail ++ plainHandoff

def failedCommit : Status := .refused .persistCommitFailed

/-- The completion and the shutdown after it do not reach the disk. -/
def unsavedCompletion : List Op :=
  durableHandoff ++ [.observe (sampleObservation 1 2) failedCommit,
    .shutdown failedCommit]

/-- The last state that was committed, found when the engine opens again. -/
def reopening : Op :=
  .openEngine
    { report := { usable := true }
      state := (engine.run (init durableConfig []) durableHandoff).submitted.head? }
    committed

/-- Opening goes back to the last committed state and fences the attempt that
was completed in memory. -/
theorem unsaved_completion_is_fenced :
    engine.Admits (fun _ _ => True) (init durableConfig [])
        (unsavedCompletion ++ [reopening]) ∧
      ¬ (engine.run (init durableConfig []) unsavedCompletion).KeepsEnded
        reopening := by
  have hall : engine.Admits (fun _ _ => True) (init durableConfig [])
        (unsavedCompletion ++ [reopening]) ∧
      ((engine.run (init durableConfig [])
        unsavedCompletion).migrations[(⟨1⟩ : MigrationAttemptId)]?).map
        (fun record => (record.inFlight, record.intent.phase)) =
          some (false, .completed) ∧
      (((engine.run (init durableConfig []) unsavedCompletion).step
        reopening).migrations[(⟨1⟩ : MigrationAttemptId)]?).map
        (fun record => record.intent.phase) = some .fenced := by
    decide +kernel
  obtain ⟨hadmits, hbefore, hafter⟩ := hall
  refine ⟨hadmits, ?_⟩
  intro h
  obtain ⟨record, hrecord, hfields⟩ := Option.map_eq_some_iff.mp hbefore
  obtain ⟨after, hstep, hphase⟩ := Option.map_eq_some_iff.mp hafter
  rw [Prod.mk.injEq] at hfields
  have hsame := h ⟨1⟩ record after hrecord hfields.1 hstep
  rw [hphase, hfields.2] at hsame
  cases hsame

/-- The same run, with every state evidenced before the engine reopens. -/
theorem unsaved_completion_is_justified :
    engine.Admits (fun _ _ => True) (init durableConfig [])
        unsavedCompletion ∧
      (engine.run (init durableConfig []) unsavedCompletion).PhasesEvidenced ∧
      ∀ op, (op.recovered = none →
          (engine.run (init durableConfig []) unsavedCompletion).KeepsEnded
            op) ∧
        ∀ state, op.recovered = some state →
          (engine.run (init durableConfig [])
            unsavedCompletion).KeepsRecovered op state :=
  ⟨by decide +kernel,
    phases_are_justified durableConfig _ (by decide +kernel)⟩

end Impl

end FlowOffload

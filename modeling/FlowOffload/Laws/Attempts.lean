import FlowOffload.Laws.Exclusive

/-!
# Attempts in flight

Two laws about the attempts of a flow: there is at most one, and it starts
from the placement the flow has.  The first rests on the pending flag of the
holder, which only stateful flows have and which a new placement clears; the
second on the placement itself, which a new placement replaces.
-/

namespace FlowOffload

open Foundation

namespace Ledger

variable {l : Ledger} {e : Event}

/-- No attempt of the flow is in flight. -/
def Idle (l : Ledger) (flow : FlowId) : Prop :=
  ∀ k record, l.attempt k = some record → record.inFlight = true →
    record.intent.flow ≠ flow

/-- The flow of an attempt in flight was registered as it is before. -/
theorem claims_of_inFlight_apply (hwf : WellFormed l)
    (henabled : e.enabled l) {k : MigrationAttemptId}
    {record : MigrationRecord} (hrecord : (e.apply l).attempt k = some record)
    (hflight : record.inFlight = true) {key : ExclusiveStateKeyId}
    (h : (e.apply l).Claims record.intent.flow key) :
    l.Claims record.intent.flow key := by
  obtain ⟨a, ha⟩ := ((hwf.apply henabled).backed k record hrecord
    hflight).placed
  exact claims_of_apply hwf henabled h ha

/-- The attempt that an observation completes. -/
theorem attempt_complete (hkeyed : l.Keyed) {k : MigrationAttemptId}
    {record : MigrationRecord} (h : l.attempt k = some record)
    (observation : EffectObservation) (next : UInt64) :
    ((Event.complete record observation next).apply l).attempt k =
      some (Impl.completedRecord record observation) := by
  have hk := hkeyed.attempt k record h
  subst hk
  simp only [Event.apply, attempt_move]
  exact Function.update_self _ _ _

/-! ## One attempt -/

/-- The holder of an attempt's state waits for that attempt. -/
def Awaits (l : Ledger) (k : MigrationAttemptId) (record : MigrationRecord)
    (key : ExclusiveStateKeyId) : Prop :=
  ∃ holder, l.holder key = some holder ∧
    holder.flow = record.intent.flow ∧ holder.handoffPending = true ∧
    holder.pendingAttempt = k ∧ holder.target = record.intent.sourceTarget

structure Single (l : Ledger) : Prop where
  awaits : ∀ k record key, l.attempt k = some record →
    record.inFlight = true → l.Claims record.intent.flow key →
    Awaits l k record key
  unique : ∀ k j record other, l.attempt k = some record →
    l.attempt j = some other → record.inFlight = true →
    other.inFlight = true → record.intent.flow = other.intent.flow → k = j

/-- A stateful flow is placed only while idle, and so is an intent issued for
a flow that is not stateful. -/
def Event.Undisturbing (l : Ledger) : Event → Prop
  | .place batch => ∀ a ∈ batch, ∀ key, l.Claims a.flow key → l.Idle a.flow
  | .issue descriptor _ intent =>
      descriptor.statefulness ≠ .stateful → l.Idle intent.flow
  | _ => True

/-- Nothing writes the holder of a state that an old attempt is moving. -/
theorem Single.not_writes (h : Single l) (henabled : e.enabled l)
    (hundisturbing : e.Undisturbing l) {k : MigrationAttemptId}
    {record : MigrationRecord} (hrecord : l.attempt k = some record)
    (hflight : record.inFlight = true) {key : ExclusiveStateKeyId}
    (hclaims : l.Claims record.intent.flow key) {flow : FlowId}
    {written : StateHolder} (hwrites : e.Writes l flow written)
    (hflow : l.Claims flow key) :
    ∃ observation next, e = .complete record observation next := by
  obtain ⟨holder, hholder, hholder_flow, hpending, -, -⟩ :=
    h.awaits k record key hrecord hflight hclaims
  cases hwrites with
  | @place batch a hmem =>
      have hsame := (henabled.2 a hmem).holder_flow hflow hholder
      exact absurd (hholder_flow.symm.trans hsame)
        (hundisturbing a hmem key hflow k record hrecord hflight)
  | @issue descriptor source intent =>
      obtain ⟨-, hregistered, -, -, -, -, -, hstateful⟩ := henabled
      obtain ⟨claimed, hclaimed, hkind, rfl⟩ := hflow
      rw [hregistered] at hclaimed
      cases hclaimed
      have hfree := ((hstateful hkind).2 holder hholder).1
      rw [hpending] at hfree
      cases hfree
  | @complete completed observation next previous _ =>
      obtain ⟨found, hfound, hfound_flow, -⟩ := h.awaits _ completed key
        henabled.1 henabled.2.1 hflow
      rw [hholder] at hfound
      cases hfound
      have heq := henabled.2.2.2.2 k record hrecord hflight
        (hholder_flow.symm.trans hfound_flow)
      subst heq
      exact ⟨observation, next, rfl⟩

/-- The attempts an event ends are the ones whose handoff it clears. -/
theorem touch_of_inFlight {k : MigrationAttemptId}
    {record old : MigrationRecord}
    (hrecord : (e.apply l).attempt k = some record)
    (hflight : record.inFlight = true) (hold : l.attempt k = some old)
    {holder : StateHolder} (hpending : holder.pendingAttempt = k)
    (htarget : holder.target = old.intent.sourceTarget) :
    (e.touch l holder).handoffPending = holder.handoffPending ∧
      (e.touch l holder).pendingAttempt = holder.pendingAttempt := by
  -- an attempt the loops of a target event keep does not touch the target
  have hkept : ∀ (target : TargetId) (reason : ReasonCode),
      (l.endAttempts (Impl.touchesTarget target) .aborted reason).attempt k =
        some record → Impl.touchesTarget target old = false := by
    intro target reason hafter
    simp only [endAttempts, hold, Option.map_some, Option.some.injEq] at hafter
    subst hafter
    unfold Impl.endAttempt at hflight
    split at hflight
    · rw [MigrationRecord.inFlight_iff] at hflight
      exact absurd rfl hflight.2.1
    next h =>
      rw [hflight, Bool.true_and] at h
      simpa using h
  -- the attempt an event rewrites as ended is not in flight afterwards
  have hset : ∀ ended : MigrationRecord, ended.inFlight = false →
      (l.setAttempt ended).attempt k = some record →
      k ≠ ended.intent.attempt := by
    rintro ended hended hafter rfl
    simp only [setAttempt, Function.update_self, Option.some.injEq] at hafter
    subst hafter
    rw [hended] at hflight
    cases hflight
  cases e with
  | advanceIncarnation target =>
      have hnot := hkept target.target _ hrecord
      have hne : holder.target ≠ target.target := by
        intro heq
        rw [Impl.touchesTarget, ← htarget, heq] at hnot
        simp at hnot
      simp only [Event.touch, moveHolder, if_neg hne, and_self]
  | retire target =>
      have hnot := hkept target.target _ hrecord
      have hended : l.endedBy target.target holder.pendingAttempt = false := by
        rw [hpending, endedBy, hold]
        simp [hnot]
      simp [Event.touch, Impl.clearPending, hended]
  | decline declined isSource ack =>
      have hne := hset (declinedRecord declined isSource ack)
        (by cases isSource <;> rfl) hrecord
      rw [attempt_declinedRecord, ← hpending] at hne
      simp [Event.touch, Impl.clearPending, hne]
  | abort aborted reason =>
      have hne := hset (abortedRecord aborted reason) rfl hrecord
      rw [← hpending] at hne
      have hne' : holder.pendingAttempt ≠ aborted.intent.attempt := hne
      simp [Event.touch, Impl.clearPending, hne']
  | _ => exact ⟨rfl, rfl⟩

/-- An attempt that stays in flight is still awaited. -/
theorem Single.awaits_apply (hwf : WellFormed l) (henabled : e.enabled l)
    (hundisturbing : e.Undisturbing l) (h : Single l)
    {k : MigrationAttemptId} {record old : MigrationRecord}
    {phase : MigrationPhase} (hrecord : (e.apply l).attempt k = some record)
    (hflight : record.inFlight = true) (hold : l.attempt k = some old)
    (hold_flight : old.inFlight = true)
    (hintent : record.intent = { old.intent with phase := phase })
    {key : ExclusiveStateKeyId} (hclaims : l.Claims record.intent.flow key) :
    Awaits (e.apply l) k record key := by
  have hflow : record.intent.flow = old.intent.flow := by rw [hintent]
  have hsource : record.intent.sourceTarget = old.intent.sourceTarget := by
    rw [hintent]
  rw [hflow] at hclaims
  obtain ⟨holder, hholder, hholder_flow, hhandoff, hpending, htarget⟩ :=
    h.awaits k old key hold hold_flight hclaims
  obtain ⟨htouch_handoff, htouch_pending⟩ :=
    touch_of_inFlight hrecord hflight hold hpending htarget
  obtain ⟨htouch_flow, -, htouch_target, -⟩ := touch_placement l e holder
  rcases holder_apply l e key with
    ⟨flow, written, hwrites, hwriter, -⟩ | ⟨-, hleft⟩
  · obtain ⟨observation, next, rfl⟩ := h.not_writes henabled hundisturbing
      hold hold_flight hclaims hwrites hwriter
    -- the completed attempt itself is no longer in flight
    rw [attempt_complete hwf.toKeyed hold] at hrecord
    cases hrecord
    cases hflight
  · rcases hleft with ⟨heq, -⟩ | ⟨-, hfrees⟩
    · refine ⟨e.touch l holder, ?_, ?_, ?_, ?_, ?_⟩
      · rw [heq, hholder]
        rfl
      · rw [htouch_flow, hholder_flow, hflow]
      · rw [htouch_handoff, hhandoff]
      · rw [htouch_pending, hpending]
      · rw [htouch_target, htarget, hsource]
    · obtain ⟨gone, freed, hreleases, -, -, hfreed⟩ := hfrees holder hholder
      obtain ⟨a, ha⟩ := ((hwf.apply henabled).backed k record hrecord
        hflight).placed
      exact absurd (hflow.trans (hholder_flow.symm.trans hfreed))
        (ne_of_releases hreleases ha)

/-- A flow that gets a new intent had no attempt in flight. -/
theorem Single.idle_of_issue (h : Single l) {descriptor : FlowDescriptor}
    {source : Assignment} {intent : MigrationIntent}
    (henabled : (Event.issue descriptor source intent).enabled l)
    (hundisturbing : (Event.issue descriptor source intent).Undisturbing l) :
    l.Idle intent.flow := by
  by_cases hstateful : descriptor.statefulness = .stateful
  · intro k record hrecord hflight hflow
    have hclaims : l.Claims intent.flow descriptor.exclusiveStateKey :=
      ⟨descriptor, henabled.2.1, hstateful, rfl⟩
    obtain ⟨_, _, heq⟩ := h.not_writes henabled hundisturbing hrecord hflight
      (hflow ▸ hclaims) .issue hclaims
    cases heq
  · exact hundisturbing hstateful

theorem Single.apply (hwf : WellFormed l) (henabled : e.enabled l)
    (hundisturbing : e.Undisturbing l) (h : Single l) :
    Single (e.apply l) where
  awaits := by
    intro k record key hrecord hflight hclaims'
    have hclaims := claims_of_inFlight_apply hwf henabled hrecord hflight
      hclaims'
    rcases inFlight_apply henabled hrecord hflight with
      ⟨old, phase, hold, hold_flight, hintent⟩ |
        ⟨descriptor, source, intent, rfl, rfl, rfl⟩
    · exact h.awaits_apply hwf henabled hundisturbing hrecord hflight hold
        hold_flight hintent hclaims
    · exact ⟨_, holder_hold_of_claims hclaims, rfl, rfl, rfl,
        henabled.2.2.2.2.1.2.1⟩
  unique := by
    intro k j record other hrecord hother hflight hflight' hflow
    rcases inFlight_apply henabled hrecord hflight with
      ⟨old, phase, hold, hold_flight, hintent⟩ |
        ⟨descriptor, source, intent, rfl, rfl, rfl⟩
    · rcases inFlight_apply henabled hother hflight' with
        ⟨old', phase', hold', hold_flight', hintent'⟩ |
          ⟨descriptor, source, intent, rfl, rfl, rfl⟩
      · refine h.unique k j old old' hold hold' hold_flight hold_flight' ?_
        rw [hintent, hintent'] at hflow
        exact hflow
      · rw [hintent] at hflow
        exact absurd hflow (h.idle_of_issue henabled hundisturbing k old hold
          hold_flight)
    · rcases inFlight_apply henabled hother hflight' with
        ⟨old', phase', hold', hold_flight', hintent'⟩ |
          ⟨_, _, _, heq, rfl, rfl⟩
      · rw [hintent'] at hflow
        exact absurd hflow.symm (h.idle_of_issue henabled hundisturbing j old'
          hold' hold_flight')
      · cases heq
        rfl

theorem Single.restart {l' : Ledger} (hrestart : Restarted l l') :
    Single l' where
  awaits := by
    intro k record key hrecord hflight
    rw [hrestart.not_inFlight hrecord] at hflight
    cases hflight
  unique := by
    intro k j record other hrecord _ hflight
    rw [hrestart.not_inFlight hrecord] at hflight
    cases hflight

/-! ## The source of an attempt -/

/-- An attempt in flight starts from the placement its flow has. -/
def Sourced (l : Ledger) : Prop :=
  ∀ k record, l.attempt k = some record → record.inFlight = true →
    ∃ a, l.assignment record.intent.flow = some a ∧ StartsAt record.intent a

/-- Only idle flows are placed. -/
def Event.PlacesIdle (l : Ledger) : Event → Prop
  | .place batch => ∀ a ∈ batch, l.Idle a.flow
  | _ => True

theorem StartsAt.withEffect {intent : MigrationIntent} {a : Assignment}
    (h : StartsAt intent a) (effect : EffectState) :
    StartsAt intent { a with effect := effect } := h

theorem Sourced.apply (hwf : WellFormed l) (henabled : e.enabled l)
    (hidle : e.PlacesIdle l) (h : Sourced l) : Sourced (e.apply l) := by
  intro k record hrecord hflight
  obtain ⟨a, ha⟩ := ((hwf.apply henabled).backed k record hrecord
    hflight).placed
  refine ⟨a, ha, ?_⟩
  rcases inFlight_apply henabled hrecord hflight with
    ⟨old, phase, hold, hold_flight, hintent⟩ |
      ⟨descriptor, source, intent, rfl, rfl, rfl⟩
  · have hflow : record.intent.flow = old.intent.flow := by rw [hintent]
    obtain ⟨source, hsource, hstarts⟩ := h k old hold hold_flight
    have hstarts' : StartsAt record.intent source := by
      rw [hintent]
      exact hstarts
    rcases assignment_apply ha with
      ⟨previous, effect, hprevious, rfl⟩ | ⟨batch, rfl, hmem, hplaced⟩ |
        ⟨completed, observation, next, previous, rfl, hcompleted, -, -⟩
    · rw [hflow, hsource] at hprevious
      cases hprevious
      exact hstarts'.withEffect effect
    · exact absurd (hflow.symm.trans hplaced.symm)
        (hidle a hmem k old hold hold_flight)
    · -- only the completed attempt was in flight, and it is no longer
      have heq := henabled.2.2.2.2 k old hold hold_flight
        (hflow.symm.trans hcompleted.symm)
      subst heq
      rw [attempt_complete hwf.toKeyed hold] at hrecord
      cases hrecord
      cases hflight
  · rcases assignment_apply ha with
      ⟨previous, effect, hprevious, rfl⟩ | ⟨_, heq, -⟩ | ⟨_, _, _, _, heq, -⟩
    · rw [henabled.2.2.2.1] at hprevious
      cases hprevious
      exact henabled.2.2.2.2.1.withEffect effect
    · cases heq
    · cases heq

theorem Sourced.restart {l' : Ledger} (hrestart : Restarted l l') :
    Sourced l' := by
  intro k record hrecord hflight
  rw [hrestart.not_inFlight hrecord] at hflight
  cases hflight

end Ledger

/-! ## Runs -/

namespace Impl

variable {s : Impl}

theorem idle_of_inFlightAttempts {flow : FlowId}
    (h : s.inFlightAttempts flow = []) : s.ledger.Idle flow := by
  rintro k record hrecord hflight rfl
  have hmem : record.intent.attempt ∈
      s.inFlightAttempts record.intent.flow := by
    refine List.mem_filterMap.mpr ⟨(k, record),
      lookup_eq_some_iff_mem_toList.mp hrecord, ?_⟩
    simp [hflight]
  rw [h] at hmem
  cases hmem

/-- No batch gives a new placement to a flow with an attempt in flight. -/
def SparesAttempts (s : Impl) (op : Op) : Prop :=
  ∀ request ∈ s.wetRequest op, ∀ pending ∈ s.replacements request,
    s.inFlightAttempts pending.flow = []

instance (s : Impl) (op : Op) : Decidable (s.SparesAttempts op) :=
  inferInstanceAs (Decidable (∀ request ∈ s.wetRequest op, _))

/--
Nothing takes away the protection of an attempt: a batch gives no stateful
flow with an attempt in flight a new placement, which would clear its pending
handoff, and no intent is issued for a flow that has no holder and already has
an attempt in flight.
-/
def GuardsHandoff (s : Impl) (op : Op) : Prop :=
  (∀ request ∈ s.wetRequest op, ∀ pending ∈ s.replacements request,
    ∀ flow ∈ s.flows[pending.flow]?, flow.statefulness = .stateful →
      s.inFlightAttempts pending.flow = []) ∧
  ∀ authorization ∈ op.issuedUnder,
    ∀ stored ∈ s.authorizations[authorization]?,
      ∀ flow ∈ s.flows[stored.flow]?, flow.statefulness ≠ .stateful →
        s.inFlightAttempts stored.flow = []

instance (s : Impl) (op : Op) : Decidable (s.GuardsHandoff op) :=
  inferInstanceAs (Decidable (_ ∧ _))

/-- At most one attempt of a flow is in flight. -/
def OneAttemptPerFlow (s : Impl) : Prop :=
  ∀ k j record other, lookup s.migrations k = some record →
    lookup s.migrations j = some other → record.inFlight = true →
    other.inFlight = true → record.intent.flow = other.intent.flow → k = j

/-- An observation completes an attempt only from the placement it names. -/
def CompletesFromSource (s : Impl) (observation : EffectObservation)
    (answer : Status) : Prop :=
  ∀ k record after, lookup s.migrations k = some record →
    record.intent.phase ≠ .completed →
    lookup (s.step (.observe observation answer)).migrations k = some after →
    after.intent.phase = .completed →
    ∃ a, lookup s.assignments record.intent.flow = some a ∧
      a.assignment = record.intent.sourceAssignment ∧
      a.target = record.intent.sourceTarget ∧
      a.incarnation = record.intent.sourceIncarnation

theorem undisturbing_of_guardsHandoff {op : Op} {event : Ledger.Event}
    (hguard : s.GuardsHandoff op) (h : s.Produces op event)
    (henabled : event.enabled s.ledger) : event.Undisturbing s.ledger := by
  cases h with
  | @place request answer batch hexecutes hplanned =>
      intro a ha key hclaims
      obtain ⟨pending, hpending, hflow, -⟩ := hplanned a ha
      obtain ⟨flow, hregistered, hstateful, -⟩ := hclaims
      rw [hflow] at hregistered ⊢
      exact idle_of_inFlightAttempts (hguard.1 request
        (by simp [wetRequest, hexecutes]) pending hpending flow hregistered
        hstateful)
  | @issue authorization wanted intent answer stored descriptor source hstored
      hflow =>
      intro hstateless
      have hregistered := henabled.2.1
      rw [hflow] at hregistered ⊢
      exact idle_of_inFlightAttempts (hguard.2 authorization rfl stored
        hstored descriptor hregistered hstateless)
  | _ => trivial

theorem law_single : Law GuardsHandoff Ledger.Single where
  empty := by
    constructor
    · intro k record key h
      cases h
    · intro k j record other h
      cases h
  event := by
    intro s op event hwf hlaw hguard hproduces henabled
    exact hlaw.apply hwf henabled
      (undisturbing_of_guardsHandoff hguard hproduces henabled)
  restart := fun _ _ _ _ hrestart => .restart hrestart

theorem at_most_one_attempt_per_flow (config : EngineConfig)
    (inputs : List Op)
    (h : engine.Admits GuardsHandoff (init config []) inputs) :
    (engine.run (init config []) inputs).OneAttemptPerFlow :=
  (law_single.run h).unique

theorem placesIdle_of_sparesAttempts {op : Op} {event : Ledger.Event}
    (hguard : s.SparesAttempts op) (h : s.Produces op event) :
    event.PlacesIdle s.ledger := by
  cases h with
  | @place request answer batch hexecutes hplanned =>
      intro a ha
      obtain ⟨pending, hpending, hflow, -⟩ := hplanned a ha
      rw [hflow]
      exact idle_of_inFlightAttempts (hguard request
        (by simp [wetRequest, hexecutes]) pending hpending)
  | _ => trivial

theorem law_sourced : Law SparesAttempts Ledger.Sourced where
  empty := by
    intro k record h
    cases h
  event := by
    intro s op event hwf hlaw hguard hproduces henabled
    exact hlaw.apply hwf henabled
      (placesIdle_of_sparesAttempts hguard hproduces)
  restart := fun _ _ _ _ hrestart => .restart hrestart

/-- A terminal record is as it was after anything but an opening. -/
theorem migrations_step_of_ended (hkeyed : s.ledger.Keyed) (op : Op)
    (hopen : op.recovered = none) (hrestart : ∀ config, op ≠ .restart config)
    {k : MigrationAttemptId} {record : MigrationRecord}
    (h : lookup s.migrations k = some record)
    (hended : record.inFlight = false) :
    lookup (s.step op).migrations k = some record := by
  have hattempt : (s.step op).ledger.attempt k = some record := by
    rcases step_ledger hkeyed op with
      (heq | ⟨event, -, henabled, heq⟩) | ⟨config, heq, -⟩ | ⟨state, heq, -⟩
    · rw [heq]
      exact h
    · rw [heq]
      exact Ledger.attempt_apply_of_ended henabled h hended
    · exact absurd heq (hrestart config)
    · rw [hopen] at heq
      cases heq
  exact hattempt

theorem completesFromSource_of_sourced (hkeyed : s.ledger.Keyed)
    (h : s.ledger.Sourced) (observation : EffectObservation)
    (answer : Status) : s.CompletesFromSource observation answer := by
  intro k record after hrecord hphase hafter hcompleted
  cases hflight : record.inFlight with
  | true => exact h k record hrecord hflight
  | false =>
      have hsame := migrations_step_of_ended hkeyed
        (.observe observation answer) rfl (fun _ heq => nomatch heq) hrecord
        hflight
      rw [hsame] at hafter
      cases hafter
      exact absurd hcompleted hphase

theorem migration_completes_from_its_source (config : EngineConfig)
    (inputs : List Op) (observation : EffectObservation) (answer : Status)
    (h : engine.Admits SparesAttempts (init config []) inputs) :
    (engine.run (init config []) inputs).CompletesFromSource observation
      answer :=
  completesFromSource_of_sourced (wellFormed_run h).toKeyed
    (law_sourced.run h) observation answer

/-! ## A migration between two hosts -/

def sampleConfig : EngineConfig := { bootIdOverride := ⟨1, 1⟩ }

def plainFlow (id demand : UInt64) : FlowDescriptor :=
  { sampleFlow id 0 demand with statefulness := .stateless }

def sampleIntent (destination : UInt64) : MigrationIntent :=
  { destinationTarget := ⟨destination⟩
    destinationIncarnation := ⟨1⟩
    destinationCapabilityGeneration := ⟨1⟩
    issuedAt := ⟨1⟩ }

def sampleAck (actor : MigrationActor) (target : UInt64) :
    MigrationAcknowledgement :=
  { attempt := ⟨1⟩
    actor := actor
    target := ⟨target⟩
    incarnation := ⟨1⟩
    capabilityGeneration := ⟨1⟩
    epoch := ⟨1⟩
    boot := ⟨1, 1⟩
    accepted := true }

def sampleDigest : Sha256Digest := { bytes := List.replicate 32 1 }

def sampleEffect (target : UInt64) : AppliedEffect :=
  { attempt := ⟨1⟩
    target := ⟨target⟩
    incarnation := ⟨1⟩
    capabilityGeneration := ⟨1⟩
    epoch := ⟨1⟩
    boot := ⟨1, 1⟩
    effectDigest := sampleDigest }

def sampleObservation (flow target : UInt64) : EffectObservation :=
  { flow := ⟨flow⟩
    flowGeneration := ⟨1⟩
    target := ⟨target⟩
    incarnation := ⟨1⟩
    capabilityGeneration := ⟨1⟩
    source := ⟨1⟩
    sourceSequence := ⟨1⟩
    state := .known
    lifecycle := .ready
    effectDigest := sampleDigest
    observedAt := ⟨1⟩ }

/-- A stateless flow on the first of two hosts, and an intent to move it. -/
def plainIntent (sticky : Bool) : List Op :=
  [.openEngine {} committed, .setPolicy (samplePolicy sticky) committed,
    .declareTarget (sampleHost 1) committed,
    .declareTarget (sampleHost 2) committed,
    .registerFlow (plainFlow 1 10) committed,
    .place (sampleRequest 1 1 [1]) committed, .authorize ⟨1⟩ ⟨1⟩,
    .issueIntent ⟨1⟩ (sampleIntent 2) committed]

/-- The messages that take the attempt up to its observation. -/
def plainHandoff : List Op :=
  [.acknowledge (sampleAck .source 1) committed,
    .acknowledge (sampleAck .destination 2) committed,
    .reportApplied (sampleEffect 2) committed]

example : (engine.run (init sampleConfig [])
    (plainIntent true ++ plainHandoff)).counters.effectsApplied = 1 := by
  decide +kernel

/-- The same authorization opens a second attempt of a stateless flow. -/
theorem second_attempt_of_a_stateless_flow :
    engine.Admits (fun _ _ => True) (init sampleConfig [])
        (plainIntent true ++
          [.issueIntent ⟨1⟩ (sampleIntent 2) committed]) ∧
      ¬ (engine.run (init sampleConfig []) (plainIntent true ++
        [.issueIntent ⟨1⟩ (sampleIntent 2) committed])).OneAttemptPerFlow := by
  refine ⟨by decide +kernel, ?_⟩
  intro h
  have hattempts : ∀ k ∈ [(⟨1⟩ : MigrationAttemptId), ⟨2⟩],
      ((engine.run (init sampleConfig []) (plainIntent true ++
        [.issueIntent ⟨1⟩ (sampleIntent 2) committed])).migrations[k]?).map
        (fun record => (record.intent.flow, record.inFlight)) =
          some (⟨1⟩, true) := by
    decide +kernel
  obtain ⟨first, hfirst, hfirst'⟩ :=
    Option.map_eq_some_iff.mp (hattempts ⟨1⟩ (by decide))
  obtain ⟨second, hsecond, hsecond'⟩ :=
    Option.map_eq_some_iff.mp (hattempts ⟨2⟩ (by decide))
  rw [Prod.mk.injEq] at hfirst' hsecond'
  have hsame := h ⟨1⟩ ⟨2⟩ first second hfirst hsecond hfirst'.2 hsecond'.2
    (hfirst'.1.trans hsecond'.1.symm)
  cases hsame

/-- With the first attempt aborted, the second one is alone. -/
theorem second_attempt_after_an_abort :
    engine.Admits GuardsHandoff (init sampleConfig []) (plainIntent true ++
        [.abortMigration ⟨1⟩ .ok committed,
          .issueIntent ⟨1⟩ (sampleIntent 2) committed]) ∧
      (engine.run (init sampleConfig []) (plainIntent true ++
        [.abortMigration ⟨1⟩ .ok committed,
          .issueIntent ⟨1⟩ (sampleIntent 2) committed])).OneAttemptPerFlow := by
  have hadmits : engine.Admits GuardsHandoff (init sampleConfig [])
      (plainIntent true ++ [.abortMigration ⟨1⟩ .ok committed,
        .issueIntent ⟨1⟩ (sampleIntent 2) committed]) := by
    decide +kernel
  exact ⟨hadmits, at_most_one_attempt_per_flow sampleConfig _ hadmits⟩

/-- A placement decided after the intent is overwritten by its completion. -/
theorem completion_overwrites_a_later_placement :
    engine.Admits (fun _ _ => True) (init sampleConfig [])
        (plainIntent false ++ [.place (sampleRequest 2 2 [1]) committed] ++
          plainHandoff) ∧
      ¬ (engine.run (init sampleConfig []) (plainIntent false ++
        [.place (sampleRequest 2 2 [1]) committed] ++
          plainHandoff)).CompletesFromSource (sampleObservation 1 2)
        committed := by
  refine ⟨by decide +kernel, ?_⟩
  generalize hrun : engine.run (init sampleConfig []) (plainIntent false ++
    [.place (sampleRequest 2 2 [1]) committed] ++ plainHandoff) = s
  have hall : (s.migrations[(⟨1⟩ : MigrationAttemptId)]?).map
        (fun record => (record.intent.phase, record.intent.flow,
          record.intent.sourceAssignment)) =
        some (.effectApplied, ⟨1⟩, ⟨1⟩) ∧
      ((s.step (.observe (sampleObservation 1 2) committed)).migrations[
          (⟨1⟩ : MigrationAttemptId)]?).map
        (fun record => record.intent.phase) = some .completed ∧
      (s.assignments[(⟨1⟩ : FlowId)]?).map Assignment.assignment =
        some ⟨2⟩ := by
    rw [← hrun]
    decide +kernel
  obtain ⟨hbefore, hafter, hplaced⟩ := hall
  intro h
  obtain ⟨record, hrecord, hfields⟩ := Option.map_eq_some_iff.mp hbefore
  obtain ⟨after, hstep, hphase⟩ := Option.map_eq_some_iff.mp hafter
  obtain ⟨a, ha, hid⟩ := Option.map_eq_some_iff.mp hplaced
  simp only [Prod.mk.injEq] at hfields
  obtain ⟨happlied, hflow, hsource⟩ := hfields
  obtain ⟨source, hlookup, hsame, -⟩ := h ⟨1⟩ record after hrecord
    (by rw [happlied]; decide) hstep hphase
  rw [hflow] at hlookup
  have heq : some a = some source := ha.symm.trans hlookup
  cases heq
  rw [hid, hsource] at hsame
  cases hsame

/-- Undisturbed, the attempt completes from where it was issued. -/
theorem completion_of_an_undisturbed_attempt :
    engine.Admits SparesAttempts (init sampleConfig [])
        (plainIntent false ++ plainHandoff) ∧
      (engine.run (init sampleConfig []) (plainIntent false ++
        plainHandoff)).CompletesFromSource (sampleObservation 1 2)
        committed := by
  have hadmits : engine.Admits SparesAttempts (init sampleConfig [])
      (plainIntent false ++ plainHandoff) := by
    decide +kernel
  exact ⟨hadmits, migration_completes_from_its_source sampleConfig _
    (sampleObservation 1 2) committed hadmits⟩

end Impl

end FlowOffload

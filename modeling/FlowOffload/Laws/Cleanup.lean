import FlowOffload.Laws.Phases
import FlowOffload.Ledger.Endings
import FlowOffload.Ledger.Fences

/-!
# Cleaning up after an attempt

`observe` and `abort_migration` release the fence of the attempt that they end
and rewrite the effect that its flow shows.  A negative acknowledgement and the
loss of the flow or of a target end an attempt without either, so what they
leave behind depends on what was there.
-/

namespace FlowOffload

open Foundation

/-- The effects that a placement shows while an attempt is on its way. -/
def EffectState.underway : EffectState → Bool
  | .intentIssued | .acknowledged | .applied => true
  | _ => false

namespace Ledger

variable {l : Ledger} {e : Event}

/-- An attempt of the flow is in flight. -/
def Busy (l : Ledger) (flow : FlowId) : Prop :=
  ∃ k record, l.attempt k = some record ∧ record.inFlight = true ∧
    record.intent.flow = flow

/-- The placement of a flow whose attempts have all ended shows none of them. -/
def Settled (l : Ledger) : Prop :=
  ∀ k record a, l.attempt k = some record → record.inFlight = false →
    l.assignment record.intent.flow = some a → a.effect.underway = true →
    l.Busy record.intent.flow

/-- The event takes back what the placement of the flow shows. -/
def Event.Clears (flow : FlowId) (a : Assignment) : Event → Prop
  | .supersede _ new => flow = new.flow
  | .remove _ gone => flow = gone
  | .advanceIncarnation target => a.target = target.target
  | .retire target => a.target = target.target
  | .complete record _ _ => flow = record.intent.flow
  | .abort record _ => flow = record.intent.flow
  | _ => False

/-- What the event stops was not shown, or something else is under way; and
an attempt that is not recorded is not shown either. -/
structure Event.Settles (l : Ledger) (e : Event) : Prop where
  stops : ∀ k record a, l.attempt k = some record → record.inFlight = true →
    e.Stops record → l.assignment record.intent.flow = some a →
    a.effect.underway = true → ¬ e.Clears record.intent.flow a →
    ∃ j other, l.attempt j = some other ∧ other.inFlight = true ∧
      other.intent.flow = record.intent.flow ∧ ¬ e.Stops other
  issues : ∀ descriptor source intent, e = .issue descriptor source intent →
    l.attempt intent.attempt = none ∨ l.Busy intent.flow ∨
      ∀ k record, l.attempt k = some record →
        record.intent.flow ≠ intent.flow

/-! ## One event -/

theorem underway_setEffect {flow k : FlowId} {effect : EffectState}
    {a : Assignment} (h : (l.setEffect flow effect).assignment k = some a) :
    (l.assignment k = some a ∧ k ≠ flow) ∨ k = flow ∧ a.effect = effect := by
  by_cases hk : k = flow
  · subst hk
    simp only [setEffect, Function.update_self, Option.map_eq_some_iff] at h
    obtain ⟨old, -, rfl⟩ := h
    exact Or.inr ⟨rfl, rfl⟩
  · simp only [setEffect, Function.update_of_ne hk] at h
    exact Or.inl ⟨h, hk⟩

theorem underway_demoteOn {target : TargetId} {k : FlowId} {a : Assignment}
    (h : (l.demoteOn target).assignment k = some a)
    (hunderway : a.effect.underway = true) :
    l.assignment k = some a ∧ a.target ≠ target := by
  simp only [demoteOn, Option.map_eq_some_iff] at h
  obtain ⟨old, hold, rfl⟩ := h
  unfold demote at hunderway ⊢
  split at hunderway
  · cases hunderway
  next hne =>
    rw [if_neg hne]
    exact ⟨hold, hne⟩

/-- What is shown after an event was shown before, or the event writes it. -/
theorem underway_apply (henabled : e.enabled l) {k : FlowId} {a : Assignment}
    (h : (e.apply l).assignment k = some a)
    (hunderway : a.effect.underway = true) :
    (l.assignment k = some a ∧ ¬ e.Clears k a) ∨
      (∃ descriptor source intent, e = .issue descriptor source intent ∧
        intent.flow = k) ∨
      ∃ record advanced effect, e = .progress record advanced effect ∧
        record.intent.flow = k := by
  cases e with
  | supersede old flow =>
      exact Or.inl (assignment_release old .rejectedStaleFlowGeneration h)
  | remove old flow =>
      exact Or.inl (assignment_release old .rejectedUnknownFlow h)
  | advanceCapability target =>
      exact Or.inl ⟨(underway_demoteOn h hunderway).1, id⟩
  | advanceIncarnation target =>
      exact Or.inl (underway_demoteOn h hunderway)
  | retire target => exact Or.inl (underway_demoteOn h hunderway)
  | place batch =>
      rcases assignment_foldl_commit h with ⟨hmem, -⟩ | ⟨hold, -⟩
      · rw [(henabled.2 a hmem).effect] at hunderway
        cases hunderway
      · exact Or.inl ⟨hold, id⟩
  | issue descriptor source intent =>
      simp only [Event.apply, assignment_hold] at h
      rcases underway_setEffect h with ⟨hold, -⟩ | ⟨hk, -⟩
      · exact Or.inl ⟨hold, id⟩
      · exact Or.inr (Or.inl ⟨_, _, _, rfl, hk.symm⟩)
  | progress record advanced effect =>
      rcases underway_setEffect h with ⟨hold, -⟩ | ⟨hk, -⟩
      · exact Or.inl ⟨hold, id⟩
      · exact Or.inr (Or.inr ⟨_, _, _, rfl, hk.symm⟩)
  | complete record observation next =>
      simp only [Event.apply, assignment_move] at h
      by_cases hk : k = record.intent.flow
      · subst hk
        rw [Function.update_self, Option.map_eq_some_iff] at h
        obtain ⟨old, -, rfl⟩ := h
        cases hunderway
      · rw [Function.update_of_ne hk] at h
        exact Or.inl ⟨h, hk⟩
  | abort record reason =>
      rcases underway_setEffect h with hold | ⟨-, heffect⟩
      · exact Or.inl hold
      · rw [heffect] at hunderway
        cases hunderway
  | _ => exact Or.inl ⟨h, id⟩

theorem Busy.apply_of_not_stops (henabled : e.enabled l)
    {k : MigrationAttemptId} {record : MigrationRecord}
    (hrecord : l.attempt k = some record) (hflight : record.inFlight = true)
    (hstops : ¬ e.Stops record) : (e.apply l).Busy record.intent.flow := by
  obtain ⟨after, hafter, hstays⟩ := inFlight_or_stops henabled hrecord hflight
  obtain ⟨phase, hintent⟩ := intent_apply henabled hrecord hafter
  refine ⟨k, after, hafter, hstays.resolve_right hstops, ?_⟩
  rw [hintent]

/-- A flow that still shows an attempt has one in flight after the event. -/
theorem Event.Settles.busy (h : e.Settles l) (henabled : e.enabled l)
    {k : MigrationAttemptId} {record : MigrationRecord} {a : Assignment}
    (hrecord : l.attempt k = some record) (hflight : record.inFlight = true)
    (hassigned : l.assignment record.intent.flow = some a)
    (hunderway : a.effect.underway = true)
    (hkept : ¬ e.Clears record.intent.flow a) :
    (e.apply l).Busy record.intent.flow := by
  by_cases hstops : e.Stops record
  · obtain ⟨j, other, hother, hother_flight, hsame, hgoes⟩ :=
      h.stops k record a hrecord hflight hstops hassigned hunderway hkept
    rw [← hsame]
    exact Busy.apply_of_not_stops henabled hother hother_flight hgoes
  · exact Busy.apply_of_not_stops henabled hrecord hflight hstops

theorem Settled.apply (h : Settled l) (henabled : e.enabled l)
    (hsettles : e.Settles l) : Settled (e.apply l) := by
  intro k after a hafter hended ha hunderway
  -- the attempt of a flow whose effect the event leaves
  have hleft : l.assignment after.intent.flow = some a →
      ¬ e.Clears after.intent.flow a →
      (e.apply l).Busy after.intent.flow := by
    intro hassigned hkept
    rcases stops_of_ended henabled hafter hended with
      hold | ⟨record, phase, hrecord, hflight, hintent, -⟩
    · obtain ⟨j, other, hother, hflight, hsame⟩ :=
        h k after a hold hended hassigned hunderway
      rw [← hsame] at hassigned hkept ⊢
      exact hsettles.busy henabled hother hflight hassigned hunderway hkept
    · have hsame : after.intent.flow = record.intent.flow := by rw [hintent]
      rw [hsame] at hassigned hkept ⊢
      exact hsettles.busy henabled hrecord hflight hassigned hunderway hkept
  rcases underway_apply henabled ha hunderway with
    ⟨hassigned, hkept⟩ | ⟨descriptor, source, intent, rfl, hflow⟩ |
      ⟨record, advanced, effect, rfl, hflow⟩
  · exact hleft hassigned hkept
  · have hold : l.attempt k = some after := by
      rcases stops_of_ended henabled hafter hended with
        hold | ⟨_, _, -, -, -, hstops⟩
      · exact hold
      · cases hstops
    rcases hsettles.issues _ _ _ rfl with hfresh | ⟨j, other, hother, hflight,
      hsame⟩ | hnone
    · refine ⟨intent.attempt, { intent := intent }, ?_, ?_, hflow⟩
      · simp only [Event.apply, attempt_hold]
        change Function.update l.attempt intent.attempt _ _ = _
        rw [hfresh]
        exact Function.update_self _ _ _
      · have hphase : intent.phase = .intentIssued := henabled.1
        simp [MigrationRecord.inFlight_iff, hphase]
    · rw [← hflow, ← hsame]
      exact Busy.apply_of_not_stops henabled hother hflight id
    · exact absurd hflow.symm (hnone k after hold)
  · rw [← hflow]
    exact Busy.apply_of_not_stops henabled henabled.1 henabled.2.inFlight id

theorem settled_empty : Settled empty := by
  intro k record a h
  cases h

/-- What a restart recovers shows no attempt as under way. -/
theorem Settled.restart {l' : Ledger} (hrestart : Restarted l l') :
    Settled l' := by
  intro k record a _ _ ha hunderway
  rw [hrestart.assignment, Option.map_eq_some_iff] at ha
  obtain ⟨old, -, rfl⟩ := ha
  unfold Impl.durableAssignment at hunderway
  split at hunderway
  · cases hunderway
  next hverified =>
    rw [Classical.not_not.mp hverified] at hunderway
    cases hunderway

end Ledger

namespace Impl

variable {s : Impl}

/-! ## What an operation leaves behind -/

/-- The flow of the attempt goes on showing an effect that is under way. -/
def stillShows (s : Impl) (op : Op) (record : MigrationRecord) : Bool :=
  (s.assignments[record.intent.flow]?).any fun a =>
    a.effect.underway && match op with
      | .declareTarget target _ => a.target ≠ target.target
      | .removeTarget target _ _ _ => a.target ≠ target
      | .acknowledge _ _ => true
      | _ => false

/-- Another attempt of the flow stays in flight. -/
def goesOn (s : Impl) (op : Op) (flow : FlowId) : Bool :=
  s.migrations.toList.any fun entry =>
    entry.2.inFlight && entry.2.intent.flow = flow && !s.ends op entry.2

/-- Ending the attempt on the way leaves nothing to clean up. -/
def endsCleanly (s : Impl) (op : Op) (record : MigrationRecord) : Bool :=
  !(s.fences[record.intent.fence]?).any FenceRecord.active &&
    (!s.stillShows op record || s.goesOn op record.intent.flow)

/-- The next fence would be kept under an identity that one of the attempts
names. -/
def namesNext (s : Impl) (ended : MigrationRecord → Bool) : Bool :=
  (s.fences[(⟨s.nextFence⟩ : FenceId)]?).isNone &&
    s.config.maxHistory ≠ 0 && s.migrations.toList.any fun entry =>
      ended entry.2 && entry.2.intent.fence = ⟨s.nextFence⟩

/-- The operation issues a fence that an attempt without one in use names. -/
def reissues (s : Impl) (op : Op) : Bool :=
  match op with
  | .openEngine opening _ => !s.isOpen && (s.found opening).2.2.isValid &&
      (s.found opening).1.namesNext fun record => !record.inFlight
  | _ => s.issues op &&
      s.namesNext fun record => !record.inFlight || s.ends op record

/-- The operation shows an attempt that it cannot record. -/
def showsUnrecorded (s : Impl) (op : Op) : Bool :=
  match op with
  | .issueIntent authorization _ _ =>
      (s.migrations[(⟨s.nextAttempt⟩ : MigrationAttemptId)]?).isSome &&
        (s.authorizations[authorization]?).any fun stored =>
          (s.migrations.toList.any fun entry =>
            entry.2.intent.flow = stored.flow) && !s.goesOn op stored.flow
  | _ => false

structure CleansUp (s : Impl) (op : Op) : Prop where
  ends : ∀ entry ∈ s.migrations.toList, entry.2.inFlight = true →
    s.ends op entry.2 = true → s.endsCleanly op entry.2 = true
  reissues : s.reissues op = false
  issues : s.showsUnrecorded op = false

instance (s : Impl) (op : Op) : Decidable (s.CleansUp op) :=
  decidable_of_iff ((∀ entry ∈ s.migrations.toList, entry.2.inFlight = true →
      s.ends op entry.2 = true → s.endsCleanly op entry.2 = true) ∧
    s.reissues op = false ∧ s.showsUnrecorded op = false)
    ⟨fun h => ⟨h.1, h.2.1, h.2.2⟩, fun h => ⟨h.1, h.2, h.3⟩⟩

theorem CleansUp.attempt {op : Op} (h : s.CleansUp op)
    {k : MigrationAttemptId} {record : MigrationRecord}
    (hrecord : lookup s.migrations k = some record)
    (hflight : record.inFlight = true) (hends : s.ends op record = true) :
    s.endsCleanly op record = true :=
  h.ends (k, record) (lookup_eq_some_iff_mem_toList.mp hrecord) hflight hends

theorem busy_of_goesOn {op : Op} {flow : FlowId}
    (h : s.goesOn op flow = true) :
    ∃ k record, s.ledger.attempt k = some record ∧ record.inFlight = true ∧
      record.intent.flow = flow ∧ s.ends op record = false := by
  obtain ⟨entry, hentry, hfields⟩ := List.any_eq_true.mp h
  simp only [Bool.and_eq_true, decide_eq_true_eq, Bool.not_eq_eq_eq_not,
    Bool.not_true] at hfields
  exact ⟨entry.1, entry.2, lookup_eq_some_iff_mem_toList.mpr hentry,
    hfields.1.1, hfields.1.2, hfields.2⟩

/-- What a clean ending leaves shown is under way elsewhere. -/
theorem exists_of_endsCleanly {op : Op} {record : MigrationRecord}
    (h : s.endsCleanly op record = true)
    (hshows : s.stillShows op record = true) :
    ∃ k other, s.ledger.attempt k = some other ∧ other.inFlight = true ∧
      other.intent.flow = record.intent.flow ∧ s.ends op other = false := by
  simp only [endsCleanly, hshows, Bool.and_eq_true, Bool.not_true,
    Bool.false_or] at h
  exact busy_of_goesOn h.2

/-! ## Effects -/

theorem settles_of_cleansUp {op : Op} (h : s.CleansUp op)
    {event : Ledger.Event} (hproduces : s.Produces op event) :
    event.Settles s.ledger where
  stops := by
    intro k record a hrecord hflight hstops ha hunderway hkept
    -- the attempt is ended on the way, and another one is not
    have hgoes : s.ends op record = true → s.stillShows op record = true →
        (∀ other, event.Stops other → s.ends op other = true) →
        ∃ j other, s.ledger.attempt j = some other ∧ other.inFlight = true ∧
          other.intent.flow = record.intent.flow ∧ ¬ event.Stops other := by
      intro hends hshows hall
      obtain ⟨j, other, hother, hother_flight, hsame, hleft⟩ :=
        exists_of_endsCleanly (h.attempt hrecord hflight hends) hshows
      refine ⟨j, other, hother, hother_flight, hsame, fun hstopped => ?_⟩
      rw [hall other hstopped] at hleft
      cases hleft
    have hassigned : s.assignments[record.intent.flow]? = some a := ha
    cases hproduces with
    | supersede hends => exact absurd hstops hkept
    | remove hends => exact absurd hstops hkept
    | advanceIncarnation hends =>
        refine hgoes (hends record hstops) ?_ hends
        have hne : ¬ a.target = _ := hkept
        simp [stillShows, hassigned, hunderway, hne]
    | retire heq hends =>
        subst heq
        refine hgoes (hends record hstops) ?_ hends
        have hne : ¬ a.target = _ := hkept
        simp [stillShows, hassigned, hunderway, hne]
    | decline hattempt hends =>
        cases hstops
        refine hgoes hends ?_ ?_
        · simp [stillShows, hassigned, hunderway]
        · rintro other rfl
          exact hends
    | complete hflow hrefusal =>
        cases hstops
        exact absurd rfl hkept
    | abort hattempt =>
        cases hstops
        exact absurd rfl hkept
    | _ => cases hstops
  issues := by
    rintro descriptor source intent rfl
    cases hproduces with
    | @issue authorization wanted _ answer stored _ _ hstored hflow hattempt =>
        cases hfree : s.ledger.attempt intent.attempt with
        | none => exact Or.inl rfl
        | some taken =>
            refine Or.inr ?_
            by_cases hgoes : s.goesOn
                (.issueIntent authorization wanted answer) stored.flow = true
            · obtain ⟨k, record, hrecord, hflight, hsame, -⟩ :=
                busy_of_goesOn hgoes
              exact Or.inl ⟨k, record, hrecord, hflight,
                hsame.trans hflow.symm⟩
            · refine Or.inr fun k record hrecord hsame => ?_
              have hunrecorded := h.issues
              have hauthorized : s.authorizations[authorization]? =
                  some stored := hstored
              have htaken : s.migrations[
                  (⟨s.nextAttempt⟩ : MigrationAttemptId)]? = some taken := by
                rw [← hattempt]
                exact hfree
              have hany : (s.migrations.toList.any fun entry =>
                  entry.2.intent.flow = stored.flow) = true := by
                refine List.any_eq_true.mpr ⟨(k, record),
                  lookup_eq_some_iff_mem_toList.mp hrecord, ?_⟩
                simp [hsame, hflow]
              simp only [showsUnrecorded, htaken, hauthorized, hany,
                Option.isSome_some, Option.any_some, Bool.true_and,
                Bool.not_eq_eq_eq_not, Bool.not_false] at hunrecorded
              exact hgoes hunrecorded

theorem law_settled : Law CleansUp Ledger.Settled where
  empty := Ledger.settled_empty
  event := by
    intro s op event _ hsettled hguard hproduces henabled
    exact hsettled.apply henabled (settles_of_cleansUp hguard hproduces)
  restart := fun _ _ _ _ hrestart => .restart hrestart

/-! ## Fences -/

/-- No attempt that has ended has an active fence. -/
structure Released (s : Impl) : Prop where
  keyed : s.ledger.Keyed
  fences : ∀ k record, lookup s.migrations k = some record →
    record.inFlight = false → ¬ s.fenceTable.Active record.intent.fence

theorem namesNext_of_opens {ended : MigrationRecord → Bool}
    (hopens : s.fenceTable.Opens) {k : MigrationAttemptId}
    {record : MigrationRecord} (hrecord : lookup s.migrations k = some record)
    (hended : ended record = true)
    (hfence : record.intent.fence = ⟨s.nextFence⟩) :
    s.namesNext ended = true := by
  have hfree : s.fences[(⟨s.nextFence⟩ : FenceId)]? = none := hopens.1
  have hroom : s.config.maxHistory ≠ 0 := hopens.2
  simp only [namesNext, hfree, Option.isNone_none, Bool.true_and,
    Bool.and_eq_true, decide_eq_true_eq]
  refine ⟨hroom, List.any_eq_true.mpr ⟨(k, record),
    lookup_eq_some_iff_mem_toList.mp hrecord, ?_⟩⟩
  simp [hended, hfence]

theorem inactive_of_endsCleanly {op : Op} {record : MigrationRecord}
    (h : s.endsCleanly op record = true) :
    ¬ s.fenceTable.Active record.intent.fence := by
  rintro ⟨fence, hfence, hactive⟩
  have hfound : s.fences[record.intent.fence]? = some fence := hfence
  simp [endsCleanly, hfound, hactive] at h

/-- Within an incarnation: what an attempt leaves is not taken up again. -/
theorem Released.not_active_step (h : s.Released) {op : Op}
    (hguard : s.CleansUp op) (hwithin : op.within = true)
    {k : MigrationAttemptId} {record : MigrationRecord}
    (hrecord : lookup s.migrations k = some record)
    (hended : (!record.inFlight || s.ends op record) = true)
    (hinactive : ¬ s.fenceTable.Active record.intent.fence) :
    ¬ (s.step op).fenceTable.Active record.intent.fence := by
  intro hactive
  rcases (turns_step h.keyed hwithin).active hactive with
    hold | ⟨hissues, hfence, hopens⟩
  · exact hinactive hold
  · have hnames : s.namesNext (fun record => !record.inFlight ||
        s.ends op record) = true :=
      namesNext_of_opens hopens hrecord hended hfence
    have hreissues := hguard.reissues
    cases op with
    | openEngine opening answer => cases hwithin
    | _ => simp [reissues, hissues, hnames] at hreissues

theorem released_abort {attempt : MigrationAttemptId} {reason : ReasonCode}
    {answer : Status} {record : MigrationRecord}
    (hrecord : lookup s.migrations attempt = some record)
    (hafter : lookup (s.abortMigration attempt reason answer).1.migrations
      attempt ≠ some record) :
    ¬ (s.abortMigration attempt reason answer).1.fenceTable.Active
      record.intent.fence := by
  rcases fenceTable_abortMigration s attempt reason answer with
    ⟨-, hsame⟩ | ⟨found, code, hfound, heq⟩
  · rw [hsame] at hafter
    exact absurd hrecord hafter
  · rw [hrecord] at hfound
    cases hfound
    rw [heq]
    exact fun hactive => (FenceTable.active_release hactive).2 rfl

theorem released_complete (hkeyed : s.ledger.Keyed)
    {observation : EffectObservation} {answer : Status}
    {k : MigrationAttemptId} {record : MigrationRecord}
    (hrecord : lookup s.migrations k = some record)
    (hflow : record.intent.flow = observation.flow)
    (hunique : ∀ k other, s.ledger.attempt k = some other →
      other.inFlight = true → other.intent.flow = record.intent.flow →
      other = record)
    (hafter : lookup (s.observe observation answer).1.migrations k ≠
      some record) :
    ¬ (s.observe observation answer).1.fenceTable.Active
      record.intent.fence := by
  rcases fenceTable_observe hkeyed observation answer with
    ⟨-, hsame⟩ | ⟨attempt, found, hfound, hflight, hfound_flow, heq⟩
  · rw [hsame] at hafter
    exact absurd hrecord hafter
  · have hsame := hunique attempt found hfound hflight
      (hfound_flow.trans hflow.symm)
    rw [heq, hsame]
    exact fun hactive => (FenceTable.active_release hactive).2 rfl

/-- An attempt stopped by an operation is left without an active fence. -/
theorem Released.stopped (h : s.Released) {op : Op}
    (hguard : s.CleansUp op) (hwithin : op.within = true)
    {event : Ledger.Event} (hproduces : s.Produces op event)
    (henabled : event.enabled s.ledger) {k : MigrationAttemptId}
    {record after : MigrationRecord}
    (hrecord : lookup s.migrations k = some record)
    (hflight : record.inFlight = true) (hstops : event.Stops record)
    (hafter : lookup (s.step op).migrations k = some after)
    (hended : after.inFlight = false) :
    ¬ (s.step op).fenceTable.Active record.intent.fence := by
  have hne : lookup (s.step op).migrations k ≠ some record := by
    rw [hafter]
    rintro heq
    cases heq
    rw [hflight] at hended
    cases hended
  have hway : s.ends op record = true →
      ¬ (s.step op).fenceTable.Active record.intent.fence := by
    intro hends
    exact h.not_active_step hguard hwithin hrecord (by simp [hends])
      (inactive_of_endsCleanly (hguard.attempt hrecord hflight hends))
  cases hproduces with
  | supersede hends => exact hway (hends record (by simpa [attemptOf]))
  | remove hends => exact hway (hends record (by simpa [attemptOf]))
  | advanceIncarnation hends => exact hway (hends record hstops)
  | retire heq hends =>
      subst heq
      exact hway (hends record hstops)
  | decline hattempt hends =>
      cases hstops
      exact hway hends
  | complete hflow hrefusal =>
      cases hstops
      exact released_complete h.keyed hrecord hflow henabled.2.2.2.2 hne
  | abort hattempt =>
      cases hstops
      have hk := h.keyed.attempt k record hrecord
      rw [hattempt] at hk
      subst hk
      exact released_abort hrecord hne
  | _ => cases hstops

theorem Released.within (h : s.Released) {op : Op} (hguard : s.CleansUp op)
    (hwithin : op.within = true) : (s.step op).Released := by
  refine ⟨keyed_step h.keyed op, ?_⟩
  intro k after hafter hended
  have hkept : lookup s.migrations k = some after →
      ¬ (s.step op).fenceTable.Active after.intent.fence := by
    intro hold
    exact h.not_active_step hguard hwithin hold (by simp [hended])
      (h.fences k after hold hended)
  have hattempt : (s.step op).ledger.attempt k = some after := hafter
  rcases step_ledger h.keyed op with
    (heq | ⟨event, hproduces, henabled, heq⟩) | ⟨config, rfl, -⟩ |
      ⟨state, hstate, -⟩
  · rw [heq] at hattempt
    exact hkept hattempt
  · rw [heq] at hattempt
    rcases Ledger.stops_of_ended henabled hattempt hended with
      hold | ⟨record, phase, hrecord, hflight, hintent, hstops⟩
    · exact hkept hold
    · rw [hintent]
      exact h.stopped hguard hwithin hproduces henabled hrecord hflight hstops
        hafter hended
  · cases hwithin
  · cases op with
    | openEngine opening answer => cases hwithin
    | _ => cases hstate

/-! ## Openings -/

theorem active_fencePrevious {t : Impl} {boot : BootId} {k : FenceId}
    (h : (t.fencePrevious boot).fenceTable.Active k) :
    t.fenceTable.Active k ∨
      boot.isValid = true ∧ k = ⟨t.nextFence⟩ ∧ t.fenceTable.Opens := by
  unfold fencePrevious at h
  split at h
  next hvalid =>
    have htable : ∃ record evictions,
        (t.fenceAllActiveLocked {}).fenceTable =
          ({ t with fences := t.fences.map fun _ f => retireFence f } :
            Impl).fenceTable.issue record evictions := ⟨_, _, rfl⟩
    obtain ⟨record, evictions, htable⟩ := htable
    have hissued : (t.fenceAllActiveLocked {}).fenceTable.Active k := by
      dsimp only at h
      split at h <;> exact h
    rw [htable] at hissued
    rcases FenceTable.active_issue hissued with
      ⟨fence, hfence, hactive⟩ | ⟨hk, hfree, hroom⟩
    · -- a fence from before has been retired
      have hretired : lookup (t.fences.map fun _ f => retireFence f) k =
          some fence := hfence
      rw [lookup_map, Option.map_eq_some_iff] at hretired
      obtain ⟨old, -, rfl⟩ := hretired
      unfold retireFence at hactive
      split at hactive
      · cases hactive
      next hinactive => exact absurd hactive hinactive
    · refine Or.inr ⟨hvalid, hk, ?_, hroom⟩
      have hlookup : lookup (t.fences.map fun _ f => retireFence f)
          ⟨t.nextFence⟩ = none := hfree
      rw [lookup_map, Option.map_eq_none_iff] at hlookup
      exact hlookup
  · exact Or.inl h

theorem not_active_restoreLocked (s : Impl) (state : DurableState)
    (k : FenceId) : ¬ (s.restoreLocked state).fenceTable.Active k := by
  rintro ⟨fence, hfence, hactive⟩
  have hloaded : lookup (indexBy FenceRecord.id (state.fences.map
      fun fence => { fence with active := false })) k = some fence := hfence
  obtain ⟨hmem, -⟩ := mem_of_lookup_indexBy hloaded
  obtain ⟨stored, -, rfl⟩ := List.mem_map.mp hmem
  cases hactive

/-- What an opening finds has no active fence of an attempt that has ended. -/
theorem Released.found (h : s.Released) (opening : StoreOpening)
    {k : MigrationAttemptId} {record : MigrationRecord}
    (hrecord : lookup (s.found opening).1.migrations k = some record)
    (hended : record.inFlight = false) :
    ¬ (s.found opening).1.fenceTable.Active record.intent.fence := by
  generalize hfound : s.found opening = found at hrecord ⊢
  unfold Impl.found at hfound
  split at hfound
  · subst hfound
    exact h.fences k record hrecord hended
  · split at hfound
    · subst hfound
      exact h.fences k record hrecord hended
    · subst hfound
      exact not_active_restoreLocked _ _ _

theorem Released.entering (h : s.Released) {opening : StoreOpening}
    {answer : Status} (hclosed : s.isOpen = false)
    (hguard : s.CleansUp (.openEngine opening answer))
    {k : MigrationAttemptId} {record : MigrationRecord}
    (hrecord : lookup (s.entering opening).migrations k = some record)
    (hended : record.inFlight = false) :
    ¬ (s.entering opening).fenceTable.Active record.intent.fence := by
  obtain ⟨_, _, _, _, heq⟩ := entering_eq s opening
  have hfound : lookup (s.found opening).1.migrations k = some record := by
    rw [heq] at hrecord
    exact hrecord
  intro hactive
  have hprevious : (((s.found opening).1.enterIncarnation
      ⟨(s.found opening).2.1.value + 1⟩ (s.found opening).2.2).fencePrevious
        (s.found opening).2.2).fenceTable.Active record.intent.fence :=
    hactive
  rcases active_fencePrevious hprevious with hold | ⟨hvalid, hfence, hopens⟩
  · exact h.found opening hfound hended hold
  · have hnames : (s.found opening).1.namesNext
        (fun record => !record.inFlight) = true :=
      namesNext_of_opens hopens hfound (by simp [hended]) hfence
    have hreissues := hguard.reissues
    simp [reissues, hclosed, hvalid, hnames] at hreissues

theorem Released.openEngine (h : s.Released) {opening : StoreOpening}
    {answer : Status} (hguard : s.CleansUp (.openEngine opening answer)) :
    (s.step (.openEngine opening answer)).Released := by
  refine ⟨keyed_step h.keyed _, ?_⟩
  intro k record hrecord hended
  change lookup (s.openEngine opening answer).1.migrations k = some record
    at hrecord
  change ¬ (s.openEngine opening answer).1.fenceTable.Active _
  cases hclosed : s.isOpen with
  | true =>
      have hsame : (s.openEngine opening answer).1 = s := by
        simp [Impl.openEngine, hclosed]
      rw [hsame] at hrecord ⊢
      exact h.fences k record hrecord hended
  | false =>
      obtain ⟨counters, submitted, hpersisted⟩ :=
        persistLocked_fst (s.entering opening) answer
      cases hopen : (s.openEngine opening answer).1.isOpen with
      | true =>
          rw [(opensWith hclosed hopen).result, hpersisted] at hrecord ⊢
          exact h.entering hclosed hguard hrecord hended
      | false =>
          rcases openEngine_of_failed hclosed hopen with heq | heq | ⟨-, heq⟩
          · rw [heq] at hrecord ⊢
            exact h.fences k record hrecord hended
          · rw [heq] at hrecord ⊢
            exact h.found opening hrecord hended
          · rw [heq, hpersisted] at hrecord ⊢
            exact h.entering hclosed hguard hrecord hended

/-! ## Runs -/

theorem released_init (config : EngineConfig) (submitted : List DurableState) :
    (init config submitted).Released where
  keyed := by
    simpa [init, ledger, Ledger.empty] using
      Ledger.wellFormed_empty.toKeyed
  fences := by
    intro k record h
    change lookup ∅ k = some record at h
    simp at h

theorem Released.step (h : s.Released) {op : Op} (hguard : s.CleansUp op) :
    (s.step op).Released := by
  have hinner : op.within = true → (s.step op).Released := h.within hguard
  cases op with
  | openEngine opening answer => exact h.openEngine hguard
  | shutdown answer =>
      refine ⟨keyed_step h.keyed _, ?_⟩
      obtain ⟨counters, submitted, heq⟩ := persistLocked_fst s answer
      change ∀ k record,
        lookup (s.shutdown answer).migrations k = some record → _
      have hsame : (s.shutdown answer).migrations = s.migrations ∧
          (s.shutdown answer).fenceTable = s.fenceTable := by
        unfold Impl.shutdown
        split
        · rw [heq]
          exact ⟨rfl, rfl⟩
        · exact ⟨rfl, rfl⟩
      intro k record hrecord hended
      rw [hsame.1] at hrecord
      change ¬ (s.shutdown answer).fenceTable.Active _
      rw [hsame.2]
      exact h.fences k record hrecord hended
  | restart config => exact released_init config s.submitted
  | _ => exact hinner rfl

/-- What an attempt that has ended leaves behind, however it ended. -/
def LeavesNothing (s : Impl) : Prop :=
  ∀ k record, lookup s.migrations k = some record →
    (record.intent.phase = .completed ∨ record.intent.phase = .aborted ∨
      record.intent.phase = .fenced) →
    (∀ fence, lookup s.fences record.intent.fence = some fence →
      fence.active = false) ∧
    ∀ a, lookup s.assignments record.intent.flow = some a →
      (a.effect = .intentIssued ∨ a.effect = .acknowledged ∨
        a.effect = .applied) →
      ∃ j other, lookup s.migrations j = some other ∧
        other.inFlight = true ∧ other.intent.flow = record.intent.flow

theorem ended_attempts_leave_nothing (config : EngineConfig)
    (inputs : List Op)
    (h : engine.Admits CleansUp (init config []) inputs) :
    (engine.run (init config []) inputs).LeavesNothing := by
  have hreleased : (engine.run (init config []) inputs).Released :=
    h.invariant (P := Released) (fun _ _ hs _ hguard => hs.step hguard)
      (released_init config [])
  have hsettled := law_settled.run h
  intro k record hrecord hphase
  have hended : record.inFlight = false := by
    rw [Bool.eq_false_iff, Ne, MigrationRecord.inFlight_iff]
    rcases hphase with hphase | hphase | hphase <;> simp [hphase]
  refine ⟨?_, ?_⟩
  · intro fence hfence
    rw [Bool.eq_false_iff]
    exact fun hactive =>
      hreleased.fences k record hrecord hended ⟨fence, hfence, hactive⟩
  · intro a ha heffect
    refine hsettled k record a hrecord hended ha ?_
    rcases heffect with heffect | heffect | heffect <;> rw [heffect] <;> rfl

/-- A refusal of the source ends the attempt and leaves fence and effect. -/
theorem refused_handoff_leaves_its_fence :
    engine.Admits (fun _ _ => True) (init sampleConfig []) (plainIntent true ++
        [.acknowledge { sampleAck .source 1 with accepted := false }
          committed]) ∧
      ¬ (engine.run (init sampleConfig []) (plainIntent true ++
        [.acknowledge { sampleAck .source 1 with accepted := false }
          committed])).LeavesNothing := by
  refine ⟨by decide +kernel, ?_⟩
  generalize hs : engine.run (init sampleConfig []) (plainIntent true ++
    [.acknowledge { sampleAck .source 1 with accepted := false } committed]) =
      s
  intro h
  have hattempt : (s.migrations[(⟨1⟩ : MigrationAttemptId)]?).map
      (fun record => (record.intent.phase, record.intent.fence)) =
        some (.aborted, ⟨2⟩) := by
    subst hs
    decide +kernel
  have hfence : (s.fences[(⟨2⟩ : FenceId)]?).map FenceRecord.active =
      some true := by
    subst hs
    decide +kernel
  obtain ⟨record, hrecord, hfields⟩ := Option.map_eq_some_iff.mp hattempt
  obtain ⟨fence, hfence, hactive⟩ := Option.map_eq_some_iff.mp hfence
  rw [Prod.mk.injEq] at hfields
  have hinactive := (h ⟨1⟩ record hrecord (Or.inr (Or.inl hfields.1))).1 fence
    (by rw [hfields.2]; exact hfence)
  rw [hactive] at hinactive
  cases hinactive

/-- An aborted attempt leaves nothing, and the next one starts afresh. -/
theorem aborted_handoff_leaves_nothing :
    engine.Admits CleansUp (init sampleConfig []) (plainIntent true ++
        [.abortMigration ⟨1⟩ .ok committed,
          .issueIntent ⟨1⟩ (sampleIntent 2) committed]) ∧
      (engine.run (init sampleConfig []) (plainIntent true ++
        [.abortMigration ⟨1⟩ .ok committed,
          .issueIntent ⟨1⟩ (sampleIntent 2) committed])).LeavesNothing :=
  ⟨by decide +kernel,
    ended_attempts_leave_nothing sampleConfig _ (by decide +kernel)⟩

end Impl

end FlowOffload

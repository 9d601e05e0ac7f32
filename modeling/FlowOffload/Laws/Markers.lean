import FlowOffload.Laws.Accounting
import FlowOffload.Laws.Moves
import FlowOffload.Ledger.Endings

/-!
# Handoff markers

A holder entry is marked as pending exactly while the attempt it names is in
flight.  A new incarnation clears the marks of the holders on its own target
only: an attempt that it ends as the destination leaves the holder on the
source marked.
-/

namespace FlowOffload

open Foundation

namespace Ledger

variable {l : Ledger} {e : Event}

/-- The attempt that a holder entry names is in flight for its flow. -/
def Moving (l : Ledger) (holder : StateHolder) : Prop :=
  ∃ record, l.attempt holder.pendingAttempt = some record ∧
    record.inFlight = true ∧ record.intent.flow = holder.flow

structure Marked (l : Ledger) : Prop where
  marks : ∀ key holder, l.holder key = some holder →
    (holder.handoffPending = true ↔ l.Moving holder)
  claims : ∀ key holder, l.holder key = some holder →
    holder.handoffPending = true → l.Claims holder.flow key
  source : ∀ key holder record, l.holder key = some holder →
    holder.handoffPending = true →
    l.attempt holder.pendingAttempt = some record →
    holder.target = record.intent.sourceTarget
  named : ∀ key holder, l.holder key = some holder →
    holder.pendingAttempt = {} ∨ l.attempt holder.pendingAttempt ≠ none
  unnamed : l.attempt {} = none

/-- A new incarnation stops only attempts whose holder it finds, and the
identity of an attempt with state is not taken. -/
def Event.Tidy (l : Ledger) : Event → Prop
  | .advanceIncarnation target => ∀ key holder record,
      l.holder key = some holder → holder.handoffPending = true →
      l.attempt holder.pendingAttempt = some record →
      record.inFlight = true →
      Impl.touchesTarget target.target record = true →
      holder.target = target.target
  | .issue descriptor _ intent => intent.attempt ≠ {} ∧
      (descriptor.statefulness = .stateful → l.attempt intent.attempt = none)
  | _ => True

/-! ## One event -/

theorem unnamed_apply (h : Marked l) (henabled : e.enabled l)
    (htidy : e.Tidy l) : (e.apply l).attempt {} = none := by
  by_contra hne
  obtain ⟨record, hrecord⟩ := Option.ne_none_iff_exists'.mp hne
  rcases attempt_apply henabled hrecord with
    hold | ⟨old, hold, -, -⟩ | ⟨descriptor, source, intent, rfl, -, hk, -⟩
  · rw [h.unnamed] at hold
    cases hold
  · rw [h.unnamed] at hold
    cases hold
  · exact htidy.1 hk.symm

/-- A touch clears the mark, with or without the name, or does nothing. -/
theorem touch_marks (l : Ledger) (e : Event) (holder : StateHolder) :
    ((e.touch l holder).handoffPending = true →
      holder.handoffPending = true) ∧
    ((e.touch l holder).pendingAttempt = {} ∨
      (e.touch l holder).pendingAttempt = holder.pendingAttempt) ∧
    ((e.touch l holder).handoffPending = true →
      (e.touch l holder).pendingAttempt = holder.pendingAttempt) := by
  have hclear : ∀ ended : MigrationAttemptId → Bool,
      ((Impl.clearPending ended holder).handoffPending = true →
        holder.handoffPending = true) ∧
      ((Impl.clearPending ended holder).pendingAttempt = {} ∨
        (Impl.clearPending ended holder).pendingAttempt =
          holder.pendingAttempt) ∧
      ((Impl.clearPending ended holder).handoffPending = true →
        (Impl.clearPending ended holder).pendingAttempt =
          holder.pendingAttempt) := by
    intro ended
    unfold Impl.clearPending
    split <;> simp
  cases e with
  | advanceIncarnation target =>
      simp only [Event.touch, moveHolder]
      split <;> simp
  | retire target => exact hclear _
  | decline record isSource ack => exact hclear _
  | abort record reason => exact hclear _
  | _ => exact ⟨id, Or.inr rfl, fun _ => rfl⟩

/-- A holder that was not waiting for an attempt does not start to. -/
theorem Marked.not_moving_touch (h : Marked l) (henabled : e.enabled l)
    (htidy : e.Tidy l) {key : ExclusiveStateKeyId} {holder : StateHolder}
    (hholder : l.holder key = some holder) (hidle : ¬ l.Moving holder) :
    ¬ (e.apply l).Moving (e.touch l holder) := by
  rintro ⟨record, hrecord, hflight, hflow⟩
  rw [(touch_placement l e holder).1] at hflow
  rcases (touch_marks l e holder).2.1 with hname | hname
  · rw [hname, unnamed_apply h henabled htidy] at hrecord
    cases hrecord
  · rw [hname] at hrecord
    rcases attempt_apply henabled hrecord with
      hold | ⟨old, hold, hold_flight, hadvances⟩ |
        ⟨descriptor, source, intent, rfl, hnone, hk, -⟩
    · exact hidle ⟨record, hold, hflight, hflow⟩
    · obtain ⟨phase, hintent⟩ := hadvances.intent_eq henabled
      rw [hintent] at hflow
      exact hidle ⟨old, hold, hold_flight, hflow⟩
    · rcases h.named key holder hholder with hempty | hknown
      · rw [hempty] at hk
        exact htidy.1 hk.symm
      · exact hknown hnone

/-- What stops the attempt of a marked holder clears the mark. -/
theorem Marked.cleared_of_stops (h : Marked l) (hwf : WellFormed l)
    (henabled : e.enabled l) (htidy : e.Tidy l) {key : ExclusiveStateKeyId}
    {holder : StateHolder} (hholder : l.holder key = some holder)
    (hpending : holder.handoffPending = true) {record : MigrationRecord}
    (hrecord : l.attempt holder.pendingAttempt = some record)
    (hflight : record.inFlight = true)
    (hflow : record.intent.flow = holder.flow) (hstops : e.Stops record)
    (hleft : (∀ flow written, e.Writes l flow written → ¬ l.Claims flow key) ∧
      ¬ e.frees key holder) :
    (e.touch l holder).handoffPending = false := by
  obtain ⟨descriptor, hregistered, hstateful, rfl⟩ :=
    h.claims key holder hholder hpending
  have hname := hwf.toKeyed.attempt _ _ hrecord
  cases e with
  | supersede old flow =>
      have hsame : holder.flow = flow.flow := hflow.symm.trans hstops
      have hold : l.flow flow.flow = some old := henabled.1
      rw [hsame, hold] at hregistered
      cases hregistered
      exact absurd ⟨descriptor, flow.flow, rfl, hstateful, rfl, hsame⟩ hleft.2
  | remove old flow =>
      have hsame : holder.flow = flow := hflow.symm.trans hstops
      have hold : l.flow flow = some old := henabled
      rw [hsame, hold] at hregistered
      cases hregistered
      exact absurd ⟨descriptor, flow, rfl, hstateful, rfl, hsame⟩ hleft.2
  | advanceIncarnation target =>
      have hsame := htidy _ holder record hholder hpending hrecord hflight
        hstops
      simp [Event.touch, moveHolder, hsame]
  | retire target =>
      have hended : l.endedBy target.target holder.pendingAttempt = true := by
        have htouches : Impl.touchesTarget target.target record = true :=
          hstops
        simp [endedBy, hrecord, hflight, htouches]
      simp [Event.touch, Impl.clearPending, hended]
  | decline declined isSource ack =>
      cases hstops
      simp [Event.touch, Impl.clearPending, hname]
  | complete completed observation next =>
      cases hstops
      obtain ⟨a, ha⟩ := (hwf.backed _ record hrecord hflight).placed
      exact absurd ⟨descriptor, by rw [hflow]; exact hregistered, hstateful,
        rfl⟩ (hleft.1 _ _ (.complete ha))
  | abort aborted reason =>
      cases hstops
      simp [Event.touch, Impl.clearPending, hname]
  | _ => cases hstops

/-- A holder entry that an event writes is marked as it should be. -/
theorem Marked.marks_written (h : Marked l) (henabled : e.enabled l)
    (htidy : e.Tidy l) {flow : FlowId} {written : StateHolder}
    {key : ExclusiveStateKeyId} (hwrites : e.Writes l flow written)
    (hclaims : l.Claims flow key) :
    written.handoffPending = true ↔ (e.apply l).Moving written := by
  have hidle : ∀ holder : StateHolder, holder.pendingAttempt = {} →
      ¬ (e.apply l).Moving holder := by
    rintro holder hname ⟨record, hrecord, -⟩
    rw [hname, unnamed_apply h henabled htidy] at hrecord
    cases hrecord
  cases hwrites with
  | place hmem =>
      exact iff_of_false (by simp [Impl.holderOf]) (hidle _ rfl)
  | complete hplaced =>
      exact iff_of_false (by simp [Impl.holderOf]) (hidle _ rfl)
  | @issue descriptor source intent =>
      refine iff_of_true rfl ?_
      obtain ⟨claimed, hclaimed, hstateful, -⟩ := hclaims
      have hregistered : l.flow intent.flow = some descriptor := henabled.2.1
      rw [hregistered] at hclaimed
      cases hclaimed
      refine ⟨{ intent := intent }, ?_, ?_, rfl⟩
      · simp only [Event.apply, attempt_hold]
        change Function.update l.attempt intent.attempt _ _ = _
        rw [htidy.2 hstateful]
        exact Function.update_self _ _ _
      · rw [MigrationRecord.inFlight_iff]
        have hphase : intent.phase = .intentIssued := henabled.1
        simp [hphase]

/-- What a marked holder entry waits for after an event. -/
structure Waits (l : Ledger) (key : ExclusiveStateKeyId)
    (holder : StateHolder) : Prop where
  marks : holder.handoffPending = true ↔ l.Moving holder
  claims : holder.handoffPending = true → l.Claims holder.flow key
  source : ∀ record, holder.handoffPending = true →
    l.attempt holder.pendingAttempt = some record →
    holder.target = record.intent.sourceTarget
  named : holder.pendingAttempt = {} ∨ l.attempt holder.pendingAttempt ≠ none

theorem Marked.waits_touched (h : Marked l) (hwf : WellFormed l)
    (henabled : e.enabled l) (htidy : e.Tidy l) {key : ExclusiveStateKeyId}
    {holder : StateHolder} (hholder : l.holder key = some holder)
    (hleft : (∀ flow written, e.Writes l flow written → ¬ l.Claims flow key) ∧
      ¬ e.frees key holder) :
    Waits (e.apply l) key (e.touch l holder) := by
  obtain ⟨hunmarks, hnames, hkeeps⟩ := touch_marks l e holder
  obtain ⟨htouch_flow, -, htouch_target, -⟩ := touch_placement l e holder
  have hnamed : (e.touch l holder).pendingAttempt = {} ∨
      (e.apply l).attempt (e.touch l holder).pendingAttempt ≠ none := by
    rcases hnames with hempty | hsame
    · exact Or.inl hempty
    · rw [hsame]
      rcases h.named key holder hholder with hempty | hknown
      · exact Or.inl hempty
      · obtain ⟨record, hrecord⟩ := Option.ne_none_iff_exists'.mp hknown
        obtain ⟨after, hafter⟩ := exists_attempt_apply henabled hrecord
        exact Or.inr (by simp [hafter])
  by_cases hpending : holder.handoffPending = true
  · obtain ⟨record, hrecord, hflight, hflow⟩ :=
      (h.marks key holder hholder).mp hpending
    have hsource := h.source key holder record hholder hpending hrecord
    obtain ⟨after, hafter, hstays⟩ :=
      inFlight_or_stops henabled hrecord hflight
    by_cases hafter_flight : after.inFlight = true
    · -- the attempt goes on, and so does the wait
      obtain ⟨hmark, hname⟩ := touch_of_inFlight hafter hafter_flight hrecord
        rfl hsource
      obtain ⟨phase, hintent⟩ := intent_apply henabled hrecord hafter
      have hsame : after.intent.flow = record.intent.flow := by rw [hintent]
      have hmoving : (e.apply l).Moving (e.touch l holder) := by
        refine ⟨after, by rw [hname]; exact hafter, hafter_flight, ?_⟩
        rw [hsame, htouch_flow, hflow]
      refine ⟨iff_of_true (hmark.trans hpending) hmoving, fun _ => ?_, ?_,
        hnamed⟩
      · rw [htouch_flow]
        obtain ⟨descriptor, hregistered, hrest⟩ :=
          h.claims key holder hholder hpending
        obtain ⟨hsupersede, hremove⟩ :=
          flow_ne_of_inFlight_apply henabled hafter hafter_flight
        refine ⟨descriptor, ?_, hrest⟩
        rcases flow_apply_of_flow henabled hregistered with
          hkept | ⟨new, heq, hk⟩ | heq
        · exact hkept
        · exact absurd (hsame.trans (hflow.trans hk)) (hsupersede _ _ heq)
        · exact absurd (hsame.trans hflow) (hremove _ _ heq)
      · intro found _ hfound
        rw [hname, hafter] at hfound
        cases hfound
        rw [htouch_target, hintent]
        exact hsource
    · -- the attempt has ended, and the mark is gone
      have hstops : e.Stops record := by
        rcases hstays with hstill | hstops
        · exact absurd hstill hafter_flight
        · exact hstops
      have hcleared := h.cleared_of_stops hwf henabled htidy hholder hpending
        hrecord hflight hflow hstops hleft
      refine ⟨iff_of_false (by simp [hcleared]) ?_, by simp [hcleared],
        by simp [hcleared], hnamed⟩
      rintro ⟨found, hfound, hfound_flight, -⟩
      rcases hnames with hempty | hsame
      · rw [hempty, unnamed_apply h henabled htidy] at hfound
        cases hfound
      · rw [hsame, hafter] at hfound
        cases hfound
        exact hafter_flight hfound_flight
  · have hidle : ¬ l.Moving holder :=
      fun hmoving => hpending ((h.marks key holder hholder).mpr hmoving)
    have hunmarked : ¬ (e.touch l holder).handoffPending = true :=
      fun hmark => hpending (hunmarks hmark)
    exact ⟨iff_of_false hunmarked
        (h.not_moving_touch henabled htidy hholder hidle),
      fun hmark => absurd hmark hunmarked,
      fun _ hmark => absurd hmark hunmarked, hnamed⟩

theorem Marked.waits_written (h : Marked l) (henabled : e.enabled l) (htidy : e.Tidy l) {flow : FlowId}
    {written : StateHolder} {key : ExclusiveStateKeyId}
    (hwrites : e.Writes l flow written) (hclaims : l.Claims flow key) :
    Waits (e.apply l) key written := by
  have hmarks := h.marks_written henabled htidy hwrites hclaims
  cases hwrites with
  | place hmem =>
      exact ⟨hmarks, (fun hmark => nomatch hmark),
        (fun _ hmark => nomatch hmark), Or.inl rfl⟩
  | complete hplaced =>
      exact ⟨hmarks, (fun hmark => nomatch hmark),
        (fun _ hmark => nomatch hmark), Or.inl rfl⟩
  | @issue descriptor source intent =>
      obtain ⟨claimed, hclaimed, hstateful, hkey⟩ := hclaims
      have hregistered : l.flow intent.flow = some descriptor := henabled.2.1
      rw [hregistered] at hclaimed
      cases hclaimed
      have hissued : (Event.issue descriptor source intent |>.apply l).attempt
          intent.attempt = some { intent := intent } := by
        simp only [Event.apply, attempt_hold]
        change Function.update l.attempt intent.attempt _ _ = _
        rw [htidy.2 hstateful]
        exact Function.update_self _ _ _
      refine ⟨hmarks, fun _ => ?_, ?_, Or.inr ?_⟩
      · exact ⟨descriptor, by simpa only [Event.apply, flow_hold], hstateful,
          hkey⟩
      · intro found _ hfound
        cases hissued.symm.trans hfound
        exact henabled.2.2.2.2.1.2.1
      · change (Event.issue descriptor source intent |>.apply l).attempt
          intent.attempt ≠ none
        simp [hissued]

theorem Marked.apply (hwf : WellFormed l) (henabled : e.enabled l)
    (htidy : e.Tidy l) (h : Marked l) : Marked (e.apply l) := by
  have hwaits : ∀ key holder, (e.apply l).holder key = some holder →
      Waits (e.apply l) key holder := by
    intro key holder hholder
    rcases holder_apply l e key with
      ⟨flow, written, hwrites, hclaims, heq⟩ | ⟨hwrites, hleft⟩
    · rw [heq] at hholder
      cases hholder
      exact h.waits_written henabled htidy hwrites hclaims
    · rcases hleft with ⟨heq, hfrees⟩ | ⟨heq, -⟩
      · rw [heq, Option.map_eq_some_iff] at hholder
        obtain ⟨old, hold, rfl⟩ := hholder
        exact h.waits_touched hwf henabled htidy hold
          ⟨hwrites, hfrees old hold⟩
      · rw [heq] at hholder
        cases hholder
  exact ⟨fun key holder hholder => (hwaits key holder hholder).marks,
    fun key holder hholder => (hwaits key holder hholder).claims,
    fun key holder record hholder => (hwaits key holder hholder).source record,
    fun key holder hholder => (hwaits key holder hholder).named,
    unnamed_apply h henabled htidy⟩

theorem marked_empty : Marked empty := by
  refine ⟨?_, ?_, ?_, ?_, rfl⟩ <;> intro key holder <;> intros <;>
    simp_all [empty]

/-- After a restart no holder waits, and none names an attempt. -/
theorem Marked.restart {l' : Ledger} (h : Marked l)
    (hrestart : Restarted l l') : Marked l' := by
  have hunnamed : l'.attempt {} = none := by
    rw [hrestart.attempt, h.unnamed]
    rfl
  have hidle : ∀ key holder, l'.holder key = some holder →
      holder.handoffPending = false ∧ holder.pendingAttempt = {} := by
    intro key holder hholder
    obtain ⟨descriptor, assignment, -, -, -, -, heq⟩ :=
      hrestart.holder_spec key holder hholder
    rw [heq]
    exact ⟨rfl, rfl⟩
  refine ⟨?_, ?_, ?_, ?_, hunnamed⟩
  · intro key holder hholder
    obtain ⟨hmark, hname⟩ := hidle key holder hholder
    refine iff_of_false (by simp [hmark]) ?_
    rintro ⟨record, hrecord, -⟩
    rw [hname, hunnamed] at hrecord
    cases hrecord
  · intro key holder hholder hpending
    rw [(hidle key holder hholder).1] at hpending
    cases hpending
  · intro key holder record hholder hpending
    rw [(hidle key holder hholder).1] at hpending
    cases hpending
  · intro key holder hholder
    exact Or.inl (hidle key holder hholder).2

end Ledger

namespace Impl

variable {s : Impl}

/-! ## Identities of attempts -/

/-- The next identity of an attempt is never the empty one. -/
structure NamesAttempts (s : Impl) : Prop where
  keyed : s.ledger.Keyed
  next : s.nextAttempt ≠ 0

theorem saturatingIncrement_ne_zero (value : UInt64) :
    saturatingIncrement value ≠ 0 := by
  unfold saturatingIncrement
  split
  next hfull =>
    rw [hfull]
    decide
  next hless =>
    intro hzero
    have hsum := toNat_increment hless
    unfold saturatingIncrement at hsum
    rw [if_neg hless, hzero] at hsum
    simp at hsum

theorem nextAttempt_posts {b after : Books} (h : b.Posts after)
    (hnext : b.nextAttempt ≠ 0) : after.nextAttempt ≠ 0 := by
  cases h with
  | refused codes =>
      have hsame : ∀ b : Books,
          (codes.foldl Books.refuse b).nextAttempt = b.nextAttempt := by
        induction codes with
        | nil => exact fun _ => rfl
        | cons code codes ih => exact fun b => ih (b.refuse code)
      rw [hsame]
      exact hnext
  | issued attempt phase => exact saturatingIncrement_ne_zero _
  | _ => exact hnext

theorem namesAttempts_step (h : s.NamesAttempts) (op : Op) :
    (s.step op).NamesAttempts := by
  refine ⟨keyed_step h.keyed op, ?_⟩
  have hwithin : op.within = true → (s.step op).books.nextAttempt ≠ 0 :=
    fun hop => nextAttempt_posts (posts_step h.keyed.attempt hop) h.next
  change (s.step op).books.nextAttempt ≠ 0
  cases op with
  | openEngine opening answer =>
      rcases books_openEngine s opening answer with heq | ⟨state, -, heq⟩
      · exact heq ▸ h.next
      · rw [step, heq]
        exact saturatingIncrement_ne_zero _
  | shutdown answer => exact (books_shutdown s answer).symm ▸ h.next
  | restart config => exact show (1 : UInt64) ≠ 0 by decide
  | _ => exact hwithin rfl

/-! ## Runs -/

/-- The operation ends, by a new incarnation of another target, the attempt
that the holder waits for. -/
def strands (s : Impl) (op : Op) (holder : StateHolder) : Bool :=
  match op with
  | .declareTarget target _ =>
      holder.handoffPending && holder.target ≠ target.target &&
        (s.migrations[holder.pendingAttempt]?).any fun record =>
          record.inFlight && s.ends op record
  | _ => false

/-- The operation issues an intent for a stateful flow when the identity of
the attempt is taken. -/
def reusesAttempt (s : Impl) (op : Op) : Bool :=
  match op with
  | .issueIntent authorization _ _ =>
      (s.migrations[(⟨s.nextAttempt⟩ : MigrationAttemptId)]?).isSome &&
        ((s.authorizations[authorization]?).bind fun stored =>
          s.flows[stored.flow]?).any fun flow => flow.statefulness = .stateful
  | _ => false

def ClearsMarks (s : Impl) (op : Op) : Prop :=
  (∀ entry ∈ s.holders.toList, s.strands op entry.2 = false) ∧
    s.reusesAttempt op = false

instance (s : Impl) (op : Op) : Decidable (s.ClearsMarks op) :=
  inferInstanceAs (Decidable (_ ∧ _))

theorem tidy_of_clearsMarks (hnames : s.NamesAttempts) {op : Op}
    (hguard : s.ClearsMarks op) {event : Ledger.Event}
    (hproduces : s.Produces op event) (henabled : event.enabled s.ledger) :
    event.Tidy s.ledger := by
  cases hproduces with
  | @advanceIncarnation target answer hends =>
      intro key holder record hholder hpending hrecord hflight htouches
      by_contra hne
      have hstrands := hguard.1 (key, holder)
        (lookup_eq_some_iff_mem_toList.mp hholder)
      have hfound : s.migrations[holder.pendingAttempt]? = some record :=
        hrecord
      simp [strands, hpending, hne, hfound, hflight, hends record htouches]
        at hstrands
  | @issue authorization wanted intent answer stored descriptor source
      hstored hflow hattempt =>
      refine ⟨?_, ?_⟩
      · rw [hattempt]
        intro hempty
        exact hnames.next (congrArg TypedId.value hempty)
      · intro hstateful
        have hregistered : s.flows[stored.flow]? = some descriptor := by
          rw [← hflow]
          exact henabled.2.1
        have hauthorized : s.authorizations[authorization]? = some stored :=
          hstored
        have hfree := hguard.2
        simp only [reusesAttempt, hauthorized, Option.bind_some, hregistered,
          Option.any_some, hstateful, decide_true, Bool.and_true] at hfree
        rw [hattempt]
        exact Option.isNone_iff_eq_none.mp
          (Option.isSome_eq_false_iff.mp hfree)
  | _ => trivial

theorem marked_law :
    Law (fun s op => s.ClearsMarks op ∧ s.NamesAttempts) Ledger.Marked where
  empty := Ledger.marked_empty
  event := by
    intro s op event hwf hmarked hguard hproduces henabled
    exact hmarked.apply hwf henabled
      (tidy_of_clearsMarks hguard.2 hguard.1 hproduces henabled)
  restart := fun _ _ _ hmarked hrestart => hmarked.restart hrestart

/-- A holder is marked exactly while the attempt it names is in flight. -/
def MarksAttempts (s : Impl) : Prop :=
  ∀ key holder, lookup s.holders key = some holder →
    (holder.handoffPending = true ↔
      ∃ record, lookup s.migrations holder.pendingAttempt = some record ∧
        record.intent.flow = holder.flow ∧
        record.intent.phase ≠ .completed ∧ record.intent.phase ≠ .aborted ∧
        record.intent.phase ≠ .fenced)

theorem marks_follow_attempts (config : EngineConfig) (inputs : List Op)
    (h : engine.Admits ClearsMarks (init config []) inputs) :
    (engine.run (init config []) inputs).MarksAttempts := by
  have hinit : (init config []).NamesAttempts :=
    ⟨by simpa [init, ledger, Ledger.empty] using
      Ledger.wellFormed_empty.toKeyed, show (1 : UInt64) ≠ 0 by decide⟩
  have hmarked := marked_law.run (h.strengthen
    (fun _ op hs _ _ => namesAttempts_step hs op) hinit)
  intro key holder hholder
  refine (hmarked.marks key holder hholder).trans ?_
  constructor
  · rintro ⟨record, hrecord, hflight, hflow⟩
    exact ⟨record, hrecord, hflow, MigrationRecord.inFlight_iff.mp hflight⟩
  · rintro ⟨record, hrecord, hflow, hphase⟩
    exact ⟨record, hrecord, MigrationRecord.inFlight_iff.mpr hphase, hflow⟩

/-- The holder waits while the attempt is on its way, and a restart of the
source ends both. -/
theorem restarted_source_clears_mark :
    engine.Admits ClearsMarks (init sampleConfig []) (statefulHandoff ++
        [.declareTarget { sampleHost 1 with incarnation := ⟨2⟩ } committed]) ∧
      (engine.run (init sampleConfig []) (statefulHandoff ++
        [.declareTarget { sampleHost 1 with incarnation := ⟨2⟩ }
          committed])).MarksAttempts :=
  ⟨by decide +kernel, marks_follow_attempts sampleConfig _ (by decide +kernel)⟩

/-- A new incarnation of the destination ends the attempt and leaves the
holder on the source waiting for it. -/
theorem restarted_destination_leaves_mark :
    engine.Admits (fun _ _ => True) (init sampleConfig []) (statefulHandoff ++
        [.declareTarget { sampleHost 2 with incarnation := ⟨2⟩ } committed]) ∧
      ¬ (engine.run (init sampleConfig []) (statefulHandoff ++
        [.declareTarget { sampleHost 2 with incarnation := ⟨2⟩ }
          committed])).MarksAttempts := by
  refine ⟨by decide +kernel, ?_⟩
  intro h
  have hholder : ((engine.run (init sampleConfig []) (statefulHandoff ++
      [.declareTarget { sampleHost 2 with incarnation := ⟨2⟩ }
        committed])).holders[(⟨7⟩ : ExclusiveStateKeyId)]?).map
      (fun holder => (holder.handoffPending, holder.pendingAttempt)) =
        some (true, ⟨1⟩) := by
    decide +kernel
  have hattempt : ((engine.run (init sampleConfig []) (statefulHandoff ++
      [.declareTarget { sampleHost 2 with incarnation := ⟨2⟩ }
        committed])).migrations[(⟨1⟩ : MigrationAttemptId)]?).map
      (fun record => record.intent.phase) = some .aborted := by
    decide +kernel
  obtain ⟨holder, hholder, hfields⟩ := Option.map_eq_some_iff.mp hholder
  rw [Prod.mk.injEq] at hfields
  obtain ⟨record, hrecord, -, -, hphase, -⟩ := (h _ holder hholder).mp hfields.1
  rw [hfields.2] at hrecord
  rw [show (engine.run (init sampleConfig []) (statefulHandoff ++
    [.declareTarget { sampleHost 2 with incarnation := ⟨2⟩ }
      committed])).migrations[(⟨1⟩ : MigrationAttemptId)]? = some record from
        hrecord] at hattempt
  exact hphase (Option.some.inj hattempt)

end Impl

end FlowOffload

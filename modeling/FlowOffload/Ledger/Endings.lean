import FlowOffload.Ledger.WellFormed

/-!
# How attempts end

The events that stop an attempt in flight, and what they do to the attempt.
No attempt is ever forgotten, and an attempt that no event stops stays in
flight.
-/

namespace FlowOffload.Ledger

variable {l : Ledger} {e : Event}

/-- The event stops the attempt, if it is in flight. -/
def Event.Stops : Event → MigrationRecord → Prop
  | .supersede _ flow, record => record.intent.flow = flow.flow
  | .remove _ flow, record => record.intent.flow = flow
  | .advanceIncarnation target, record =>
      Impl.touchesTarget target.target record = true
  | .retire target, record => Impl.touchesTarget target.target record = true
  | .decline declined _ _, record => record = declined
  | .complete completed _ _, record => record = completed
  | .abort aborted _, record => record = aborted
  | _, _ => False

theorem endAttempts_of_attempt {ends : MigrationRecord → Bool}
    {phase : MigrationPhase} {reason : ReasonCode} {k : MigrationAttemptId}
    {record : MigrationRecord} (h : l.attempt k = some record) :
    (l.endAttempts ends phase reason).attempt k = some record ∨
      ends record = true ∧ ∃ after,
        (l.endAttempts ends phase reason).attempt k = some after := by
  cases hends : ends record with
  | false =>
      refine Or.inl ?_
      simp [endAttempts, h, Impl.endAttempt, hends]
  | true => exact Or.inr ⟨rfl, by simp [endAttempts, h]⟩

/-- Writing over one attempt leaves every other one. -/
theorem setAttempt_of_attempt {old new record : MigrationRecord}
    {k : MigrationAttemptId}
    (h : l.attempt k = some record)
    (hold : l.attempt old.intent.attempt = some old)
    (hkey : new.intent.attempt = old.intent.attempt) :
    (l.setAttempt new).attempt k = some record ∨
      record = old ∧ (l.setAttempt new).attempt k = some new := by
  by_cases hk : k = new.intent.attempt
  · refine Or.inr ?_
    subst hk
    rw [hkey, hold] at h
    cases h
    exact ⟨rfl, Function.update_self _ _ _⟩
  · exact Or.inl (by simpa only [setAttempt, Function.update_of_ne hk])

/-- An attempt in flight is stopped or stays in flight, with its intent. -/
theorem inFlight_or_stops (henabled : e.enabled l)
    {k : MigrationAttemptId} {record : MigrationRecord}
    (h : l.attempt k = some record) (hflight : record.inFlight = true) :
    ∃ after, (e.apply l).attempt k = some after ∧
      (after.inFlight = true ∨ e.Stops record) := by
  have hends : ∀ (ends : MigrationRecord → Bool) (phase : MigrationPhase)
      (reason : ReasonCode), (ends record = true → e.Stops record) →
      ∃ after, (l.endAttempts ends phase reason).attempt k = some after ∧
        (after.inFlight = true ∨ e.Stops record) := by
    intro ends phase reason hstops
    rcases endAttempts_of_attempt h with hkept | ⟨hended, after, hafter⟩
    · exact ⟨record, hkept, Or.inl hflight⟩
    · exact ⟨after, hafter, Or.inr (hstops hended)⟩
  have hset : ∀ old new : MigrationRecord,
      l.attempt old.intent.attempt = some old →
      new.intent.attempt = old.intent.attempt →
      (record = old → new.inFlight = true ∨ e.Stops record) →
      ∃ after, (l.setAttempt new).attempt k = some after ∧
        (after.inFlight = true ∨ e.Stops record) := by
    intro old new hold hkey hstops
    rcases setAttempt_of_attempt h hold hkey with hkept | ⟨heq, hnew⟩
    · exact ⟨record, hkept, Or.inl hflight⟩
    · exact ⟨new, hnew, hstops heq⟩
  cases e with
  | supersede old flow =>
      exact hends _ _ _ fun hrecord => by
        simpa [Event.Stops, Impl.attemptOf] using hrecord
  | remove old flow =>
      exact hends _ _ _ fun hrecord => by
        simpa [Event.Stops, Impl.attemptOf] using hrecord
  | advanceIncarnation target => exact hends _ _ _ id
  | retire target => exact hends _ _ _ id
  | place batch =>
      exact ⟨record, by simpa only [Event.apply, attempt_foldl_commit],
        Or.inl hflight⟩
  | issue descriptor source intent =>
      refine ⟨record, ?_, Or.inl hflight⟩
      simp only [Event.apply, attempt_hold]
      change Function.update l.attempt intent.attempt _ k = _
      by_cases hk : k = intent.attempt
      · subst hk
        rw [Function.update_self, h]
        rfl
      · rw [Function.update_of_ne hk, h]
  | progress old advanced effect =>
      refine hset old advanced henabled.1 henabled.2.attempt fun _ =>
        Or.inl ?_
      rw [MigrationRecord.inFlight_iff]
      cases henabled.2 with
      | @acknowledged isSource _ _ _ _ _ _ => cases isSource <;> simp
      | applied => simp
  | decline old isSource ack =>
      exact hset old _ henabled.1 (attempt_declinedRecord old isSource ack)
        Or.inr
  | complete old observation next =>
      simp only [Event.apply, attempt_move]
      exact hset old _ henabled.1 rfl Or.inr
  | abort old reason =>
      exact hset old (abortedRecord old reason) henabled.1 rfl Or.inr
  | _ => exact ⟨record, h, Or.inl hflight⟩

/-- An attempt keeps its intent but for the phase. -/
theorem intent_apply (henabled : e.enabled l) {k : MigrationAttemptId}
    {record after : MigrationRecord} (h : l.attempt k = some record)
    (hafter : (e.apply l).attempt k = some after) :
    ∃ phase, after.intent = { record.intent with phase := phase } := by
  rcases attempt_apply henabled hafter with
    hold | ⟨old, hold, -, hadvances⟩ | ⟨_, _, _, -, hnone, -, -⟩
  · rw [h] at hold
    cases hold
    exact ⟨_, rfl⟩
  · rw [h] at hold
    cases hold
    exact hadvances.intent_eq henabled
  · rw [h] at hnone
    cases hnone

/-- No event forgets an attempt. -/
theorem exists_attempt_apply (henabled : e.enabled l)
    {k : MigrationAttemptId} {record : MigrationRecord}
    (h : l.attempt k = some record) :
    ∃ after, (e.apply l).attempt k = some after := by
  cases hflight : record.inFlight with
  | false => exact ⟨record, attempt_apply_of_ended henabled h hflight⟩
  | true =>
      obtain ⟨after, hafter, -⟩ := inFlight_or_stops henabled h hflight
      exact ⟨after, hafter⟩

/-- An attempt that has ended had ended before or is stopped now. -/
theorem stops_of_ended (henabled : e.enabled l)
    {k : MigrationAttemptId} {after : MigrationRecord}
    (h : (e.apply l).attempt k = some after) (hended : after.inFlight = false) :
    l.attempt k = some after ∨
      ∃ record phase, l.attempt k = some record ∧ record.inFlight = true ∧
        after.intent = { record.intent with phase := phase } ∧
        e.Stops record := by
  rcases attempt_apply henabled h with
    hold | ⟨record, hrecord, hflight, hadvances⟩ |
      ⟨descriptor, source, intent, rfl, -, -, rfl⟩
  · exact Or.inl hold
  · refine Or.inr ?_
    obtain ⟨found, hfound, hstops⟩ :=
      inFlight_or_stops henabled hrecord hflight
    rw [h] at hfound
    cases hfound
    obtain ⟨phase, hintent⟩ := hadvances.intent_eq henabled
    rcases hstops with hstill | hstops
    · rw [hstill] at hended
      cases hended
    · exact ⟨record, phase, hrecord, hflight, hintent, hstops⟩
  · have hphase : intent.phase = .intentIssued := henabled.1
    simp only [MigrationRecord.inFlight, hphase] at hended
    cases hended

end FlowOffload.Ledger

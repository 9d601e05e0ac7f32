import FlowOffload.Engine.Books
import FlowOffload.Laws.Phases
import FlowOffload.Ledger.Content

/-!
# Accounting closure

The counters of issued and ended attempts agree with the table of attempts,
and the total of refusals with the counts by reason.  A counter that has
reached its maximum says nothing; every other one is exact, whatever the
engine was asked to do and however often it was restarted.
-/

namespace FlowOffload

open Foundation
open Std (ExtTreeMap)

/-! ## Saturating counters -/

def saturated : UInt64 := 0xFFFFFFFFFFFFFFFF

theorem toNat_saturated : saturated.toNat = 2 ^ 64 - 1 := rfl

theorem ne_saturated_iff {value : UInt64} :
    value ≠ saturated ↔ value.toNat < 2 ^ 64 - 1 := by
  have hbound := value.toNat_lt
  rw [ne_eq, ← UInt64.toNat_inj, toNat_saturated]
  omega

theorem toNat_increment {value : UInt64} (h : value ≠ saturated) :
    (saturatingIncrement value).toNat = value.toNat + 1 := by
  have hstep : saturatingIncrement value = value + 1 := if_neg h
  rw [hstep, UInt64.toNat_add]
  rw [ne_saturated_iff] at h
  have hone : (1 : UInt64).toNat = 1 := rfl
  omega

theorem toNat_saturatingIncrement {value : UInt64}
    (h : saturatingIncrement value ≠ saturated) :
    value ≠ saturated ∧
      (saturatingIncrement value).toNat = value.toNat + 1 := by
  have hless : value ≠ saturated := by
    rintro rfl
    exact h rfl
  exact ⟨hless, toNat_increment hless⟩

theorem toNat_bumpBy {count : Nat} {value : UInt64}
    (h : Impl.bumpBy count value ≠ saturated) :
    value ≠ saturated ∧
      (Impl.bumpBy count value).toNat = value.toNat + count := by
  induction count generalizing value with
  | zero => exact ⟨h, rfl⟩
  | succ count ih =>
      obtain ⟨hinc, hcount⟩ := ih h
      obtain ⟨hvalue, hone⟩ := toNat_saturatingIncrement hinc
      refine ⟨hvalue, ?_⟩
      rw [Impl.bumpBy, hcount, hone]
      omega

/-- The phases of an attempt that is no longer in flight. -/
def MigrationPhase.terminal (phase : MigrationPhase) : Prop :=
  phase = .completed ∨ phase = .aborted ∨ phase = .fenced

namespace Books

/-! ## Balanced books -/

def inPhase (b : Books) (phase : MigrationPhase) : Nat :=
  countOver (fun record => record.intent.phase = phase) b.attempts

def refusalWeight (_ : ReasonCode) (count : UInt64) : Nat := count.toNat

/-- The number of refusals recorded under all reasons. -/
def refused (b : Books) : Nat := sumOver refusalWeight b.refusalCounts

/-- The identities given out so far are one to the number of attempts. -/
structure Numbered (b : Books) : Prop where
  size : b.issued.toNat = countOver (fun _ => true) b.attempts
  next : b.nextAttempt.toNat = b.issued.toNat + 1
  below : ∀ k record, lookup b.attempts k = some record →
    k.value.toNat < b.nextAttempt.toNat
  newest : b.issued ≠ 0 → lookup b.attempts ⟨b.issued⟩ ≠ none

structure Balanced (b : Books) : Prop where
  numbered : b.issued ≠ saturated → b.Numbered
  completed : b.completed ≠ saturated →
    b.completed.toNat = b.inPhase .completed
  aborted : b.aborted ≠ saturated → b.aborted.toNat = b.inPhase .aborted
  fenced : b.fenced ≠ saturated → b.fenced.toNat = b.inPhase .fenced
  refusals : b.refusals ≠ saturated → b.refusals.toNat = b.refused

/-! ## Refusals -/

theorem Balanced.refuse {b : Books} (h : b.Balanced) (code : ReasonCode) :
    (b.refuse code).Balanced where
  numbered := fun hless => ⟨(h.numbered hless).size, (h.numbered hless).next,
    (h.numbered hless).below, (h.numbered hless).newest⟩
  completed := h.completed
  aborted := h.aborted
  fenced := h.fenced
  refusals := by
    intro hless
    obtain ⟨hbefore, hone⟩ := toNat_saturatingIncrement hless
    have htotal := h.refusals hbefore
    have hafter : (b.refuse code).refused =
        sumOver refusalWeight (Impl.bumpRefusal b.refusalCounts code) := rfl
    have hnow : b.refused = sumOver refusalWeight b.refusalCounts := rfl
    change (saturatingIncrement b.refusals).toNat = _
    rw [hafter, hone, htotal]
    unfold Impl.bumpRefusal
    cases hfound : b.refusalCounts[code]? with
    | none =>
        have hlookup : lookup b.refusalCounts code = none := hfound
        have hinsert := sumOver_insert refusalWeight b.refusalCounts code 1
        have hweight : weightAt refusalWeight b.refusalCounts code = 0 := by
          simp [weightAt, hlookup]
        have hnew : refusalWeight code 1 = 1 := rfl
        dsimp only
        omega
    | some count =>
        have hlookup : lookup b.refusalCounts code = some count := hfound
        have hle : count.toNat ≤ b.refused :=
          le_sumOver refusalWeight hlookup
        have hinsert := sumOver_insert refusalWeight b.refusalCounts code
          (saturatingIncrement count)
        have hweight : weightAt refusalWeight b.refusalCounts code =
            count.toNat := by
          simp [weightAt, hlookup, refusalWeight]
        have hnew : refusalWeight code (saturatingIncrement count) =
            count.toNat + 1 := by
          refine toNat_increment ?_
          rw [ne_saturated_iff] at hbefore ⊢
          omega
        dsimp only
        omega

theorem Balanced.refuseAll {b : Books} (h : b.Balanced)
    (codes : List ReasonCode) : (codes.foldl Books.refuse b).Balanced := by
  induction codes generalizing b with
  | nil => exact h
  | cons code codes ih => exact ih (h.refuse code)

/-! ## Attempts that end together -/

theorem phase_ne_of_inFlight {record : MigrationRecord}
    {phase : MigrationPhase} (hflight : record.inFlight = true)
    (hphase : phase.terminal) : record.intent.phase ≠ phase := by
  rw [MigrationRecord.inFlight_iff] at hflight
  rcases hphase with rfl | rfl | rfl
  · exact hflight.1
  · exact hflight.2.1
  · exact hflight.2.2

/-- Ending attempts adds them to the phase they end in and to no other. -/
theorem inPhase_endAttempts {b after : Books} {ends : MigrationRecord → Bool}
    {ended phase : MigrationPhase} {reason : ReasonCode}
    (hattempts : after.attempts = b.endAttempts ends ended reason)
    (hphase : phase.terminal) :
    after.inPhase phase =
      b.inPhase phase + if ended = phase then b.ending ends else 0 := by
  have hpoint : ∀ record : MigrationRecord,
      (if decide ((Impl.endAttempt ends ended reason record).intent.phase =
          phase) = true then 1 else 0) =
        (if decide (record.intent.phase = phase) = true then 1 else 0) +
          if (ended = phase && record.inFlight && ends record) = true then 1
          else 0 := by
    intro record
    unfold Impl.endAttempt
    cases hends : (record.inFlight && ends record) with
    | true =>
        rw [Bool.and_eq_true] at hends
        have hne := phase_ne_of_inFlight hends.1 hphase
        simp [hne, hends]
    | false =>
        have hnot : (decide (ended = phase) && record.inFlight &&
            ends record) = false := by
          rw [Bool.and_assoc, hends, Bool.and_false]
        simp [hnot]
  unfold inPhase countOver
  rw [hattempts, endAttempts, sumOver_map]
  simp only [hpoint]
  rw [sumOver_add]
  refine congrArg (_ + ·) ?_
  by_cases heq : ended = phase
  · simp only [heq, decide_true, Bool.true_and, if_true]
    exact countOver_eq_countP _ _
  · simp [heq, sumOver]

theorem Numbered.endAttempts {b : Books} (h : b.Numbered)
    (ends : MigrationRecord → Bool) (ended : MigrationPhase)
    (reason : ReasonCode) {after : Books}
    (hattempts : after.attempts = b.endAttempts ends ended reason)
    (hnext : after.nextAttempt = b.nextAttempt)
    (hissued : after.issued = b.issued) : after.Numbered where
  size := by
    rw [hissued, h.size, hattempts, countOver, countOver, Books.endAttempts,
      sumOver_map]
  next := by
    rw [hnext, hissued, h.next]
  below := by
    intro k record hrecord
    rw [hattempts, Books.endAttempts, lookup_map, Option.map_eq_some_iff]
      at hrecord
    obtain ⟨old, hold, -⟩ := hrecord
    rw [hnext]
    exact h.below k old hold
  newest := by
    intro hpos
    rw [hissued] at hpos ⊢
    rw [hattempts, Books.endAttempts, lookup_map]
    simpa using h.newest hpos

theorem attempts_fenceAll (b : Books) (ends : MigrationRecord → Bool)
    (reason : ReasonCode) : (b.fenceAll ends reason).attempts =
      b.endAttempts ends .fenced reason := rfl

theorem attempts_abortAll (b : Books) (ends : MigrationRecord → Bool)
    (reason : ReasonCode) : (b.abortAll ends reason).attempts =
      b.endAttempts ends .aborted reason := rfl

theorem Balanced.fenceAll {b : Books} (h : b.Balanced)
    (ends : MigrationRecord → Bool) (reason : ReasonCode) :
    (b.fenceAll ends reason).Balanced where
  numbered := fun hless =>
    (h.numbered hless).endAttempts ends .fenced reason rfl rfl rfl
  completed := by
    intro hless
    rw [inPhase_endAttempts (attempts_fenceAll b ends reason) (Or.inl rfl)]
    exact h.completed hless
  aborted := by
    intro hless
    rw [inPhase_endAttempts (attempts_fenceAll b ends reason) (Or.inr (Or.inl rfl))]
    exact h.aborted hless
  fenced := by
    intro hless
    obtain ⟨hbefore, hcount⟩ := toNat_bumpBy hless
    rw [inPhase_endAttempts (attempts_fenceAll b ends reason) (Or.inr (Or.inr rfl)),
      if_pos rfl, ← h.fenced hbefore]
    exact hcount
  refusals := h.refusals

theorem Balanced.abortAll {b : Books} (h : b.Balanced)
    (ends : MigrationRecord → Bool) (reason : ReasonCode) :
    (b.abortAll ends reason).Balanced where
  numbered := fun hless =>
    (h.numbered hless).endAttempts ends .aborted reason rfl rfl rfl
  completed := by
    intro hless
    rw [inPhase_endAttempts (attempts_abortAll b ends reason) (Or.inl rfl)]
    exact h.completed hless
  aborted := by
    intro hless
    obtain ⟨hbefore, hcount⟩ := toNat_bumpBy hless
    rw [inPhase_endAttempts (attempts_abortAll b ends reason) (Or.inr (Or.inl rfl)),
      if_pos rfl, ← h.aborted hbefore]
    exact hcount
  fenced := by
    intro hless
    rw [inPhase_endAttempts (attempts_abortAll b ends reason) (Or.inr (Or.inr rfl))]
    exact h.fenced hless
  refusals := h.refusals

/-! ## Single attempts -/

/-- Writing over an attempt in flight adds it to the phase it gets. -/
theorem inPhase_write {b : Books} {k : MigrationAttemptId}
    {record : MigrationRecord} (after : MigrationRecord)
    {phase : MigrationPhase} (hfound : lookup b.attempts k = some record)
    (hflight : record.inFlight = true) (hphase : phase.terminal) :
    (b.write k after).inPhase phase =
      b.inPhase phase + if after.intent.phase = phase then 1 else 0 := by
  have hinsert := sumOver_insert (fun (_ : MigrationAttemptId)
    (r : MigrationRecord) => if decide (r.intent.phase = phase) = true then 1
      else 0) b.attempts k after
  have hne := phase_ne_of_inFlight hflight hphase
  simp only [weightAt, hfound, Option.map_some, Option.getD_some, hne,
    if_false, Nat.add_zero, decide_eq_true_eq] at hinsert
  simpa [inPhase, countOver, write] using hinsert

theorem Numbered.write {b : Books} (h : b.Numbered) {k : MigrationAttemptId}
    {record : MigrationRecord} (after : MigrationRecord)
    (hfound : lookup b.attempts k = some record) :
    (b.write k after).Numbered where
  size := by
    have hinsert := sumOver_insert (fun (_ : MigrationAttemptId)
      (_ : MigrationRecord) => 1) b.attempts k after
    simp only [weightAt, hfound, Option.map_some, Option.getD_some] at hinsert
    have hsize := h.size
    simp only [countOver, if_true] at hsize ⊢
    change b.issued.toNat = sumOver _ (b.attempts.insert k after)
    omega
  next := h.next
  below := by
    intro j other hother
    change lookup (b.attempts.insert k after) j = _ at hother
    rw [lookup_insert] at hother
    by_cases hj : j = k
    · rw [hj]
      exact h.below k record hfound
    · rw [Function.update_of_ne hj] at hother
      exact h.below j other hother
  newest := by
    intro hpos
    change lookup (b.attempts.insert k after) ⟨b.issued⟩ ≠ none
    rw [lookup_insert]
    by_cases hk : (⟨b.issued⟩ : MigrationAttemptId) = k
    · rw [hk, Function.update_self]
      simp
    · rw [Function.update_of_ne hk]
      exact h.newest hpos

section Write

variable {b : Books} {k : MigrationAttemptId} {record after : MigrationRecord}

theorem Balanced.advance (h : b.Balanced)
    (hfound : lookup b.attempts k = some record)
    (hflight : record.inFlight = true) (hafter : after.inFlight = true) :
    (b.write k after).Balanced where
  numbered := fun hless => (h.numbered hless).write after hfound
  completed := by
    intro hless
    rw [inPhase_write after hfound hflight (Or.inl rfl),
      if_neg (phase_ne_of_inFlight hafter (Or.inl rfl))]
    exact h.completed hless
  aborted := by
    intro hless
    rw [inPhase_write after hfound hflight (Or.inr (Or.inl rfl)),
      if_neg (phase_ne_of_inFlight hafter (Or.inr (Or.inl rfl)))]
    exact h.aborted hless
  fenced := by
    intro hless
    rw [inPhase_write after hfound hflight (Or.inr (Or.inr rfl)),
      if_neg (phase_ne_of_inFlight hafter (Or.inr (Or.inr rfl)))]
    exact h.fenced hless
  refusals := h.refusals

theorem Balanced.decline (h : b.Balanced)
    (hfound : lookup b.attempts k = some record)
    (hflight : record.inFlight = true)
    (hafter : after.intent.phase = .aborted) :
    ({ b.write k after with
      aborted := saturatingIncrement b.aborted } : Books).Balanced where
  numbered := fun hless =>
    let hnumbered := (h.numbered hless).write after hfound
    ⟨hnumbered.size, hnumbered.next, hnumbered.below, hnumbered.newest⟩
  completed := by
    intro hless
    have hcount := inPhase_write after hfound hflight (Or.inl rfl)
    rw [hafter] at hcount
    exact (h.completed hless).trans hcount.symm
  aborted := by
    intro hless
    obtain ⟨hbefore, hone⟩ := toNat_saturatingIncrement hless
    have hcount := inPhase_write after hfound hflight (Or.inr (Or.inl rfl))
    rw [hafter, if_pos rfl, ← h.aborted hbefore] at hcount
    exact hone.trans hcount.symm
  fenced := by
    intro hless
    have hcount := inPhase_write after hfound hflight (Or.inr (Or.inr rfl))
    rw [hafter] at hcount
    exact (h.fenced hless).trans hcount.symm
  refusals := h.refusals

theorem Balanced.complete (h : b.Balanced)
    (hfound : lookup b.attempts k = some record)
    (hflight : record.inFlight = true)
    (hafter : after.intent.phase = .completed) :
    ({ b.write k after with
      completed := saturatingIncrement b.completed } : Books).Balanced where
  numbered := fun hless =>
    let hnumbered := (h.numbered hless).write after hfound
    ⟨hnumbered.size, hnumbered.next, hnumbered.below, hnumbered.newest⟩
  completed := by
    intro hless
    obtain ⟨hbefore, hone⟩ := toNat_saturatingIncrement hless
    have hcount := inPhase_write after hfound hflight (Or.inl rfl)
    rw [hafter, if_pos rfl, ← h.completed hbefore] at hcount
    exact hone.trans hcount.symm
  aborted := by
    intro hless
    have hcount := inPhase_write after hfound hflight (Or.inr (Or.inl rfl))
    rw [hafter] at hcount
    exact (h.aborted hless).trans hcount.symm
  fenced := by
    intro hless
    have hcount := inPhase_write after hfound hflight (Or.inr (Or.inr rfl))
    rw [hafter] at hcount
    exact (h.fenced hless).trans hcount.symm
  refusals := h.refusals

end Write

/-! ## New attempts -/

/-- An attempt that is opened is in no terminal phase. -/
theorem inPhase_issue {b : Books} {intent : MigrationIntent}
    {phase : MigrationPhase} (hphase : phase.terminal)
    (hopened : intent.phase = .intentIssued) :
    (b.issue intent).inPhase phase = b.inPhase phase := by
  have hne : intent.phase ≠ phase := by
    rw [hopened]
    rcases hphase with rfl | rfl | rfl <;> simp
  change countOver _ (b.attempts.insertIfNew _ _) = _
  cases hfound : lookup b.attempts ⟨b.nextAttempt⟩ with
  | none =>
      rw [insertIfNew_eq_insert _ hfound]
      have hinsert := sumOver_insert (fun (_ : MigrationAttemptId)
        (r : MigrationRecord) => if decide (r.intent.phase = phase) = true
          then 1 else 0) b.attempts ⟨b.nextAttempt⟩ { intent := intent }
      simp only [weightAt, hfound, Option.map_none, Option.getD_none,
        Nat.add_zero, hne, decide_eq_true_eq, if_false] at hinsert
      simpa [inPhase, countOver] using hinsert
  | some record =>
      rw [insertIfNew_eq_self_iff.mpr (by simp [hfound])]
      rfl

theorem Numbered.issue {b : Books} {intent : MigrationIntent}
    (h : b.Numbered)
    (hless : (b.issue intent).issued ≠ saturated) :
    (b.issue intent).Numbered := by
  obtain ⟨hissued, hone⟩ := toNat_saturatingIncrement hless
  have hnext : (saturatingIncrement b.nextAttempt).toNat =
      b.nextAttempt.toNat + 1 := by
    refine toNat_increment ?_
    rw [ne_saturated_iff] at hless ⊢
    change (saturatingIncrement b.issued).toNat < _ at hless
    rw [h.next]
    omega
  have hfresh : lookup b.attempts ⟨b.nextAttempt⟩ = none := by
    by_contra hne
    obtain ⟨record, hrecord⟩ := Option.ne_none_iff_exists'.mp hne
    exact Nat.lt_irrefl _ (h.below _ record hrecord)
  have hattempts : (b.issue intent).attempts =
      b.attempts.insert ⟨b.nextAttempt⟩ { intent := intent } :=
    insertIfNew_eq_insert _ hfresh
  constructor
  · have hinsert := sumOver_insert (fun (_ : MigrationAttemptId)
      (_ : MigrationRecord) => 1) b.attempts ⟨b.nextAttempt⟩
        { intent := intent }
    simp only [weightAt, hfresh, Option.map_none, Option.getD_none,
      Nat.add_zero] at hinsert
    have hsize := h.size
    rw [hattempts]
    simp only [countOver, if_true] at hsize ⊢
    change (saturatingIncrement b.issued).toNat = _
    omega
  · change (saturatingIncrement b.nextAttempt).toNat =
      (saturatingIncrement b.issued).toNat + 1
    rw [hnext, hone, h.next]
  · intro k record hrecord
    change _ < (saturatingIncrement b.nextAttempt).toNat
    rw [hattempts, lookup_insert] at hrecord
    by_cases hk : k = ⟨b.nextAttempt⟩
    · rw [hnext, hk]
      exact Nat.lt_succ_self _
    · rw [Function.update_of_ne hk] at hrecord
      rw [hnext]
      exact Nat.lt_succ_of_lt (h.below k record hrecord)
  · intro _
    have hkey : (⟨saturatingIncrement b.issued⟩ : MigrationAttemptId) =
        ⟨b.nextAttempt⟩ := by
      rw [TypedId.eq_iff_toNat_eq]
      change (saturatingIncrement b.issued).toNat = b.nextAttempt.toNat
      rw [hone, h.next]
    change lookup (b.issue intent).attempts
      ⟨saturatingIncrement b.issued⟩ ≠ none
    rw [hattempts, hkey, lookup_insert, Function.update_self]
    simp

theorem Balanced.issue {b : Books} (h : b.Balanced)
    {intent : MigrationIntent} (hopened : intent.phase = .intentIssued) :
    (b.issue intent).Balanced where
  numbered := fun hless =>
    (h.numbered (toNat_saturatingIncrement hless).1).issue hless
  completed := by
    intro hless
    rw [inPhase_issue (Or.inl rfl) hopened]
    exact h.completed hless
  aborted := by
    intro hless
    rw [inPhase_issue (Or.inr (Or.inl rfl)) hopened]
    exact h.aborted hless
  fenced := by
    intro hless
    rw [inPhase_issue (Or.inr (Or.inr rfl)) hopened]
    exact h.fenced hless
  refusals := h.refusals

theorem Balanced.posts {b after : Books} (h : b.Balanced)
    (hposts : b.Posts after) : after.Balanced := by
  cases hposts with
  | refused codes => exact h.refuseAll codes
  | fenced ends reason => exact h.fenceAll ends reason
  | aborted ends reason => exact h.abortAll ends reason
  | issued attempt phase => exact h.issue phase
  | advanced found before flight attempt =>
      exact h.advance found before flight
  | declined found before phase attempt => exact h.decline found before phase
  | completed found before phase attempt =>
      exact h.complete found before phase

end Books

namespace Impl

variable {s : Impl}

/-! ## Operations -/

/-- Every operation of a running engine makes at most one posting. -/
theorem posts_step (hkeyed : ∀ k record, lookup s.migrations k = some record →
    record.intent.attempt = k) {op : Op} (hwithin : op.within = true) :
    s.books.Posts (s.step op).books := by
  have hsame : ∀ t : Impl, t.books = s.books → s.books.Posts t.books := by
    intro t h
    rw [h]
    exact .none _
  cases op with
  | openEngine opening answer => cases hwithin
  | shutdown answer => cases hwithin
  | restart config => cases hwithin
  | registerFlow flow answer => exact posts_registerFlow s flow answer
  | removeFlow flow generation answer =>
      exact posts_removeFlow s flow generation answer
  | declareTarget target answer => exact posts_declareTarget s target answer
  | removeTarget target incarnation instant answer =>
      exact posts_removeTarget s target incarnation instant answer
  | ingestLoad evidence => exact hsame _ (books_ingestLoad s evidence)
  | setPolicy policy answer => exact hsame _ (books_setPolicy s policy answer)
  | setTopologyGeneration generation answer =>
      exact hsame _ (books_setTopologyGeneration s generation answer)
  | registerMigrationContract contract answer =>
      exact hsame _ (books_registerMigrationContract s contract answer)
  | place request answer => exact posts_placeLocked s request answer
  | rebalance request answer =>
      exact hsame _ (books_rebalanceLocked s request answer)
  | authorize recommendation instant =>
      exact posts_authorize s recommendation instant
  | revokeAuthorization authorization =>
      exact hsame _ (books_revokeAuthorization s authorization)
  | issueIntent authorization wanted answer =>
      exact posts_issueIntent s authorization wanted answer
  | acknowledge ack answer => exact posts_acknowledge s ack answer
  | reportApplied effect answer => exact posts_reportApplied s effect answer
  | observe observation answer => exact posts_observe s hkeyed observation answer
  | abortMigration attempt reason answer =>
      exact posts_abortMigration s attempt reason answer


/-! ## Restart -/

/-- The books that recovering a state opens with. -/
def recoveredBooks (state : DurableState) : Books :=
  ((init {} []).restoreLocked state).books

theorem books_restoreLocked (s : Impl) (state : DurableState) :
    (s.restoreLocked state).books = recoveredBooks state := rfl

theorem largest_spec (values : List UInt64) (start : UInt64) :
    start.toNat ≤ (values.foldl max start).toNat ∧
      (∀ v ∈ values, v.toNat ≤ (values.foldl max start).toNat) ∧
      (values.foldl max start = start ∨ values.foldl max start ∈ values) := by
  induction values generalizing start with
  | nil => exact ⟨Nat.le_refl _, by simp, Or.inl rfl⟩
  | cons value values ih =>
      obtain ⟨hstart, hall, hmem⟩ := ih (max start value)
      have hmax : (max start value = start ∨ max start value = value) ∧
          start.toNat ≤ (max start value).toNat ∧
          value.toNat ≤ (max start value).toNat := by
        change ((if start ≤ value then value else start) = start ∨
          (if start ≤ value then value else start) = value) ∧ _ ≤
            (if start ≤ value then value else start).toNat ∧ _ ≤
              (if start ≤ value then value else start).toNat
        split
        next hle => exact ⟨Or.inr rfl, hle, Nat.le_refl _⟩
        next hgt =>
          rw [UInt64.le_iff_toNat_le] at hgt
          exact ⟨Or.inl rfl, Nat.le_refl _, by omega⟩
      obtain ⟨hsame, hfirst, hsecond⟩ := hmax
      rw [List.foldl_cons]
      refine ⟨by omega, ?_, ?_⟩
      · intro v hv
        rcases List.mem_cons.mp hv with rfl | hv
        · omega
        · exact hall v hv
      · rcases hmem with heq | hmem
        · rcases hsame with hsame | hsame
          · exact Or.inl (heq.trans hsame)
          · rw [heq, hsame]
            exact Or.inr List.mem_cons_self
        · exact Or.inr (List.mem_cons_of_mem _ hmem)

theorem largest_eq {values : List UInt64} {value : UInt64}
    (hle : ∀ v ∈ values, v.toNat ≤ value.toNat)
    (hmem : value ≠ 0 → value ∈ values) : largest values = value := by
  obtain ⟨-, hall, hfound⟩ := largest_spec values 0
  rw [← UInt64.toNat_inj]
  refine Nat.le_antisymm ?_ ?_
  · rcases hfound with heq | hfound
    · rw [largest, heq]
      exact Nat.zero_le _
    · exact hle _ hfound
  · by_cases hzero : value = 0
    · subst hzero
      exact Nat.zero_le _
    · exact hall value (hmem hzero)

/-- What the image of an engine is loaded as, before attempts are fenced. -/
def loadedBooks (t : Impl) : Books :=
  .of t.migrations (saturatingIncrement (largest (t.migrations.toList.map
    fun entry => entry.2.intent.attempt.value))) t.counters t.refusalCounts

/-- The counts by reason come back as they were. -/
theorem recovered_refusalCounts (t : Impl) :
    t.buildDurableLocked.refusalCounts.foldl
        (fun counts count => counts.insert count.code count.count) ∅ =
      t.refusalCounts := by
  have hperm : t.buildDurableLocked.refusalCounts.Perm
      (t.refusalCounts.toList.map fun entry => ⟨entry.1, entry.2⟩) :=
    sortByKey_perm _ _
  have hnodup : (t.buildDurableLocked.refusalCounts.map
      ReasonCount.code).Nodup := by
    rw [(hperm.map ReasonCount.code).nodup_iff, List.map_map]
    exact nodup_fst_toList t.refusalCounts
  have hmap := foldl_insert_map ReasonCount.code ReasonCount.count
    t.buildDurableLocked.refusalCounts ∅
  have hempty : (∅ : ExtTreeMap ReasonCode ReasonCount).map
      (fun _ count => count.count) = ∅ := by
    refine ext_lookup fun code => ?_
    simp
  rw [hempty] at hmap
  rw [hmap]
  refine ext_lookup fun code => ?_
  rw [lookup_map]
  ext count
  rw [Option.map_eq_some_iff]
  constructor
  · rintro ⟨record, hrecord, rfl⟩
    rw [lookup_foldl_insert _ _ hnodup] at hrecord
    rcases hrecord with ⟨hmem, rfl⟩ | ⟨hnone, -⟩
    · obtain ⟨entry, hentry, rfl⟩ := List.mem_map.mp (hperm.mem_iff.mp hmem)
      exact lookup_eq_some_iff_mem_toList.mpr hentry
    · simp at hnone
  · intro hfound
    refine ⟨⟨code, count⟩, ?_, rfl⟩
    rw [lookup_foldl_insert _ _ hnodup]
    refine Or.inl ⟨hperm.mem_iff.mpr (List.mem_map.mpr
      ⟨(code, count), ?_, rfl⟩), rfl⟩
    exact lookup_eq_some_iff_mem_toList.mp hfound

theorem recoveredBooks_eq {t : Impl} (hkeyed : t.ledger.Keyed) :
    recoveredBooks t.buildDurableLocked =
      t.loadedBooks.fenceAll (fun _ => true) .rejectedFencedByRestart := by
  have hattempts : indexBy (fun record => record.intent.attempt)
      t.buildDurableLocked.migrations = t.migrations := by
    refine ext_lookup fun k => ?_
    refine (lookup_indexBy_sortByKey (g := id) (m := t.migrations)
      (sortByKey_perm _ _) ?_ k).trans Option.map_id_apply
    exact hkeyed.attempt
  have hloaded : recoveredBooks t.buildDurableLocked =
      (Books.of (indexBy (fun record => record.intent.attempt)
        t.buildDurableLocked.migrations) (saturatingIncrement (largest
          ((indexBy (fun record => record.intent.attempt)
            t.buildDurableLocked.migrations).toList.map fun entry =>
              entry.2.intent.attempt.value))) t.counters
        (t.buildDurableLocked.refusalCounts.foldl
          (fun counts count => counts.insert count.code count.count)
          ∅)).fenceAll (fun _ => true) .rejectedFencedByRestart := rfl
  rw [hloaded, hattempts, recovered_refusalCounts]
  rfl

/-- The next identity is found again from the attempts. -/
theorem balanced_loadedBooks {t : Impl} (hkeyed : t.ledger.Keyed)
    (h : t.books.Balanced) : t.loadedBooks.Balanced where
  numbered := by
    intro hless
    have hnumbered := h.numbered hless
    have hkeys : ∀ k record, lookup t.migrations k = some record →
        record.intent.attempt = k := hkeyed.attempt
    have hlargest : largest (t.migrations.toList.map
        fun entry => entry.2.intent.attempt.value) = t.books.issued := by
      refine largest_eq ?_ ?_
      · intro v hv
        obtain ⟨entry, hentry, rfl⟩ := List.mem_map.mp hv
        have hfound := lookup_eq_some_iff_mem_toList.mpr hentry
        have hbelow := hnumbered.below entry.1 entry.2 hfound
        rw [hnumbered.next] at hbelow
        rw [hkeys _ _ hfound]
        omega
      · intro hpos
        obtain ⟨record, hrecord⟩ :=
          Option.ne_none_iff_exists'.mp (hnumbered.newest hpos)
        refine List.mem_map.mpr ⟨(⟨t.books.issued⟩, record),
          lookup_eq_some_iff_mem_toList.mp hrecord, ?_⟩
        exact congrArg TypedId.value (hkeys _ _ hrecord)
    have hnext : t.loadedBooks.nextAttempt = t.books.nextAttempt := by
      rw [← UInt64.toNat_inj, hnumbered.next]
      change (saturatingIncrement (largest _)).toNat = _
      rw [hlargest]
      exact toNat_increment hless
    refine ⟨hnumbered.size, ?_, ?_, hnumbered.newest⟩
    · rw [hnext]
      exact hnumbered.next
    · rw [hnext]
      exact hnumbered.below
  completed := h.completed
  aborted := h.aborted
  fenced := h.fenced
  refusals := h.refusals

theorem balanced_recoveredBooks {t : Impl} (hkeyed : t.ledger.Keyed)
    (h : t.books.Balanced) :
    (recoveredBooks t.buildDurableLocked).Balanced := by
  rw [recoveredBooks_eq hkeyed]
  exact (balanced_loadedBooks hkeyed h).fenceAll _ _

theorem books_startIncarnation (t : Impl) (epoch : CoordinatorEpoch)
    (boot : BootId) (answer : Status) :
    (t.startIncarnation epoch boot answer).1.books = t.books := by
  have hfence : ∀ u : Impl, (u.fencePrevious boot).books = u.books := by
    intro u
    unfold fencePrevious
    split
    · dsimp only
      split <;> rfl
    · rfl
  unfold startIncarnation
  split
  · rfl
  · dsimp only
    generalize hopened : ({ Impl.fencePrevious (t.enterIncarnation _ boot) boot
      with isOpen := true } : Impl) = opened
    have hbooks : opened.books = t.books := by
      subst hopened
      exact hfence _
    have hpersisted := books_persistLocked opened answer
    split
    · exact hpersisted.trans hbooks
    · exact hpersisted.trans hbooks

theorem books_openEngine (s : Impl) (opening : StoreOpening)
    (answer : Status) :
    (s.openEngine opening answer).1.books = s.books ∨
      ∃ state, opening.state = some state ∧
        (s.openEngine opening answer).1.books = recoveredBooks state := by
  unfold openEngine
  split
  · exact Or.inl rfl
  · split
    · exact Or.inl (books_startIncarnation _ _ _ _)
    · dsimp only
      split
      · exact Or.inl rfl
      · split
        · exact Or.inl (books_startIncarnation _ _ _ _)
        next state hstate =>
          exact Or.inr ⟨state, hstate, books_startIncarnation _ _ _ _⟩

theorem books_shutdown (s : Impl) (answer : Status) :
    (s.shutdown answer).books = s.books := by
  unfold shutdown
  split
  · exact books_persistLocked s answer
  · rfl

/-! ## Runs -/

/-- The books are balanced now and after recovering anything submitted. -/
structure Closed (s : Impl) : Prop where
  keyed : s.ledger.Keyed
  now : s.books.Balanced
  later : ∀ state ∈ s.submitted, (recoveredBooks state).Balanced

theorem balanced_init (config : EngineConfig) (submitted : List DurableState) :
    (init config submitted).books.Balanced where
  numbered := fun _ => ⟨rfl, rfl, by
    intro k record h
    change lookup ∅ k = some record at h
    simp at h, fun hpos => absurd rfl hpos⟩
  completed := fun _ => rfl
  aborted := fun _ => rfl
  fenced := fun _ => rfl
  refusals := fun _ => rfl

theorem balanced_step (h : s.Closed) {op : Op} (hallowed : s.allowed op) :
    (s.step op).books.Balanced := by
  have hwithin : op.within = true → (s.step op).books.Balanced :=
    fun hop => h.now.posts (posts_step h.keyed.attempt hop)
  cases op with
  | openEngine opening answer =>
      rcases books_openEngine s opening answer with heq | ⟨state, hstate, heq⟩
      · exact heq ▸ h.now
      · exact heq ▸ h.later state (hallowed state hstate)
  | shutdown answer => exact (books_shutdown s answer).symm ▸ h.now
  | restart config => exact balanced_init config s.submitted
  | _ => exact hwithin rfl

theorem closed_step (h : s.Closed) {op : Op} (hallowed : s.allowed op) :
    (s.step op).Closed := by
  have hkeyed := keyed_step h.keyed op
  have hnow := balanced_step h hallowed
  refine ⟨hkeyed, hnow, ?_⟩
  intro state hstate
  rcases images_step h.keyed op state hstate with hold | ⟨u, hmirrors, rfl⟩
  · exact h.later state hold
  · obtain ⟨isOpen, submitted, commits, failures, rfl⟩ := hmirrors
    exact balanced_recoveredBooks hkeyed hnow

/-- What the counters of an engine say, as far as they are not saturated. -/
structure Accounted (s : Impl) : Prop where
  issued : s.counters.migrationsIssued ≠ saturated →
    s.counters.migrationsIssued.toNat = s.migrations.size
  completed : s.counters.migrationsCompleted ≠ saturated →
    s.counters.migrationsCompleted.toNat = s.migrations.toList.countP
      fun entry => entry.2.intent.phase = .completed
  aborted : s.counters.migrationsAborted ≠ saturated →
    s.counters.migrationsAborted.toNat = s.migrations.toList.countP
      fun entry => entry.2.intent.phase = .aborted
  fenced : s.counters.migrationsFenced ≠ saturated →
    s.counters.migrationsFenced.toNat = s.migrations.toList.countP
      fun entry => entry.2.intent.phase = .fenced
  refusals : s.counters.refusalsByReasonTotal ≠ saturated →
    s.counters.refusalsByReasonTotal.toNat =
      (s.refusalCounts.toList.map fun entry => entry.2.toNat).sum

theorem Closed.accounted (h : s.Closed) : s.Accounted where
  issued := by
    intro hless
    have hsize := (h.now.numbered hless).size
    rw [countOver_eq_countP, List.countP_true, ExtTreeMap.length_toList]
      at hsize
    exact hsize
  completed := fun hless =>
    (h.now.completed hless).trans (countOver_eq_countP _ _)
  aborted := fun hless =>
    (h.now.aborted hless).trans (countOver_eq_countP _ _)
  fenced := fun hless =>
    (h.now.fenced hless).trans (countOver_eq_countP _ _)
  refusals := h.now.refusals

/-- In every reachable state the counters that are not saturated are exact. -/
theorem accounting_is_closed (config : EngineConfig) (inputs : List Op)
    (h : engine.Admits (fun _ _ => True) (init config []) inputs) :
    (engine.run (init config []) inputs).Accounted := by
  have hclosed : (engine.run (init config []) inputs).Closed :=
    h.invariant (P := Closed)
      (fun _ _ hs hallowed _ => closed_step hs hallowed)
      ⟨by simpa [init, ledger, Ledger.empty] using
        Ledger.wellFormed_empty.toKeyed,
        balanced_init config [], by simp [init]⟩
  exact hclosed.accounted

/-- An attempt is in flight when the process ends and fenced when it opens. -/
theorem restarted_engine_is_accounted :
    (engine.run (init durableConfig []) (durableHandoff ++
        [.restart durableConfig, reopening])).Accounted ∧
      (engine.run (init durableConfig []) (durableHandoff ++
        [.restart durableConfig, reopening])).counters.migrationsFenced =
          1 := by
  have hall : engine.Admits (fun _ _ => True) (init durableConfig [])
        (durableHandoff ++ [.restart durableConfig, reopening]) ∧
      (engine.run (init durableConfig []) (durableHandoff ++
        [.restart durableConfig, reopening])).counters.migrationsFenced =
          1 := by
    decide +kernel
  exact ⟨accounting_is_closed durableConfig _ hall.1, hall.2⟩

end Impl

end FlowOffload

import FlowOffload.Engine.Handoff
import FlowOffload.Laws.Declared
import FlowOffload.Laws.FailedCommits

/-!
# Flushed commits

A commit is durable once its record is flushed.  The compaction behind it may
still fail, and then the answer is a reason code that does not count as an
acceptance, so the engine books a failure for a commit that recovery will find.
-/

namespace FlowOffload

open Foundation

namespace Store

variable {store : Store} {state : DurableState} {io : AppendIo}
  {compactIo : CompactIo}

/-- The commit writes and flushes its record. -/
structure Flushed (store : Store) (state : DurableState) (io : AppendIo) :
    Prop where
  forced : store.forcedFailure = .ok
  isOpen : store.isOpen = true
  appended : (store.appendRecord state io).2 = none

/-- The record reaches one of the two thresholds of compaction. -/
def Rotates (store : Store) (state : DurableState) : Prop :=
  store.config.compactionRecordThreshold ≤ store.recordsSinceSnapshot + 1 ∨
    store.config.maxJournalBytes / 2 ≤
      store.journalBytes + (store.nextRecord state).length

/-- The snapshot fits its bound, and every step of the compaction succeeds. -/
structure CanRotate (store : Store) (state : DurableState)
    (compactIo : CompactIo) : Prop where
  fits : state.encode.length + kSnapshotHeaderBytes ≤
    store.config.maxSnapshotBytes
  snapshot : compactIo.snapshotFailure = none
  rewrite : compactIo.rewrite = .complete
  reopened : compactIo.reopened = true

instance (store : Store) (state : DurableState) :
    Decidable (store.Rotates state) :=
  inferInstanceAs (Decidable (_ ∨ _))

instance (store : Store) (state : DurableState) (compactIo : CompactIo) :
    Decidable (store.CanRotate state compactIo) :=
  decidable_of_iff
    (state.encode.length + kSnapshotHeaderBytes ≤
        store.config.maxSnapshotBytes ∧
      compactIo.snapshotFailure = none ∧ compactIo.rewrite = .complete ∧
      compactIo.reopened = true)
    ⟨fun ⟨h1, h2, h3, h4⟩ => ⟨h1, h2, h3, h4⟩,
      fun ⟨h1, h2, h3, h4⟩ => ⟨h1, h2, h3, h4⟩⟩

theorem Flushed.appendable (h : store.Flushed state io) :
    Appendable store state ∧ io = .complete := by
  have happended := h.appended
  by_cases happend : Appendable store state
  · rw [appendRecord_of_appendable happend] at happended
    cases io with
    | complete => exact ⟨happend, rfl⟩
    | unflushed => cases happended
    | short written => cases happended
  · obtain ⟨code, -, hrefused⟩ := appendRecord_of_not_appendable happend io
    rw [hrefused] at happended
    cases happended

theorem compactionDue_appended_iff :
    (store.appended state).compactionDue = true ↔ store.Rotates state := by
  unfold compactionDue Rotates
  rw [Bool.or_eq_true, decide_eq_true_iff, decide_eq_true_iff]
  exact Iff.rfl

/-- An open store acknowledges a compaction exactly when all of it succeeds. -/
theorem compact_ok_iff (hopen : store.isOpen = true)
    (hwriter : writerOk state.encode = true) (hreports : compactIo.Reports) :
    (store.compact state compactIo).2.ok = true ↔
      store.CanRotate state compactIo := by
  obtain ⟨hcannot, code, hcode, hcompact⟩ |
    ⟨hcompactable, code, hfailure, hcompact⟩ |
    ⟨hcompactable, hfailure, hcompacted⟩ := compact_cases store state compactIo
  · rw [hcompact]
    constructor
    · intro hok
      exact absurd (hcode.symm.trans hok) (by decide)
    · intro hrotates
      exact absurd ⟨hopen, hwriter, hrotates.fits⟩ hcannot
  · rw [hcompact, hreports.refused hfailure]
    constructor
    · intro hok
      cases hok
    · intro hrotates
      rw [hrotates.snapshot] at hfailure
      cases hfailure
  · constructor
    · intro hok
      -- the append handle is open again only behind a complete rewrite
      have hhandle := compact_handle hfailure hcompactable hok
      have hrewrite := (hcompacted.handle hhandle).1
      refine ⟨hcompactable.snapshot, hfailure, hrewrite, ?_⟩
      by_contra hclosed
      have hrefused : (store.compact state compactIo).2.ok = false := by
        have hsize := Nat.not_lt.mpr hcompactable.snapshot
        simp [compact, hopen, hwriter, hsize, hfailure, hrewrite, hclosed,
          rewriteJournal, Status.ok, Status.refused, ReasonCode.isAcceptance,
          ReasonCode.reasonValue]
      exact absurd (hrefused.symm.trans hok) (by decide)
    · intro hrotates
      have hsize := Nat.not_lt.mpr hrotates.fits
      simp [compact, hopen, hwriter, hsize, hfailure, hrotates.rewrite,
        hrotates.reopened, rewriteJournal, Status.ok, Status.accepted,
        ReasonCode.isAcceptance, ReasonCode.reasonValue]

/-- What a commit does once its record is flushed. -/
theorem Flushed.commit_eq (h : store.Flushed state io)
    (compactIo : CompactIo) :
    store.commit state io compactIo =
      if (store.appended state).compactionDue then
        (((store.appended state).compact state compactIo).1,
          if ((store.appended state).compact state compactIo).2.failed then
            .accepted .persistRotationRequired
          else .accepted .recoveryCompacted)
      else (store.appended state, .accepted .persistCommitted) := by
  obtain ⟨happend, hcomplete⟩ := h.appendable
  have hready : (!store.isOpen || !store.fileHandle) = false := by
    rw [h.isOpen, happend.handle]
    rfl
  rw [commit, if_neg (not_not.mpr h.forced), hready,
    appendRecord_of_appendable happend, hcomplete]
  simp only [Bool.false_eq_true, if_false]
  split
  · split <;> rfl
  · rfl

/-- A flushed commit is recovered, whatever becomes of the compaction. -/
theorem Flushed.renews (h : store.Flushed state io) (hready : Ready store)
    (hvalid : state.CodecValid)
    (hnext : store.commitSequence.toNat + 2 < 2 ^ 64)
    (compactIo : CompactIo) :
    Renews store state (store.commit state io compactIo).1 := by
  have happend := h.appendable.1
  rw [h.commit_eq]
  cases (store.appended state).compactionDue with
  | true => exact (hready.commit_renews happend hvalid hnext compactIo).1
  | false => exact hready.appended_renews happend hvalid (by omega)

/-- A flushed commit is answered with an acceptance unless it is followed by
a compaction that fails. -/
theorem commit_ok_iff (hflushed : store.Flushed state io)
    (hreports : compactIo.Reports) :
    (store.commit state io compactIo).2.ok = true ↔
      (store.Rotates state → store.CanRotate state compactIo) := by
  have happend := hflushed.appendable.1
  rw [hflushed.commit_eq]
  have hcompact := @compact_ok_iff (store.appended state) state compactIo
    hflushed.isOpen happend.writer hreports
  cases hdue : (store.appended state).compactionDue with
  | false =>
      have hstays : ¬ store.Rotates state := by
        rw [← compactionDue_appended_iff, hdue]
        decide
      exact ⟨fun _ hrotates => absurd hrotates hstays, fun _ => rfl⟩
  | true =>
      have hrotates := compactionDue_appended_iff.mp hdue
      have hanswer : ∀ compacted : Status,
          (if compacted.failed then Status.accepted .persistRotationRequired
            else .accepted .recoveryCompacted).ok = compacted.ok := by
        intro compacted
        unfold Status.failed
        cases compacted.ok <;> rfl
      simp only [if_true, hanswer]
      rw [hcompact]
      exact ⟨fun hcan _ => ⟨hcan.fits, hcan.snapshot, hcan.rewrite,
          hcan.reopened⟩,
        fun hcan => ⟨(hcan hrotates).fits, (hcan hrotates).snapshot,
          (hcan hrotates).rewrite, (hcan hrotates).reopened⟩⟩

end Store

/-! ## What the engine makes of the answer -/

namespace Impl

variable {s : Impl} {answer : Status}

/-- The answer of a commit is booked as a commit, and no operation that
reached its commit is reported as failed. -/
structure Credits (s : Impl) (answer : Status) : Prop where
  ok : answer.ok = true
  status : (s.persistLocked answer).2 = answer
  commits : (s.persistLocked answer).1.counters.persistCommits =
    saturatingIncrement s.counters.persistCommits
  failures : (s.persistLocked answer).1.counters.persistFailures =
    s.counters.persistFailures
  outcomes : ∀ outcome, (s.persistThen answer outcome).2 = .accepted outcome
  operations : ∀ op, op.decision = some answer →
    (s.step op).submitted ≠ s.submitted → s.accepted op = true

theorem credits_of_ok (hkeyed : s.ledger.Keyed)
    (henabled : s.config.persistenceEnabled = true)
    (hok : answer.ok = true) : s.Credits answer := by
  have hfailed : answer.failed = false := by
    rw [Status.failed, hok]
    rfl
  have hpersisted : (s.persistLocked answer).2 = answer := by
    simp [persistLocked, henabled, hfailed]
  refine ⟨hok, hpersisted, ?_, ?_, ?_, ?_⟩
  · simp [persistLocked, henabled, hfailed]
  · simp [persistLocked, henabled, hfailed]
  · intro outcome
    simp [persistThen, hpersisted, hfailed]
  · intro op hdecision hhanded
    have hends := ends_step hkeyed.attempt hdecision
    generalize s.step op = after at hends hhanded
    generalize s.accepted op = accepted at hends
    cases hends with
    | refused counted =>
        obtain ⟨counters, refusalCounts, heq⟩ := counted
        rw [heq] at hhanded
        exact absurd rfl hhanded
    | repeated | redeclared | placed => rfl
    | @committed t stays targets change =>
        rcases submitted_persistLocked t answer with
          ⟨hdisabled, -⟩ | ⟨-, image, -, -, -, heq⟩
        · rw [stays.config, henabled] at hdisabled
          cases hdisabled
        · rw [heq]
          exact hok

/--
In every reachable state a commit whose record is flushed is credited exactly
when no compaction follows it or the whole compaction succeeds.
-/
theorem flushed_commits_are_credited_iff (config : EngineConfig)
    (inputs : List Op)
    (h : engine.Admits (fun _ _ => True) (init config []) inputs)
    (henabled :
      (engine.run (init config []) inputs).config.persistenceEnabled = true)
    (store : Store) (state : DurableState) (io : AppendIo)
    (compactIo : CompactIo) (hflushed : store.Flushed state io)
    (hreports : compactIo.Reports) :
    (engine.run (init config []) inputs).Credits
        (store.commit state io compactIo).2 ↔
      (store.Rotates state → store.CanRotate state compactIo) := by
  rw [← Store.commit_ok_iff hflushed hreports]
  exact ⟨Credits.ok, credits_of_ok (keyed_of_run h) henabled⟩

/-- A store that compacts behind every record. -/
def eagerStore : Store :=
  Store.opened { storeConfig with compactionRecordThreshold := 1 } {}

theorem compacted_commit_is_credited :
    (engine.run (init durableConfig []) []).Credits
      (eagerStore.commit {} .complete {}).2 := by
  have hflushed : eagerStore.Flushed {} .complete :=
    ⟨by decide +kernel, by decide +kernel, by decide +kernel⟩
  have hrotates : eagerStore.CanRotate {} {} := by decide +kernel
  exact (flushed_commits_are_credited_iff durableConfig [] trivial
    (by decide +kernel) eagerStore {} .complete {} hflushed
    (by decide)).mpr fun _ => hrotates

/-- The rename of the snapshot fails: the state is recovered, and the commit is
reported as failed. -/
theorem failed_rename_loses_the_credit :
    let compactIo : CompactIo :=
      { snapshotFailure := some .persistCommitFailed }
    eagerStore.Flushed {} .complete ∧
      FlowOffload.recovered eagerStore.config
          (eagerStore.commit {} .complete compactIo).1.files =
        some (some ({} : DurableState).canonicalizeOrder) ∧
      (eagerStore.commit {} .complete compactIo).2 =
        .accepted .persistRotationRequired ∧
      ((init durableConfig []).persistLocked
        (eagerStore.commit {} .complete compactIo).2).1.counters.persistFailures =
        1 := by
  have hflushed : eagerStore.Flushed {} .complete :=
    ⟨by decide +kernel, by decide +kernel, by decide +kernel⟩
  have hholds := @Store.holds_opened
    { storeConfig with compactionRecordThreshold := 1 } {} (by decide +kernel)
    (by decide +kernel) (by decide) nofun
  have hrenews := hflushed.renews hholds.ready codecValid_empty
    (by decide +kernel) { snapshotFailure := some .persistCommitFailed }
  exact ⟨hflushed, hrenews.recovers, by decide +kernel⟩

end Impl

end FlowOffload

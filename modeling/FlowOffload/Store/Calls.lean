import FlowOffload.Store.Sound

/-!
# Calls on an open store

What `appendRecord`, `compact` and `commit` leave in the two files, for every
outcome of the input and output underneath.  An outcome that stops in the middle
of a write leaves what a crash at that point leaves.
-/

namespace FlowOffload

open Foundation

namespace Store

variable {store : Store} {state : DurableState}

/-! ## Guards -/

/-- The checks of `appendRecord` before it writes. -/
structure Appendable (store : Store) (state : DurableState) : Prop where
  writer : writerOk state.encode = true
  record : state.encode.length ≤ kMaxJournalRecordBytes
  journal : store.journalBytes + (kJournalRecordHeaderBytes +
    state.encode.length + kDigestSize) ≤ store.config.maxJournalBytes
  handle : store.fileHandle = true

/-- The checks of `compact` before it writes. -/
structure Compactable (store : Store) (state : DurableState) : Prop where
  isOpen : store.isOpen = true
  writer : writerOk state.encode = true
  snapshot : state.encode.length + kSnapshotHeaderBytes ≤
    store.config.maxSnapshotBytes

/-- The record that the next append writes. -/
def nextRecord (store : Store) (state : DurableState) : Bytes :=
  recordBytes (store.commitSequence + 1) state.encode

/-- The store after an append that was flushed. -/
def appended (store : Store) (state : DurableState) : Store :=
  { store with
    files := appendToJournal store.files (store.nextRecord state)
    journalBytes := store.journalBytes + (store.nextRecord state).length
    commitSequence := store.commitSequence + 1
    recordsSinceSnapshot := store.recordsSinceSnapshot + 1
    state := state.canonicalizeOrder
    hasState := true }

theorem appendRecord_of_appendable (h : Appendable store state)
    (io : AppendIo) :
    store.appendRecord state io =
      match io with
      | .short written =>
          ({ store with
              files := appendToJournal store.files
                ((store.nextRecord state).take written) },
            some .persistCommitFailed)
      | .unflushed =>
          ({ store with
              files := appendToJournal store.files (store.nextRecord state) },
            some .persistCommitFailed)
      | .complete => (store.appended state, none) := by
  have hrecord : ¬ (!writerOk state.encode ||
      decide (state.encode.length > kMaxJournalRecordBytes)) = true := by
    simpa [h.writer] using h.record
  have hhandle : ¬ (!store.fileHandle) = true := by
    rw [h.handle]
    decide
  rw [appendRecord, if_neg hrecord, if_neg (Nat.not_lt.mpr h.journal),
    if_neg hhandle]
  cases io <;> rfl

theorem appendRecord_of_not_appendable (h : ¬ Appendable store state)
    (io : AppendIo) :
    ∃ code, code.isAcceptance = false ∧
      store.appendRecord state io = (store, some code) := by
  unfold appendRecord
  dsimp only
  split
  · exact ⟨_, rfl, rfl⟩
  · next hrecord =>
      split
      · exact ⟨_, rfl, rfl⟩
      · next hjournal =>
          split
          · exact ⟨_, rfl, rfl⟩
          · next hhandle =>
              refine absurd ⟨?_, ?_, ?_, ?_⟩ h
              · simp only [Bool.or_eq_true, not_or] at hrecord
                simpa using hrecord.1
              · simp only [Bool.or_eq_true, not_or] at hrecord
                simpa using hrecord.2
              · omega
              · simpa using hhandle

/-- The journal that `compact` leaves, for each outcome of the rewrite. -/
def rewritten (journal : Option Bytes) (header : Bytes) :
    RewriteIo → Option Bytes
  | .notOpened => journal
  | .short written => some (header.take written)
  | .unflushed => some header
  | .complete => some header

/-- The new snapshot, with the sequence number after the last. -/
def nextSnapshot (store : Store) (state : DurableState) : Bytes :=
  snapshotBytes state state.encode (store.commitSequence + 1)

def nextHeader (store : Store) (state : DurableState) : Bytes :=
  journalHeader (store.commitSequence + 1) (Sha256.of state.encode)

/-- A compaction whose snapshot was renamed into place. -/
structure Compacted (store : Store) (state : DurableState) (io : CompactIo)
    (next : Store) : Prop where
  config : next.config = store.config
  isOpen : next.isOpen = store.isOpen
  forced : next.forcedFailure = store.forcedFailure
  snapshot : next.files.snapshot = some (store.nextSnapshot state)
  journal : next.files.journal =
    rewritten store.files.journal (store.nextHeader state) io.rewrite
  sequence : next.commitSequence = store.commitSequence + 1
  handle : next.fileHandle = true → io.rewrite = .complete ∧
    next.journalBytes = (store.nextHeader state).length

theorem compact_cases (store : Store) (state : DurableState) (io : CompactIo) :
    (¬ Compactable store state ∧ ∃ code, code.isAcceptance = false ∧
        store.compact state io = (store, .refused code)) ∨
      (Compactable store state ∧ ∃ code, io.snapshotFailure = some code ∧
        store.compact state io = (store, .refused code)) ∨
      (Compactable store state ∧ io.snapshotFailure = none ∧
        Compacted store state io (store.compact state io).1) := by
  unfold compact
  dsimp only
  split
  · next hopen =>
      refine .inl ⟨fun h => ?_, _, rfl, rfl⟩
      rw [h.isOpen] at hopen
      exact absurd hopen (by decide)
  · next hopen =>
      split
      · next hwriter =>
          refine .inl ⟨fun h => ?_, _, rfl, rfl⟩
          rw [h.writer] at hwriter
          exact absurd hwriter (by decide)
      · next hwriter =>
          split
          · next hsize =>
              refine .inl ⟨fun h => ?_, _, rfl, rfl⟩
              exact absurd h.snapshot (by omega)
          · next hsize =>
              have hcompactable : Compactable store state :=
                ⟨by simpa using hopen, by simpa using hwriter, by omega⟩
              cases hfailure : io.snapshotFailure with
              | some code => exact .inr (.inl ⟨hcompactable, code, rfl, rfl⟩)
              | none =>
                  refine .inr (.inr ⟨hcompactable, rfl, ?_⟩)
                  cases hrewrite : io.rewrite with
                  | complete =>
                      simp only [rewriteJournal]
                      split <;>
                        exact ⟨rfl, rfl, rfl, rfl, by rw [hrewrite]; rfl, rfl,
                          fun _ => ⟨hrewrite, rfl⟩⟩
                  | notOpened =>
                      exact ⟨rfl, rfl, rfl, rfl, by rw [hrewrite]; rfl, rfl,
                        fun h => absurd h Bool.false_ne_true⟩
                  | short written =>
                      exact ⟨rfl, rfl, rfl, rfl, by rw [hrewrite]; rfl, rfl,
                        fun h => absurd h Bool.false_ne_true⟩
                  | unflushed =>
                      exact ⟨rfl, rfl, rfl, rfl, by rw [hrewrite]; rfl, rfl,
                        fun h => absurd h Bool.false_ne_true⟩

/-- A compaction that is acknowledged has reopened the journal. -/
theorem compact_handle {io : CompactIo} (hfailure : io.snapshotFailure = none)
    (hcompact : Compactable store state)
    (hok : (store.compact state io).2.ok = true) :
    (store.compact state io).1.fileHandle = true := by
  unfold compact at hok ⊢
  have hopen : ¬ (!store.isOpen) = true := by
    rw [hcompact.isOpen]
    decide
  have hwriter : ¬ (!writerOk state.encode) = true := by
    rw [hcompact.writer]
    decide
  have hsize : ¬ state.encode.length + kSnapshotHeaderBytes >
      store.config.maxSnapshotBytes := Nat.not_lt.mpr hcompact.snapshot
  rw [if_neg hopen, if_neg hwriter, if_neg hsize] at hok ⊢
  simp only [hfailure] at hok ⊢
  cases hrewrite : io.rewrite with
  | complete =>
      simp only [hrewrite, rewriteJournal] at hok ⊢
      cases hreopened : io.reopened with
      | true => rfl
      | false =>
          rw [hreopened] at hok
          exact absurd hok (show ¬ false = true by decide)
  | notOpened =>
      rw [hrewrite] at hok
      exact absurd hok (show ¬ false = true by decide)
  | short written =>
      rw [hrewrite] at hok
      exact absurd hok (show ¬ false = true by decide)
  | unflushed =>
      rw [hrewrite] at hok
      exact absurd hok (show ¬ false = true by decide)

/-! ## What an open store relies on -/

/--
The journal is read to its last byte and nothing in it is newer than the
store; the byte count of the store is the length of the file.
-/
def Live (store : Store) : Prop :=
  ∃ damaged opening header records pass,
    Reads store.config store.files damaged opening header records pass ∧
      pass.sequence.toNat ≤ store.commitSequence.toNat ∧
      (header ++ records.flatten).length = store.journalBytes

/-- The base of the journal is not ahead of the next sequence number. -/
def Based (store : Store) : Prop :=
  ∀ bytes, store.files.journal = some bytes →
    (journalBase bytes).toNat ≤ store.commitSequence.toNat + 1

/-- What a store keeps from one call to the next. -/
structure Ready (store : Store) : Prop where
  room : kJournalHeaderBytes ≤ store.config.maxJournalBytes
  superseded : Superseded store.config store.files.journal
    (store.commitSequence.toNat + 1)
  live : store.fileHandle = true → Live store
  based : store.fileHandle = true → Based store

theorem ready_of_live (hroom : kJournalHeaderBytes ≤
      store.config.maxJournalBytes) (hlive : Live store)
    (hbased : Based store) : Ready store := by
  refine ⟨hroom, ?_, fun _ => hlive, fun _ => hbased⟩
  obtain ⟨damaged, opening, header, records, pass, hreads, hsequence, -⟩ :=
    hlive
  refine hreads.superseded ?_ (by omega)
  rw [← journalBase_append hreads.length records.flatten]
  exact hbased _ hreads.journal

theorem toNat_next (h : store.commitSequence.toNat + 1 < 2 ^ 64) :
    (store.commitSequence + 1).toNat = store.commitSequence.toNat + 1 := by
  rw [UInt64.toNat_add, UInt64.toNat_one, Nat.mod_eq_of_lt h]

theorem Appendable.isRecord_nextRecord (h : Appendable store state) :
    IsRecord store.config (store.nextRecord state) := by
  apply isRecord_recordBytes h.record
  have hfits := h.journal
  omega

section Append

variable (h : Live store) (happend : Appendable store state)

include h happend

theorem Live.appended (hvalid : state.CodecValid)
    (hnext : store.commitSequence.toNat + 1 < 2 ^ 64) :
    Live (store.appended state) ∧
      (recover store.config (store.appended state).files).findings =
        some (some (store.commitSequence + 1, state.canonicalizeOrder)) := by
  obtain ⟨damaged, opening, header, records, pass, hreads, hsequence,
    hlength⟩ := h
  have hrecord := happend.isRecord_nextRecord
  have htoNat := toNat_next hnext
  have hsequence' : recordSequence (store.nextRecord state) =
      store.commitSequence + 1 := recordSequence_recordBytes _ _
  have hnewer : pass.sequence < recordSequence (store.nextRecord state) := by
    rw [hsequence', UInt64.lt_iff_toNat_lt, htoNat]
    omega
  have hpayload : decodeState (recordPayload (store.nextRecord state)) =
      some state := by
    rw [nextRecord, recordPayload_recordBytes happend.record]
    exact hvalid.decodeState_encode
  have hsize : (header ++ records.flatten).length +
      (store.nextRecord state).length ≤ store.config.maxJournalBytes := by
    rw [hlength, nextRecord, length_recordBytes]
    exact happend.journal
  have hreads' := hreads.append hrecord hnewer hpayload hsize
  constructor
  · refine ⟨damaged, opening, header, _, _, hreads', ?_, ?_⟩
    · change (recordSequence (store.nextRecord state)).toNat ≤
        (store.commitSequence + 1).toNat
      rw [hsequence']
    · change _ = store.journalBytes + (store.nextRecord state).length
      rw [length_append_record, hlength]
  · rw [Store.appended, hreads'.recover_eq, findings_classify, hsequence']
    rfl

/-- An append that stopped short leaves what was found before. -/
theorem Live.findings_short {written : Nat}
    (hshort : written < (store.nextRecord state).length) :
    (recover store.config (appendToJournal store.files
        ((store.nextRecord state).take written))).findings =
      (recover store.config store.files).findings := by
  obtain ⟨damaged, opening, header, records, pass, hreads, -, hlength⟩ := h
  have hrecord := happend.isRecord_nextRecord
  cases written with
  | zero =>
      have hsame : appendToJournal store.files [] = store.files := by
        unfold appendToJournal
        rw [List.append_nil, hreads.journal, Option.getD_some, ← hreads.journal]
      rw [List.take_zero, hsame]
  | succ written =>
      obtain ⟨htail, detail, hverdict⟩ :=
        tailVerdict_take hrecord (Nat.succ_pos written) hshort
      have hsize : (header ++ records.flatten).length +
          ((store.nextRecord state).take (written + 1)).length ≤
            store.config.maxJournalBytes := by
        have htotal := length_recordBytes (store.commitSequence + 1)
          state.encode
        have hfits := happend.journal
        rw [hlength, List.length_take_of_le hshort.le]
        rw [nextRecord] at hshort
        omega
      rw [hreads.torn htail hverdict hsize, hreads.recover_eq,
        findings_classify, findings_classify]
      rfl

end Append

/-- Appending keeps the header, and the next number only grows. -/
theorem Live.based_appended (h : Live store) (hbased : Based store)
    (hnext : store.commitSequence.toNat + 1 < 2 ^ 64) :
    Based (store.appended state) := by
  obtain ⟨damaged, opening, header, records, pass, hreads, -, -⟩ := h
  have hold := hbased _ hreads.journal
  intro bytes hjournal
  have hbytes : bytes =
      header ++ (records.flatten ++ store.nextRecord state) := by
    rw [Store.appended, appendToJournal, hreads.journal] at hjournal
    rw [← List.append_assoc]
    exact (Option.some.inj hjournal).symm
  rw [journalBase_append hreads.length] at hold
  rw [hbytes, journalBase_append hreads.length]
  change _ ≤ (store.commitSequence + 1).toNat + 1
  rw [toNat_next hnext]
  omega

theorem Ready.appended (h : Ready store) (happend : Appendable store state)
    (hvalid : state.CodecValid)
    (hnext : store.commitSequence.toNat + 1 < 2 ^ 64) :
    Ready (store.appended state) :=
  ready_of_live h.room
    ((h.live happend.handle).appended happend hvalid hnext).1
    ((h.live happend.handle).based_appended (h.based happend.handle) hnext)

/-- A compaction that got past the rename, from a journal with nothing newer
or with the journal replaced. -/
theorem Compacted.ready {io : CompactIo} {next : Store}
    (h : Compacted store state io next)
    (hcompact : Compactable store state) (hvalid : state.CodecValid)
    (hroom : kJournalHeaderBytes ≤ store.config.maxJournalBytes)
    (hnext : store.commitSequence.toNat + 1 < 2 ^ 64)
    (hold : io.rewrite ≠ .notOpened ∨ Superseded store.config
      store.files.journal (store.commitSequence.toNat + 1)) :
    Ready next ∧ (recover next.config next.files).findings =
      some (some (store.commitSequence + 1, state.canonicalizeOrder)) := by
  have htoNat := toNat_next hnext
  have hsuper : Superseded store.config next.files.journal
      (store.commitSequence + 1).toNat := by
    have hheader := fun written => superseded_journalHeader hroom
      (Nat.le_refl (store.commitSequence + 1).toNat) (Sha256.of state.encode)
      written
    have hwhole := hheader (nextHeader store state).length
    rw [nextHeader, List.take_length] at hwhole
    rw [h.journal]
    cases hrewrite : io.rewrite with
    | notOpened =>
        rw [hrewrite] at hold
        rw [htoNat]
        exact hold.resolve_left (· rfl)
    | short written => exact hheader written
    | unflushed => exact hwhole
    | complete => exact hwhole
  have hfiles : next.files = ⟨some (store.nextSnapshot state),
      next.files.journal⟩ := by rw [← h.snapshot]
  have hopening : openingPass store.config next.files = some (snapshotPass state
      (store.commitSequence + 1) next.files.journal.isSome, false) := by
    rw [hfiles]
    exact openingPass_snapshotBytes hvalid hcompact.writer hcompact.snapshot _
  constructor
  · refine ⟨?_, ?_, ?_, ?_⟩
    · rw [h.config]
      exact hroom
    · rw [h.config, h.sequence]
      exact hsuper.mono (by omega)
    · intro hhandle
      obtain ⟨hrewrite, hbytes⟩ := h.handle hhandle
      have hjournal : next.files.journal = some (store.nextHeader state) := by
        rw [h.journal, hrewrite]
        rfl
      have hreads := reads_journalHeader hopening hjournal hroom
        fun _ => UInt64.le_refl (store.commitSequence + 1)
      rw [← h.config] at hreads
      refine ⟨false, _, _, [], _, hreads, ?_, ?_⟩
      · rw [h.sequence]
        exact Nat.le_refl _
      · rw [List.flatten_nil, List.append_nil, hbytes, nextHeader]
    · intro hhandle bytes hjournal
      rw [h.journal, (h.handle hhandle).1] at hjournal
      cases hjournal
      rw [h.sequence, nextHeader, journalBase_journalHeader]
      omega
  · rw [h.config, hfiles]
    exact hsuper.findings_recover hvalid hcompact.writer hcompact.snapshot

/-! ## Commits -/

/-- The journal holds bytes of an append that failed. -/
def leftover (store : Store) : Bool :=
  (store.files.journal.getD []).length != store.journalBytes

/-- What a commit does, when no failure is forced on it. -/
theorem commit_cases (hforced : store.forcedFailure = .ok) (io : AppendIo)
    (compactIo : CompactIo) :
    (∃ code, code.isAcceptance = false ∧
        store.commit state io compactIo = (store, .refused code)) ∨
      (Appendable store state ∧ io ≠ .complete ∧
        store.commit state io compactIo =
          ((store.appendRecord state io).1, .refused .persistCommitFailed)) ∨
      (Appendable store state ∧ io = .complete ∧
        (store.appended state).compactionDue = false ∧
        store.commit state io compactIo =
          (store.appended state, .accepted .persistCommitted)) ∨
      (Appendable store state ∧ io = .complete ∧
        (store.appended state).compactionDue = true ∧
        (store.commit state io compactIo).1 =
          ((store.appended state).compact state compactIo).1 ∧
        (store.commit state io compactIo).2.ok =
          ((store.appended state).compact state compactIo).2.ok) := by
  have hguard : ¬ store.forcedFailure ≠ .ok := not_not.mpr hforced
  rw [commit, if_neg hguard]
  split
  · exact .inl ⟨_, rfl, rfl⟩
  · by_cases happend : Appendable store state
    · rw [appendRecord_of_appendable happend]
      cases io with
      | short written => exact .inr (.inl ⟨happend, by simp, rfl⟩)
      | unflushed => exact .inr (.inl ⟨happend, by simp, rfl⟩)
      | complete =>
          dsimp only
          split
          · next hdue =>
              refine .inr (.inr (.inr ⟨happend, rfl, hdue, ?_⟩))
              split
              · next hfailed =>
                  refine ⟨rfl, ?_⟩
                  rw [Status.failed, Bool.not_eq_true'] at hfailed
                  rw [hfailed]
                  rfl
              · next hfailed =>
                  refine ⟨rfl, ?_⟩
                  rw [Status.failed, Bool.not_eq_true', Bool.not_eq_false]
                    at hfailed
                  rw [hfailed]
                  rfl
          · next hdue =>
              exact .inr (.inr (.inl
                ⟨happend, rfl, eq_false_of_ne_true hdue, rfl⟩))
    · obtain ⟨code, hcode, hrefused⟩ := appendRecord_of_not_appendable happend io
      rw [hrefused]
      exact .inl ⟨code, hcode, rfl⟩

end Store

end FlowOffload

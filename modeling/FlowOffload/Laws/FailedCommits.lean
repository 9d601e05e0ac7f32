import FlowOffload.Laws.CrashSafety

/-!
# Commits after failed commits

A commit that is acknowledged after failed ones is recovered exactly, unless
bytes of a failed append are still in front of its record.
-/

namespace FlowOffload

open Foundation

/-! ## Commits as inputs -/

/-- A commit together with the outcome of its writes. -/
structure CommitInput where
  state : DurableState
  append : AppendIo := .complete
  compaction : CompactIo := {}
  deriving DecidableEq, Repr

namespace Store

variable {config : StoreConfig} {store : Store} {state : DurableState}
  {input : CommitInput}

def commitInput (store : Store) (input : CommitInput) : Store × Status :=
  store.commit input.state input.append input.compaction

/-- Commits, whether they succeed or not. -/
def commitMachine : Machine Store CommitInput where
  step store input := (store.commitInput input).1
  allowed _ input := input.compaction.Reports

/-- The state is one that can be read back under a new sequence number. -/
structure Recordable (store : Store) (input : CommitInput) : Prop where
  valid : input.state.CodecValid
  numbered : store.commitSequence.toNat + 2 < 2 ^ 64

/--
A whole record is appended only behind whole records, or else it fills the
journal up to the point where a compaction replaces it.
-/
def Undisturbed (store : Store) (input : CommitInput) : Prop :=
  Recordable store input ∧
    (input.append = .complete → store.leftover = false ∨
      (store.appended input.state).compactionDue = true)

/-- What holds between commits, whatever became of the writes. -/
structure Steady (config : StoreConfig) (store : Store) : Prop where
  same : store.config = config
  forced : store.forcedFailure = .ok
  room : kJournalHeaderBytes ≤ config.maxJournalBytes
  counted : store.fileHandle = true →
    store.journalBytes ≤ (store.files.journal.getD []).length
  live : store.fileHandle = true → store.leftover = false → Live store

theorem leftover_eq_false_iff : store.leftover = false ↔
    (store.files.journal.getD []).length = store.journalBytes := by
  simp [leftover]

theorem length_nextRecord_pos : 0 < (store.nextRecord state).length := by
  rw [nextRecord, length_recordBytes, kJournalRecordHeaderBytes]
  omega

/-- An append that failed leaves the store live only if it wrote nothing. -/
theorem Steady.failed (h : Steady config store) {part : Bytes} :
    Steady config { store with files := appendToJournal store.files part } := by
  have hlength : ((appendToJournal store.files part).journal.getD []).length =
      (store.files.journal.getD []).length + part.length := by
    simp [appendToJournal]
  refine ⟨h.same, h.forced, h.room, ?_, ?_⟩
  · intro hhandle
    have hcounted := h.counted hhandle
    change store.journalBytes ≤ _
    rw [hlength]
    omega
  · intro hhandle hclean
    rw [leftover_eq_false_iff] at hclean
    change _ = store.journalBytes at hclean
    rw [hlength] at hclean
    have hcounted := h.counted hhandle
    have hnil : part = [] := List.length_eq_zero_iff.mp (by omega)
    have hlive := h.live hhandle (leftover_eq_false_iff.mpr (by omega))
    obtain ⟨damaged, opening, header, records, pass, hreads, hrest⟩ := hlive
    have hsame : appendToJournal store.files part = store.files := by
      unfold appendToJournal
      rw [hnil, List.append_nil, hreads.journal, Option.getD_some,
        ← hreads.journal]
    rw [hsame]
    exact ⟨damaged, opening, header, records, pass, hreads, hrest⟩

theorem Steady.appended (h : Steady config store)
    (happend : Appendable store input.state)
    (hrecordable : Recordable store input) :
    Steady config (store.appended input.state) := by
  have hnumbered := hrecordable.numbered
  have hlength : ((store.appended input.state).files.journal.getD []).length =
      (store.files.journal.getD []).length +
        (store.nextRecord input.state).length := by
    simp [Store.appended, appendToJournal]
  have hbytes : (store.appended input.state).journalBytes =
      store.journalBytes + (store.nextRecord input.state).length := rfl
  refine ⟨h.same, h.forced, h.room, ?_, ?_⟩
  · intro hhandle
    have hcounted := h.counted hhandle
    omega
  · intro hhandle hclean
    rw [leftover_eq_false_iff, hlength, hbytes] at hclean
    have hlive := h.live hhandle (leftover_eq_false_iff.mpr (by omega))
    exact (hlive.appended happend hrecordable.valid (by omega)).1

/-- A compaction that leaves the handle open has replaced the journal. -/
theorem Steady.compacted (h : Steady config store) {io : CompactIo}
    (hvalid : state.CodecValid)
    (hnext : store.commitSequence.toNat + 1 < 2 ^ 64) :
    Steady config (store.compact state io).1 := by
  obtain ⟨-, code, -, hcompact⟩ | ⟨-, code, -, hcompact⟩ |
    ⟨hcompactable, -, hcompacted⟩ := compact_cases store state io
  · rw [hcompact]
    exact h
  · rw [hcompact]
    exact h
  · have hroom : kJournalHeaderBytes ≤ store.config.maxJournalBytes := by
      rw [h.same]
      exact h.room
    refine ⟨hcompacted.config.trans h.same, hcompacted.forced.trans h.forced,
      h.room, ?_, ?_⟩
    · intro hhandle
      obtain ⟨hrewrite, hbytes⟩ := hcompacted.handle hhandle
      rw [hbytes, hcompacted.journal, hrewrite]
      exact Nat.le_refl _
    · intro hhandle _
      have hreplaced : io.rewrite ≠ .notOpened := by
        rw [(hcompacted.handle hhandle).1]
        decide
      exact (hcompacted.ready hcompactable hvalid hroom hnext
        (.inl hreplaced)).1.live hhandle

theorem Steady.step (h : Steady config store)
    (hrecordable : Recordable store input) :
    Steady config (store.commitInput input).1 := by
  have hnumbered := hrecordable.numbered
  unfold commitInput
  obtain ⟨code, -, hcommit⟩ | ⟨happend, hpart, hcommit⟩ |
    ⟨happend, -, -, hcommit⟩ | ⟨happend, -, -, hcommit, -⟩ :=
    commit_cases h.forced input.append input.compaction
  · rw [hcommit]
    exact h
  · rw [hcommit, appendRecord_of_appendable happend]
    cases hio : input.append with
    | complete => exact absurd hio hpart
    | short written => exact h.failed
    | unflushed => exact h.failed
  · rw [hcommit]
    exact h.appended happend hrecordable
  · rw [hcommit]
    have hsequence : (store.appended input.state).commitSequence.toNat =
        store.commitSequence.toNat + 1 := toNat_next (by omega)
    exact (h.appended happend hrecordable).compacted hrecordable.valid
      (by omega)

theorem Steady.run (h : Steady config store) {inputs : List CommitInput}
    (hinputs : commitMachine.Admits Undisturbed store inputs) :
    Steady config (commitMachine.run store inputs) :=
  hinputs.invariant
    (fun _ _ hsteady _ hguard => hsteady.step hguard.1) h

theorem compact_notOpened {io : CompactIo} (hrewrite : io.rewrite = .notOpened)
    (hfailure : io.snapshotFailure = none) :
    (store.compact state io).2.ok = false := by
  unfold compact
  simp only [hfailure, rewriteJournal, hrewrite]
  split
  · rfl
  · split
    · rfl
    · split <;> rfl

theorem Steady.recovers (h : Steady config store)
    (hguard : Undisturbed store input) (hreports : input.compaction.Reports)
    (hok : (store.commitInput input).2.ok = true) :
    recovered config (store.commitInput input).1.files =
      some (some input.state.canonicalizeOrder) := by
  obtain ⟨⟨hvalid, hnumbered⟩, hundisturbed⟩ := hguard
  have hone : store.commitSequence.toNat + 1 < 2 ^ 64 := by omega
  unfold commitInput at hok ⊢
  obtain ⟨code, hcode, hcommit⟩ | ⟨-, -, hcommit⟩ |
    ⟨happend, hcomplete, hdue, hcommit⟩ |
    ⟨happend, hcomplete, hdue, hcommit, hstatus⟩ :=
    commit_cases h.forced input.append input.compaction
  · rw [hcommit] at hok
    exact absurd hok (Bool.eq_false_iff.mp hcode)
  · rw [hcommit] at hok
    exact absurd hok (show ¬ false = true by decide)
  · have hclean : store.leftover = false := by
      refine (hundisturbed hcomplete).resolve_right ?_
      rw [hdue]
      exact Bool.false_ne_true
    have hfindings := ((h.live happend.handle hclean).appended happend hvalid
      hone).2
    rw [h.same] at hfindings
    rw [hcommit]
    exact recovered_eq hfindings
  · rw [hstatus] at hok
    rw [hcommit]
    have hsequence : (store.appended input.state).commitSequence.toNat =
        store.commitSequence.toNat + 1 := toNat_next hone
    obtain ⟨-, code, hcode, hcompact⟩ | ⟨-, code, hfailure, hcompact⟩ |
      ⟨hcompactable, hfailure, hcompacted⟩ :=
      compact_cases (store.appended input.state) input.state input.compaction
    · rw [hcompact] at hok
      exact absurd hok (Bool.eq_false_iff.mp hcode)
    · rw [hcompact] at hok
      exact absurd hok (by rw [hreports.refused hfailure]; exact Bool.false_ne_true)
    · have hreplaced : input.compaction.rewrite ≠ .notOpened := by
        intro hrewrite
        rw [compact_notOpened hrewrite hfailure] at hok
        exact Bool.false_ne_true hok
      have hroom : kJournalHeaderBytes ≤
          (store.appended input.state).config.maxJournalBytes := by
        rw [show (store.appended input.state).config = config from h.same]
        exact h.room
      have hfindings := (hcompacted.ready hcompactable hvalid hroom (by omega)
        (.inl hreplaced)).2
      rw [hcompacted.config, show (store.appended input.state).config = config
        from h.same] at hfindings
      exact recovered_eq hfindings

/-- A torn tail that `open` can drop and still append to the journal. -/
def TailRepairable (config : StoreConfig) (files : Files) : Prop :=
  ∀ bytes opening damaged, files.journal = some bytes →
    openingPass config files = some (opening, damaged) →
    HeaderIntact bytes → journalTail config bytes ≠ [] →
    (opening.snapshotUsed = true ↔
      ∀ record ∈ journalRecords config bytes,
        recordSequence record ≤ opening.sequence)

theorem live_of_tailRepairable {files : Files} {next : Store}
    (hopened : Opened { config := config, files := files }
      (recover config files) next)
    (husable : (recover config files).report.usable = true)
    (hroom : kJournalHeaderBytes ≤ config.maxJournalBytes)
    (htail : TailRepairable config files) : Live next := by
  cases hopens : openingPass config files with
  | none =>
      rw [recover_of_no_opening hopens] at husable
      exact absurd husable Bool.false_ne_true
  | some start =>
      obtain ⟨opening, damaged⟩ := start
      have hseen := journalSeen_of_usable hopens husable
      generalize hjournal : files.journal = journal at hseen
      generalize hfinal : recover config files = final at hseen
      cases hseen with
      | absent => exact (hopened.headless hopens hroom hfinal).1
      | headless bytes detail hsize htorn =>
          exact (hopened.headless hopens hroom hfinal).1
      | tailed bytes pass detail hsize hintact hguard habsorbed htorn =>
          refine hopened.tailed hopens hroom habsorbed hfinal ?_
          refine htail bytes opening damaged hjournal hopens hintact ?_
          intro hended
          rw [hended, tailVerdict_nil] at htorn
          cases htorn
      | clean bytes pass hsize hintact hguard habsorbed hended =>
          have hkept := hopened.clean hopens hjournal habsorbed hfinal
          refine hopened.live_of_clean hopens hjournal hsize hintact hguard
            habsorbed hended hkept.1 ?_
          rw [hfinal, classify_sequence]

theorem steady_opened {files : Files}
    (husable : (opened config files).recovery.usable = true)
    (hroom : kJournalHeaderBytes ≤ config.maxJournalBytes)
    (htail : TailRepairable config files) :
    Steady config (opened config files) := by
  obtain ⟨hreport, hopened⟩ := opened_spec husable
  exact ⟨hopened.config, hopened.forced, hroom, fun _ => hopened.bytes.le,
    fun _ _ => live_of_tailRepairable hopened hreport hroom htail⟩

/-- The next record repeats the number of the one that was not flushed. -/
theorem Live.shadowed (h : Live store) {lost : DurableState}
    (hlost : Appendable store lost) (hkept : Appendable store state)
    (hvalid : lost.CodecValid)
    (hnext : store.commitSequence.toNat + 1 < 2 ^ 64)
    (hsize : store.journalBytes + (store.nextRecord lost).length +
      (store.nextRecord state).length ≤ store.config.maxJournalBytes) :
    recovered store.config (appendToJournal
        (appendToJournal store.files (store.nextRecord lost))
        (store.nextRecord state)) = some (some lost.canonicalizeOrder) := by
  obtain ⟨damaged, opening, header, records, pass, hreads, hsequence,
    hlength⟩ := h
  have hnumber : ∀ other, recordSequence (store.nextRecord other) =
      store.commitSequence + 1 := fun _ => recordSequence_recordBytes _ _
  have hnewer : pass.sequence < recordSequence (store.nextRecord lost) := by
    rw [hnumber, UInt64.lt_iff_toNat_lt, toNat_next hnext]
    omega
  have hpayload : decodeState (recordPayload (store.nextRecord lost)) =
      some lost := by
    rw [nextRecord, recordPayload_recordBytes hlost.record]
    exact hvalid.decodeState_encode
  have hread := hreads.append hlost.isRecord_nextRecord hnewer hpayload
    (by rw [hlength]; omega)
  have hskip := hread.skip hkept.isRecord_nextRecord
    (by rw [hnumber]; change _ ≤ recordSequence _; rw [hnumber]; exact UInt64.le_refl _)
    (by rw [length_append_record, hlength]; exact hsize)
  rw [recovered, hskip.recover_eq, findings_classify]
  rfl

theorem commit_of_appendable (hforced : store.forcedFailure = .ok)
    (hopen : store.isOpen = true) (happend : Appendable store state)
    (hdue : (store.appended state).compactionDue = false)
    (compactIo : CompactIo) :
    store.commit state .complete compactIo =
        (store.appended state, .accepted .persistCommitted) ∧
      (store.commit state .unflushed compactIo).1 = { store with
        files := appendToJournal store.files (store.nextRecord state) } := by
  have hguard : ¬ store.forcedFailure ≠ .ok := not_not.mpr hforced
  have hready : ¬ (!store.isOpen || !store.fileHandle) = true := by
    rw [hopen, happend.handle]
    decide
  unfold commit
  rw [if_neg hguard, if_neg hready, if_neg hguard, if_neg hready,
    appendRecord_of_appendable happend, appendRecord_of_appendable happend]
  dsimp only
  rw [hdue]
  exact ⟨rfl, rfl⟩

/-- The members of a store that was opened on an empty directory. -/
structure Fresh (store : Store) : Prop where
  config : store.config = storeConfig
  isOpen : store.isOpen = true
  handle : store.fileHandle = true
  forced : store.forcedFailure = .ok
  sequence : store.commitSequence = 0
  count : store.recordsSinceSnapshot = 0
  bytes : store.journalBytes = 96

theorem Fresh.appendable (h : Fresh store)
    (hsize : state.encode.length ≤ 1000) : Appendable store state := by
  refine ⟨?_, ?_, ?_, h.handle⟩
  · apply decide_eq_true
    rw [kMaxCanonicalBytes]
    omega
  · rw [kMaxJournalRecordBytes]
    omega
  · rw [h.bytes, h.config]
    change _ ≤ 256 * 1024 * 1024
    rw [kJournalRecordHeaderBytes, kDigestSize]
    omega

theorem Fresh.compactionDue (h : Fresh store)
    (hsize : state.encode.length ≤ 1000) :
    (store.appended state).compactionDue = false := by
  have hrecord : (store.nextRecord state).length ≤ 1048 := by
    rw [nextRecord, length_recordBytes, kJournalRecordHeaderBytes, kDigestSize]
    omega
  have hcount : ¬ (store.recordsSinceSnapshot + 1 ≥
      store.config.compactionRecordThreshold) := by
    rw [h.count, h.config]
    decide
  have hbytes : ¬ (store.journalBytes + (store.nextRecord state).length ≥
      store.config.maxJournalBytes / 2) := by
    rw [h.bytes, h.config]
    change ¬ _ ≥ 256 * 1024 * 1024 / 2
    omega
  simp only [Store.compactionDue, Store.appended, hcount, hbytes, decide_false,
    Bool.or_false]

def otherState : DurableState := { scheduleGeneration := ⟨7⟩ }

example : recovered storeConfig {} = some none := by decide +kernel

end Store

end FlowOffload

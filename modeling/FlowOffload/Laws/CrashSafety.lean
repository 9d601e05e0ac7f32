import FlowOffload.Foundation.Machine
import FlowOffload.Store.Opening

/-!
# Crashes

A store that was opened on files without a torn tail recovers, after a crash
anywhere in a call, the last acknowledged state or the state of that call.
-/

namespace FlowOffload

open Foundation

/-! ## Calls as inputs -/

inductive StoreCall where
  | commit (state : DurableState)
  | compact (state : DurableState)
  deriving DecidableEq, Repr

def StoreCall.state : StoreCall → DurableState
  | .commit state => state
  | .compact state => state

/-- A commit may be followed by a compaction, which takes a number too. -/
def StoreCall.numbers : StoreCall → Nat
  | .commit _ => 2
  | .compact _ => 1

/--
A call together with the outcome of each write underneath it.  A crash after
some write is the outcome in which that write is the last one to have happened.
-/
structure StoreInput where
  call : StoreCall
  append : AppendIo := .complete
  compaction : CompactIo := {}
  deriving DecidableEq, Repr

/-- The reasons that `write_atomic` gives. -/
def CompactIo.Reports (io : CompactIo) : Prop :=
  io.snapshotFailure = none ∨
    io.snapshotFailure = some .rejectedStoreUnavailable ∨
    io.snapshotFailure = some .persistCommitFailed

instance (io : CompactIo) : Decidable io.Reports :=
  inferInstanceAs (Decidable (_ ∨ _ ∨ _))

theorem CompactIo.Reports.refused {io : CompactIo} (h : io.Reports)
    {code : ReasonCode} (hcode : io.snapshotFailure = some code) :
    (Status.refused code).ok = false := by
  obtain hnone | hsome | hsome := h
  · rw [hnone] at hcode
    cases hcode
  · rw [hsome] at hcode
    cases hcode
    rfl
  · rw [hsome] at hcode
    cases hcode
    rfl

namespace Store

variable {store : Store} {state : DurableState}

def apply (store : Store) (input : StoreInput) : Store × Status :=
  match input.call with
  | .commit state => store.commit state input.append input.compaction
  | .compact state => store.compact state input.compaction

theorem apply_compact (store : Store) (state : DurableState)
    (io : AppendIo) (compaction : CompactIo) :
    store.apply ⟨.compact state, io, compaction⟩ =
      store.compact state compaction := rfl

/-- The sequence numbers that the call may use up are still there. -/
def Numbered (store : Store) (input : StoreInput) : Prop :=
  store.commitSequence.toNat + input.call.numbers < 2 ^ 64

instance (store : Store) (input : StoreInput) :
    Decidable (Numbered store input) :=
  inferInstanceAs (Decidable (_ < _))

/-- A call that succeeds, on a state that the codec accepts. -/
structure Succeeds (store : Store) (input : StoreInput) : Prop where
  valid : input.call.state.CodecValid
  reports : input.compaction.Reports
  ok : (store.apply input).2.ok = true

/-- Successful calls, one after the other. -/
def callMachine : Machine Store StoreInput where
  step store input := (store.apply input).1
  allowed := Succeeds

/-- The last acknowledged state after some successful calls. -/
def acknowledged (found : Option DurableState) (history : List StoreInput) :
    Option DurableState :=
  history.foldl (fun _ input => some input.call.state.canonicalizeOrder) found

/-- The store is ready, and recovery returns `found`. -/
structure Holds (config : StoreConfig) (store : Store)
    (found : Option DurableState) : Prop where
  same : store.config = config
  ready : Ready store
  handle : store.fileHandle = true
  forced : store.forcedFailure = .ok
  recovers : recovered config store.files = some found

/-! ## One call -/

theorem recovered_eq {config : StoreConfig} {files : Files}
    {sequence : UInt64}
    (h : (recover config files).findings = some (some (sequence, state))) :
    recovered config files = some (some state) := by
  rw [recovered, h]
  rfl

/-- A call took effect: the store is ready and recovery returns the state. -/
structure Renews (store : Store) (state : DurableState) (next : Store) :
    Prop where
  ready : Ready next
  same : next.config = store.config
  forced : next.forcedFailure = store.forcedFailure
  recovers : recovered store.config next.files =
    some (some state.canonicalizeOrder)

theorem Ready.compact_renews (h : Ready store) (hvalid : state.CodecValid)
    (hnext : store.commitSequence.toNat + 1 < 2 ^ 64) (io : CompactIo) :
    ((store.compact state io).1 = store ∧
        (io.Reports → (store.compact state io).2.ok = false)) ∨
      (Renews store state (store.compact state io).1 ∧
        ((store.compact state io).2.ok = true →
          (store.compact state io).1.fileHandle = true)) := by
  obtain ⟨-, code, hcode, hcompact⟩ | ⟨-, code, hfailure, hcompact⟩ |
    ⟨hcompactable, hfailure, hcompacted⟩ := compact_cases store state io
  · rw [hcompact]
    exact .inl ⟨rfl, fun _ => hcode⟩
  · rw [hcompact]
    exact .inl ⟨rfl, fun hreports => hreports.refused hfailure⟩
  · obtain ⟨hready, hfindings⟩ := hcompacted.ready hcompactable hvalid h.room
      hnext (.inr h.superseded)
    rw [hcompacted.config] at hfindings
    exact .inr ⟨⟨hready, hcompacted.config, hcompacted.forced,
      recovered_eq hfindings⟩, compact_handle hfailure hcompactable⟩

theorem Ready.appended_renews (h : Ready store)
    (happend : Appendable store state) (hvalid : state.CodecValid)
    (hnext : store.commitSequence.toNat + 1 < 2 ^ 64) :
    Renews store state (store.appended state) := by
  have hfindings := ((h.live happend.handle).appended happend hvalid hnext).2
  exact ⟨h.appended happend hvalid hnext, rfl, rfl, recovered_eq hfindings⟩

/-- A completed append and the compaction that follows it. -/
theorem Ready.commit_renews (h : Ready store)
    (happend : Appendable store state) (hvalid : state.CodecValid)
    (hnext : store.commitSequence.toNat + 2 < 2 ^ 64) (io : CompactIo) :
    Renews store state ((store.appended state).compact state io).1 ∧
      (((store.appended state).compact state io).2.ok = true →
        ((store.appended state).compact state io).1.fileHandle = true) := by
  have hone : store.commitSequence.toNat + 1 < 2 ^ 64 := by omega
  have happended := h.appended_renews happend hvalid hone
  have hsequence : (store.appended state).commitSequence.toNat =
      store.commitSequence.toNat + 1 := toNat_next hone
  obtain ⟨hsame, -⟩ | ⟨hrenews, hhandle⟩ :=
    happended.ready.compact_renews hvalid (by omega) io
  · rw [hsame]
    exact ⟨happended, fun _ => happend.handle⟩
  · exact ⟨⟨hrenews.ready, hrenews.same, hrenews.forced, hrenews.recovers⟩,
      hhandle⟩

/-- An append that did not complete leaves the old state or the new one. -/
theorem Ready.append_recovers (h : Ready store)
    (happend : Appendable store state) (hvalid : state.CodecValid)
    (hnext : store.commitSequence.toNat + 1 < 2 ^ 64) (io : AppendIo) :
    recovered store.config (store.appendRecord state io).1.files =
        recovered store.config store.files ∨
      recovered store.config (store.appendRecord state io).1.files =
        some (some state.canonicalizeOrder) := by
  have hwhole : recovered store.config (appendToJournal store.files
      (store.nextRecord state)) = some (some state.canonicalizeOrder) :=
    (h.appended_renews happend hvalid hnext).recovers
  rw [appendRecord_of_appendable happend]
  cases io with
  | complete => exact .inr hwhole
  | unflushed => exact .inr hwhole
  | short written =>
      by_cases hshort : written < (store.nextRecord state).length
      · left
        rw [recovered, (h.live happend.handle).findings_short happend hshort,
          recovered]
      · right
        dsimp only
        rw [List.take_of_length_le (by omega)]
        exact hwhole

variable {config : StoreConfig} {found : Option DurableState}
  {input : StoreInput}

theorem Renews.holds {next : Store} (h : Renews store state next)
    (hhandle : next.fileHandle = true)
    (hforced : store.forcedFailure = .ok) :
    Holds store.config next (some state.canonicalizeOrder) :=
  ⟨h.same, h.ready, hhandle, h.forced.trans hforced, h.recovers⟩

theorem Holds.crash (h : Holds config store found)
    (hvalid : input.call.state.CodecValid) (hnumbered : Numbered store input) :
    recovered config (store.apply input).1.files = some found ∨
      recovered config (store.apply input).1.files =
        some (some input.call.state.canonicalizeOrder) := by
  obtain ⟨rfl, hready, -, hforced, hrecovers⟩ := h
  obtain ⟨call, io, compaction⟩ := input
  cases call with
  | compact state =>
      change state.CodecValid at hvalid
      change recovered _ (store.compact state compaction).1.files = _ ∨
        recovered _ (store.compact state compaction).1.files =
          some (some state.canonicalizeOrder)
      obtain ⟨hsame, -⟩ | ⟨hrenews, -⟩ :=
        hready.compact_renews hvalid hnumbered compaction
      · rw [hsame]
        exact .inl hrecovers
      · exact .inr hrenews.recovers
  | commit state =>
      change state.CodecValid at hvalid
      change store.commitSequence.toNat + 2 < 2 ^ 64 at hnumbered
      change recovered _ (store.commit state io compaction).1.files = _ ∨
        recovered _ (store.commit state io compaction).1.files =
          some (some state.canonicalizeOrder)
      obtain ⟨code, -, hcommit⟩ | ⟨happend, -, hcommit⟩ |
        ⟨happend, -, -, hcommit⟩ | ⟨happend, -, -, hcommit, -⟩ :=
        commit_cases hforced io compaction
      · rw [hcommit]
        exact .inl hrecovers
      · have happended :=
          hready.append_recovers happend hvalid (by omega) io
        rw [hrecovers] at happended
        rw [hcommit]
        dsimp only
        exact happended
      · rw [hcommit]
        dsimp only
        exact .inr
          (hready.appended_renews happend hvalid (by omega)).recovers
      · rw [hcommit]
        exact .inr (hready.commit_renews happend hvalid hnumbered
          compaction).1.recovers

theorem Holds.succeeds (h : Holds config store found)
    (hsucceeds : Succeeds store input) (hnumbered : Numbered store input) :
    Holds config (store.apply input).1
      (some input.call.state.canonicalizeOrder) := by
  obtain ⟨rfl, hready, -, hforced, -⟩ := h
  obtain ⟨hvalid, hreports, hok⟩ := hsucceeds
  obtain ⟨call, io, compaction⟩ := input
  cases call with
  | compact state =>
      change state.CodecValid at hvalid
      change (store.compact state compaction).2.ok = true at hok
      obtain ⟨-, hfailed⟩ | ⟨hrenews, hhandle⟩ :=
        hready.compact_renews hvalid hnumbered compaction
      · rw [hfailed hreports] at hok
        exact absurd hok Bool.false_ne_true
      · exact hrenews.holds (hhandle hok) hforced
  | commit state =>
      change state.CodecValid at hvalid
      change (store.commit state io compaction).2.ok = true at hok
      change Holds _ (store.commit state io compaction).1
        (some state.canonicalizeOrder)
      obtain ⟨code, hcode, hcommit⟩ | ⟨-, -, hcommit⟩ |
        ⟨happend, -, -, hcommit⟩ | ⟨happend, -, -, hcommit, hstatus⟩ :=
        commit_cases hforced io compaction
      · rw [hcommit] at hok
        exact absurd hok (Bool.eq_false_iff.mp hcode)
      · rw [hcommit] at hok
        exact absurd hok (show ¬ false = true by decide)
      · rw [hcommit]
        change store.commitSequence.toNat + 2 < 2 ^ 64 at hnumbered
        exact (hready.appended_renews happend hvalid
          (by omega)).holds happend.handle hforced
      · obtain ⟨hrenews, hhandle⟩ :=
          hready.commit_renews happend hvalid hnumbered compaction
        rw [hstatus] at hok
        rw [hcommit]
        exact hrenews.holds (hhandle hok) hforced

theorem Holds.run (h : Holds config store found) {history : List StoreInput}
    (hhistory : callMachine.Admits Numbered store history) :
    Holds config (callMachine.run store history)
      (acknowledged found history) := by
  induction history generalizing store found with
  | nil => exact h
  | cons input history ih =>
      obtain ⟨hsucceeds, hnumbered, hrest⟩ := hhistory
      exact ih (h.succeeds hsucceeds hnumbered) hrest

/-! ## Opening -/

/-- The base of the journal is not ahead of what is found by more than one. -/
def BaseCovered (config : StoreConfig) (files : Files) : Prop :=
  ∀ bytes, files.journal = some bytes →
    (journalBase bytes).toNat ≤ (recover config files).sequence.toNat + 1

theorem Opened.recovered_found {next : Store} {files : Files}
    {pass : RecoveryPass} (h : Opened { config := config, files := files } pass next)
    (husable : pass.report.usable = true)
    (hfindings : (recover next.config next.files).findings = pass.findings) :
    recovered config next.files = some next.found := by
  have hconfig : next.config = config := h.config
  rw [hconfig] at hfindings
  rw [recovered, hfindings, findings_of_usable husable, Store.found, h.hasState,
    h.state]
  cases pass.hasState <;> rfl

theorem live_opened {files : Files} {next : Store}
    (hopened : Opened { config := config, files := files }
      (recover config files) next)
    (husable : (recover config files).report.usable = true)
    (hclean : (recover config files).report.kind ≠ .tornTailTruncated)
    (hroom : kJournalHeaderBytes ≤ config.maxJournalBytes)
    (hbase : BaseCovered config files) :
    Live next ∧ Based next ∧ (recover next.config next.files).findings =
      (recover config files).findings := by
  cases hopens : openingPass config files with
  | none =>
      rw [recover_of_no_opening hopens] at husable
      exact absurd husable Bool.false_ne_true
  | some start =>
      obtain ⟨opening, damaged⟩ := start
      have hseen := journalSeen_of_usable hopens husable
      generalize hjournal : files.journal = journal at hseen
      generalize hfinal : recover config files = final at hseen
      cases hseen with
      | absent =>
          rw [← hfinal]
          exact hopened.headless hopens hroom hfinal
      | headless bytes detail hsize htorn =>
          rw [hfinal] at husable hclean
          exact absurd (classify_kind _ _ husable) hclean
      | tailed bytes pass detail hsize hintact hguard habsorbed htorn =>
          rw [hfinal] at husable hclean
          exact absurd (classify_kind _ _ husable) hclean
      | clean bytes pass hsize hintact hguard habsorbed hended =>
          obtain ⟨hheader, hfiles⟩ :=
            hopened.clean hopens hjournal habsorbed hfinal
          have hsequence : (recover config files).sequence = pass.sequence := by
            rw [hfinal, classify_sequence]
          refine ⟨hopened.live_of_clean hopens hjournal hsize hintact hguard
            habsorbed hended hheader hsequence, ?_, ?_⟩
          · intro bytes hbytes
            rw [hfiles] at hbytes
            rw [hopened.sequence]
            exact hbase bytes hbytes
          · rw [hopened.config, hfiles, ← hfinal]

theorem holds_opened {files : Files}
    (husable : (opened config files).recovery.usable = true)
    (hclean : (opened config files).recovery.kind ≠ .tornTailTruncated)
    (hroom : kJournalHeaderBytes ≤ config.maxJournalBytes)
    (hbase : BaseCovered config files) :
    Holds config (opened config files) (opened config files).found := by
  obtain ⟨hreport, hopened⟩ := opened_spec husable
  rw [hopened.kind] at hclean
  obtain ⟨hlive, hbased, hfindings⟩ :=
    live_opened hopened hreport hclean hroom hbase
  have hroom' : kJournalHeaderBytes ≤
      (opened config files).config.maxJournalBytes := by
    rw [hopened.config]
    exact hroom
  exact ⟨hopened.config, ready_of_live hroom' hlive hbased, hopened.handle,
    hopened.forced, hopened.recovered_found hreport hfindings⟩

/-- A journal whose base is ahead refuses the snapshot put in front of it. -/
theorem Compacted.recovered_newer_base {io : CompactIo} {next : Store}
    {base : UInt64} {digest : Sha256Digest}
    (h : Compacted store state io next) (hcompact : Compactable store state)
    (hvalid : state.CodecValid) (hrewrite : io.rewrite = .notOpened)
    (hjournal : store.files.journal = some (journalHeader base digest))
    (hbase : store.commitSequence + 1 < base) :
    recovered store.config next.files = none := by
  have hfiles : next.files = { ({ snapshot := some (store.nextSnapshot state) }
      : Files) with journal := some (journalHeader base digest) } := by
    rw [← h.snapshot, ← hjournal]
    have hkept := h.journal
    rw [hrewrite] at hkept
    change next.files.journal = store.files.journal at hkept
    rw [← hkept]
  have hopens : openingPass store.config
      { snapshot := some (store.nextSnapshot state) } =
        some (snapshotPass state (store.commitSequence + 1) false, false) :=
    openingPass_snapshotBytes hvalid hcompact.writer hcompact.snapshot none
  rw [recovered, hfiles, findings_rewritten_newer hopens rfl hbase]
  rfl

end Store

theorem codecValid_empty : ({} : DurableState).CodecValid where
  version := rfl
  policy := by constructor <;> decide +kernel
  flows := by decide +kernel
  targets := by decide +kernel
  assignments := by decide +kernel
  contracts := by decide +kernel
  migrations := by decide +kernel
  fences := by decide +kernel
  watermarks := by decide +kernel
  requests := by decide +kernel
  refusalCounts := by decide +kernel

def storeConfig : StoreConfig := { directory := "state" }

/-- A journal whose snapshot is gone: the base is there, the records are not. -/
def orphanFiles : Files := { journal := some (Store.journalHeader 100 {}) }

namespace Store

end Store

end FlowOffload

import FlowOffload.Laws.FailedCommits

/-!
# The repair of a torn store

`Store::open` returns what it recovered; these are the files on which the
repair it makes also leaves that on disk.  A journal that is read to its end is
kept.  A torn one is replaced by a bare header, which loses every record, so
nothing may have been replayed from it.
-/

namespace FlowOffload

open Foundation

/-! ## What may be repaired -/

/-- The snapshot is intact and no record is newer than it. -/
def SnapshotCovers (config : StoreConfig) (files : Files)
    (records : List Bytes) : Prop :=
  ∃ snapshot, files.snapshot = some snapshot ∧
    snapshotVerdict config snapshot = .intact ∧
    ∀ record ∈ records, recordSequence record ≤ getU64 snapshot 56

/--
Where the repair keeps the journal, it was read to its end; where it writes a
new one, the header fits and the snapshot already holds everything.
-/
structure Kept (config : StoreConfig) (files : Files) : Prop where
  absent : files.journal = none →
    kJournalHeaderBytes ≤ config.maxJournalBytes
  headless : ∀ bytes, files.journal = some bytes → HeaderTorn bytes →
    kJournalHeaderBytes ≤ config.maxJournalBytes
  tailed : ∀ bytes, files.journal = some bytes → ¬ HeaderTorn bytes →
    journalTail config bytes ≠ [] →
    kJournalHeaderBytes ≤ config.maxJournalBytes ∧
      SnapshotCovers config files (journalRecords config bytes)

theorem snapshotCovers_iff {config : StoreConfig} {files : Files}
    {opening : RecoveryPass} {damaged : Bool} {records : List Bytes}
    (h : openingPass config files = some (opening, damaged)) :
    SnapshotCovers config files records ↔
      opening.snapshotUsed = true ∧
        ∀ record ∈ records, recordSequence record ≤ opening.sequence := by
  unfold SnapshotCovers
  unfold openingPass at h
  cases hsnapshot : files.snapshot with
  | none =>
      simp only [hsnapshot, Option.some.injEq, Prod.mk.injEq] at h
      rw [← h.1]
      simp
  | some bytes =>
      simp only [hsnapshot] at h
      cases hverdict : snapshotVerdict config bytes with
      | refused kind code detail => simp [hverdict] at h
      | damaged detail =>
          simp only [hverdict, Option.some.injEq, Prod.mk.injEq] at h
          rw [← h.1]
          simp [RecoveryPass.withDetail, hverdict]
      | intact =>
          simp only [hverdict, Option.some.injEq, Prod.mk.injEq] at h
          rw [← h.1]
          simp [hverdict]

theorem HeaderIntact.not_torn {bytes : Bytes} (h : HeaderIntact bytes) :
    ¬ HeaderTorn bytes := by
  rintro (hshort | hmagic | ⟨-, -, hdigest⟩)
  · exact absurd h.length (by omega)
  · exact hmagic h.magic
  · exact hdigest h.digest

namespace Store

variable {config : StoreConfig} {files : Files} {store : Store}
  {input : CommitInput}

/-! ## Commits without compaction -/

/-- A commit that succeeds and leaves the journal to grow. -/
structure Uncompacted (store : Store) (input : CommitInput) : Prop where
  valid : input.state.CodecValid
  numbered : store.commitSequence.toNat + 1 < 2 ^ 64
  ok : (store.commitInput input).2.ok = true
  due : (store.appended input.state).compactionDue = false

theorem Uncompacted.appended (h : Uncompacted store input)
    (hforced : store.forcedFailure = .ok) :
    Appendable store input.state ∧
      (store.commitInput input).1 = store.appended input.state := by
  have hok := h.ok
  unfold commitInput at hok ⊢
  obtain ⟨code, hcode, hcommit⟩ | ⟨-, -, hcommit⟩ |
    ⟨happend, -, -, hcommit⟩ | ⟨-, -, hdue, -, -⟩ :=
    commit_cases hforced input.append input.compaction
  · rw [hcommit] at hok
    exact absurd hok (Bool.eq_false_iff.mp hcode)
  · rw [hcommit] at hok
    exact absurd hok (show ¬ false = true by decide)
  · exact ⟨happend, by rw [hcommit]⟩
  · rw [h.due] at hdue
    cases hdue

/-- The last state committed is the state recovered. -/
theorem Live.run_uncompacted (hlive : Live store)
    (hconfig : store.config = config) (hforced : store.forcedFailure = .ok)
    {inputs : List CommitInput}
    (hinputs : commitMachine.Admits Uncompacted store (inputs ++ [input])) :
    recovered config (commitMachine.run store (inputs ++ [input])).files =
      some (some input.state.canonicalizeOrder) := by
  induction inputs generalizing store with
  | nil =>
      obtain ⟨-, hplain, -⟩ := hinputs
      obtain ⟨happend, hnext⟩ := hplain.appended hforced
      have hfindings := (hlive.appended happend hplain.valid
        hplain.numbered).2
      rw [hconfig] at hfindings
      change recovered config (store.commitInput input).1.files = _
      rw [hnext]
      exact recovered_eq hfindings
  | cons first inputs ih =>
      obtain ⟨-, hplain, hrest⟩ := hinputs
      obtain ⟨happend, hnext⟩ := hplain.appended hforced
      change commitMachine.Admits Uncompacted (store.commitInput first).1 _
        at hrest
      change recovered config (commitMachine.run (store.commitInput first).1
        (inputs ++ [input])).files = _
      rw [hnext] at hrest ⊢
      exact ih (hlive.appended happend hplain.valid hplain.numbered).1 hconfig
        hforced hrest

/-! ## The repair -/

/--
What `open` recovered is recovered again from the files it left, and so is the
last of any commits that follow.
-/
def KeepsRecovered (config : StoreConfig) (files : Files) : Prop :=
  (recover config (opened config files).files).findings =
      (recover config files).findings ∧
    ∀ inputs input,
      commitMachine.Admits Uncompacted (opened config files)
        (inputs ++ [input]) →
      recovered config (commitMachine.run (opened config files)
          (inputs ++ [input])).files =
        some (some input.state.canonicalizeOrder)

/-- The snapshot alone holds what the torn journal could add. -/
theorem findings_tailed {next : Store} {opening : RecoveryPass}
    {damaged : Bool} {bytes : Bytes} {pass : RecoveryPass} {detail : String}
    (h : Opened { config := config, files := files } (recover config files)
      next)
    (hopens : openingPass config files = some (opening, damaged))
    (hroom : kJournalHeaderBytes ≤ config.maxJournalBytes)
    (habsorbed : (journalRecords config bytes).foldlM RecoveryPass.absorb
      opening.enter = some pass)
    (hfinal : recover config files =
      (pass.withDetail detail).classify damaged true)
    (hused : opening.snapshotUsed = true)
    (hquiet : ∀ record ∈ journalRecords config bytes,
      recordSequence record ≤ opening.sequence) :
    (recover next.config next.files).findings =
      (recover config files).findings := by
  obtain ⟨hfresh, -⟩ := opens_of_openingPass hopens
  have hpass := (absorbs_of_foldlM habsorbed).quiet hquiet
  have hstate : pass.hasState = true := by
    rw [hpass]
    exact hfresh.state.trans hused
  have hheader := headerUsable_tailed hfinal hstate
  have hsequence : pass.sequence = opening.sequence := by
    rw [hpass]
    rfl
  have hbase : repairBase (recover config files) ≤ opening.sequence := by
    rw [repairBase, hfinal, classify_snapshotUsed, classify_sequence]
    change (if pass.snapshotUsed = true then pass.sequence else 0) ≤ _
    rw [hsequence]
    split
    · exact UInt64.le_refl _
    · exact UInt64.zero_le
  rw [h.config, h.files, repairedFiles, hheader, if_neg Bool.false_ne_true,
    findings_rewritten hopens hroom (fun _ => hbase), hfinal,
    findings_classify]
  change _ = if pass.hasState = true then
    some (some (pass.sequence, pass.state.canonicalizeOrder)) else _
  rw [hpass]
  rfl

theorem keepsRecovered_of_kept
    (husable : (opened config files).recovery.usable = true)
    (hkept : Kept config files) : KeepsRecovered config files := by
  obtain ⟨hreport, hopened⟩ := opened_spec husable
  suffices hlive : Live (opened config files) ∧
      (recover (opened config files).config
        (opened config files).files).findings =
        (recover config files).findings by
    have hconfig : (opened config files).config = config := hopened.config
    rw [hconfig] at hlive
    exact ⟨hlive.2, fun inputs input hinputs =>
      hlive.1.run_uncompacted hopened.config hopened.forced hinputs⟩
  cases hopens : openingPass config files with
  | none =>
      rw [recover_of_no_opening hopens] at hreport
      exact absurd hreport Bool.false_ne_true
  | some start =>
      obtain ⟨opening, damaged⟩ := start
      have hseen := journalSeen_of_usable hopens hreport
      generalize hjournal : files.journal = journal at hseen
      generalize hfinal : recover config files = final at hseen
      cases hseen with
      | absent =>
          obtain ⟨hlive, -, hfindings⟩ :=
            hopened.headless hopens (hkept.absent hjournal) hfinal
          rw [← hfinal]
          exact ⟨hlive, hfindings⟩
      | headless bytes detail hsize htorn =>
          obtain ⟨hlive, -, hfindings⟩ := hopened.headless hopens
            (hkept.headless bytes hjournal htorn) hfinal
          rw [← hfinal]
          exact ⟨hlive, hfindings⟩
      | clean bytes pass hsize hintact hguard habsorbed hended =>
          obtain ⟨hheader, hfiles⟩ :=
            hopened.clean hopens hjournal habsorbed hfinal
          refine ⟨hopened.live_of_clean hopens hjournal hsize hintact hguard
            habsorbed hended hheader ?_, ?_⟩
          · rw [hfinal, classify_sequence]
          · rw [hopened.config, hfiles, ← hfinal]
      | tailed bytes pass detail hsize hintact hguard habsorbed htorn =>
          have htail : journalTail config bytes ≠ [] := by
            intro hended
            rw [hended, tailVerdict_nil] at htorn
            cases htorn
          obtain ⟨hroom, hcovers⟩ :=
            hkept.tailed bytes hjournal hintact.not_torn htail
          obtain ⟨hused, hquiet⟩ := (snapshotCovers_iff hopens).mp hcovers
          rw [← hfinal]
          exact ⟨hopened.tailed hopens hroom habsorbed hfinal
              ⟨fun _ => hquiet, fun _ => hused⟩,
            findings_tailed hopened hopens hroom habsorbed hfinal hused
              hquiet⟩

/-- A pass that saw no journal header does not let the journal be kept. -/
theorem headerUsable_opening {opening : RecoveryPass} {damaged torn : Bool}
    {detail : String}
    (hopens : openingPass config files = some (opening, damaged))
    (hfinal : recover config files =
      (opening.withDetail detail).classify damaged torn) :
    headerUsable (recover config files) = false := by
  obtain ⟨hfresh, -⟩ := opens_of_openingPass hopens
  rw [hfinal, headerUsable_classify]
  change (opening.journalExists && opening.journalHeaderOk && _) = false
  rw [hfresh.header, Bool.and_false, Bool.false_and]

/--
If something is found behind the rewritten header of a torn journal, then it is
the snapshot, and its sequence is the one the header names.
-/
theorem covered_of_findings {opening : RecoveryPass} {damaged : Bool}
    {bytes : Bytes} {pass : RecoveryPass} {detail : String}
    (hopens : openingPass config files = some (opening, damaged))
    (hroom : kJournalHeaderBytes ≤ config.maxJournalBytes)
    (habsorbed : (journalRecords config bytes).foldlM RecoveryPass.absorb
      opening.enter = some pass)
    (hfinal : recover config files =
      (pass.withDetail detail).classify damaged true)
    (husable : (recover config { files with
      journal := some (journalHeader (repairBase (recover config files))
        (repairDigest (recover config files))) }).findings ≠ none)
    (hfound : (recover config { files with
      journal := some (journalHeader (repairBase (recover config files))
        (repairDigest (recover config files))) }).findings ≠ some none) :
    opening.snapshotUsed = true ∧
      ∀ record ∈ journalRecords config bytes,
        recordSequence record ≤ opening.sequence := by
  obtain ⟨hfresh, -⟩ := opens_of_openingPass hopens
  have habsorbs := absorbs_of_foldlM habsorbed
  have hbase : repairBase (recover config files) =
      if opening.snapshotUsed = true then pass.sequence else 0 := by
    rw [repairBase, hfinal, classify_snapshotUsed, classify_sequence]
    change (if pass.snapshotUsed = true then pass.sequence else 0) = _
    rw [habsorbs.snapshotUsed]
    rfl
  cases hused : opening.snapshotUsed with
  | false =>
      -- the records are gone and there is no snapshot to stand in for them
      have hcovered : opening.snapshotUsed = true →
          repairBase (recover config files) ≤ opening.sequence := by
        rw [hused]
        exact fun h => absurd h Bool.false_ne_true
      have hnone : opening.hasState = false := hfresh.state.trans hused
      rw [findings_rewritten hopens hroom hcovered, hnone,
        if_neg Bool.false_ne_true] at husable hfound
      cases damaged with
      | true => exact absurd rfl husable
      | false => exact absurd rfl hfound
  | true =>
      refine ⟨rfl, fun record hrecord => ?_⟩
      by_contra hnewer
      obtain ⟨-, hmoved, -⟩ :=
        habsorbs.moved ⟨record, hrecord, UInt64.not_le.mp hnewer⟩
      refine husable (findings_rewritten_newer hopens hused ?_ _)
      rw [hbase, if_pos hused]
      exact hmoved

theorem kept_of_keepsRecovered
    (husable : (opened config files).recovery.usable = true)
    (hstate : (opened config files).hasState = true)
    (hkeeps : KeepsRecovered config files) : Kept config files := by
  obtain ⟨hreport, hopened⟩ := opened_spec husable
  rw [hopened.hasState] at hstate
  have hfound : (recover config (opened config files).files).findings ≠ none ∧
      (recover config (opened config files).files).findings ≠ some none := by
    rw [hkeeps.1, findings_of_usable hreport, if_pos hstate]
    simp
  have hfiles : (opened config files).files =
      repairedFiles files (recover config files) := hopened.files
  rw [hfiles] at hfound
  cases hopens : openingPass config files with
  | none =>
      rw [recover_of_no_opening hopens] at hreport
      exact absurd hreport Bool.false_ne_true
  | some start =>
      obtain ⟨opening, damaged⟩ := start
      have hseen := journalSeen_of_usable hopens hreport
      -- a journal that is rewritten has to fit
      have hroom : headerUsable (recover config files) = false →
          kJournalHeaderBytes ≤ config.maxJournalBytes := by
        intro hheader
        by_contra hsmall
        rw [repairedFiles, hheader, if_neg Bool.false_ne_true,
          findings_rewritten_small hopens (by omega)] at hfound
        exact hfound.1 rfl
      generalize hjournal : files.journal = journal at hseen
      generalize hfinal : recover config files = final at hseen
      cases hseen with
      | absent =>
          refine ⟨fun _ => hroom (headerUsable_opening hopens hfinal), ?_, ?_⟩
          · intro bytes hbytes
            rw [hjournal] at hbytes
            cases hbytes
          · intro bytes hbytes
            rw [hjournal] at hbytes
            cases hbytes
      | headless bytes detail hsize htorn =>
          refine ⟨fun _ => hroom (headerUsable_opening hopens hfinal),
            fun _ _ _ => hroom (headerUsable_opening hopens hfinal), ?_⟩
          intro other hother hintact
          rw [hjournal] at hother
          cases hother
          exact absurd htorn hintact
      | clean bytes pass hsize hintact hguard habsorbed hended =>
          have hfits : kJournalHeaderBytes ≤ config.maxJournalBytes :=
            hintact.length.trans hsize
          refine ⟨fun _ => hfits, fun _ _ _ => hfits, ?_⟩
          intro other hother _ htail
          rw [hjournal] at hother
          cases hother
          exact absurd hended htail
      | tailed bytes pass detail hsize hintact hguard habsorbed htorn =>
          rw [hfinal, classify_hasState] at hstate
          have hheader := headerUsable_tailed hfinal hstate
          refine ⟨fun _ => hroom hheader, fun _ _ _ => hroom hheader, ?_⟩
          intro other hother _ _
          rw [hjournal] at hother
          cases hother
          rw [repairedFiles, hheader, if_neg Bool.false_ne_true] at hfound
          rw [snapshotCovers_iff hopens]
          exact ⟨hroom hheader, covered_of_findings hopens (hroom hheader)
            habsorbed hfinal hfound.1 hfound.2⟩

end Store

/-- A store that holds one snapshot and no journal. -/
def snapshotFiles : Files :=
  { snapshot := some (Store.snapshotBytes {} ({} : DurableState).encode 5) }

/-- One whole record, and one byte of the next. -/
def tornFiles : Files :=
  { journal := some (Store.journalHeader 0 {} ++
      (Store.recordBytes 1 ({} : DurableState).encode ++ [0])) }

namespace Store

end Store

end FlowOffload

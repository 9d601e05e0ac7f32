import FlowOffload.Store.Calls

/-!
# Opening a store

Which files `Store::open` accepts, what it finds in them, and what it leaves
behind.  The journal is either absent, without a usable header, or a header
followed by intact records and a tail; `open` keeps the file in the last case
only when it saw no tail.
-/

namespace FlowOffload

open Foundation

variable {config : StoreConfig} {files : Files} {bytes : Bytes}

/-! ## The parts of a journal -/

/-- The intact records after the header. -/
def journalRecords (config : StoreConfig) (bytes : Bytes) : List Bytes :=
  let body := bytes.drop kJournalHeaderBytes
  (splitRecords config body.length body).1

/-- What follows the intact records. -/
def journalTail (config : StoreConfig) (bytes : Bytes) : Bytes :=
  let body := bytes.drop kJournalHeaderBytes
  (splitRecords config body.length body).2

theorem journal_eq (config : StoreConfig) (bytes : Bytes) :
    bytes = bytes.take kJournalHeaderBytes ++
      ((journalRecords config bytes).flatten ++ journalTail config bytes) := by
  have hbody : bytes.drop kJournalHeaderBytes =
      (journalRecords config bytes).flatten ++ journalTail config bytes :=
    (splitRecords_spec _ _ (Nat.le_refl _)).1
  rw [← hbody, List.take_append_drop]

theorem getU64_take_header (h : HeaderIntact bytes) :
    getU64 (bytes.take kJournalHeaderBytes) 16 = journalBase bytes := by
  have hlength : (bytes.take kJournalHeaderBytes).length =
      kJournalHeaderBytes := List.length_take_of_le h.length
  rw [← journalBase_append hlength (bytes.drop kJournalHeaderBytes),
    List.take_append_drop]

theorem isRecord_of_mem_journalRecords {record : Bytes}
    (h : record ∈ journalRecords config bytes) : IsRecord config record :=
  (splitRecords_spec _ _ (Nat.le_refl _)).2.1 record h

theorem framed_journalTail : framed config (journalTail config bytes) = false :=
  (splitRecords_spec _ _ (Nat.le_refl _)).2.2

theorem journalRecords_append {header : Bytes} {records : List Bytes}
    {tail : Bytes} (hlength : header.length = kJournalHeaderBytes)
    (hrecords : ∀ record ∈ records, IsRecord config record)
    (htail : framed config tail = false) :
    journalRecords config (header ++ (records.flatten ++ tail)) = records ∧
      journalTail config (header ++ (records.flatten ++ tail)) = tail := by
  unfold journalRecords journalTail
  rw [List.drop_left' hlength]
  dsimp only
  rw [splitRecords_flatten hrecords htail _ (Nat.le_refl _)]
  exact ⟨rfl, rfl⟩

/-! ## What a usable recovery saw -/

/-- The journal half of a recovery that ended with a usable report. -/
inductive JournalSeen (config : StoreConfig) (opening : RecoveryPass)
    (damaged : Bool) : Option Bytes → RecoveryPass → Prop where
  | absent : JournalSeen config opening damaged none
      (opening.classify damaged false)
  | headless (bytes : Bytes) (detail : String)
      (size : bytes.length ≤ config.maxJournalBytes)
      (torn : HeaderTorn bytes) :
      JournalSeen config opening damaged (some bytes)
        ((opening.withDetail detail).classify damaged true)
  | clean (bytes : Bytes) (pass : RecoveryPass)
      (size : bytes.length ≤ config.maxJournalBytes)
      (intact : HeaderIntact bytes)
      (base : opening.snapshotUsed = true →
        journalBase bytes ≤ opening.sequence)
      (absorbed : (journalRecords config bytes).foldlM RecoveryPass.absorb
        opening.enter = some pass)
      (ended : journalTail config bytes = []) :
      JournalSeen config opening damaged (some bytes)
        (pass.classify damaged false)
  | tailed (bytes : Bytes) (pass : RecoveryPass) (detail : String)
      (size : bytes.length ≤ config.maxJournalBytes)
      (intact : HeaderIntact bytes)
      (base : opening.snapshotUsed = true →
        journalBase bytes ≤ opening.sequence)
      (absorbed : (journalRecords config bytes).foldlM RecoveryPass.absorb
        opening.enter = some pass)
      (torn : tailVerdict config (journalTail config bytes) = .torn detail) :
      JournalSeen config opening damaged (some bytes)
        ((pass.withDetail detail).classify damaged true)

theorem tailVerdict_clean_iff {tail : Bytes} :
    tailVerdict config tail = .clean ↔ tail = [] := by
  unfold tailVerdict
  split_ifs <;> simp_all

/-- A journal with an intact header, read by a pass that was not refused. -/
theorem journalSeen_intact {opening : RecoveryPass} {damaged : Bool}
    (hsize : bytes.length ≤ config.maxJournalBytes)
    (hintact : HeaderIntact bytes)
    (husable : (recoverJournal config (some bytes) opening
      damaged).report.usable = true) :
    JournalSeen config opening damaged (some bytes)
      (recoverJournal config (some bytes) opening damaged) := by
  have hbase : opening.snapshotUsed = true →
      journalBase bytes ≤ opening.sequence := by
    intro hused
    by_contra hnewer
    have hverdict := journalVerdict_intact_iff.mpr ⟨hsize, hintact⟩
    have hguard : opening.sequence < getU64 bytes 16 := UInt64.not_le.mp hnewer
    simp [recoverJournal, hverdict, hused, hguard, RecoveryPass.refuse]
      at husable
  have hlength : (bytes.take kJournalHeaderBytes).length =
      kJournalHeaderBytes := List.length_take_of_le hintact.length
  have hshape := journal_eq config bytes
  have hheader : HeaderIntact (bytes.take kJournalHeaderBytes) := by
    rw [hshape] at hintact
    exact (headerIntact_append hlength _).mp hintact
  have hread := getU64_take_header hintact
  have hrecords := recoverJournal_records opening damaged hlength hheader
    (hshape ▸ hsize)
    (by rw [hread]; exact hbase)
    (fun record h => isRecord_of_mem_journalRecords h) framed_journalTail
  rw [← hshape] at hrecords
  cases habsorbed : (journalRecords config bytes).foldlM RecoveryPass.absorb
      opening.enter with
  | none =>
      rw [hrecords.2 habsorbed] at husable
      exact absurd husable Bool.false_ne_true
  | some pass =>
      have hpass := hrecords.1 pass habsorbed
      rw [hpass] at husable ⊢
      cases hend : tailVerdict config (journalTail config bytes) with
      | refused kind code detail =>
          rw [hend] at husable
          exact absurd husable Bool.false_ne_true
      | torn detail =>
          exact .tailed bytes pass detail hsize hintact hbase habsorbed hend
      | clean =>
          exact .clean bytes pass hsize hintact hbase habsorbed
            (tailVerdict_clean_iff.mp hend)

theorem journalSeen_of_usable {opening : RecoveryPass} {damaged : Bool}
    (hopens : openingPass config files = some (opening, damaged))
    (husable : (recover config files).report.usable = true) :
    JournalSeen config opening damaged files.journal
      (recover config files) := by
  rw [recover_of_opening hopens] at husable ⊢
  cases hjournal : files.journal with
  | none => exact .absent
  | some bytes =>
      rw [hjournal] at husable
      cases hverdict : journalVerdict config bytes with
      | refused kind code detail =>
          simp [recoverJournal, hverdict, RecoveryPass.refuse] at husable
      | damaged detail =>
          obtain ⟨hsize, htorn⟩ :=
            journalVerdict_damaged_iff.mp ⟨detail, hverdict⟩
          have hpass : recoverJournal config (some bytes) opening damaged =
              (opening.withDetail detail).classify damaged true := by
            simp only [recoverJournal, hverdict]
          rw [hpass]
          exact .headless bytes detail hsize htorn
      | intact =>
          obtain ⟨hsize, hintact⟩ := journalVerdict_intact_iff.mp hverdict
          exact journalSeen_intact hsize hintact husable

/-! ## What opening leaves -/

namespace Store

variable {store : Store}

/-- The base of the header that a repair writes. -/
def repairBase (pass : RecoveryPass) : UInt64 :=
  if pass.snapshotUsed then pass.sequence else 0

def repairDigest (pass : RecoveryPass) : Sha256Digest :=
  if pass.snapshotUsed then pass.snapshotDigest else {}

/-- The files after the repair. -/
def repairedFiles (files : Files) (pass : RecoveryPass) : Files :=
  if headerUsable pass then files
  else
    { files with
      journal := some (journalHeader (repairBase pass) (repairDigest pass)) }

/-- The members and the files of a store that opened. -/
structure Opened (store : Store) (pass : RecoveryPass) (opened : Store) :
    Prop where
  config : opened.config = store.config
  files : opened.files = repairedFiles store.files pass
  isOpen : opened.isOpen = true
  handle : opened.fileHandle = true
  forced : opened.forcedFailure = store.forcedFailure
  sequence : opened.commitSequence = pass.sequence
  hasState : opened.hasState = pass.hasState
  state : opened.state = pass.state
  kind : opened.recovery.kind = pass.report.kind
  bytes : opened.journalBytes = (opened.files.journal.getD []).length

theorem truncateTail_eq {files : Files} {pass : RecoveryPass}
    (h : pass.tornTail = false) : truncateTail files pass = (files, 0) := by
  unfold truncateTail
  cases files.journal <;> simp [h]

theorem openStore_spec (h : store.openStore.recovery.usable = true) :
    store.config.directory.isEmpty = false ∧
      (recover store.config store.files).report.usable = true ∧
      Opened store (recover store.config store.files) store.openStore := by
  unfold openStore at h ⊢
  cases hdirectory : store.config.directory.isEmpty with
  | true =>
      rw [hdirectory] at h
      exact absurd h Bool.false_ne_true
  | false =>
      simp only [hdirectory, Bool.false_eq_true, if_false] at h ⊢
      cases husable : (recover store.config store.files).report.usable with
      | false =>
          simp [husable] at h
      | true =>
          simp only [Bool.not_true, Bool.false_eq_true, if_false]
          refine ⟨trivial, trivial, ?_⟩
          cases hheader : headerUsable (recover store.config store.files) with
          | true =>
              have htorn : (recover store.config store.files).tornTail =
                  false := by
                simp only [headerUsable, Bool.and_eq_true, Bool.not_eq_true']
                  at hheader
                exact hheader.2
              simp only [truncateTail_eq htorn, if_true]
              exact ⟨rfl, by rw [repairedFiles, if_pos hheader], rfl, rfl,
                rfl, rfl, rfl, rfl, rfl, rfl⟩
          | false =>
              have hfiles : { (truncateTail store.files
                    (recover store.config store.files)).1 with
                  journal := some (journalHeader
                    (repairBase (recover store.config store.files))
                    (repairDigest (recover store.config store.files))) } =
                  repairedFiles store.files
                    (recover store.config store.files) := by
                rw [repairedFiles, hheader]
                unfold truncateTail
                cases store.files.journal with
                | none => rfl
                | some bytes => dsimp only; split <;> rfl
              exact ⟨rfl, hfiles, rfl, rfl, rfl, rfl, rfl, rfl, rfl, rfl⟩

end Store

namespace Store

theorem openStore_usable {store : Store}
    (hdirectory : store.config.directory.isEmpty = false)
    (husable : (recover store.config store.files).report.usable = true) :
    store.openStore.recovery.usable = true := by
  unfold openStore
  simp only [hdirectory, Bool.false_eq_true, if_false, husable, Bool.not_true]

end Store

/-! ## Fields of a classified pass -/

section Classify

variable (pass : RecoveryPass) (damaged torn : Bool)

@[simp] theorem classify_sequence :
    (pass.classify damaged torn).sequence = pass.sequence := by
  unfold RecoveryPass.classify
  cases pass.hasState <;> cases damaged <;> cases torn <;> rfl

@[simp] theorem classify_hasState :
    (pass.classify damaged torn).hasState = pass.hasState := by
  cases h : pass.hasState <;> cases damaged <;> cases torn <;>
    simp [RecoveryPass.classify, RecoveryPass.refuse, h]

@[simp] theorem classify_snapshotUsed :
    (pass.classify damaged torn).snapshotUsed = pass.snapshotUsed := by
  unfold RecoveryPass.classify
  cases pass.hasState <;> cases damaged <;> cases torn <;> rfl

theorem classify_state (h : pass.hasState = true) :
    (pass.classify damaged torn).state = pass.state.canonicalizeOrder := by
  simp [RecoveryPass.classify, h]

theorem headerUsable_classify :
    Store.headerUsable (pass.classify damaged torn) =
      (pass.journalExists && pass.journalHeaderOk &&
        !(if pass.hasState then torn else pass.tornTail)) := by
  unfold RecoveryPass.classify Store.headerUsable
  cases h : pass.hasState <;> cases damaged <;> cases torn <;> rfl

theorem classify_usable :
    (pass.classify damaged torn).report.usable =
      (pass.hasState || !damaged) := by
  cases h : pass.hasState <;> cases damaged <;> cases torn <;>
    simp [RecoveryPass.classify, RecoveryPass.refuse, h]

theorem classify_kind (h : (pass.classify damaged true).report.usable = true) :
    (pass.classify damaged true).report.kind = .tornTailTruncated := by
  unfold RecoveryPass.classify at h ⊢
  cases hstate : pass.hasState <;> cases damaged <;>
    simp_all [RecoveryPass.refuse]

end Classify

theorem openingPass_journal {opening : RecoveryPass} {damaged : Bool}
    (h : openingPass config files = some (opening, damaged))
    (journal : Option Bytes) :
    openingPass config { files with journal := journal } =
      some ({ opening with journalExists := journal.isSome }, damaged) := by
  unfold openingPass at h ⊢
  cases hsnapshot : files.snapshot with
  | none =>
      simp only [hsnapshot, Option.some.injEq, Prod.mk.injEq] at h ⊢
      exact ⟨by rw [← h.1], h.2⟩
  | some bytes =>
      simp only [hsnapshot] at h ⊢
      cases hverdict : snapshotVerdict config bytes with
      | refused kind code detail => simp [hverdict] at h
      | damaged detail =>
          simp only [hverdict, Option.some.injEq, Prod.mk.injEq] at h ⊢
          refine ⟨?_, h.2⟩
          rw [← h.1]
          rfl
      | intact =>
          simp only [hverdict, Option.some.injEq, Prod.mk.injEq] at h ⊢
          exact ⟨by rw [← h.1], h.2⟩

/-! ## A journal replaced by a bare header -/

section Rewritten

variable {opening : RecoveryPass} {damaged : Bool} {base : UInt64}
  (hopens : openingPass config files = some (opening, damaged))

include hopens

theorem findings_rewritten
    (hroom : kJournalHeaderBytes ≤ config.maxJournalBytes)
    (hbase : opening.snapshotUsed = true → base ≤ opening.sequence)
    (digest : Sha256Digest) :
    (recover config { files with
        journal := some (Store.journalHeader base digest) }).findings =
      if opening.hasState then
        some (some (opening.sequence, opening.state.canonicalizeOrder))
      else if damaged then none else some none := by
  have hreads : Reads config { files with
      journal := some (Store.journalHeader base digest) } damaged
      { opening with journalExists := true } (Store.journalHeader base digest)
      [] ({ opening with journalExists := true } : RecoveryPass).enter :=
    reads_journalHeader (openingPass_journal hopens _) rfl hroom hbase
  rw [hreads.recover_eq, findings_classify]
  rfl

/-- A base that is newer than the snapshot is refused. -/
theorem findings_rewritten_newer (hused : opening.snapshotUsed = true)
    (hbase : opening.sequence < base) (digest : Sha256Digest) :
    (recover config { files with
      journal := some (Store.journalHeader base digest) }).findings = none := by
  rw [recover_of_opening (openingPass_journal hopens _), recoverJournal]
  dsimp only
  cases hverdict : journalVerdict config
      (Store.journalHeader base digest) with
  | refused kind code detail => rfl
  | damaged detail =>
      have htorn := (journalVerdict_damaged_iff.mp ⟨detail, hverdict⟩).2
      have hintact := Store.headerIntact_journalHeader base digest
      obtain hshort | hmagic | ⟨-, -, hdigest⟩ := htorn
      · exact absurd hintact.length (by omega)
      · exact absurd hintact.magic hmagic
      · exact absurd hintact.digest hdigest
  | intact =>
      have hread : getU64 (Store.journalHeader base digest) 16 = base :=
        journalBase_journalHeader base digest
      simp only [hused, hread, Bool.true_and, gt_iff_lt, hbase, decide_true,
        if_true]
      rfl

/-- A journal that cannot hold its own header is refused. -/
theorem findings_rewritten_small
    (hsmall : config.maxJournalBytes < kJournalHeaderBytes)
    (digest : Sha256Digest) :
    (recover config { files with
      journal := some (Store.journalHeader base digest) }).findings = none := by
  have hlength := Store.length_journalHeader base digest
  rw [recover_of_opening (openingPass_journal hopens _), recoverJournal]
  simp only [journalVerdict, hlength, gt_iff_lt, hsmall, if_true]
  rfl

end Rewritten

/-! ## When an opened store can be appended to -/

namespace Store

variable {store next : Store} {opening : RecoveryPass} {damaged : Bool}

theorem Opened.live_of_rewritten {pass : RecoveryPass}
    (h : Opened store pass next)
    (hopens : openingPass store.config store.files = some (opening, damaged))
    (hroom : kJournalHeaderBytes ≤ store.config.maxJournalBytes)
    (hheader : headerUsable pass = false)
    (hused : pass.snapshotUsed = opening.snapshotUsed)
    (hlater : opening.sequence ≤ pass.sequence)
    (hbase : opening.snapshotUsed = true → pass.sequence = opening.sequence) :
    Live next := by
  have hfiles : next.files = { store.files with
      journal := some (journalHeader (repairBase pass)
        (repairDigest pass)) } := by
    rw [h.files, repairedFiles, hheader]
    rfl
  have hrepair : opening.snapshotUsed = true →
      repairBase pass ≤ opening.sequence := by
    intro hsnapshot
    rw [repairBase, hused, if_pos hsnapshot, hbase hsnapshot]
    exact UInt64.le_refl _
  have hjournal : next.files.journal = some (journalHeader (repairBase pass)
      (repairDigest pass)) := by rw [hfiles]
  have hreads : Reads next.config next.files damaged
      { opening with journalExists := true }
      (journalHeader (repairBase pass) (repairDigest pass)) []
      ({ opening with journalExists := true } : RecoveryPass).enter := by
    refine reads_journalHeader ?_ hjournal ?_ hrepair
    · rw [h.config, hfiles]
      exact openingPass_journal hopens _
    · rw [h.config]
      exact hroom
  refine ⟨damaged, _, _, [], _, hreads, ?_, ?_⟩
  · rw [h.sequence]
    exact UInt64.le_iff_toNat_le.mp hlater
  · rw [h.bytes, hjournal, List.flatten_nil, List.append_nil]
    rfl

theorem Opened.based_of_rewritten {pass : RecoveryPass}
    (h : Opened store pass next) (hheader : headerUsable pass = false) :
    Based next := by
  intro bytes hjournal
  have hbytes : bytes = journalHeader (repairBase pass) (repairDigest pass) := by
    rw [h.files, repairedFiles, hheader] at hjournal
    exact (Option.some.inj hjournal).symm
  rw [hbytes, journalBase_journalHeader, h.sequence, repairBase]
  split
  · omega
  · exact Nat.zero_le _

/--
Without a header there is nothing to keep: the journal is replaced, and what
recovery finds is what the snapshot holds, as before.
-/
theorem Opened.headless {detail : String} {torn : Bool}
    (h : Opened store (recover store.config store.files) next)
    (hopens : openingPass store.config store.files = some (opening, damaged))
    (hroom : kJournalHeaderBytes ≤ store.config.maxJournalBytes)
    (hfinal : recover store.config store.files =
      (opening.withDetail detail).classify damaged torn) :
    Live next ∧ Based next ∧ (recover next.config next.files).findings =
      (recover store.config store.files).findings := by
  obtain ⟨hfresh, -⟩ := opens_of_openingPass hopens
  have hheader : headerUsable (recover store.config store.files) = false := by
    rw [hfinal, headerUsable_classify]
    change (opening.journalExists && opening.journalHeaderOk && _) = false
    rw [hfresh.header, Bool.and_false, Bool.false_and]
  have hsequence : (recover store.config store.files).sequence =
      opening.sequence := by
    rw [hfinal, classify_sequence]
    rfl
  have hused : (recover store.config store.files).snapshotUsed =
      opening.snapshotUsed := by
    rw [hfinal, classify_snapshotUsed]
    rfl
  have hlater : opening.sequence ≤
      (recover store.config store.files).sequence := by
    rw [hsequence]
    exact UInt64.le_refl _
  refine ⟨h.live_of_rewritten hopens hroom hheader hused hlater
    fun _ => hsequence, h.based_of_rewritten hheader, ?_⟩
  rw [h.config, h.files, repairedFiles, hheader, if_neg Bool.false_ne_true,
    findings_rewritten hopens hroom, hfinal, findings_classify]
  · rfl
  · intro hsnapshot
    rw [repairBase, hused, if_pos hsnapshot, hsequence]
    exact UInt64.le_refl _

/-- A journal that was read to its end is kept. -/
theorem Opened.live_of_clean {bytes : Bytes} {pass final : RecoveryPass}
    (h : Opened store final next)
    (hopens : openingPass store.config store.files = some (opening, damaged))
    (hjournal : store.files.journal = some bytes)
    (hsize : bytes.length ≤ store.config.maxJournalBytes)
    (hintact : HeaderIntact bytes)
    (hguard : opening.snapshotUsed = true →
      journalBase bytes ≤ opening.sequence)
    (habsorbed : (journalRecords store.config bytes).foldlM
      RecoveryPass.absorb opening.enter = some pass)
    (hended : journalTail store.config bytes = [])
    (hheader : headerUsable final = true)
    (hsequence : final.sequence = pass.sequence) :
    Live next := by
  have hfiles : next.files = store.files := by
    rw [h.files, repairedFiles, if_pos hheader]
  have hlength : (bytes.take kJournalHeaderBytes).length =
      kJournalHeaderBytes := List.length_take_of_le hintact.length
  have hshape := journal_eq store.config bytes
  rw [hended, List.append_nil] at hshape
  have hread := getU64_take_header hintact
  refine ⟨damaged, opening, bytes.take kJournalHeaderBytes,
    journalRecords store.config bytes, pass,
    ⟨?_, ?_, hlength, ?_, ?_, ?_, ?_, habsorbed⟩, ?_, ?_⟩
  · rw [h.config, hfiles]
    exact hopens
  · rw [hfiles, ← hshape]
    exact hjournal
  · rw [hshape] at hintact
    exact (headerIntact_append hlength _).mp hintact
  · rw [h.config, ← hshape]
    exact hsize
  · rw [hread]
    exact hguard
  · intro record hrecord
    rw [h.config]
    exact isRecord_of_mem_journalRecords hrecord
  · rw [h.sequence, hsequence]
  · rw [← hshape, h.bytes, hfiles, hjournal]
    rfl

/-- A journal that was read to its end is kept, and so is what was found. -/
theorem Opened.clean {bytes : Bytes} {pass : RecoveryPass}
    (h : Opened store (recover store.config store.files) next)
    (hopens : openingPass store.config store.files = some (opening, damaged))
    (hjournal : store.files.journal = some bytes)
    (habsorbed : (journalRecords store.config bytes).foldlM
      RecoveryPass.absorb opening.enter = some pass)
    (hfinal : recover store.config store.files =
      pass.classify damaged false) :
    headerUsable (recover store.config store.files) = true ∧
      next.files = store.files := by
  obtain ⟨hfresh, hexists⟩ := opens_of_openingPass hopens
  have habsorbs := absorbs_of_foldlM habsorbed
  have htorn : pass.tornTail = false := habsorbs.torn.trans hfresh.torn
  have hheader : headerUsable (recover store.config store.files) = true := by
    rw [hfinal, headerUsable_classify, habsorbs.journal, habsorbs.header, htorn]
    change (opening.journalExists && true && _) = true
    rw [hexists, hjournal]
    cases pass.hasState <;> rfl
  refine ⟨hheader, ?_⟩
  rw [h.files, repairedFiles, if_pos hheader]

/-- Once there is a state, a journal with a torn tail is not kept. -/
theorem headerUsable_tailed {config : StoreConfig} {files : Files}
    {pass : RecoveryPass} {detail : String}
    (hfinal : recover config files =
      (pass.withDetail detail).classify damaged true)
    (hstate : pass.hasState = true) :
    headerUsable (recover config files) = false := by
  rw [hfinal, headerUsable_classify]
  change (_ && _ && !(if pass.hasState = true then true else _)) = false
  rw [if_pos hstate, Bool.not_true, Bool.and_false]

/--
A torn tail makes `open` start the journal afresh once it has a state.  The
base of the new journal has to be covered by the snapshot, when there is one.
-/
theorem Opened.tailed {bytes : Bytes} {pass : RecoveryPass} {detail : String}
    (h : Opened store (recover store.config store.files) next)
    (hopens : openingPass store.config store.files = some (opening, damaged))
    (hroom : kJournalHeaderBytes ≤ store.config.maxJournalBytes)
    (habsorbed : (journalRecords store.config bytes).foldlM
      RecoveryPass.absorb opening.enter = some pass)
    (hfinal : recover store.config store.files =
      (pass.withDetail detail).classify damaged true)
    (htail : opening.snapshotUsed = true ↔
      ∀ record ∈ journalRecords store.config bytes,
        recordSequence record ≤ opening.sequence) :
    Live next := by
  obtain ⟨hfresh, -⟩ := opens_of_openingPass hopens
  have habsorbs := absorbs_of_foldlM habsorbed
  have hsequence : (recover store.config store.files).sequence =
      pass.sequence := by
    rw [hfinal, classify_sequence]
    rfl
  have hused : (recover store.config store.files).snapshotUsed =
      opening.snapshotUsed := by
    rw [hfinal, classify_snapshotUsed]
    exact habsorbs.snapshotUsed
  have hstate : pass.hasState = true := by
    by_cases hquiet : ∀ record ∈ journalRecords store.config bytes,
        recordSequence record ≤ opening.sequence
    · rw [habsorbs.quiet hquiet]
      exact hfresh.state.trans (htail.mpr hquiet)
    · simp only [not_forall, UInt64.not_le] at hquiet
      obtain ⟨record, hmem, hnewer⟩ := hquiet
      exact (habsorbs.moved ⟨record, hmem, hnewer⟩).1
  have hheader := headerUsable_tailed hfinal hstate
  refine h.live_of_rewritten hopens hroom hheader hused ?_ ?_
  · rw [hsequence]
    exact habsorbs.later
  · intro hsnapshot
    have hsame := habsorbs.quiet (htail.mp hsnapshot)
    rw [hsequence, hsame]
    rfl

/-- A store that has just been constructed and opened. -/
def opened (config : StoreConfig) (files : Files) : Store :=
  ({ config := config, files := files } : Store).openStore

theorem opened_usable {config : StoreConfig} {files : Files}
    (hdirectory : config.directory.isEmpty = false)
    (husable : (recover config files).report.usable = true) :
    (opened config files).recovery.usable = true :=
  openStore_usable hdirectory husable

theorem opened_spec {config : StoreConfig} {files : Files}
    (h : (opened config files).recovery.usable = true) :
    (recover config files).report.usable = true ∧
      Opened { config := config, files := files } (recover config files)
        (opened config files) :=
  (openStore_spec h).2

/-- The state that the store holds, if any. -/
def found (store : Store) : Option DurableState :=
  if store.hasState then some store.state else none

end Store

/-- The state that a recovery of the files returns, if it is usable. -/
def recovered (config : StoreConfig) (files : Files) :
    Option (Option DurableState) :=
  (recover config files).findings.map (Option.map Prod.snd)

theorem findings_of_usable {pass : RecoveryPass}
    (h : pass.report.usable = true) :
    pass.findings =
      some (if pass.hasState then some (pass.sequence, pass.state) else none)
    := if_pos h

end FlowOffload

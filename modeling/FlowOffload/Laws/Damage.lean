import FlowOffload.Laws.Repair
import Mathlib.Data.List.Infix

/-!
# Damaged files

What recovery makes of a journal in which one record, not the last, was
changed, and of files whose journal header was changed or whose snapshot is
gone.  A change is refused unless it makes the journal look unfinished.
-/

namespace FlowOffload

open Foundation

variable {config : StoreConfig}

/-! ## A damaged record in the middle -/

/-- The records of consecutive commits, the first after `sequence`. -/
def writtenRecords : UInt64 → List DurableState → List Bytes
  | _, [] => []
  | sequence, state :: states =>
      Store.recordBytes (sequence + 1) state.encode ::
        writtenRecords (sequence + 1) states

/-- The states pass the checks that an append makes. -/
def Writable (config : StoreConfig) (states : List DurableState) : Prop :=
  ∀ state ∈ states, state.CodecValid ∧
    state.encode.length ≤ kMaxJournalRecordBytes ∧
    kJournalRecordHeaderBytes + state.encode.length + kDigestSize ≤
      config.maxJournalBytes

theorem isRecord_of_mem_writtenRecords {sequence : UInt64}
    {states : List DurableState} (h : Writable config states)
    {record : Bytes} (hrecord : record ∈ writtenRecords sequence states) :
    IsRecord config record := by
  induction states generalizing sequence with
  | nil => simp [writtenRecords] at hrecord
  | cons state states ih =>
      obtain ⟨hfirst, hrest⟩ := List.forall_mem_cons.mp h
      obtain rfl | hrecord := List.mem_cons.mp hrecord
      · exact Store.isRecord_recordBytes hfirst.2.1 hfirst.2.2
      · exact ih hrest hrecord

/-- Payloads that decode are absorbed, whatever their numbers. -/
theorem foldlM_absorb_writtenRecords (pass : RecoveryPass) (sequence : UInt64)
    {states : List DurableState} (h : Writable config states) :
    ∃ next, (writtenRecords sequence states).foldlM RecoveryPass.absorb pass =
      some next := by
  induction states generalizing pass sequence with
  | nil => exact ⟨pass, rfl⟩
  | cons state states ih =>
      obtain ⟨⟨hvalid, hsize, -⟩, hrest⟩ := List.forall_mem_cons.mp h
      obtain ⟨middle, hmiddle⟩ : ∃ middle, pass.absorb (Store.recordBytes
          (sequence + 1) state.encode) = some middle := by
        by_cases hskip : recordSequence (Store.recordBytes (sequence + 1)
            state.encode) ≤ pass.sequence
        · exact ⟨_, absorb_skip hskip⟩
        · have hpayload : decodeState (recordPayload (Store.recordBytes
              (sequence + 1) state.encode)) = some state := by
            rw [Store.recordPayload_recordBytes hsize]
            exact hvalid.decodeState_encode
          exact ⟨_, absorb_newer (UInt64.not_le.mp hskip) hpayload⟩
      obtain ⟨next, hnext⟩ := ih middle (sequence + 1) hrest
      refine ⟨next, ?_⟩
      rw [writtenRecords, List.foldlM_cons, hmiddle, Option.bind_eq_bind,
        Option.bind_some, hnext]

/--
The length that the damaged record names is within the bounds of a record and
reaches past the end of the file.
-/
def LooksUnfinished (config : StoreConfig) (rest : Bytes) : Prop :=
  (getU32 rest 0).toNat ≤ kMaxJournalRecordBytes ∧
    (getU32 rest 0).toNat + kJournalRecordHeaderBytes + kDigestSize ≤
      config.maxJournalBytes ∧
    rest.length < recordTotal rest

/-- The forward scan reaches the record after the damaged one. -/
theorem foundValidAfter_append {front record rest : Bytes} (hfront : front ≠ [])
    (hrecord : IsRecord config record) :
    foundValidAfter (front ++ (record ++ rest)) = true := by
  obtain ⟨hheader, hbound, -, htotal, hdigest, -⟩ :=
    framed_iff.mp hrecord.framed
  have hscan : scanIntact (record ++ rest) = true := by
    have h4 : 0 + 4 ≤ record.length := by
      rw [kJournalRecordHeaderBytes] at hheader
      omega
    simp only [scanIntact, getU32_append h4, recordTotal_append hheader,
      recordDigestOk_append hheader htotal, List.length_append, hdigest,
      Bool.and_true, Bool.and_eq_true, decide_eq_true_eq]
    omega
  obtain ⟨byte, front, rfl⟩ := List.exists_cons_of_ne_nil hfront
  rw [foundValidAfter, List.cons_append, List.tail_cons, List.any_eq_true]
  refine ⟨record ++ rest, ?_, hscan⟩
  rw [List.mem_tails]
  exact List.suffix_append front (record ++ rest)

section Damaged

variable {damaged : Bytes} {after : List Bytes}
  (hdetected : recordTotal (damaged ++ after.flatten) ≤
      (damaged ++ after.flatten).length →
    recordDigestOk (damaged ++ after.flatten) = false)

include hdetected

theorem framed_damaged : framed config (damaged ++ after.flatten) = false := by
  rw [← Bool.not_eq_true, framed_iff]
  rintro ⟨-, -, -, htotal, hdigest, -⟩
  rw [hdetected htotal] at hdigest
  exact Bool.false_ne_true hdigest

theorem tailVerdict_damaged
    (hlong : kJournalRecordHeaderBytes ≤ damaged.length) (hafter : after ≠ [])
    (hrecords : ∀ record ∈ after, IsRecord config record) :
    (LooksUnfinished config (damaged ++ after.flatten) ∧
        ∃ detail, tailVerdict config (damaged ++ after.flatten) =
          .torn detail) ∨
      (¬ LooksUnfinished config (damaged ++ after.flatten) ∧
        ∃ kind code detail, tailVerdict config (damaged ++ after.flatten) =
          .refused kind code detail) := by
  have hne : damaged ≠ [] := by
    rintro rfl
    exact absurd hlong (by decide)
  have hfound : foundValidAfter (damaged ++ after.flatten) = true := by
    obtain ⟨record, rest, rfl⟩ := List.exists_cons_of_ne_nil hafter
    rw [List.flatten_cons]
    exact foundValidAfter_append hne (hrecords record List.mem_cons_self)
  have hnonempty : damaged ++ after.flatten ≠ [] := by simp [hne]
  have hheader : ¬ (damaged ++ after.flatten).length <
      kJournalRecordHeaderBytes := by
    rw [List.length_append]
    omega
  simp only [tailVerdict, LooksUnfinished, if_neg hnonempty, if_neg hheader]
  split
  · next hbound =>
      simp only [Bool.or_eq_true, decide_eq_true_eq] at hbound
      exact .inr ⟨by omega, _, _, _, rfl⟩
  · next hbound =>
      simp only [Bool.or_eq_true, decide_eq_true_eq, not_or] at hbound
      split
      · next hshort => exact .inl ⟨by omega, _, rfl⟩
      · next hshort =>
          rw [hdetected (by omega)]
          exact .inr ⟨by omega, _, _, _, rfl⟩

end Damaged

/-- There is no snapshot, or an intact one that covers the base. -/
def SnapshotBefore (config : StoreConfig) (snapshot : Option Bytes)
    (base : UInt64) : Prop :=
  ∀ bytes, snapshot = some bytes →
    snapshotVerdict config bytes = .intact ∧ base ≤ getU64 bytes 56

theorem openingPass_of_snapshotBefore {snapshot : Option Bytes} {base : UInt64}
    (h : SnapshotBefore config snapshot base) (journal : Option Bytes) :
    ∃ opening, openingPass config ⟨snapshot, journal⟩ =
        some (opening, false) ∧
      (opening.snapshotUsed = true → base ≤ opening.sequence) := by
  cases snapshot with
  | none =>
      refine ⟨{ journalExists := journal.isSome }, rfl, ?_⟩
      exact fun hused => absurd hused Bool.false_ne_true
  | some bytes =>
      obtain ⟨hverdict, hbase⟩ := h bytes rfl
      simp only [openingPass, hverdict]
      exact ⟨_, rfl, fun _ => hbase⟩

/--
Files whose journal holds the records of `earlier`, `state` and `later`, where
the bytes of the record of `state` have been replaced.
-/
structure DamagedRecord (config : StoreConfig) where
  snapshot : Option Bytes
  header : Bytes
  sequence : UInt64
  earlier : List DurableState
  state : DurableState
  later : List DurableState
  damaged : Bytes
  length_header : header.length = kJournalHeaderBytes
  intact : HeaderIntact header
  before : SnapshotBefore config snapshot (getU64 header 16)
  notLast : later ≠ []
  writable : Writable config (earlier ++ state :: later)
  fits : (header ++ (writtenRecords sequence
    (earlier ++ state :: later)).flatten).length ≤ config.maxJournalBytes
  length_damaged : damaged.length =
    kJournalRecordHeaderBytes + state.encode.length + kDigestSize

namespace DamagedRecord

/-- The records in front of the damaged one. -/
def front (damage : DamagedRecord config) : List Bytes :=
  writtenRecords damage.sequence damage.earlier

/-- The intact records behind it. -/
def after (damage : DamagedRecord config) : List Bytes :=
  writtenRecords (damage.sequence + UInt64.ofNat damage.earlier.length + 1)
    damage.later

/-- The journal from the damaged record on. -/
def rest (damage : DamagedRecord config) : Bytes :=
  damage.damaged ++ damage.after.flatten

def files (damage : DamagedRecord config) : Files :=
  { snapshot := damage.snapshot
    journal := some (damage.header ++
      (damage.front.flatten ++ damage.rest)) }

/-- The digest that is stored where the record ends is not that of its bytes. -/
def Detected (damage : DamagedRecord config) : Prop :=
  recordTotal damage.rest ≤ damage.rest.length →
    recordDigestOk damage.rest = false

end DamagedRecord

theorem writtenRecords_append (sequence : UInt64)
    (states more : List DurableState) :
    writtenRecords sequence (states ++ more) =
      writtenRecords sequence states ++
        writtenRecords (sequence + UInt64.ofNat states.length) more := by
  induction states generalizing sequence with
  | nil => simp [writtenRecords]
  | cons state states ih =>
      have hcount : sequence + 1 + UInt64.ofNat states.length =
          sequence + UInt64.ofNat (state :: states).length := by
        rw [List.length_cons, UInt64.ofNat_add, UInt64.ofNat_one,
          UInt64.add_assoc, UInt64.add_comm 1]
      rw [List.cons_append, writtenRecords, ih, hcount, writtenRecords,
        List.cons_append]

/-- The report on a damaged record that is noticed. -/
theorem DamagedRecord.usable_cases (damage : DamagedRecord config)
    (hdetected : damage.Detected) :
    (LooksUnfinished config damage.rest ∧
        (recover config damage.files).report.usable = true) ∨
      (¬ LooksUnfinished config damage.rest ∧
        (recover config damage.files).report.usable = false) := by
  have hearlier : Writable config damage.earlier :=
    fun state h => damage.writable state (List.mem_append_left _ h)
  have hlater : Writable config damage.later := fun state h =>
    damage.writable state
      (List.mem_append_right _ (List.mem_cons_of_mem _ h))
  have hfront : ∀ record ∈ damage.front, IsRecord config record :=
    fun record h => isRecord_of_mem_writtenRecords hearlier h
  have hafter : ∀ record ∈ damage.after, IsRecord config record :=
    fun record h => isRecord_of_mem_writtenRecords hlater h
  have hsome : damage.after ≠ [] := by
    obtain ⟨state, states, hstates⟩ :=
      List.exists_cons_of_ne_nil damage.notLast
    rw [DamagedRecord.after, hstates, writtenRecords]
    exact List.cons_ne_nil _ _
  have hlong : kJournalRecordHeaderBytes ≤ damage.damaged.length := by
    rw [damage.length_damaged]
    omega
  -- the damage did not change the length of the file
  have hsize : (damage.header ++ (damage.front.flatten ++
      damage.rest)).length ≤ config.maxJournalBytes := by
    have hfits := damage.fits
    rw [writtenRecords_append, writtenRecords, List.flatten_append,
      List.flatten_cons] at hfits
    simp only [List.length_append, Store.length_recordBytes] at hfits
    simp only [List.length_append, DamagedRecord.rest, damage.length_damaged,
      DamagedRecord.front, DamagedRecord.after]
    omega
  obtain ⟨opening, hopens, hbase⟩ := openingPass_of_snapshotBefore
    damage.before damage.files.journal
  obtain ⟨pass, hpass⟩ := foldlM_absorb_writtenRecords opening.enter
    damage.sequence hearlier
  have hrecover : recover config damage.files =
      pass.finish false (tailVerdict config damage.rest) := by
    refine (recover_of_opening hopens).trans ?_
    exact (recoverJournal_records opening false damage.length_header
      damage.intact hsize hbase hfront (framed_damaged hdetected)).1 pass hpass
  rw [hrecover]
  obtain ⟨hlooks, detail, hverdict⟩ | ⟨hlooks, kind, code, detail, hverdict⟩ :=
    tailVerdict_damaged hdetected hlong hsome hafter
  · change tailVerdict config damage.rest = _ at hverdict
    rw [hverdict, RecoveryPass.finish, classify_usable, Bool.not_false,
      Bool.or_true]
    exact .inl ⟨hlooks, rfl⟩
  · change tailVerdict config damage.rest = _ at hverdict
    rw [hverdict]
    exact .inr ⟨hlooks, rfl⟩

theorem damaged_record_refused_iff (config : StoreConfig)
    (damage : DamagedRecord config) (hdetected : damage.Detected) :
    (recover config damage.files).report.usable = false ↔
      ¬ LooksUnfinished config damage.rest := by
  obtain ⟨hlooks, husable⟩ | ⟨hlooks, hrefused⟩ :=
    damage.usable_cases hdetected
  · simp [hlooks, husable]
  · simp [hlooks, hrefused]

theorem length_encode_empty : ({} : DurableState).encode.length = 480 := by
  decide +kernel

/-- Two records, the first with another length in its first four bytes. -/
def damagedLength (length : UInt32) : DamagedRecord storeConfig where
  snapshot := none
  header := Store.journalHeader 0 {}
  sequence := 0
  earlier := []
  state := {}
  later := [{}]
  damaged := writeU32 length ++
    (Store.recordBytes 1 ({} : DurableState).encode).drop 4
  length_header := Store.length_journalHeader 0 {}
  intact := Store.headerIntact_journalHeader 0 {}
  before := by
    intro bytes hbytes
    cases hbytes
  notLast := by simp
  writable := by
    have hempty : ∀ state ∈ ([{}, {}] : List DurableState), state = {} := by
      simp
    intro state hstate
    rw [hempty state hstate, length_encode_empty]
    exact ⟨codecValid_empty, by decide, by decide⟩
  fits := by
    simp only [List.nil_append, writtenRecords, List.flatten_cons,
      List.flatten_nil, List.append_nil, List.length_append,
      Store.length_journalHeader, Store.length_recordBytes,
      length_encode_empty]
    decide
  length_damaged := by
    simp [writeU32, Store.length_recordBytes, length_encode_empty,
      kJournalRecordHeaderBytes, kDigestSize]

theorem getU32_damagedLength (length : UInt32) :
    getU32 (damagedLength length).rest 0 = length := by
  have hread := getU32_at (show ([] : Bytes).length = 0 from rfl) length
  simp only [List.nil_append] at hread
  simp only [DamagedRecord.rest, damagedLength, List.append_assoc, hread]

theorem length_damagedLength (length : UInt32) :
    (damagedLength length).rest.length = 1056 := by
  simp [DamagedRecord.rest, DamagedRecord.after, damagedLength,
    writtenRecords, writeU32, Store.length_recordBytes, length_encode_empty,
    kJournalRecordHeaderBytes, kDigestSize]

/-- A length that ends behind the file hides the intact record. -/
theorem damaged_length_is_torn :
    (damagedLength 65536).Detected ∧
      (recover storeConfig (damagedLength 65536).files).report.usable =
        true := by
  have hdetected : (damagedLength 65536).Detected := by
    intro htotal
    rw [recordTotal, getU32_damagedLength, length_damagedLength] at htotal
    exact absurd htotal (by decide)
  have hlooks : LooksUnfinished storeConfig (damagedLength 65536).rest := by
    rw [LooksUnfinished, recordTotal, getU32_damagedLength,
      length_damagedLength]
    decide
  obtain ⟨-, husable⟩ | ⟨hnot, -⟩ :=
    (damagedLength 65536).usable_cases hdetected
  · exact ⟨hdetected, husable⟩
  · exact absurd hlooks hnot

/-- A length beyond the bound is refused. -/
theorem damaged_record_refused_oversized :
    (damagedLength 4294967295).Detected ∧
      (recover storeConfig (damagedLength 4294967295).files).report.usable =
        false := by
  have hdetected : (damagedLength 4294967295).Detected := by
    intro htotal
    rw [recordTotal, getU32_damagedLength, length_damagedLength] at htotal
    exact absurd htotal (by decide)
  refine ⟨hdetected, (damaged_record_refused_iff storeConfig _ hdetected).mpr ?_⟩
  rintro ⟨hbound, -⟩
  rw [getU32_damagedLength] at hbound
  exact absurd hbound (by decide)

/-! ## A damaged header, or a snapshot that is gone -/

/-- What happened to the files of a store that was not open. -/
inductive Damage where
  | headerChanged (header : Bytes)
  | snapshotDeleted
  deriving DecidableEq, Repr

def Damage.apply (files : Files) : Damage → Files
  | .headerChanged header =>
      { files with
        journal := files.journal.map fun bytes =>
          header ++ bytes.drop kJournalHeaderBytes }
  | .snapshotDeleted => { files with snapshot := none }

/-- The records of the journal, when there is one. -/
def recordsOf (config : StoreConfig) (files : Files) : List Bytes :=
  journalRecords config (files.journal.getD [])

/--
A header that recovery takes for unfinished costs all records, so the snapshot
has to hold everything; a deleted snapshot costs everything, unless a record is
newer than it.
-/
def Damage.Harmless (config : StoreConfig) (files : Files) : Damage → Prop
  | .headerChanged header => header.length = kJournalHeaderBytes ∧
      (HeaderTorn header →
        SnapshotCovers config files (recordsOf config files))
  | .snapshotDeleted =>
      ¬ SnapshotCovers config files (recordsOf config files)

section Damage

variable {files : Files} {damaged : Bool} {opening pass : RecoveryPass}
  {header : Bytes} {records : List Bytes}
  (h : Reads config files damaged opening header records pass)

include h

theorem Reads.recordsOf_eq : recordsOf config files = records := by
  have hparts := journalRecords_append h.length h.whole framed_nil
  rw [List.append_nil] at hparts
  rw [recordsOf, h.journal, Option.getD_some, hparts.1]

theorem Reads.findings_eq : (recover config files).findings =
    if pass.hasState then
      some (some (pass.sequence, pass.state.canonicalizeOrder))
    else if damaged then none else some none := by
  rw [h.recover_eq, findings_classify]

/-- A header that is taken for unfinished leaves the snapshot alone. -/
theorem Reads.header_torn {other : Bytes}
    (hlength : other.length = kJournalHeaderBytes) (htorn : HeaderTorn other) :
    (recover config ((Damage.headerChanged other).apply files)).findings =
      if opening.hasState then
        some (some (opening.sequence, opening.state.canonicalizeOrder))
      else if damaged then none else some none := by
  have hfiles : (Damage.headerChanged other).apply files =
      { files with journal := some (other ++ records.flatten) } := by
    rw [Damage.apply, h.journal, Option.map_some, List.drop_left' h.length]
  have hsize : (other ++ records.flatten).length ≤ config.maxJournalBytes := by
    have hold := h.size
    rw [List.length_append, h.length] at hold
    rw [List.length_append, hlength]
    exact hold
  obtain ⟨detail, hpass⟩ : ∃ detail, recoverJournal config
      (some (other ++ records.flatten)) { opening with journalExists := true }
      damaged = (({ opening with journalExists := true } :
        RecoveryPass).withDetail detail).classify damaged true :=
    recoverJournal_torn hsize ((headerTorn_append hlength _).mpr htorn)
  rw [hfiles, recover_of_opening (openingPass_journal h.opens _),
    Option.isSome_some, hpass, findings_classify]
  rfl

theorem Reads.header_damaged {other : Bytes}
    (hlength : other.length = kJournalHeaderBytes)
    (hcovers : HeaderTorn other → SnapshotCovers config files records) :
    (recover config ((Damage.headerChanged other).apply files)).findings = none ∨
      (recover config ((Damage.headerChanged other).apply files)).findings =
        (recover config files).findings := by
  by_cases htorn : HeaderTorn other
  · right
    obtain ⟨hused, hquiet⟩ := (snapshotCovers_iff h.opens).mp (hcovers htorn)
    have hpass := h.absorbs.quiet hquiet
    rw [h.header_torn hlength htorn, h.findings_eq, hpass]
    rfl
  have hfiles : (Damage.headerChanged other).apply files =
      { files with journal := some (other ++ (records.flatten ++ [])) } := by
    rw [Damage.apply, h.journal, Option.map_some, List.drop_left' h.length,
      List.append_nil]
  have hopens := openingPass_journal h.opens
    (some (other ++ (records.flatten ++ [])))
  have hsize : (other ++ (records.flatten ++ [])).length ≤
      config.maxJournalBytes := by
    have hold := h.size
    rw [List.length_append, h.length] at hold
    rw [List.length_append, List.append_nil, hlength]
    exact hold
  rw [hfiles, recover_of_opening hopens]
  cases hverdict : journalVerdict config
      (other ++ (records.flatten ++ [])) with
  | refused kind code detail =>
      left
      simp only [recoverJournal, hverdict]
      rfl
  | damaged detail =>
      have hlooks := (journalVerdict_damaged_iff.mp ⟨detail, hverdict⟩).2
      exact absurd ((headerTorn_append hlength _).mp hlooks) htorn
  | intact =>
      have hintact := (headerIntact_append hlength _).mp
        (journalVerdict_intact_iff.mp hverdict).2
      by_cases hbase : opening.snapshotUsed = true →
          getU64 other 16 ≤ opening.sequence
      · -- the same records are read by the same pass
        right
        have hread := (recoverJournal_records
          { opening with journalExists := true } damaged hlength hintact hsize
          hbase h.whole framed_nil).1
        have hstart : SameState opening.enter
            ({ opening with journalExists := true } : RecoveryPass).enter :=
          ⟨rfl, rfl, fun _ => rfl⟩
        obtain ⟨other', hfold, hsame⟩ := hstart.foldlM_absorb h.absorbed
        rw [Option.isSome_some, hread other' hfold, tailVerdict_nil,
          h.recover_eq]
        exact hsame.findings_classify damaged false false
      · left
        rw [Classical.not_imp] at hbase
        have hread : getU64 (other ++ (records.flatten ++ [])) 16 =
            getU64 other 16 := journalBase_append hlength _
        have hnewer := UInt64.not_le.mp hbase.2
        simp only [recoverJournal, hverdict, hbase.1, hread, Bool.true_and,
          gt_iff_lt, hnewer, decide_true, if_true]
        rfl

theorem Reads.snapshot_deleted
    (hcovers : ¬ SnapshotCovers config files records)
    (husable : (recover config files).findings ≠ none) :
    (recover config (Damage.snapshotDeleted.apply files)).findings = none ∨
      (recover config (Damage.snapshotDeleted.apply files)).findings =
        (recover config files).findings := by
  obtain ⟨hfresh, -⟩ := opens_of_openingPass h.opens
  have hjournal : (Damage.snapshotDeleted.apply files).journal =
      some (header ++ (records.flatten ++ [])) := by
    rw [List.append_nil]
    exact h.journal
  have hopens : openingPass config (Damage.snapshotDeleted.apply files) =
      some ({ journalExists := true }, false) := by
    simp [openingPass, Damage.apply, h.journal]
  have hsize : (header ++ (records.flatten ++ [])).length ≤
      config.maxJournalBytes := by
    rw [List.append_nil]
    exact h.size
  have hread := recoverJournal_records { journalExists := true } false h.length
    h.intact hsize (fun hused => absurd hused Bool.false_ne_true) h.whole
    framed_nil
  rw [recover_of_opening hopens, hjournal]
  cases hused : opening.snapshotUsed with
  | false =>
      -- there was no snapshot to lose
      right
      have hstart : SameState opening.enter
          ({ journalExists := true } : RecoveryPass).enter := by
        refine ⟨(hfresh.sequence hused).symm, (hfresh.state.trans hused).symm,
          fun hstate => ?_⟩
        rw [show opening.enter.hasState = false from hfresh.state.trans hused]
          at hstate
        cases hstate
      obtain ⟨other', hfold, hsame⟩ := hstart.foldlM_absorb h.absorbed
      rw [hread.1 other' hfold, tailVerdict_nil]
      change (other'.classify false false).findings = _
      rw [hsame.findings_classify false false false]
      rw [h.findings_eq] at husable ⊢
      rw [findings_classify]
      cases hstate : pass.hasState with
      | true => rfl
      | false =>
          rw [hstate] at husable
          cases damaged with
          | true => exact absurd rfl husable
          | false => rfl
  | true =>
      have hnewer : ∃ record ∈ records,
          opening.enter.sequence < recordSequence record := by
        by_contra hnone
        apply hcovers
        rw [snapshotCovers_iff h.opens]
        refine ⟨hused, fun record hrecord => ?_⟩
        by_contra hlater
        exact hnone ⟨record, hrecord, UInt64.not_le.mp hlater⟩
      have hlower : ({ journalExists := true } : RecoveryPass).enter.sequence ≤
          opening.enter.sequence := UInt64.zero_le
      obtain hstuck | ⟨other', hfold, hsame⟩ :=
        foldlM_absorb_lower hlower h.absorbed hnewer
      · left
        rw [RecoveryPass.findings, hread.2 hstuck]
        rfl
      · right
        have hstate := (h.absorbs.moved hnewer).1
        rw [hread.1 other' hfold, tailVerdict_nil]
        change (other'.classify false false).findings = _
        rw [hsame.findings_classify false false false, h.findings_eq,
          findings_classify, if_pos hstate, if_pos hstate]

end Damage

namespace Store

/-- One commit to an empty directory. -/
def firstCommit : List StoreInput := [{ call := .commit {} }]

example : (callMachine.run (opened storeConfig {}) firstCommit).commitSequence =
    1 := by
  decide +kernel

theorem admits_firstCommit :
    callMachine.Admits Numbered (opened storeConfig {}) firstCommit :=
  ⟨⟨codecValid_empty, .inl rfl, by decide +kernel⟩, by decide +kernel, trivial⟩

theorem holds_fresh :
    Holds storeConfig (opened storeConfig {}) (opened storeConfig {}).found :=
  holds_opened (by decide +kernel) (by decide +kernel) (by decide)
    fun bytes hbytes => by cases hbytes

theorem snapshot_firstCommit :
    (callMachine.run (opened storeConfig {}) firstCommit).files.snapshot =
      none := by
  decide +kernel

end Store

end FlowOffload

import FlowOffload.Store.Replay

/-!
# Files that read back

`Reads` says that both files are read to their last byte and what the pass
holds then.  It survives the append of a record; an unfinished append leaves
what was there before, and a snapshot that is newer than every record makes the
journal irrelevant.
-/

namespace FlowOffload

open Foundation

variable {config : StoreConfig} {files : Files} {pass : RecoveryPass}

/-- The pass reads both files, and the journal to its last byte. -/
structure Reads (config : StoreConfig) (files : Files) (damaged : Bool)
    (opening : RecoveryPass) (header : Bytes) (records : List Bytes)
    (pass : RecoveryPass) : Prop where
  opens : openingPass config files = some (opening, damaged)
  journal : files.journal = some (header ++ records.flatten)
  length : header.length = kJournalHeaderBytes
  intact : HeaderIntact header
  size : (header ++ records.flatten).length ≤ config.maxJournalBytes
  base : opening.snapshotUsed = true → getU64 header 16 ≤ opening.sequence
  whole : ∀ record ∈ records, IsRecord config record
  absorbed : records.foldlM RecoveryPass.absorb opening.enter = some pass

theorem framed_nil : framed config [] = false := by
  simp [framed, kJournalRecordHeaderBytes]

theorem tailVerdict_nil : tailVerdict config [] = .clean := by
  simp [tailVerdict]

theorem length_append_record {header record : Bytes} {records : List Bytes} :
    (header ++ (records ++ [record]).flatten).length =
      (header ++ records.flatten).length + record.length := by
  rw [List.flatten_append, ← List.append_assoc, List.length_append]
  simp

section Reads

variable {damaged : Bool} {opening : RecoveryPass} {header : Bytes}
  {records : List Bytes}
  (h : Reads config files damaged opening header records pass)

include h

theorem Reads.recover_eq :
    recover config files = pass.classify damaged false := by
  have hjournal : files.journal = some (header ++ (records.flatten ++ [])) := by
    rw [List.append_nil]
    exact h.journal
  have hsize : (header ++ (records.flatten ++ [])).length ≤
      config.maxJournalBytes := by
    rw [List.append_nil]
    exact h.size
  rw [recover_of_opening h.opens, hjournal,
    (recoverJournal_records _ _ h.length h.intact hsize h.base h.whole
      framed_nil).1 pass h.absorbed, tailVerdict_nil]
  rfl

theorem Reads.opens_append (rest : Bytes) :
    openingPass config (Store.appendToJournal files rest) =
      some (opening, damaged) := by
  rw [← h.opens]
  apply openingPass_congr
  · rfl
  · rw [h.journal]
    rfl

theorem Reads.journal_append (record : Bytes) :
    (Store.appendToJournal files record).journal =
      some (header ++ (records ++ [record]).flatten) := by
  simp [Store.appendToJournal, h.journal]

theorem Reads.whole_append {record : Bytes}
    (hrecord : IsRecord config record) :
    ∀ other ∈ records ++ [record], IsRecord config other := by
  intro other hother
  obtain hother | hother := List.mem_append.mp hother
  · exact h.whole other hother
  · rw [List.mem_singleton] at hother
    rw [hother]
    exact hrecord

theorem Reads.append {record : Bytes} {state : DurableState}
    (hrecord : IsRecord config record)
    (hnewer : pass.sequence < recordSequence record)
    (hstate : decodeState (recordPayload record) = some state)
    (hsize : (header ++ records.flatten).length + record.length ≤
      config.maxJournalBytes) :
    Reads config (Store.appendToJournal files record) damaged opening header
      (records ++ [record])
      { pass with
        state := state
        sequence := recordSequence record
        snapshotDigest := Sha256.of (record.take
          (kJournalRecordHeaderBytes + (getU32 record 0).toNat))
        hasState := true
        recordsReplayed := pass.recordsReplayed + 1
        journalGoodBytes := pass.journalGoodBytes + recordTotal record } where
  opens := h.opens_append record
  journal := h.journal_append record
  length := h.length
  intact := h.intact
  size := by
    rw [length_append_record]
    exact hsize
  base := h.base
  whole := h.whole_append hrecord
  absorbed := by
    rw [List.foldlM_append, h.absorbed, Option.bind_eq_bind, Option.bind_some,
      List.foldlM_cons, absorb_newer hnewer hstate]
    rfl

/-- A record that is not newer than the pass changes nothing. -/
theorem Reads.skip {record : Bytes} (hrecord : IsRecord config record)
    (hold : recordSequence record ≤ pass.sequence)
    (hsize : (header ++ records.flatten).length + record.length ≤
      config.maxJournalBytes) :
    Reads config (Store.appendToJournal files record) damaged opening header
      (records ++ [record])
      { pass with
        journalGoodBytes := pass.journalGoodBytes + recordTotal record } where
  opens := h.opens_append record
  journal := h.journal_append record
  length := h.length
  intact := h.intact
  size := by
    rw [length_append_record]
    exact hsize
  base := h.base
  whole := h.whole_append hrecord
  absorbed := by
    rw [List.foldlM_append, h.absorbed, Option.bind_eq_bind, Option.bind_some,
      List.foldlM_cons, absorb_skip hold]
    rfl

/-- A tail that ends inside a record is dropped. -/
theorem Reads.torn {tail : Bytes} {detail : String}
    (htail : framed config tail = false)
    (hverdict : tailVerdict config tail = .torn detail)
    (hsize : (header ++ records.flatten).length + tail.length ≤
      config.maxJournalBytes) :
    recover config (Store.appendToJournal files tail) =
      (pass.withDetail detail).classify damaged true := by
  have hjournal : (Store.appendToJournal files tail).journal =
      some (header ++ (records.flatten ++ tail)) := by
    simp [Store.appendToJournal, h.journal]
  have hlong : (header ++ (records.flatten ++ tail)).length ≤
      config.maxJournalBytes := by
    rw [← List.append_assoc, List.length_append]
    exact hsize
  rw [recover_of_opening (h.opens_append tail), hjournal,
    (recoverJournal_records _ _ h.length h.intact hlong h.base h.whole htail).1
      pass h.absorbed, hverdict]
  rfl

theorem Reads.absorbs : Absorbs opening.enter records pass :=
  absorbs_of_foldlM h.absorbed

end Reads

/-- A journal that is a bare header. -/
theorem reads_journalHeader {damaged : Bool} {opening : RecoveryPass}
    {base : UInt64} {digest : Sha256Digest}
    (hopens : openingPass config files = some (opening, damaged))
    (hjournal : files.journal = some (Store.journalHeader base digest))
    (hroom : kJournalHeaderBytes ≤ config.maxJournalBytes)
    (hbase : opening.snapshotUsed = true → base ≤ opening.sequence) :
    Reads config files damaged opening (Store.journalHeader base digest) []
      opening.enter where
  opens := hopens
  journal := by
    rw [hjournal, List.flatten_nil, List.append_nil]
  length := Store.length_journalHeader base digest
  intact := Store.headerIntact_journalHeader base digest
  size := by
    rw [List.flatten_nil, List.append_nil, Store.length_journalHeader]
    exact hroom
  base := by
    have hread := Store.getU64_journalHeader base digest []
    rw [List.append_nil] at hread
    rw [hread]
    exact hbase
  whole := by simp
  absorbed := rfl

/-! ## Unfinished records -/

/-- A strict prefix of a record is a torn tail. -/
theorem tailVerdict_take {record : Bytes} (hrecord : IsRecord config record)
    {written : Nat} (hsome : 0 < written) (hpart : written < record.length) :
    framed config (record.take written) = false ∧
      ∃ detail, tailVerdict config (record.take written) = .torn detail := by
  obtain ⟨hheader, hbound, hjournal, -, -, -⟩ := framed_iff.mp hrecord.framed
  have htotal := hrecord.total
  have hlength : (record.take written).length = written :=
    List.length_take_of_le hpart.le
  have hne : record.take written ≠ [] := by
    rw [← List.length_pos_iff, hlength]
    exact hsome
  by_cases hshort : written < kJournalRecordHeaderBytes
  · have hunframed : framed config (record.take written) = false := by
      simp [framed, hlength, hshort]
    refine ⟨hunframed, "journal ends inside a record header", ?_⟩
    simp only [tailVerdict, hne, if_false, hlength, hshort, if_true]
  · -- the header is there, so the length field says how much is missing
    have hsplit : record.take written ++ record.drop written = record :=
      List.take_append_drop _ _
    have hfront : kJournalRecordHeaderBytes ≤ (record.take written).length := by
      omega
    have h4 : 0 + 4 ≤ (record.take written).length := by
      rw [kJournalRecordHeaderBytes] at hfront
      omega
    have hlen : getU32 (record.take written) 0 = getU32 record 0 := by
      rw [← getU32_append h4 (record.drop written), hsplit]
    have htotal' : recordTotal (record.take written) = record.length := by
      rw [← recordTotal_append hfront (record.drop written), hsplit, htotal]
    have hincomplete : ¬ recordTotal (record.take written) ≤
        (record.take written).length := by omega
    have hunframed : framed config (record.take written) = false := by
      simp only [framed, hincomplete, decide_false, Bool.and_false,
        Bool.false_and]
    have hwithin : ¬ ((getU32 record 0).toNat > kMaxJournalRecordBytes ∨
        (getU32 record 0).toNat + kJournalRecordHeaderBytes + kDigestSize >
          config.maxJournalBytes) := by omega
    refine ⟨hunframed, "journal ends inside a record payload", ?_⟩
    simp only [tailVerdict, hne, if_false, Nat.not_lt.mpr hfront, hlen,
      Bool.or_eq_true, decide_eq_true_eq, hwithin, Nat.lt_of_not_le hincomplete,
      if_true]

/-! ## Journals older than the snapshot -/

/-- The journal adds nothing to a snapshot that is not older than `floor`. -/
def Superseded (config : StoreConfig) (journal : Option Bytes) (floor : Nat) :
    Prop :=
  ∀ pass : RecoveryPass, pass.snapshotUsed = true → pass.hasState = true →
    floor ≤ pass.sequence.toNat →
    (recoverJournal config journal pass false).findings =
      some (some (pass.sequence, pass.state.canonicalizeOrder))

theorem Superseded.mono {journal : Option Bytes} {floor higher : Nat}
    (h : Superseded config journal floor) (hle : floor ≤ higher) :
    Superseded config journal higher :=
  fun pass hused hstate hfloor => h pass hused hstate (hle.trans hfloor)

theorem superseded_of_torn {bytes : Bytes}
    (hsize : bytes.length ≤ config.maxJournalBytes) (htorn : HeaderTorn bytes)
    (floor : Nat) : Superseded config (some bytes) floor := by
  intro pass _ hstate _
  obtain ⟨detail, hpass⟩ : ∃ detail, recoverJournal config (some bytes) pass
      false = (pass.withDetail detail).classify false true :=
    recoverJournal_torn hsize htorn
  rw [hpass, findings_classify]
  exact if_pos hstate

theorem superseded_of_records {header : Bytes} {records : List Bytes}
    {floor : Nat} (hlength : header.length = kJournalHeaderBytes)
    (hintact : HeaderIntact header)
    (hsize : (header ++ records.flatten).length ≤ config.maxJournalBytes)
    (hbase : (getU64 header 16).toNat ≤ floor)
    (hwhole : ∀ record ∈ records, IsRecord config record)
    (hold : ∀ record ∈ records, (recordSequence record).toNat ≤ floor) :
    Superseded config (some (header ++ records.flatten)) floor := by
  intro pass _ hstate hfloor
  have hsize' : (header ++ (records.flatten ++ [])).length ≤
      config.maxJournalBytes := by
    rw [List.append_nil]
    exact hsize
  have hquiet := foldlM_absorb_quiet pass.enter
    fun record hrecord => show recordSequence record ≤ pass.sequence from
      UInt64.le_iff_toNat_le.mpr ((hold record hrecord).trans hfloor)
  have hbase' : pass.snapshotUsed = true →
      getU64 header 16 ≤ pass.sequence :=
    fun _ => UInt64.le_iff_toNat_le.mpr (hbase.trans hfloor)
  have hbody : records.flatten ++ [] = records.flatten := List.append_nil _
  rw [← hbody, (recoverJournal_records _ _ hlength hintact hsize' hbase' hwhole
    framed_nil).1 _ hquiet, tailVerdict_nil, RecoveryPass.finish,
    findings_classify]
  exact if_pos hstate

/-- A journal rewrite that got anywhere leaves nothing that is newer. -/
theorem superseded_journalHeader {base : UInt64} {floor : Nat}
    (hroom : kJournalHeaderBytes ≤ config.maxJournalBytes)
    (hbase : base.toNat ≤ floor) (digest : Sha256Digest) (written : Nat) :
    Superseded config (some ((Store.journalHeader base digest).take written))
      floor := by
  have hlength := Store.length_journalHeader base digest
  by_cases hshort : written < kJournalHeaderBytes
  · have hpart : ((Store.journalHeader base digest).take written).length =
        written := List.length_take_of_le (by omega)
    exact superseded_of_torn (by omega) (.inl (by omega)) floor
  · have hread := Store.getU64_journalHeader base digest []
    rw [List.append_nil] at hread
    have hbare : Superseded config
        (some (Store.journalHeader base digest ++ [].flatten)) floor := by
      refine superseded_of_records hlength
        (Store.headerIntact_journalHeader base digest) ?_ ?_ ?_ ?_
      · rw [List.flatten_nil, List.append_nil, hlength]
        exact hroom
      · rw [hread]
        exact hbase
      · simp
      · simp
    rw [List.flatten_nil, List.append_nil] at hbare
    rw [List.take_of_length_le (by omega)]
    exact hbare

theorem Reads.superseded {damaged : Bool} {opening : RecoveryPass}
    {header : Bytes} {records : List Bytes} {floor : Nat}
    (h : Reads config files damaged opening header records pass)
    (hbase : (getU64 header 16).toNat ≤ floor)
    (hsequence : pass.sequence.toNat ≤ floor) :
    Superseded config files.journal floor := by
  rw [h.journal]
  refine superseded_of_records h.length h.intact h.size hbase h.whole ?_
  intro record hrecord
  have hcovers := UInt64.le_iff_toNat_le.mp (h.absorbs.covers record hrecord)
  omega

/-- The pass that a snapshot written by the store leaves. -/
def snapshotPass (state : DurableState) (sequence : UInt64)
    (journalExists : Bool) : RecoveryPass :=
  { journalExists := journalExists
    snapshotUsed := true
    sequence := sequence
    snapshotDigest := Sha256.of state.encode
    state := state
    hasState := true }

theorem openingPass_snapshotBytes {state : DurableState} {sequence : UInt64}
    (hvalid : state.CodecValid) (hwriter : writerOk state.encode = true)
    (hfits : state.encode.length + kSnapshotHeaderBytes ≤
      config.maxSnapshotBytes) (journal : Option Bytes) :
    openingPass config
        ⟨some (Store.snapshotBytes state state.encode sequence), journal⟩ =
      some (snapshotPass state sequence journal.isSome, false) := by
  simp only [openingPass,
    Store.snapshotVerdict_snapshotBytes hvalid hwriter hfits,
    Store.drop_snapshotBytes, Store.getU64_snapshotBytes,
    hvalid.decodeState_encode, Option.getD_some, snapshotPass]

/-- A new snapshot in front of a superseded journal is what is found. -/
theorem Superseded.findings_recover {journal : Option Bytes}
    {state : DurableState} {sequence : UInt64}
    (h : Superseded config journal sequence.toNat)
    (hvalid : state.CodecValid) (hwriter : writerOk state.encode = true)
    (hfits : state.encode.length + kSnapshotHeaderBytes ≤
      config.maxSnapshotBytes) :
    (recover config
        ⟨some (Store.snapshotBytes state state.encode sequence),
          journal⟩).findings =
      some (some (sequence, state.canonicalizeOrder)) := by
  rw [recover_of_opening
    (openingPass_snapshotBytes hvalid hwriter hfits journal)]
  exact h _ rfl rfl (Nat.le_refl _)

end FlowOffload

import FlowOffload.Model.RoundTrip
import FlowOffload.Store.Store
import Mathlib.Data.List.GetD

/-!
# The layout of the two files

What `recover` reads back from the bytes that the store writes: the fields of a
journal header, of a record and of a snapshot, and the fact that none of these
readings looks past the bytes of the thing it reads.
-/

namespace FlowOffload

open Foundation

/-! ## Fields at an offset -/

theorem getU32_at {front : Bytes} {offset : Nat} (h : front.length = offset)
    (value : UInt32) (rest : Bytes) :
    getU32 (front ++ (writeU32 value ++ rest)) offset = value := by
  subst h
  have hlength : (writeU32 value).length = 4 := length_bigEndian 4 _
  have hvalue : value.toNat < 256 ^ 4 := value.toNat_lt
  rw [getU32, List.drop_left, List.take_left' hlength, writeU32,
    ofBigEndian_bigEndian hvalue, UInt32.ofNat_toNat]

theorem getU64_at {front : Bytes} {offset : Nat} (h : front.length = offset)
    (value : UInt64) (rest : Bytes) :
    getU64 (front ++ (writeU64 value ++ rest)) offset = value := by
  subst h
  have hlength : (writeU64 value).length = 8 := length_bigEndian 8 _
  have hvalue : value.toNat < 256 ^ 8 := value.toNat_lt
  rw [getU64, List.drop_left, List.take_left' hlength, writeU64,
    ofBigEndian_bigEndian hvalue, UInt64.ofNat_toNat]

theorem storedDigest_at {front : Bytes} {offset : Nat}
    (h : front.length = offset) (digest : Sha256Digest) (rest : Bytes) :
    storedDigest (front ++ (digest.bytes ++ rest)) offset = digest.bytes := by
  subst h
  have hsize : digest.bytes.length = kDigestSize := digest.size
  rw [storedDigest, List.drop_left, List.take_left' hsize]

/-! ## Readings that stay inside a prefix -/

private theorem take_drop_append {front : Bytes} {offset count : Nat}
    (h : offset + count ≤ front.length) (rest : Bytes) :
    ((front ++ rest).drop offset).take count =
      (front.drop offset).take count := by
  have hdrop : offset ≤ front.length := by omega
  have htake : count ≤ (front.drop offset).length := by
    rw [List.length_drop]
    omega
  rw [List.drop_append_of_le_length hdrop, List.take_append_of_le_length htake]

theorem getU32_append {front : Bytes} {offset : Nat}
    (h : offset + 4 ≤ front.length) (rest : Bytes) :
    getU32 (front ++ rest) offset = getU32 front offset := by
  rw [getU32, take_drop_append h, getU32]

theorem getU64_append {front : Bytes} {offset : Nat}
    (h : offset + 8 ≤ front.length) (rest : Bytes) :
    getU64 (front ++ rest) offset = getU64 front offset := by
  rw [getU64, take_drop_append h, getU64]

theorem storedDigest_append {front : Bytes} {offset : Nat}
    (h : offset + kDigestSize ≤ front.length) (rest : Bytes) :
    storedDigest (front ++ rest) offset = storedDigest front offset := by
  rw [storedDigest, take_drop_append h, storedDigest]

theorem digestRange_append {front : Bytes} {start stop : Nat}
    (h : stop ≤ front.length) (rest : Bytes) :
    digestRange (front ++ rest) start stop = digestRange front start stop := by
  rw [digestRange, List.take_append_of_le_length h, digestRange]

/-! ## Journal headers -/

/-- The header that starts the byte string passes every check. -/
structure HeaderIntact (bytes : Bytes) : Prop where
  length : kJournalHeaderBytes ≤ bytes.length
  magic : bytes.take 8 = kJournalMagic
  container : getU32 bytes 8 = kJournalContainerVersion
  semantics : getU32 bytes 12 = kStateSemanticsVersion
  digest : digestRange bytes 0 64 = storedDigest bytes 64

/-- The header that starts the byte string is taken for an unfinished one. -/
def HeaderTorn (bytes : Bytes) : Prop :=
  bytes.length < kJournalHeaderBytes ∨ bytes.take 8 ≠ kJournalMagic ∨
    (getU32 bytes 8 = kJournalContainerVersion ∧
      getU32 bytes 12 = kStateSemanticsVersion ∧
      digestRange bytes 0 64 ≠ storedDigest bytes 64)

instance (bytes : Bytes) : Decidable (HeaderTorn bytes) :=
  inferInstanceAs (Decidable (_ ∨ _ ∨ _))

theorem journalVerdict_intact_iff {config : StoreConfig} {bytes : Bytes} :
    journalVerdict config bytes = .intact ↔
      bytes.length ≤ config.maxJournalBytes ∧ HeaderIntact bytes := by
  constructor
  · intro h
    unfold journalVerdict at h
    split_ifs at h with h₁ h₂ h₃ h₄ h₅ h₆
    exact ⟨Nat.le_of_not_lt h₁, Nat.le_of_not_lt h₂, not_not.mp h₃,
      not_not.mp h₄, not_not.mp h₅, not_not.mp h₆⟩
  · rintro ⟨hsize, hlength, hmagic, hcontainer, hsemantics, hdigest⟩
    simp [journalVerdict, hmagic, hcontainer, hsemantics, hdigest,
      Nat.not_lt.mpr hsize, Nat.not_lt.mpr hlength]

theorem journalVerdict_damaged_iff {config : StoreConfig} {bytes : Bytes} :
    (∃ detail, journalVerdict config bytes = .damaged detail) ↔
      bytes.length ≤ config.maxJournalBytes ∧ HeaderTorn bytes := by
  unfold journalVerdict HeaderTorn
  split_ifs <;> simp_all

/-- The readings of a header do not look past its 96 bytes. -/
private theorem header_append {header : Bytes}
    (hlength : header.length = kJournalHeaderBytes) (rest : Bytes) :
    (header ++ rest).take 8 = header.take 8 ∧
      getU32 (header ++ rest) 8 = getU32 header 8 ∧
      getU32 (header ++ rest) 12 = getU32 header 12 ∧
      digestRange (header ++ rest) 0 64 = digestRange header 0 64 ∧
      storedDigest (header ++ rest) 64 = storedDigest header 64 := by
  have h96 : header.length = 96 := hlength
  refine ⟨List.take_append_of_le_length ?_, getU32_append ?_ rest,
    getU32_append ?_ rest, digestRange_append ?_ rest,
    storedDigest_append ?_ rest⟩
  all_goals rw [h96]; decide

theorem headerIntact_append {header : Bytes}
    (hlength : header.length = kJournalHeaderBytes) (rest : Bytes) :
    HeaderIntact (header ++ rest) ↔ HeaderIntact header := by
  obtain ⟨htake, hu8, hu12, hrange, hstored⟩ := header_append hlength rest
  have hlong : kJournalHeaderBytes ≤ (header ++ rest).length := by
    rw [List.length_append]
    omega
  constructor
  · rintro ⟨-, h₂, h₃, h₄, h₅⟩
    rw [htake] at h₂
    rw [hu8] at h₃
    rw [hu12] at h₄
    rw [hrange, hstored] at h₅
    exact ⟨hlength.ge, h₂, h₃, h₄, h₅⟩
  · rintro ⟨-, h₂, h₃, h₄, h₅⟩
    refine ⟨hlong, htake.trans h₂, hu8.trans h₃, hu12.trans h₄, ?_⟩
    rw [hrange, hstored, h₅]

theorem headerTorn_append {header : Bytes}
    (hlength : header.length = kJournalHeaderBytes) (rest : Bytes) :
    HeaderTorn (header ++ rest) ↔ HeaderTorn header := by
  obtain ⟨htake, hu8, hu12, hrange, hstored⟩ := header_append hlength rest
  have hlong : ¬ (header ++ rest).length < kJournalHeaderBytes := by
    rw [List.length_append]
    omega
  simp only [HeaderTorn, htake, hu8, hu12, hrange, hstored, hlong,
    hlength.not_lt]

namespace Store

theorem length_journalHeaderPrefix (base : UInt64) (digest : Sha256Digest) :
    (journalHeaderPrefix base digest).length = 64 := by
  simp [journalHeaderPrefix, kJournalMagic, writeU32, writeU64, writeDigest,
    digest.size]

theorem length_journalHeader (base : UInt64) (digest : Sha256Digest) :
    (journalHeader base digest).length = kJournalHeaderBytes := by
  simp [journalHeader, length_journalHeaderPrefix, Sha256Digest.size,
    kJournalHeaderBytes]

/-- A header up to its base sequence, and the rest of it. -/
theorem journalHeader_eq (base : UInt64) (digest : Sha256Digest) :
    ∃ rest, journalHeader base digest =
      kJournalMagic ++ (writeU32 kJournalContainerVersion ++
        (writeU32 kStateSemanticsVersion ++ (writeU64 base ++ rest))) := by
  simp only [journalHeader, journalHeaderPrefix, List.append_assoc]
  exact ⟨_, rfl⟩

theorem getU64_journalHeader (base : UInt64) (digest : Sha256Digest)
    (rest : Bytes) :
    getU64 (journalHeader base digest ++ rest) 16 = base := by
  obtain ⟨tail, htail⟩ := journalHeader_eq base digest
  have hfront : (kJournalMagic ++ (writeU32 kJournalContainerVersion ++
      writeU32 kStateSemanticsVersion)).length = 16 := by
    simp [kJournalMagic, writeU32]
  have hread := getU64_at hfront base (tail ++ rest)
  simp only [List.append_assoc] at hread
  simp only [htail, List.append_assoc]
  exact hread

theorem headerIntact_journalHeader (base : UInt64) (digest : Sha256Digest) :
    HeaderIntact (journalHeader base digest) where
  length := (length_journalHeader base digest).ge
  magic := by
    simp [journalHeader, journalHeaderPrefix, kJournalMagic]
  container := by
    obtain ⟨tail, htail⟩ := journalHeader_eq base digest
    rw [htail]
    exact getU32_at rfl kJournalContainerVersion _
  semantics := by
    obtain ⟨tail, htail⟩ := journalHeader_eq base digest
    have hfront : (kJournalMagic ++
        writeU32 kJournalContainerVersion).length = 12 := by
      simp [kJournalMagic, writeU32]
    rw [htail, ← List.append_assoc]
    exact getU32_at hfront kStateSemanticsVersion _
  digest := by
    have hlength := length_journalHeaderPrefix base digest
    have hstored := storedDigest_at hlength
      (Sha256.of (journalHeaderPrefix base digest)) []
    rw [List.append_nil] at hstored
    rw [journalHeader, hstored, digestRange, List.take_left' hlength,
      List.drop_zero]

end Store

/-- The base sequence that a journal names. -/
def journalBase (bytes : Bytes) : UInt64 := getU64 bytes 16

theorem journalBase_append {header : Bytes}
    (hlength : header.length = kJournalHeaderBytes) (rest : Bytes) :
    journalBase (header ++ rest) = getU64 header 16 := by
  have hfield : 16 + 8 ≤ header.length := by
    rw [hlength]
    decide
  rw [journalBase, getU64_append hfield]

theorem journalBase_journalHeader (base : UInt64) (digest : Sha256Digest) :
    journalBase (Store.journalHeader base digest) = base := by
  have hread := Store.getU64_journalHeader base digest []
  rw [List.append_nil] at hread
  exact hread

/-! ## Records -/

/--
An intact record of the current kind starts the byte string: the record loop
goes past it unless its payload has to be decoded and cannot be.
-/
def framed (config : StoreConfig) (rest : Bytes) : Bool :=
  kJournalRecordHeaderBytes ≤ rest.length &&
    (getU32 rest 0).toNat ≤ kMaxJournalRecordBytes &&
    (getU32 rest 0).toNat + kJournalRecordHeaderBytes + kDigestSize ≤
      config.maxJournalBytes &&
    recordTotal rest ≤ rest.length && recordDigestOk rest &&
    rest.getD 12 0 == kRecordKindFullState

/-- The sequence number and the payload of the record that starts a string. -/
def recordSequence (rest : Bytes) : UInt64 := getU64 rest 4

def recordPayload (rest : Bytes) : Bytes :=
  (rest.drop kJournalRecordHeaderBytes).take (getU32 rest 0).toNat

/-- The byte string is one intact record of the current kind. -/
structure IsRecord (config : StoreConfig) (record : Bytes) : Prop where
  framed : framed config record = true
  total : recordTotal record = record.length

theorem framed_iff {config : StoreConfig} {rest : Bytes} :
    framed config rest = true ↔
      kJournalRecordHeaderBytes ≤ rest.length ∧
        (getU32 rest 0).toNat ≤ kMaxJournalRecordBytes ∧
        (getU32 rest 0).toNat + kJournalRecordHeaderBytes + kDigestSize ≤
          config.maxJournalBytes ∧
        recordTotal rest ≤ rest.length ∧ recordDigestOk rest = true ∧
        rest.getD 12 0 = kRecordKindFullState := by
  simp [framed, and_assoc]

section Append

variable {front : Bytes} (hheader : kJournalRecordHeaderBytes ≤ front.length)

include hheader

theorem recordTotal_append (rest : Bytes) :
    recordTotal (front ++ rest) = recordTotal front := by
  have hlength : 0 + 4 ≤ front.length := by
    rw [kJournalRecordHeaderBytes] at hheader
    omega
  rw [recordTotal, getU32_append hlength, recordTotal]

theorem recordDigestOk_append (htotal : recordTotal front ≤ front.length)
    (rest : Bytes) :
    recordDigestOk (front ++ rest) = recordDigestOk front := by
  have hlength : 0 + 4 ≤ front.length := by
    rw [kJournalRecordHeaderBytes] at hheader
    omega
  have hbody : kJournalRecordHeaderBytes + (getU32 front 0).toNat ≤
      front.length := by
    rw [recordTotal] at htotal
    omega
  simp only [recordDigestOk]
  rw [getU32_append hlength, digestRange_append hbody,
    storedDigest_append htotal]

theorem recordSequence_append (rest : Bytes) :
    recordSequence (front ++ rest) = recordSequence front := by
  rw [recordSequence, getU64_append, recordSequence]
  rw [kJournalRecordHeaderBytes] at hheader
  omega

theorem recordPayload_append (htotal : recordTotal front ≤ front.length)
    (rest : Bytes) :
    recordPayload (front ++ rest) = recordPayload front := by
  have hlength : 0 + 4 ≤ front.length := by
    rw [kJournalRecordHeaderBytes] at hheader
    omega
  have hbody : kJournalRecordHeaderBytes + (getU32 front 0).toNat ≤
      front.length := by
    rw [recordTotal] at htotal
    omega
  rw [recordPayload, getU32_append hlength, take_drop_append hbody,
    recordPayload]

end Append

theorem framed_append {config : StoreConfig} {front : Bytes}
    (h : framed config front = true) (rest : Bytes) :
    framed config (front ++ rest) = true := by
  obtain ⟨hheader, hrecord, hjournal, htotal, hdigest, hkind⟩ :=
    framed_iff.mp h
  have hlength : 16 ≤ front.length := hheader
  rw [framed_iff, getU32_append (show 0 + 4 ≤ front.length by omega),
    recordTotal_append hheader, recordDigestOk_append hheader htotal,
    List.getD_append _ _ _ _ (by omega), List.length_append]
  exact ⟨by omega, hrecord, hjournal, by omega, hdigest, hkind⟩

/-- A string that starts with an intact record is that record and a rest. -/
theorem isRecord_take {config : StoreConfig} {rest : Bytes}
    (h : framed config rest = true) :
    IsRecord config (rest.take (recordTotal rest)) := by
  obtain ⟨hheader, hrecord, hjournal, htotal, hdigest, hkind⟩ :=
    framed_iff.mp h
  obtain ⟨front, back, hlength, rfl⟩ : ∃ front back : Bytes,
      front.length = recordTotal rest ∧ rest = front ++ back :=
    ⟨rest.take (recordTotal rest), rest.drop (recordTotal rest),
      List.length_take_of_le htotal, (List.take_append_drop _ _).symm⟩
  have hfront : kJournalRecordHeaderBytes ≤ front.length := by
    rw [hlength, recordTotal]
    omega
  have h16 : 16 ≤ front.length := hfront
  rw [recordTotal_append hfront] at hlength htotal ⊢
  have hwhole : recordTotal front ≤ front.length := hlength.ge
  rw [getU32_append (show 0 + 4 ≤ front.length by omega)] at hrecord hjournal
  rw [recordDigestOk_append hfront hwhole] at hdigest
  rw [List.getD_append _ _ _ _ (by omega)] at hkind
  rw [List.take_left' hlength]
  exact ⟨framed_iff.mpr
    ⟨hfront, hrecord, hjournal, hwhole, hdigest, hkind⟩, hlength.symm⟩

theorem IsRecord.length_ge {config : StoreConfig} {record : Bytes}
    (h : IsRecord config record) :
    kJournalRecordHeaderBytes + kDigestSize ≤ record.length := by
  rw [← h.total, recordTotal]
  omega

namespace Store

theorem length_recordBody (sequence : UInt64) (payload : Bytes) :
    (recordBody sequence payload).length =
      kJournalRecordHeaderBytes + payload.length := by
  simp [recordBody, writeU32, writeU64, kJournalRecordHeaderBytes]
  omega

theorem length_recordBytes (sequence : UInt64) (payload : Bytes) :
    (recordBytes sequence payload).length =
      kJournalRecordHeaderBytes + payload.length + kDigestSize := by
  simp [recordBytes, length_recordBody, Sha256Digest.size, kDigestSize]

theorem getU32_recordBytes (sequence : UInt64) {payload : Bytes}
    (hsize : payload.length ≤ kMaxJournalRecordBytes) :
    (getU32 (recordBytes sequence payload) 0).toNat = payload.length := by
  have hread := getU32_at (show ([] : Bytes).length = 0 from rfl)
    (UInt32.ofNat payload.length)
  have hfits : payload.length < 2 ^ 32 := by
    rw [kMaxJournalRecordBytes] at hsize
    omega
  simp only [List.nil_append] at hread
  simp only [recordBytes, recordBody, List.append_assoc, hread]
  exact UInt32.toNat_ofNat_of_lt' hfits

theorem recordSequence_recordBytes (sequence : UInt64) (payload : Bytes) :
    recordSequence (recordBytes sequence payload) = sequence := by
  have hfront : (writeU32 (UInt32.ofNat payload.length)).length = 4 :=
    length_bigEndian 4 _
  simp only [recordSequence, recordBytes, recordBody, List.append_assoc]
  exact getU64_at hfront sequence _

theorem recordPayload_recordBytes {sequence : UInt64} {payload : Bytes}
    (hsize : payload.length ≤ kMaxJournalRecordBytes) :
    recordPayload (recordBytes sequence payload) = payload := by
  have hfront : (writeU32 (UInt32.ofNat payload.length) ++
      (writeU64 sequence ++ [kRecordKindFullState, 0, 0, 0])).length =
        kJournalRecordHeaderBytes := by
    simp [writeU32, writeU64, kJournalRecordHeaderBytes]
  rw [recordPayload, getU32_recordBytes sequence hsize]
  have hshape : recordBytes sequence payload =
      (writeU32 (UInt32.ofNat payload.length) ++
        (writeU64 sequence ++ [kRecordKindFullState, 0, 0, 0])) ++
      (payload ++ (Sha256.of (recordBody sequence payload)).bytes) := by
    simp only [recordBytes, recordBody, List.append_assoc]
  rw [hshape, List.drop_left' hfront, List.take_left]

theorem isRecord_recordBytes {config : StoreConfig} {sequence : UInt64}
    {payload : Bytes} (hsize : payload.length ≤ kMaxJournalRecordBytes)
    (hfits : kJournalRecordHeaderBytes + payload.length + kDigestSize ≤
      config.maxJournalBytes) :
    IsRecord config (recordBytes sequence payload) := by
  have hlength := length_recordBytes sequence payload
  have hbody := length_recordBody sequence payload
  have hread := getU32_recordBytes sequence hsize
  have htotal : recordTotal (recordBytes sequence payload) =
      (recordBytes sequence payload).length := by
    rw [recordTotal, hread, hlength]
  have hdigest : recordDigestOk (recordBytes sequence payload) = true := by
    have hstored := storedDigest_at hbody
      (Sha256.of (recordBody sequence payload)) []
    rw [List.append_nil] at hstored
    simp only [recordDigestOk, beq_iff_eq, hread]
    rw [recordBytes, hstored, digestRange, List.take_left' hbody,
      List.drop_zero]
  have hkind : (recordBytes sequence payload).getD 12 0 =
      kRecordKindFullState := by
    simp [recordBytes, recordBody, writeU32, writeU64, bigEndian]
  refine ⟨framed_iff.mpr ⟨?_, ?_, ?_, htotal.le, hdigest, hkind⟩, htotal⟩
  · omega
  · omega
  · omega

end Store

/-! ## Payloads and snapshots -/

theorem decodeState_eq_some_iff {payload : Bytes} {state : DurableState} :
    decodeState payload = some state ↔
      state.CodecValid ∧ payload = state.encode := by
  have hiff : DurableState.decode.run payload = .ok (state, []) ↔
      state.CodecValid ∧ payload = state.encode := by
    rw [decodeDurableState_ok_iff, List.append_nil]
  rw [← hiff, decodeState]
  constructor
  · intro h
    split at h
    · next hrun =>
        cases h
        exact hrun
    · cases h
  · intro h
    rw [h]

theorem DurableState.CodecValid.decodeState_encode {state : DurableState}
    (h : state.CodecValid) : decodeState state.encode = some state :=
  decodeState_eq_some_iff.mpr ⟨h, rfl⟩

namespace Store

theorem length_snapshotHeaderPrefix (state : DurableState) (payload : Bytes)
    (sequence : UInt64) :
    (snapshotHeaderPrefix state payload sequence).length = 96 := by
  simp [snapshotHeaderPrefix, kSnapshotMagic, writeU32, writeU64, writeId,
    BootId.encode, Sha256Digest.size]

theorem length_snapshotBytes (state : DurableState) (payload : Bytes)
    (sequence : UInt64) :
    (snapshotBytes state payload sequence).length =
      kSnapshotHeaderBytes + payload.length := by
  simp [snapshotBytes, length_snapshotHeaderPrefix, Sha256Digest.size,
    kSnapshotHeaderBytes]
  omega

theorem drop_snapshotBytes (state : DurableState) (payload : Bytes)
    (sequence : UInt64) :
    (snapshotBytes state payload sequence).drop kSnapshotHeaderBytes =
      payload := by
  have hhead : (snapshotHeaderPrefix state payload sequence ++
      (Sha256.of (snapshotHeaderPrefix state payload sequence)).bytes).length =
        kSnapshotHeaderBytes := by
    simp [length_snapshotHeaderPrefix, Sha256Digest.size, kSnapshotHeaderBytes]
  rw [snapshotBytes, List.drop_left' hhead]

/-- The fields of a snapshot in file order, as far as recovery reads them. -/
theorem snapshotBytes_eq (state : DurableState) (payload : Bytes)
    (sequence : UInt64) :
    ∃ middle rest : Bytes, middle.length = 24 ∧
      snapshotBytes state payload sequence =
        kSnapshotMagic ++ (writeU32 kSnapshotContainerVersion ++
          (writeU32 kStateSemanticsVersion ++ (writeU32 0 ++ (writeU32 0 ++
            (middle ++ (writeU64 payload.length.toUInt64 ++
              (writeU64 sequence ++ ((Sha256.of payload).bytes ++
                rest)))))))) := by
  refine ⟨writeId state.epoch ++ state.boot.encode,
    (Sha256.of (snapshotHeaderPrefix state payload sequence)).bytes ++ payload,
    ?_, ?_⟩
  · simp [writeId, writeU64, BootId.encode]
  · simp only [snapshotBytes, snapshotHeaderPrefix, List.append_assoc]

theorem getU64_snapshotBytes (state : DurableState) (payload : Bytes)
    (sequence : UInt64) :
    getU64 (snapshotBytes state payload sequence) 56 = sequence := by
  obtain ⟨middle, rest, hmiddle, hshape⟩ :=
    snapshotBytes_eq state payload sequence
  have hfront : (kSnapshotMagic ++ (writeU32 kSnapshotContainerVersion ++
      (writeU32 kStateSemanticsVersion ++ (writeU32 0 ++ (writeU32 0 ++
        (middle ++ writeU64 payload.length.toUInt64)))))).length = 56 := by
    simp [kSnapshotMagic, writeU32, writeU64, hmiddle]
  have hread := getU64_at hfront sequence ((Sha256.of payload).bytes ++ rest)
  simp only [List.append_assoc] at hread
  rw [hshape, hread]

theorem snapshotVerdict_snapshotBytes {config : StoreConfig}
    {state : DurableState} {sequence : UInt64} (hvalid : state.CodecValid)
    (hwriter : writerOk state.encode = true)
    (hfits : state.encode.length + kSnapshotHeaderBytes ≤
      config.maxSnapshotBytes) :
    snapshotVerdict config (snapshotBytes state state.encode sequence) =
      .intact := by
  have hlength := length_snapshotBytes state state.encode sequence
  have hdrop := drop_snapshotBytes state state.encode sequence
  have hsmall : state.encode.length < 2 ^ 64 := by
    have hlimit : state.encode.length ≤ 64 * 1024 * 1024 :=
      of_decide_eq_true hwriter
    omega
  have hheader : digestRange (snapshotBytes state state.encode sequence) 0 96 =
      storedDigest (snapshotBytes state state.encode sequence) 96 := by
    have hprefix := length_snapshotHeaderPrefix state state.encode sequence
    rw [snapshotBytes, List.append_assoc, storedDigest_at hprefix,
      digestRange, List.take_left' hprefix, List.drop_zero]
  have hpayload : digestRange (snapshotBytes state state.encode sequence)
      kSnapshotHeaderBytes
        (snapshotBytes state state.encode sequence).length =
      (Sha256.of state.encode).bytes := by
    rw [digestRange, List.take_length, hdrop]
  obtain ⟨middle, rest, hmiddle, hshape⟩ :=
    snapshotBytes_eq state state.encode sequence
  have hcontainer : getU32 (snapshotBytes state state.encode sequence) 8 =
      kSnapshotContainerVersion := by
    rw [hshape]
    exact getU32_at rfl _ _
  have hsemantics : getU32 (snapshotBytes state state.encode sequence) 12 =
      kStateSemanticsVersion := by
    have hfront : (kSnapshotMagic ++
        writeU32 kSnapshotContainerVersion).length = 12 := by
      simp [kSnapshotMagic, writeU32]
    rw [hshape, ← List.append_assoc]
    exact getU32_at hfront _ _
  have hreserved : getU32 (snapshotBytes state state.encode sequence) 20 =
      0 := by
    have hfront : (kSnapshotMagic ++ (writeU32 kSnapshotContainerVersion ++
        (writeU32 kStateSemanticsVersion ++ writeU32 0))).length = 20 := by
      simp [kSnapshotMagic, writeU32]
    have hread := fun rest => getU32_at hfront 0 rest
    simp only [List.append_assoc] at hread
    rw [hshape, hread]
  have hcount : (getU64 (snapshotBytes state state.encode sequence) 48).toNat =
      state.encode.length := by
    have hfront : (kSnapshotMagic ++ (writeU32 kSnapshotContainerVersion ++
        (writeU32 kStateSemanticsVersion ++ (writeU32 0 ++ (writeU32 0 ++
          middle))))).length = 48 := by
      simp [kSnapshotMagic, writeU32, hmiddle]
    have hread := fun rest =>
      getU64_at hfront state.encode.length.toUInt64 rest
    simp only [List.append_assoc] at hread
    rw [hshape, hread]
    exact UInt64.toNat_ofNat_of_lt' hsmall
  have hstored : storedDigest (snapshotBytes state state.encode sequence) 64 =
      (Sha256.of state.encode).bytes := by
    have hfront : (kSnapshotMagic ++ (writeU32 kSnapshotContainerVersion ++
        (writeU32 kStateSemanticsVersion ++ (writeU32 0 ++ (writeU32 0 ++
          (middle ++ (writeU64 state.encode.length.toUInt64 ++
            writeU64 sequence))))))).length = 64 := by
      simp [kSnapshotMagic, writeU32, writeU64, hmiddle]
    have hread := fun rest => storedDigest_at hfront (Sha256.of state.encode)
      rest
    simp only [List.append_assoc] at hread
    rw [hshape, hread]
  have hmagic : (snapshotBytes state state.encode sequence).take 8 =
      kSnapshotMagic := by
    rw [hshape]
    exact List.take_left' rfl
  have hsize : ¬ config.maxSnapshotBytes <
      kSnapshotHeaderBytes + state.encode.length := by omega
  simp [snapshotVerdict, hlength, hmagic, hcontainer, hsemantics, hreserved,
    hheader, hcount, hstored, hdrop, hvalid.decodeState_encode, hsize]
  rw [← hpayload, hlength]

end Store

end FlowOffload

import Mathlib.Data.List.Infix
import FlowOffload.Store.Bounds

/-!
# The checked pass always has a result

Each check of a file stands behind the size check that its reads need, and the
offset of each loop never passes the end of the file.  So the checked pass over
two files that fit into memory is `recover`.
-/

namespace FlowOffload

open Foundation Foundation.Checked

namespace Checked

variable {config : StoreConfig} {bytes : Bytes}

theorem size_lt_iff (h : bytes.length < 2 ^ 64) {bound : UInt64} :
    size bytes < bound ↔ bytes.length < bound.toNat := by
  rw [UInt64.lt_iff_toNat_lt, toNat_size h]

/-! ## The headers -/

/-- The payload of a snapshot, read to the end of the file. -/
theorem slice_to_end {count : UInt64}
    (hlong : kSnapshotHeaderBytes ≤ bytes.length)
    (hcount : count.toNat = bytes.length - kSnapshotHeaderBytes) :
    slice bytes kSnapshotHeaderSize count =
      some (bytes.drop kSnapshotHeaderBytes) := by
  have hfits : kSnapshotHeaderSize.toNat + count.toNat ≤ bytes.length := by
    rw [hcount, toNat_kSnapshotHeaderSize]
    omega
  rw [slice_of_le hfits, hcount, toNat_kSnapshotHeaderSize]
  exact congrArg some (List.take_of_length_le (by simp))

theorem snapshotVerdict_eq (h : bytes.length < 2 ^ 64) :
    snapshotVerdict config bytes =
      some (FlowOffload.snapshotVerdict config bytes) := by
  unfold snapshotVerdict FlowOffload.snapshotVerdict
  by_cases hbound : bytes.length > config.maxSnapshotBytes
  · rw [if_pos hbound, if_pos hbound]
  rw [if_neg hbound, if_neg hbound]
  by_cases hshort : bytes.length < kSnapshotHeaderBytes
  · rw [if_pos hshort, if_pos ((size_lt_iff h).mpr (by simpa using hshort))]
  have hlong : kSnapshotHeaderBytes ≤ bytes.length := Nat.le_of_not_lt hshort
  have hheaderBytes : kSnapshotHeaderBytes = 128 := rfl
  have hsize : ¬ size bytes < kSnapshotHeaderSize := by
    rw [size_lt_iff h, toNat_kSnapshotHeaderSize]
    exact hshort
  have hmagic : slice bytes 0 8 = some (bytes.take 8) :=
    slice_of_le (show 0 + 8 ≤ _ by omega)
  have hcontainer := @getU32_of_le bytes 8 (show 8 + 4 ≤ _ by omega)
  have hsemantics := @getU32_of_le bytes 12 (show 12 + 4 ≤ _ by omega)
  have hpayload := @storedDigest_of_le bytes 64 (show 64 + 32 ≤ _ by omega)
  have hheader := @storedDigest_of_le bytes 96 (show 96 + 32 ≤ _ by omega)
  have hreserved := @getU32_of_le bytes 20 (show 20 + 4 ≤ _ by omega)
  have hlength := @getU64_of_le bytes 48 (show 48 + 8 ≤ _ by omega)
  have hrange := @digestRange_of_le bytes 0 96 (show 0 ≤ 96 by omega)
    (show 96 ≤ _ by omega)
  obtain ⟨count, hcount, htoNat⟩ := @sub_of_le (size bytes) kSnapshotHeaderSize
    (by rw [toNat_size h]; exact hlong)
  have hwhole := @digestRange_of_le bytes kSnapshotHeaderSize (size bytes)
    (by rw [toNat_size h]; exact hlong) (by rw [toNat_size h])
  rw [toNat_size h, toNat_kSnapshotHeaderSize] at htoNat hwhole
  have hslice := slice_to_end hlong htoNat
  have hdecode := @decodeState_eq (bytes.drop kSnapshotHeaderBytes) (by
    rw [List.length_drop]
    omega)
  have hcounted : ∀ length : UInt64, length ≠ count ↔
      length.toNat ≠ bytes.length - kSnapshotHeaderBytes := by
    intro length
    rw [ne_eq, ← UInt64.toNat_inj, htoNat]
  rw [if_neg hsize, if_neg hshort]
  simp only [hmagic, hcontainer, hsemantics, hpayload, hheader, hreserved,
    hlength, hrange, hcount, hwhole, hslice, hdecode, hcounted,
    Option.bind_eq_bind, Option.bind_some, apply_ite some]
  rfl

theorem journalVerdict_eq (h : bytes.length < 2 ^ 64) :
    journalVerdict config bytes =
      some (FlowOffload.journalVerdict config bytes) := by
  unfold journalVerdict FlowOffload.journalVerdict
  by_cases hbound : bytes.length > config.maxJournalBytes
  · rw [if_pos hbound, if_pos hbound]
  rw [if_neg hbound, if_neg hbound]
  by_cases hshort : bytes.length < kJournalHeaderBytes
  · rw [if_pos hshort, if_pos ((size_lt_iff h).mpr (by simpa using hshort))]
  have hlong : kJournalHeaderBytes ≤ bytes.length := Nat.le_of_not_lt hshort
  have hheaderBytes : kJournalHeaderBytes = 96 := rfl
  have hsize : ¬ size bytes < kJournalHeaderSize := by
    rw [size_lt_iff h, toNat_kJournalHeaderSize]
    exact hshort
  have hmagic : slice bytes 0 8 = some (bytes.take 8) :=
    slice_of_le (show 0 + 8 ≤ _ by omega)
  have hcontainer := @getU32_of_le bytes 8 (show 8 + 4 ≤ _ by omega)
  have hsemantics := @getU32_of_le bytes 12 (show 12 + 4 ≤ _ by omega)
  have hstored := @storedDigest_of_le bytes 64 (show 64 + 32 ≤ _ by omega)
  have hrange := @digestRange_of_le bytes 0 64 (show 0 ≤ 64 by omega)
    (show 64 ≤ _ by omega)
  rw [if_neg hsize, if_neg hshort]
  simp only [hmagic, hcontainer, hsemantics, hstored, hrange,
    Option.bind_eq_bind, Option.bind_some, apply_ite some]
  rfl

/-! ## The forward scan -/

theorem getU32_drop (bytes : Bytes) (offset start : Nat) :
    FlowOffload.getU32 (bytes.drop offset) start =
      FlowOffload.getU32 bytes (offset + start) := by
  rw [FlowOffload.getU32, List.drop_drop]
  rfl

theorem storedDigest_drop (bytes : Bytes) (offset start : Nat) :
    storedDigest (bytes.drop offset) start =
      storedDigest bytes (offset + start) := by
  rw [storedDigest, List.drop_drop]
  rfl

theorem digestRange_drop (bytes : Bytes) (offset count : Nat) :
    FlowOffload.digestRange (bytes.drop offset) 0 count =
      (Sha256.of ((bytes.take (offset + count)).drop offset)).bytes := by
  rw [FlowOffload.digestRange, List.drop_zero, List.drop_take,
    Nat.add_sub_cancel_left]

/-- The two digests of a record, at their offsets in the file. -/
theorem recordDigestOk_drop {offset : Nat} {length : UInt32}
    (hlength : FlowOffload.getU32 bytes offset = length) :
    recordDigestOk (bytes.drop offset) =
      ((Sha256.of ((bytes.take (offset + kJournalRecordHeaderBytes +
          length.toNat)).drop offset)).bytes ==
        storedDigest bytes (offset + kJournalRecordHeaderBytes +
          length.toNat)) := by
  unfold recordDigestOk
  dsimp only
  rw [getU32_drop, Nat.add_zero, hlength, digestRange_drop, storedDigest_drop,
    Nat.add_assoc]

theorem recordTotal_drop {offset : Nat} {length : UInt32}
    (hlength : FlowOffload.getU32 bytes offset = length) :
    recordTotal (bytes.drop offset) =
      kJournalRecordHeaderBytes + length.toNat + kDigestSize := by
  rw [recordTotal, getU32_drop, Nat.add_zero, hlength]

/-- What follows a record header that does not fit is not a record. -/
theorem any_scanIntact_of_short {rest : Bytes}
    (h : rest.length < kJournalRecordHeaderBytes) :
    rest.tails.any scanIntact = false := by
  rw [List.any_eq_false]
  intro tail htail
  have hle := ((List.mem_tails tail rest).mp htail).length_le
  have hshort : ¬ kJournalRecordHeaderBytes ≤ tail.length := by omega
  simp [scanIntact, hshort]

theorem any_scanIntact_step {scan : Nat} (h : scan < bytes.length) :
    (bytes.drop scan).tails.any scanIntact =
      (scanIntact (bytes.drop scan) ||
        (bytes.drop (scan + 1)).tails.any scanIntact) := by
  rw [List.drop_eq_getElem_cons h]
  simp

/-- The scan is total and does what the source's loop is meant to do. -/
theorem scanFrom_eq (h : bytes.length < 2 ^ 63) {fuel : Nat} {scan : UInt64}
    (hscan : scan.toNat ≤ bytes.length)
    (hfuel : bytes.length < scan.toNat + fuel) :
    scanFrom bytes fuel scan =
      some ((bytes.drop scan.toNat).tails.any scanIntact) := by
  have hsize : (size bytes).toNat = bytes.length := toNat_size (by omega)
  have hsixteen : kJournalRecordHeaderBytes = 16 := rfl
  have hthirtytwo : kDigestSize = 32 := rfl
  induction fuel generalizing scan with
  | zero => omega
  | succ fuel ih =>
      rw [scanFrom]
      obtain ⟨header, hheader, hheaderNat⟩ := @add_of_lt scan kRecordHeaderSize
        (by rw [toNat_kRecordHeaderSize]; omega)
      rw [toNat_kRecordHeaderSize] at hheaderNat
      by_cases hpast : header > size bytes
      · have hlt := UInt64.lt_iff_toNat_lt.mp hpast
        rw [any_scanIntact_of_short (by rw [List.length_drop]; omega)]
        simp [hheader, hpast]
      · have hinside : scan.toNat + 16 ≤ bytes.length := by
          rw [gt_iff_lt, UInt64.lt_iff_toNat_lt] at hpast
          omega
        obtain ⟨next, hnext, hnextNat⟩ := @add_of_lt scan 1
          (show scan.toNat + 1 < _ by omega)
        change next.toNat = scan.toNat + 1 at hnextNat
        have hlater := @ih next (by omega) (by omega)
        rw [hnextNat] at hlater
        have hword := @getU32_of_le bytes scan (by omega)
        have hrest : (bytes.drop scan.toNat).length =
            bytes.length - scan.toNat := List.length_drop
        generalize hlength : FlowOffload.getU32 bytes scan.toNat = length
          at hword
        have hsmall : length.toNat < 2 ^ 32 := length.toNat_lt
        have hwide : length.toUInt64.toNat = length.toNat :=
          UInt32.toNat_toUInt64 length
        rw [any_scanIntact_step (by omega), scanIntact, recordTotal_drop hlength,
          recordDigestOk_drop hlength, getU32_drop, Nat.add_zero, hlength, hrest]
        by_cases hlong : length.toNat > kMaxJournalRecordBytes
        · have hnot : ¬ length.toNat ≤ kMaxJournalRecordBytes := by omega
          simp [hheader, hpast, hnext, hword, hlong, hlater, hnot]
        have hle : length.toNat ≤ kMaxJournalRecordBytes := by omega
        obtain ⟨headed, hheaded, hheadedNat⟩ :=
          @add_of_lt kRecordHeaderSize length.toUInt64
            (by rw [hwide, toNat_kRecordHeaderSize]; omega)
        rw [hwide, toNat_kRecordHeaderSize] at hheadedNat
        obtain ⟨total, htotal, htotalNat⟩ :=
          @add_of_lt headed kStoredDigestSize
            (by rw [hheadedNat, toNat_kStoredDigestSize]; omega)
        rw [hheadedNat, toNat_kStoredDigestSize] at htotalNat
        obtain ⟨left, hleft, hleftNat⟩ := @sub_of_le (size bytes) scan
          (by omega)
        rw [hsize] at hleftNat
        by_cases hover : total > left
        · have hlt := UInt64.lt_iff_toNat_lt.mp hover
          have hnot : ¬ kJournalRecordHeaderBytes + length.toNat +
              kDigestSize ≤ bytes.length - scan.toNat := by omega
          simp [hheader, hpast, hnext, hword, hlong, hheaded, htotal, hleft,
            hover, hlater, hnot]
        have hfits : scan.toNat + 16 + length.toNat + 32 ≤ bytes.length := by
          rw [gt_iff_lt, UInt64.lt_iff_toNat_lt] at hover
          omega
        obtain ⟨stop, hstop, hstopNat⟩ := @add_of_lt header length.toUInt64
          (by rw [hwide]; omega)
        rw [hwide, hheaderNat] at hstopNat
        have hstored := @storedDigest_of_le bytes stop (by omega)
        have hcomputed := @digestRange_of_le bytes scan stop (by omega)
          (by omega)
        rw [hstopNat] at hstored hcomputed
        have hsixteenLe : kJournalRecordHeaderBytes ≤
            bytes.length - scan.toNat := by omega
        have htotalLe : kJournalRecordHeaderBytes + length.toNat +
            kDigestSize ≤ bytes.length - scan.toNat := by omega
        simp only [hheader, hpast, hnext, hword, hlong, hheaded, htotal, hleft,
          hover, hstop, hstored, hcomputed, hlater, hle, hsixteenLe, htotalLe,
          Option.bind_eq_bind, Option.bind_some, if_false, decide_true,
          Bool.true_and]
        split
        next hsame => simp [hsame]
        next hdiffers => simp [hdiffers]

/-! ## The record loop -/

theorem getU64_drop (bytes : Bytes) (offset start : Nat) :
    FlowOffload.getU64 (bytes.drop offset) start =
      FlowOffload.getU64 bytes (offset + start) := by
  rw [FlowOffload.getU64, List.drop_drop]
  rfl

theorem foundValidAfter_drop (bytes : Bytes) (offset : Nat) :
    foundValidAfter (bytes.drop offset) =
      (bytes.drop (offset + 1)).tails.any scanIntact := by
  rw [foundValidAfter, List.tail_drop]

/-- The record loop is total and keeps its offset inside the file. -/
theorem replayFrom_eq (h : bytes.length < 2 ^ 63) {fuel fuel' : Nat}
    {pass : RecoveryPass} {offset : UInt64}
    (hoffset : offset.toNat ≤ bytes.length)
    (hfuel : bytes.length < offset.toNat + fuel)
    (hfuel' : bytes.length ≤ offset.toNat + fuel')
    (hgood : pass.journalGoodBytes = offset.toNat) :
    replayFrom config bytes fuel pass offset =
      some (replayRecords config fuel' pass (bytes.drop offset.toNat)) := by
  have hsize : (size bytes).toNat = bytes.length := toNat_size (by omega)
  have hsixteen : kJournalRecordHeaderBytes = 16 := rfl
  have hthirtytwo : kDigestSize = 32 := rfl
  induction fuel generalizing fuel' pass offset with
  | zero => omega
  | succ fuel ih =>
      rw [replayFrom]
      have hrest : (bytes.drop offset.toNat).length =
          bytes.length - offset.toNat := List.length_drop
      by_cases hend : size bytes ≤ offset
      · have hdone := UInt64.le_iff_toNat_le.mp hend
        rw [if_pos hend, List.drop_eq_nil_of_le (by omega)]
        cases fuel' <;> rfl
      have hinside : offset.toNat < bytes.length := by
        rw [UInt64.le_iff_toNat_le] at hend
        omega
      obtain ⟨later, rfl⟩ : ∃ later, fuel' = later + 1 :=
        ⟨fuel' - 1, by omega⟩
      have hsome : bytes.drop offset.toNat ≠ [] := by
        rw [ne_eq, List.drop_eq_nil_iff]
        omega
      obtain ⟨available, havailable, havailableNat⟩ :=
        @sub_of_le (size bytes) offset (by omega)
      rw [hsize] at havailableNat
      rw [if_neg hend, replayRecords, if_neg hsome, hrest, getU32_drop,
        Nat.add_zero, havailable]
      dsimp only [Option.bind_eq_bind, Option.bind_some]
      by_cases hheader : available < kRecordHeaderSize
      · have hlt := UInt64.lt_iff_toNat_lt.mp hheader
        rw [toNat_kRecordHeaderSize] at hlt
        rw [if_pos hheader, if_pos (by omega)]
      have hroom : offset.toNat + 16 ≤ bytes.length := by
        rw [UInt64.lt_iff_toNat_lt, toNat_kRecordHeaderSize] at hheader
        omega
      have hword := @getU32_of_le bytes offset (by omega)
      generalize hlength : FlowOffload.getU32 bytes offset.toNat = length
        at hword
      have hsmall : length.toNat < 2 ^ 32 := length.toNat_lt
      have hwide : length.toUInt64.toNat = length.toNat :=
        UInt32.toNat_toUInt64 length
      obtain ⟨headed, hheaded, hheadedNat⟩ :=
        @add_of_lt length.toUInt64 kRecordHeaderSize
          (by rw [hwide, toNat_kRecordHeaderSize]; omega)
      rw [hwide, toNat_kRecordHeaderSize] at hheadedNat
      obtain ⟨total, htotal, htotalNat⟩ := @add_of_lt headed kStoredDigestSize
        (by rw [hheadedNat, toNat_kStoredDigestSize]; omega)
      rw [hheadedNat, toNat_kStoredDigestSize] at htotalNat
      have htotalEq : recordTotal (bytes.drop offset.toNat) = total.toNat := by
        rw [recordTotal_drop hlength, htotalNat, Nat.add_comm length.toNat]
      rw [if_neg hheader, if_neg (by omega), hword, Option.bind_some, hheaded,
        Option.bind_some, htotal, Option.bind_some, ← htotalNat]
      by_cases hbound : (decide (length.toNat > kMaxJournalRecordBytes) ||
          decide (total.toNat > config.maxJournalBytes)) = true
      · rw [if_pos hbound, if_pos hbound]
      rw [if_neg hbound, if_neg hbound]
      obtain ⟨sequenceAt, hsequenceAt, hsequenceNat⟩ := @add_of_lt offset 4
        (show offset.toNat + 4 < _ by omega)
      change sequenceAt.toNat = offset.toNat + 4 at hsequenceNat
      have hsequence := @getU64_of_le bytes sequenceAt (by omega)
      obtain ⟨kindAt, hkindAt, hkindNat⟩ := @add_of_lt offset 12
        (show offset.toNat + 12 < _ by omega)
      change kindAt.toNat = offset.toNat + 12 at hkindNat
      have hkind := @getU8_of_lt bytes kindAt (by omega)
      rw [hsequenceNat] at hsequence
      rw [hkindNat] at hkind
      rw [hsequenceAt, Option.bind_some, hsequence, Option.bind_some, hkindAt,
        Option.bind_some, hkind, Option.bind_some, htotalEq]
      by_cases hpayload : available < total
      · have hlt := UInt64.lt_iff_toNat_lt.mp hpayload
        rw [if_pos hpayload, if_pos (by omega)]
      have hfits : offset.toNat + total.toNat ≤ bytes.length := by
        rw [UInt64.lt_iff_toNat_lt] at hpayload
        omega
      obtain ⟨payloadAt, hpayloadAt, hpayloadNat⟩ :=
        @add_of_lt offset kRecordHeaderSize
          (by rw [toNat_kRecordHeaderSize]; omega)
      rw [toNat_kRecordHeaderSize] at hpayloadNat
      obtain ⟨stop, hstop, hstopNat⟩ := @add_of_lt payloadAt length.toUInt64
        (by rw [hwide]; omega)
      rw [hwide, hpayloadNat] at hstopNat
      have hcomputed := @digestRange_of_le bytes offset stop (by omega)
        (by omega)
      have hstored := @storedDigest_of_le bytes stop (by omega)
      rw [hstopNat] at hcomputed hstored
      rw [if_neg hpayload, if_neg (by omega), hpayloadAt, Option.bind_some,
        hstop, Option.bind_some, hcomputed, Option.bind_some, hstored,
        Option.bind_some, recordDigestOk_drop hlength, foundValidAfter_drop]
      have hdigest : (bytes.take (offset.toNat + kJournalRecordHeaderBytes +
          length.toNat)).drop offset.toNat = (bytes.drop offset.toNat).take
            (kJournalRecordHeaderBytes + length.toNat) := by
        rw [Nat.add_assoc, List.drop_take, Nat.add_sub_cancel_left]
      rw [hdigest]
      generalize Sha256.of ((bytes.drop offset.toNat).take
        (kJournalRecordHeaderBytes + length.toNat)) = computed
      generalize storedDigest bytes (offset.toNat + kJournalRecordHeaderBytes +
        length.toNat) = stored
      by_cases hsame : computed.bytes = stored
      · have hmatches : ¬ (!(computed.bytes == stored)) = true := by
          simp [hsame]
        have hkindRest : (bytes.drop offset.toNat).getD 12 0 =
            bytes.getD (offset.toNat + 12) 0 := by
          simp [List.getD]
        rw [if_neg (not_not.mpr hsame), if_neg hmatches, hkindRest]
        by_cases hkindOk : bytes.getD (offset.toNat + 12) 0 ≠
          kRecordKindFullState
        · rw [if_pos hkindOk, if_pos hkindOk]
        obtain ⟨next, hnext, hnextNat⟩ := @add_of_lt offset total (by omega)
        have hlater : ∀ other : RecoveryPass,
            other.journalGoodBytes = next.toNat →
            replayFrom config bytes fuel other next =
              some (replayRecords config later other
                ((bytes.drop offset.toNat).drop total.toNat)) := by
          intro other hother
          rw [List.drop_drop, ← hnextNat]
          exact ih (by omega) (by omega) (by omega) hother
        rw [if_neg hkindOk, if_neg hkindOk, hnext, Option.bind_some, hgood,
          ← hnextNat, getU64_drop]
        by_cases hold : FlowOffload.getU64 bytes (offset.toNat + 4) ≤
            pass.sequence
        · rw [if_pos hold, if_pos hold]
          exact hlater _ rfl
        have hpayloadSlice := @slice_of_le bytes payloadAt length.toUInt64
          (by omega)
        rw [hpayloadNat, hwide, ← List.drop_drop] at hpayloadSlice
        have hdecode := @decodeState_eq
          (((bytes.drop offset.toNat).drop kJournalRecordHeaderBytes).take
            length.toNat) (by rw [List.length_take]; omega)
        rw [if_neg hold, if_neg hold, hpayloadSlice, Option.bind_some, hdecode,
          Option.bind_some]
        generalize FlowOffload.decodeState
          (((bytes.drop offset.toNat).drop kJournalRecordHeaderBytes).take
            length.toNat) = decoded
        cases decoded with
        | none => rfl
        | some state => exact hlater _ rfl
      · obtain ⟨first, hfirst, hfirstNat⟩ := @add_of_lt offset 1
          (show offset.toNat + 1 < _ by omega)
        change first.toNat = offset.toNat + 1 at hfirstNat
        have hscan := @scanFrom_eq bytes h (bytes.length + 1) first (by omega)
          (by omega)
        rw [hfirstNat] at hscan
        rw [if_pos hsame, if_pos (by simp [hsame]), hfirst, Option.bind_some,
          hscan, Option.bind_some]
        split <;> rfl

/-! ## The pass -/

theorem recoverJournal_eq {journal : Option Bytes} {pass : RecoveryPass}
    {damaged : Bool} (h : ∀ bytes ∈ journal, bytes.length < 2 ^ 63) :
    recoverJournal config journal pass damaged =
      some (FlowOffload.recoverJournal config journal pass damaged) := by
  cases journal with
  | none => rfl
  | some bytes =>
      have hbytes := h bytes rfl
      unfold recoverJournal FlowOffload.recoverJournal
      dsimp only
      rw [journalVerdict_eq (by omega)]
      cases hverdict : FlowOffload.journalVerdict config bytes with
      | refused kind code detail => rfl
      | damaged detail => rfl
      | intact =>
          obtain ⟨-, hintact⟩ := journalVerdict_intact_iff.mp hverdict
          have hlong : 96 ≤ bytes.length := hintact.length
          have hbase : getU64 bytes 16 = some (FlowOffload.getU64 bytes 16) :=
            getU64_of_le (show 16 + 8 ≤ _ by omega)
          have hreplay : ∀ other : RecoveryPass,
              other.journalGoodBytes = kJournalHeaderBytes →
              replayFrom config bytes (bytes.length + 1) other
                  kJournalHeaderSize =
                some (replayRecords config
                  (bytes.drop kJournalHeaderBytes).length other
                  (bytes.drop kJournalHeaderBytes)) := by
            intro other hother
            have hstart : kJournalHeaderSize.toNat = 96 := rfl
            have hrest : (bytes.drop kJournalHeaderBytes).length =
                bytes.length - 96 := List.length_drop
            refine replayFrom_eq hbytes (hstart.symm ▸ hlong) ?_ ?_ hother
            all_goals omega
          change (getU64 bytes 16).bind _ = _
          rw [hbase, Option.bind_some]
          dsimp only
          split
          · rfl
          · change (replayFrom config bytes (bytes.length + 1) _
              kJournalHeaderSize).bind _ = _
            rw [hreplay _ rfl, Option.bind_some, toNat_kJournalHeaderSize]
            generalize replayRecords config _ _ _ = replayed
            obtain ⟨after, ending⟩ := replayed
            cases ending <;> rfl

/-- Both files fit into the memory of the process. -/
def Addressable (files : Files) : Prop :=
  (∀ bytes ∈ files.snapshot, bytes.length < 2 ^ 63) ∧
    ∀ bytes ∈ files.journal, bytes.length < 2 ^ 63

/-- A snapshot that is used carries the digest of the state it decodes to. -/
theorem snapshotIntact
    (h : FlowOffload.snapshotVerdict config bytes = .intact) :
    kSnapshotHeaderBytes ≤ bytes.length ∧
      FlowOffload.digestRange bytes kSnapshotHeaderBytes bytes.length =
        storedDigest bytes 64 ∧
      (FlowOffload.decodeState (bytes.drop kSnapshotHeaderBytes)).isSome =
        true := by
  unfold FlowOffload.snapshotVerdict at h
  obtain ⟨-, h⟩ := (ite_eq_iff.mp h).resolve_left nofun
  obtain ⟨hlong, h⟩ := (ite_eq_iff.mp h).resolve_left nofun
  obtain ⟨-, h⟩ := (ite_eq_iff.mp h).resolve_left nofun
  obtain ⟨-, h⟩ := (ite_eq_iff.mp h).resolve_left nofun
  obtain ⟨-, h⟩ := (ite_eq_iff.mp h).resolve_left nofun
  obtain ⟨-, h⟩ := (ite_eq_iff.mp h).resolve_left nofun
  obtain ⟨-, h⟩ := (ite_eq_iff.mp h).resolve_left nofun
  obtain ⟨-, h⟩ := (ite_eq_iff.mp h).resolve_left nofun
  obtain ⟨hdigest, h⟩ := (ite_eq_iff.mp h).resolve_left nofun
  obtain ⟨hdecoded, -⟩ := (ite_eq_iff.mp h).resolve_left nofun
  exact ⟨Nat.le_of_not_lt hlong, not_not.mp hdigest,
    Option.isSome_iff_ne_none.mpr hdecoded⟩

theorem recover_eq {files : Files} (h : Addressable files) :
    recover config files = some (FlowOffload.recover config files) := by
  obtain ⟨hsnapshot, hjournal⟩ := h
  unfold recover FlowOffload.recover
  dsimp only
  cases hfound : files.snapshot with
  | none => exact recoverJournal_eq hjournal
  | some bytes =>
      have hbytes := hsnapshot bytes hfound
      dsimp only
      rw [snapshotVerdict_eq (by omega)]
      cases hverdict : FlowOffload.snapshotVerdict config bytes with
      | refused kind code detail => rfl
      | damaged detail => exact recoverJournal_eq hjournal
      | intact =>
          obtain ⟨hlong, -, -⟩ := snapshotIntact hverdict
          have hlarge : 128 ≤ bytes.length := hlong
          obtain ⟨count, hcount, htoNat⟩ :=
            @sub_of_le (size bytes) kSnapshotHeaderSize
              (by rw [toNat_size (by omega)]; exact hlong)
          rw [toNat_size (by omega), toNat_kSnapshotHeaderSize] at htoNat
          have hslice : slice bytes kSnapshotHeaderSize count =
              some (bytes.drop kSnapshotHeaderBytes) :=
            slice_to_end hlong htoNat
          have hsequence : getU64 bytes 56 =
              some (FlowOffload.getU64 bytes 56) :=
            getU64_of_le (show 56 + 8 ≤ _ by omega)
          have hdecode := @decodeState_eq (bytes.drop kSnapshotHeaderBytes) (by
            rw [List.length_drop]
            omega)
          change (sub (size bytes) kSnapshotHeaderSize).bind _ = _
          rw [hcount, Option.bind_some]
          change (slice bytes kSnapshotHeaderSize count).bind _ = _
          rw [hslice, Option.bind_some]
          change (getU64 bytes 56).bind _ = _
          rw [hsequence, Option.bind_some]
          change (decodeState _).bind _ = _
          rw [hdecode, Option.bind_some]
          exact recoverJournal_eq hjournal

end Checked

end FlowOffload

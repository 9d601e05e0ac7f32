import FlowOffload.Foundation.Access
import FlowOffload.Store.Layout

/-!
# The recovery pass in checked arithmetic

The pass once more, statement by statement, over 64-bit sizes and offsets as the
source computes them.  Every sum, difference and read is checked, and each loop
has an amount of fuel after which it gives up, so the pass has a result only if
nothing wraps, nothing outside the file is read and both loops end.  It always
has one, and that is the result of `recover`.
-/

namespace FlowOffload

open Foundation Foundation.Checked

variable {α : Type}

/-! ## Decoders as programs of reads -/

section Decoders

-- one instance per width that appears in a decoder
instance : Programmed
    (Reader.take .rejectedTruncatedInput 1 : CanonicalReader Bytes) :=
  Programmed.take ReasonCode.rejectedTruncatedInput 1

instance : Programmed
    (Reader.take .rejectedTruncatedInput 4 : CanonicalReader Bytes) :=
  Programmed.take ReasonCode.rejectedTruncatedInput 4

instance : Programmed
    (Reader.take .rejectedTruncatedInput 8 : CanonicalReader Bytes) :=
  Programmed.take ReasonCode.rejectedTruncatedInput 8

instance : Programmed
    (Reader.take .rejectedTruncatedInput 32 : CanonicalReader Bytes) :=
  Programmed.take ReasonCode.rejectedTruncatedInput 32

/-- A value that was found, or a malformed input. -/
@[reducible] def programmedFound (found : Option α) : Programmed
    (match found with
      | some value => pure value
      | none => Reader.reject .rejectedMalformedInput : CanonicalReader α) := by
  cases found with
  | some value => exact (inferInstance : Programmed (pure value))
  | none =>
      exact (inferInstance : Programmed
        (Reader.reject .rejectedMalformedInput : CanonicalReader α))

instance : Programmed readU8 := by
  delta readU8
  infer_instance

instance : Programmed readU32 := by
  delta readU32
  infer_instance

instance : Programmed readU64 := by
  delta readU64
  infer_instance

instance : Programmed readBoolean := by
  delta readBoolean
  infer_instance

instance : Programmed readDigest := by
  have hcheck : ∀ bytes : Bytes, Programmed
      (if size : bytes.length = 32 then pure ⟨bytes, size⟩
        else Reader.reject .rejectedTruncatedInput :
          CanonicalReader Sha256Digest) := by
    intro bytes
    by_cases size : bytes.length = 32
    · rw [dif_pos size]
      infer_instance
    · rw [dif_neg size]
      infer_instance
  delta readDigest
  infer_instance

instance {E : Type} [EnumTraits E] :
    Programmed (decodeEnum : CanonicalReader E) := by
  have hcheck : ∀ raw : UInt8, Programmed
      (match EnumTraits.ofWire? raw with
        | some value => pure value
        | none => Reader.reject .rejectedMalformedInput :
          CanonicalReader E) :=
    fun raw => programmedFound (EnumTraits.ofWire? raw)
  delta decodeEnum
  infer_instance

instance {tag : IdTag} :
    Programmed (readId : CanonicalReader (TypedId tag)) := by
  delta readId
  infer_instance

instance : Programmed readMask := by
  delta readMask
  infer_instance

instance (decode : CanonicalReader α) [Programmed decode] (maxItems : Nat) :
    Programmed (readList decode maxItems) := by
  delta readList
  infer_instance

instance : Programmed ReasonCode.decode := by
  have hcheck : ∀ raw : UInt32, Programmed
      (match ReasonCode.ofValue? raw with
        | some code => pure code
        | none => Reader.reject .rejectedMalformedInput :
          CanonicalReader ReasonCode) := by
    intro raw
    cases ReasonCode.ofValue? raw with
    | some code => exact programmedFound (some code)
    | none => exact programmedFound none
  delta ReasonCode.decode
  infer_instance

instance : Programmed Timestamp.decode := by
  delta Timestamp.decode
  infer_instance

instance : Programmed BootId.decode := by
  delta BootId.decode
  infer_instance

instance : Programmed CapacityVector.decode := by
  delta CapacityVector.decode
  infer_instance

instance : Programmed FlowDescriptor.decode := by
  delta FlowDescriptor.decode
  infer_instance

instance : Programmed TargetDescriptor.decode := by
  delta TargetDescriptor.decode
  infer_instance

instance : Programmed Policy.decode := by
  delta Policy.decode
  infer_instance

instance : Programmed MigrationContract.decode := by
  delta MigrationContract.decode
  infer_instance

instance : Programmed Assignment.decode := by
  delta Assignment.decode
  infer_instance

instance : Programmed MigrationIntent.decode := by
  delta MigrationIntent.decode
  infer_instance

instance : Programmed MigrationAcknowledgement.decode := by
  delta MigrationAcknowledgement.decode
  infer_instance

instance : Programmed AppliedEffect.decode := by
  delta AppliedEffect.decode
  infer_instance

instance : Programmed MigrationRecord.decode := by
  delta MigrationRecord.decode
  infer_instance

instance : Programmed FenceRecord.decode := by
  delta FenceRecord.decode
  infer_instance

instance : Programmed SourceWatermark.decode := by
  delta SourceWatermark.decode
  infer_instance

instance : Programmed RequestRecord.decode := by
  delta RequestRecord.decode
  infer_instance

instance : Programmed ReasonCount.decode := by
  delta ReasonCount.decode
  infer_instance

instance : Programmed Counters.decode := by
  delta Counters.decode
  infer_instance

set_option synthInstance.maxSize 512 in
instance : Programmed DurableState.decode := by
  delta DurableState.decode
  dsimp only
  infer_instance

end Decoders

/-! ## Reading -/

def kSnapshotHeaderSize : UInt64 := 128
def kJournalHeaderSize : UInt64 := 96
def kRecordHeaderSize : UInt64 := 16
def kStoredDigestSize : UInt64 := 32

@[simp] theorem toNat_kSnapshotHeaderSize :
    kSnapshotHeaderSize.toNat = kSnapshotHeaderBytes := rfl

@[simp] theorem toNat_kJournalHeaderSize :
    kJournalHeaderSize.toNat = kJournalHeaderBytes := rfl

@[simp] theorem toNat_kRecordHeaderSize :
    kRecordHeaderSize.toNat = kJournalRecordHeaderBytes := rfl

@[simp] theorem toNat_kStoredDigestSize :
    kStoredDigestSize.toNat = kDigestSize := rfl

namespace Checked

def getU8 (bytes : Bytes) (offset : UInt64) : Option UInt8 :=
  (slice bytes offset 1).map fun byte => byte.headD 0

def getU32 (bytes : Bytes) (offset : UInt64) : Option UInt32 :=
  (slice bytes offset 4).map fun word => UInt32.ofNat (ofBigEndian word)

def getU64 (bytes : Bytes) (offset : UInt64) : Option UInt64 :=
  (slice bytes offset 8).map fun word => UInt64.ofNat (ofBigEndian word)

def digestRange (bytes : Bytes) (start stop : UInt64) :
    Option Sha256Digest := do
  let count ← sub stop start
  let range ← slice bytes start count
  some (Sha256.of range)

/-- The payload is decoded over a cursor and has to be read to its end. -/
def decodeState (payload : Bytes) : Option (Option DurableState) := do
  match ← (Programmed.program DurableState.decode).run ⟨payload, 0⟩ with
  | .error _ => some none
  | .ok (state, cursor) =>
      if cursor.position = size payload then some (some state) else some none

/-! ## The two files -/

def snapshotVerdict (config : StoreConfig) (bytes : Bytes) :
    Option FileVerdict := do
  if bytes.length > config.maxSnapshotBytes then
    some (.refused .oversized .recoveryOversizedRecord
      "snapshot could not be read: RejectedOversizedInput")
  else if size bytes < kSnapshotHeaderSize then
    some (.damaged "snapshot is shorter than its header")
  else
    let magic ← slice bytes 0 8
    if magic ≠ kSnapshotMagic then some (.damaged "snapshot magic mismatch")
    else
      let containerVersion ← getU32 bytes 8
      let semanticsVersion ← getU32 bytes 12
      if containerVersion ≠ kSnapshotContainerVersion then
        some (.refused .incompatibleVersion .recoveryIncompatibleVersion
          "snapshot container version is not supported")
      else if semanticsVersion ≠ kStateSemanticsVersion then
        some (.refused .semanticsMismatch .recoverySemanticsMismatch
          "snapshot semantics version is not supported")
      else
        let storedPayloadDigest ← slice bytes 64 kStoredDigestSize
        let storedHeaderDigest ← slice bytes 96 kStoredDigestSize
        let reserved ← getU32 bytes 20
        let payloadLength ← getU64 bytes 48
        if reserved ≠ 0 then
          some (.damaged "snapshot reserved field is not zero")
        else
          let headerDigest ← digestRange bytes 0 96
          if headerDigest.bytes ≠ storedHeaderDigest then
            some (.damaged "snapshot header digest mismatch")
          else
            let payloadSize ← sub (size bytes) kSnapshotHeaderSize
            if payloadLength ≠ payloadSize then
              some (.damaged "snapshot payload length mismatch")
            else
              let payloadDigest ←
                digestRange bytes kSnapshotHeaderSize (size bytes)
              if payloadDigest.bytes ≠ storedPayloadDigest then
                some (.damaged "snapshot payload digest mismatch")
              else
                let payload ← slice bytes kSnapshotHeaderSize payloadSize
                let decoded ← decodeState payload
                if decoded = none then
                  some (.damaged
                    "snapshot payload is not a canonical state record")
                else some .intact

def journalVerdict (config : StoreConfig) (bytes : Bytes) :
    Option FileVerdict := do
  if bytes.length > config.maxJournalBytes then
    some (.refused .oversized .recoveryOversizedRecord
      "journal could not be read: RejectedOversizedInput")
  else if size bytes < kJournalHeaderSize then
    some (.damaged "journal is shorter than its header")
  else
    let magic ← slice bytes 0 8
    if magic ≠ kJournalMagic then some (.damaged "journal magic mismatch")
    else
      let containerVersion ← getU32 bytes 8
      let semanticsVersion ← getU32 bytes 12
      if containerVersion ≠ kJournalContainerVersion then
        some (.refused .incompatibleVersion .recoveryIncompatibleVersion
          "journal container version is not supported")
      else if semanticsVersion ≠ kStateSemanticsVersion then
        some (.refused .semanticsMismatch .recoverySemanticsMismatch
          "journal semantics version is not supported")
      else
        let storedHeaderDigest ← slice bytes 64 kStoredDigestSize
        let headerDigest ← digestRange bytes 0 64
        if headerDigest.bytes ≠ storedHeaderDigest then
          some (.damaged "journal header digest mismatch")
        else some .intact

/-! ## The two loops -/

/-- The forward scan from an offset to the end of the file. -/
def scanFrom (bytes : Bytes) : Nat → UInt64 → Option Bool
  | 0, _ => none
  | fuel + 1, scan => do
      let header ← add scan kRecordHeaderSize
      if header > size bytes then some false
      else
        let next ← add scan 1
        let scanLength ← getU32 bytes scan
        if scanLength.toNat > kMaxJournalRecordBytes then
          scanFrom bytes fuel next
        else
          let headed ← add kRecordHeaderSize scanLength.toUInt64
          let scanTotal ← add headed kStoredDigestSize
          let left ← sub (size bytes) scan
          if scanTotal > left then scanFrom bytes fuel next
          else
            let stop ← add header scanLength.toUInt64
            let stored ← slice bytes stop kStoredDigestSize
            let computed ← digestRange bytes scan stop
            if computed.bytes = stored then some true
            else scanFrom bytes fuel next

def replayFrom (config : StoreConfig) (bytes : Bytes) :
    Nat → RecoveryPass → UInt64 → Option (RecoveryPass × ReplayEnd)
  | 0, _, _ => none
  | fuel + 1, pass, offset => do
      if size bytes ≤ offset then some (pass, .clean)
      else
        let available ← sub (size bytes) offset
        if available < kRecordHeaderSize then
          some (pass, .torn "journal ends inside a record header")
        else
          let payloadLength ← getU32 bytes offset
          let headed ← add payloadLength.toUInt64 kRecordHeaderSize
          let total ← add headed kStoredDigestSize
          if payloadLength.toNat > kMaxJournalRecordBytes ||
              total.toNat > config.maxJournalBytes then
            some (pass, .refused .oversized .recoveryOversizedRecord
              "journal record length exceeds the configured bound")
          else
            let sequenceAt ← add offset 4
            let recordSequence ← getU64 bytes sequenceAt
            let kindAt ← add offset 12
            let recordKind ← getU8 bytes kindAt
            if available < total then
              some (pass, .torn "journal ends inside a record payload")
            else
              let payloadAt ← add offset kRecordHeaderSize
              let stop ← add payloadAt payloadLength.toUInt64
              let computed ← digestRange bytes offset stop
              let stored ← slice bytes stop kStoredDigestSize
              if computed.bytes ≠ stored then
                let first ← add offset 1
                let found ← scanFrom bytes (bytes.length + 1) first
                if found then
                  some (pass, .refused .corrupt .recoveryCorruptJournal
                    "journal record digest mismatch with intact records after it")
                else some (pass, .torn "journal tail record digest mismatch")
              else if recordKind ≠ kRecordKindFullState then
                some (pass, .refused .corrupt .recoveryCorruptJournal
                  "journal record kind is not recognised")
              else
                let next ← add offset total
                if recordSequence ≤ pass.sequence then
                  replayFrom config bytes fuel
                    { pass with journalGoodBytes := next.toNat } next
                else
                  let payload ← slice bytes payloadAt payloadLength.toUInt64
                  match ← decodeState payload with
                  | none =>
                      some (pass, .refused .corrupt .recoveryCorruptJournal
                        "journal record payload is not a canonical state record")
                  | some decoded =>
                      replayFrom config bytes fuel
                        { pass with
                          state := decoded
                          sequence := recordSequence
                          snapshotDigest := computed
                          hasState := true
                          recordsReplayed := pass.recordsReplayed + 1
                          journalGoodBytes := next.toNat }
                        next

/-! ## The pass -/

def recoverJournal (config : StoreConfig) (journal : Option Bytes)
    (pass : RecoveryPass) (snapshotDamaged : Bool) : Option RecoveryPass := do
  match journal with
  | none => some (pass.classify snapshotDamaged false)
  | some bytes =>
      match ← journalVerdict config bytes with
      | .refused kind code detail => some (pass.refuse kind code detail)
      | .damaged detail =>
          some ((pass.withDetail detail).classify snapshotDamaged true)
      | .intact =>
          let pass := { pass with journalHeaderOk := true }
          let base ← getU64 bytes 16
          if pass.snapshotUsed && base > pass.sequence then
            some (pass.refuse .corrupt .recoveryCorruptJournal
              "journal base is newer than the snapshot it claims")
          else
            let pass :=
              { pass with journalGoodBytes := kJournalHeaderSize.toNat }
            match ← replayFrom config bytes (bytes.length + 1) pass
                kJournalHeaderSize with
            | (pass, .refused kind code detail) =>
                some (pass.refuse kind code detail)
            | (pass, .torn detail) =>
                some ((pass.withDetail detail).classify snapshotDamaged true)
            | (pass, .clean) => some (pass.classify snapshotDamaged false)

def recover (config : StoreConfig) (files : Files) : Option RecoveryPass := do
  let pass : RecoveryPass := { journalExists := files.journal.isSome }
  match files.snapshot with
  | none => recoverJournal config files.journal pass false
  | some bytes =>
      match ← snapshotVerdict config bytes with
      | .refused kind code detail => some (pass.refuse kind code detail)
      | .damaged detail =>
          recoverJournal config files.journal (pass.withDetail detail) true
      | .intact =>
          let payloadSize ← sub (size bytes) kSnapshotHeaderSize
          let payload ← slice bytes kSnapshotHeaderSize payloadSize
          let sequence ← getU64 bytes 56
          let decoded ← decodeState payload
          recoverJournal config files.journal
            { pass with
              snapshotUsed := true
              sequence := sequence
              snapshotDigest := Sha256.of payload
              state := decoded.getD {}
              hasState := true }
            false

/-! ## What the checked reads return -/

variable {bytes : Bytes}

theorem getU8_of_lt {offset : UInt64} (h : offset.toNat + 1 ≤ bytes.length) :
    getU8 bytes offset = some (bytes.getD offset.toNat 0) := by
  have hslice := @slice_of_le bytes offset 1 h
  have hone : (1 : UInt64).toNat = 1 := rfl
  rw [getU8, hslice, Option.map_some, hone]
  simp [List.getD, List.head?_take, List.head?_drop]

theorem getU32_of_le {offset : UInt64} (h : offset.toNat + 4 ≤ bytes.length) :
    getU32 bytes offset = some (FlowOffload.getU32 bytes offset.toNat) := by
  have hslice := @slice_of_le bytes offset 4 h
  rw [getU32, hslice]
  rfl

theorem getU64_of_le {offset : UInt64} (h : offset.toNat + 8 ≤ bytes.length) :
    getU64 bytes offset = some (FlowOffload.getU64 bytes offset.toNat) := by
  have hslice := @slice_of_le bytes offset 8 h
  rw [getU64, hslice]
  rfl

theorem storedDigest_of_le {offset : UInt64}
    (h : offset.toNat + kDigestSize ≤ bytes.length) :
    slice bytes offset kStoredDigestSize =
      some (storedDigest bytes offset.toNat) :=
  slice_of_le h

theorem digestRange_of_le {start stop : UInt64}
    (hle : start.toNat ≤ stop.toNat) (hstop : stop.toNat ≤ bytes.length) :
    digestRange bytes start stop =
      some (Sha256.of ((bytes.take stop.toNat).drop start.toNat)) := by
  obtain ⟨count, hcount, htoNat⟩ := sub_of_le hle
  have hslice := @slice_of_le bytes start count (by omega)
  rw [htoNat, ← List.drop_take] at hslice
  simp [digestRange, hcount, hslice]

theorem decodeState_eq {payload : Bytes} (h : payload.length < 2 ^ 64) :
    decodeState payload = some (FlowOffload.decodeState payload) := by
  have hvalid : ({ data := payload, position := 0 } : Cursor).Valid :=
    ⟨h, Nat.zero_le _⟩
  have hfollows :=
    (Programmed.program DurableState.decode).follows hvalid
  rw [Programmed.reader_program] at hfollows
  change Cursor.Follows _ (DurableState.decode.run payload) _ at hfollows
  unfold decodeState FlowOffload.decodeState
  generalize DurableState.decode.run payload = read at hfollows
  generalize (Programmed.program DurableState.decode).run ⟨payload, 0⟩ = result
    at hfollows
  cases hfollows with
  | failed reason => rfl
  | read state next same valid =>
      have hsize : (size payload).toNat = payload.length := toNat_size h
      have hend : next.position = size payload ↔ next.rest = [] := by
        have hdata : next.data = payload := same
        have hinside := valid.inside
        rw [hdata] at hinside
        rw [← UInt64.toNat_inj, hsize, Cursor.rest, List.drop_eq_nil_iff, hdata]
        omega
      by_cases hrest : next.rest = []
      · simp [hend.mpr hrest, hrest]
      · have hleft : ¬ next.position = size payload := fun h => hrest (hend.mp h)
        cases hnext : next.rest with
        | nil => exact absurd hnext hrest
        | cons byte rest => simp [hleft]

end Checked

end FlowOffload

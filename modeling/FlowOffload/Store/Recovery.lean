import FlowOffload.Model.Serialize

/-!
# The recovery pass of the durable store

The two files of a store are byte strings.  `recover` reads the snapshot, then
replays the journal records that are newer than it, and classifies what it
found.  The layout of both files is the one documented at the top of the
source file; offsets below are byte offsets into it.
-/

namespace FlowOffload

open Foundation

/-! ## Configuration and reports -/

inductive RecoveryKind where
  | emptyStore | cleanReopen | tornTailTruncated | journalReplayed
  | snapshotOnly | journalOnly | corrupt | incompatibleVersion
  | semanticsMismatch | oversized | unavailable
  deriving DecidableEq, Repr, Inhabited

structure RecoveryReport where
  kind : RecoveryKind := .emptyStore
  code : ReasonCode := .recoveryEmptyStore
  usable : Bool := false
  snapshotUsed : Bool := false
  journalUsed : Bool := false
  recordsReplayed : Nat := 0
  bytesTruncated : Nat := 0
  commitSequence : UInt64 := 0
  stateDigest : Sha256Digest := {}
  detail : String := ""
  deriving DecidableEq, Repr, Inhabited

def kSnapshotContainerVersion : UInt32 := 1
def kJournalContainerVersion : UInt32 := 1
def kSnapshotHeaderBytes : Nat := 128
def kJournalHeaderBytes : Nat := 96
def kJournalRecordHeaderBytes : Nat := 16
def kDigestSize : Nat := 32
def kMaxJournalRecordBytes : Nat := 16 * 1024 * 1024
def kMaxSnapshotBytes : Nat := 512 * 1024 * 1024
def kMaxJournalBytes : Nat := 256 * 1024 * 1024
def kRecordKindFullState : UInt8 := 1

/-- `FOSSNP01`. -/
def kSnapshotMagic : Bytes := [0x46, 0x4F, 0x53, 0x53, 0x4E, 0x50, 0x30, 0x31]

/-- `FOSJNL01`. -/
def kJournalMagic : Bytes := [0x46, 0x4F, 0x53, 0x4A, 0x4E, 0x4C, 0x30, 0x31]

structure StoreConfig where
  directory : String := ""
  maxSnapshotBytes : Nat := kMaxSnapshotBytes
  maxJournalBytes : Nat := kMaxJournalBytes
  maxJournalRecords : UInt32 := 512
  compactionRecordThreshold : UInt32 := 64
  flushToDevice : Bool := true
  deriving DecidableEq, Repr, Inhabited

/-- The contents of `state.snapshot` and `state.journal`, when they exist. -/
structure Files where
  snapshot : Option Bytes := none
  journal : Option Bytes := none
  deriving DecidableEq, Repr, Inhabited

/-! ## Reading -/

def getU32 (bytes : Bytes) (offset : Nat) : UInt32 :=
  UInt32.ofNat (ofBigEndian ((bytes.drop offset).take 4))

def getU64 (bytes : Bytes) (offset : Nat) : UInt64 :=
  UInt64.ofNat (ofBigEndian ((bytes.drop offset).take 8))

/-- The `kDigestSize` bytes stored at an offset. -/
def storedDigest (bytes : Bytes) (offset : Nat) : Bytes :=
  (bytes.drop offset).take kDigestSize

def digestRange (bytes : Bytes) (start stop : Nat) : Bytes :=
  (Sha256.of ((bytes.take stop).drop start)).bytes

/-- A payload that decodes to a state and is consumed to its last byte. -/
def decodeState (payload : Bytes) : Option DurableState :=
  match DurableState.decode.run payload with
  | .ok (state, []) => some state
  | _ => none

/-- Everything a recovery pass produced. -/
structure RecoveryPass where
  report : RecoveryReport := {}
  state : DurableState := {}
  hasState : Bool := false
  sequence : UInt64 := 0
  snapshotDigest : Sha256Digest := {}
  snapshotUsed : Bool := false
  journalHeaderOk : Bool := false
  journalExists : Bool := false
  journalGoodBytes : Nat := 0
  recordsReplayed : Nat := 0
  tornTail : Bool := false
  deriving DecidableEq, Repr, Inhabited

/-- How the examination of one file ended. -/
inductive FileVerdict where
  | refused (kind : RecoveryKind) (code : ReasonCode) (detail : String)
  | damaged (detail : String)
  | intact
  deriving DecidableEq, Repr

/--
The snapshot checks in source order.  A damaged snapshot is remembered and the
journal is still read; a foreign version or an oversized file ends the pass.
-/
def snapshotVerdict (config : StoreConfig) (bytes : Bytes) : FileVerdict :=
  if bytes.length > config.maxSnapshotBytes then
    .refused .oversized .recoveryOversizedRecord
      "snapshot could not be read: RejectedOversizedInput"
  else if bytes.length < kSnapshotHeaderBytes then
    .damaged "snapshot is shorter than its header"
  else if bytes.take 8 ≠ kSnapshotMagic then
    .damaged "snapshot magic mismatch"
  else if getU32 bytes 8 ≠ kSnapshotContainerVersion then
    .refused .incompatibleVersion .recoveryIncompatibleVersion
      "snapshot container version is not supported"
  else if getU32 bytes 12 ≠ kStateSemanticsVersion then
    .refused .semanticsMismatch .recoverySemanticsMismatch
      "snapshot semantics version is not supported"
  else if getU32 bytes 20 ≠ 0 then
    .damaged "snapshot reserved field is not zero"
  else if digestRange bytes 0 96 ≠ storedDigest bytes 96 then
    .damaged "snapshot header digest mismatch"
  else if (getU64 bytes 48).toNat ≠ bytes.length - kSnapshotHeaderBytes then
    .damaged "snapshot payload length mismatch"
  else if digestRange bytes kSnapshotHeaderBytes bytes.length ≠
      storedDigest bytes 64 then
    .damaged "snapshot payload digest mismatch"
  else if decodeState (bytes.drop kSnapshotHeaderBytes) = none then
    .damaged "snapshot payload is not a canonical state record"
  else .intact

/-- The header checks of the journal, in source order. -/
def journalVerdict (config : StoreConfig) (bytes : Bytes) : FileVerdict :=
  if bytes.length > config.maxJournalBytes then
    .refused .oversized .recoveryOversizedRecord
      "journal could not be read: RejectedOversizedInput"
  else if bytes.length < kJournalHeaderBytes then
    .damaged "journal is shorter than its header"
  else if bytes.take 8 ≠ kJournalMagic then
    .damaged "journal magic mismatch"
  else if getU32 bytes 8 ≠ kJournalContainerVersion then
    .refused .incompatibleVersion .recoveryIncompatibleVersion
      "journal container version is not supported"
  else if getU32 bytes 12 ≠ kStateSemanticsVersion then
    .refused .semanticsMismatch .recoverySemanticsMismatch
      "journal semantics version is not supported"
  else if digestRange bytes 0 64 ≠ storedDigest bytes 64 then
    .damaged "journal header digest mismatch"
  else .intact

/-! ## Journal records -/

/-- Header, payload and digest of the record that starts the byte string. -/
def recordTotal (bytes : Bytes) : Nat :=
  kJournalRecordHeaderBytes + (getU32 bytes 0).toNat + kDigestSize

/-- The digest of the record that starts the byte string is the stored one. -/
def recordDigestOk (bytes : Bytes) : Bool :=
  let body := kJournalRecordHeaderBytes + (getU32 bytes 0).toNat
  digestRange bytes 0 body == storedDigest bytes body

/-- The test of the forward scan at one offset. -/
def scanIntact (bytes : Bytes) : Bool :=
  kJournalRecordHeaderBytes ≤ bytes.length &&
    (getU32 bytes 0).toNat ≤ kMaxJournalRecordBytes &&
    recordTotal bytes ≤ bytes.length && recordDigestOk bytes

/-- The forward scan from the byte after a damaged record's first one. -/
def foundValidAfter (bytes : Bytes) : Bool := bytes.tail.tails.any scanIntact

inductive ReplayEnd where
  | clean
  | torn (detail : String)
  | refused (kind : RecoveryKind) (code : ReasonCode) (detail : String)
  deriving DecidableEq, Repr

/--
The record loop over the unread rest of the journal.  `journalGoodBytes` plays
the part of `last_good`.  Every iteration consumes at least a record header
and a digest, so the length of the rest is enough fuel.
-/
def replayRecords (config : StoreConfig) :
    Nat → RecoveryPass → Bytes → RecoveryPass × ReplayEnd
  | 0, pass, _ => (pass, .clean)
  | fuel + 1, pass, rest =>
      if rest = [] then (pass, .clean)
      else if rest.length < kJournalRecordHeaderBytes then
        (pass, .torn "journal ends inside a record header")
      else
        let payloadLength := (getU32 rest 0).toNat
        if payloadLength > kMaxJournalRecordBytes ||
            payloadLength + kJournalRecordHeaderBytes + kDigestSize >
              config.maxJournalBytes then
          (pass, .refused .oversized .recoveryOversizedRecord
            "journal record length exceeds the configured bound")
        else if rest.length < recordTotal rest then
          (pass, .torn "journal ends inside a record payload")
        else if !recordDigestOk rest then
          if foundValidAfter rest then
            (pass, .refused .corrupt .recoveryCorruptJournal
              "journal record digest mismatch with intact records after it")
          else (pass, .torn "journal tail record digest mismatch")
        else if rest.getD 12 0 ≠ kRecordKindFullState then
          (pass, .refused .corrupt .recoveryCorruptJournal
            "journal record kind is not recognised")
        else
          let total := recordTotal rest
          let good := pass.journalGoodBytes + total
          let recordSequence := getU64 rest 4
          -- already represented by the snapshot
          if recordSequence ≤ pass.sequence then
            replayRecords config fuel { pass with journalGoodBytes := good }
              (rest.drop total)
          else
            match decodeState
                ((rest.drop kJournalRecordHeaderBytes).take payloadLength) with
            | none =>
                (pass, .refused .corrupt .recoveryCorruptJournal
                  "journal record payload is not a canonical state record")
            | some decoded =>
                replayRecords config fuel
                  { pass with
                    state := decoded
                    sequence := recordSequence
                    snapshotDigest := Sha256.of (rest.take
                      (kJournalRecordHeaderBytes + payloadLength))
                    hasState := true
                    recordsReplayed := pass.recordsReplayed + 1
                    journalGoodBytes := good }
                  (rest.drop total)

/-! ## Classification -/

/-- A pass that ends early: the report is refused, everything else stands. -/
def RecoveryPass.refuse (pass : RecoveryPass) (kind : RecoveryKind)
    (code : ReasonCode) (detail : String) : RecoveryPass :=
  { pass with
    journalGoodBytes := 0
    report := { pass.report with
      kind := kind, code := code, usable := false, detail := detail } }

/-- The end of the pass, once both files have been examined. -/
def RecoveryPass.classify (pass : RecoveryPass) (snapshotDamaged : Bool)
    (tornTail : Bool) : RecoveryPass :=
  let detail := pass.report.detail
  if !pass.hasState then
    if snapshotDamaged then
      pass.refuse .corrupt .recoveryCorruptSnapshot
        (if detail.isEmpty then "no usable durable state" else detail)
    else if tornTail then
      { pass with
        journalGoodBytes := 0
        report := { pass.report with
          kind := .tornTailTruncated
          code := .recoveryTornTailTruncated
          usable := true
          detail :=
            if detail.isEmpty then "journal tail was truncated" else detail
          snapshotUsed := false
          journalUsed := false } }
    else
      { pass with
        journalGoodBytes := 0
        report := { pass.report with
          kind := .emptyStore
          code := .recoveryEmptyStore
          usable := true
          detail := "store directory holds no durable state" } }
  else
    let journalUsed := pass.recordsReplayed > 0
    let (kind, code) :=
      if tornTail then
        (RecoveryKind.tornTailTruncated, ReasonCode.recoveryTornTailTruncated)
      else if pass.snapshotUsed && pass.recordsReplayed > 0 then
        (.journalReplayed, .recoveryJournalReplayed)
      else if !pass.snapshotUsed && journalUsed then
        (.journalOnly, .recoveryJournalOnly)
      else if pass.snapshotUsed && pass.journalExists then
        (.cleanReopen, .recoveryCleanReopen)
      else if pass.snapshotUsed then (.snapshotOnly, .recoverySnapshotOnly)
      else (.emptyStore, .recoveryEmptyStore)
    { pass with
      journalGoodBytes := if tornTail then pass.journalGoodBytes else 0
      tornTail := tornTail
      report := { pass.report with
        snapshotUsed := pass.snapshotUsed
        journalUsed := journalUsed
        recordsReplayed := pass.recordsReplayed
        commitSequence := pass.sequence
        stateDigest := pass.snapshotDigest
        usable := true
        kind := kind
        code := code }
      state := pass.state.canonicalizeOrder }

def RecoveryPass.withDetail (pass : RecoveryPass) (detail : String) :
    RecoveryPass :=
  { pass with report := { pass.report with detail := detail } }

/-- The journal half of the pass. -/
def recoverJournal (config : StoreConfig) (journal : Option Bytes)
    (pass : RecoveryPass) (snapshotDamaged : Bool) : RecoveryPass :=
  match journal with
  | none => pass.classify snapshotDamaged false
  | some bytes =>
      match journalVerdict config bytes with
      | .refused kind code detail => pass.refuse kind code detail
      | .damaged detail =>
          (pass.withDetail detail).classify snapshotDamaged true
      | .intact =>
          let pass := { pass with journalHeaderOk := true }
          if pass.snapshotUsed && getU64 bytes 16 > pass.sequence then
            pass.refuse .corrupt .recoveryCorruptJournal
              "journal base is newer than the snapshot it claims"
          else
            let pass := { pass with journalGoodBytes := kJournalHeaderBytes }
            let body := bytes.drop kJournalHeaderBytes
            match replayRecords config body.length pass body with
            | (pass, .refused kind code detail) =>
                pass.refuse kind code detail
            | (pass, .torn detail) =>
                (pass.withDetail detail).classify snapshotDamaged true
            | (pass, .clean) => pass.classify snapshotDamaged false

def recover (config : StoreConfig) (files : Files) : RecoveryPass :=
  let pass : RecoveryPass := { journalExists := files.journal.isSome }
  match files.snapshot with
  | none => recoverJournal config files.journal pass false
  | some bytes =>
      match snapshotVerdict config bytes with
      | .refused kind code detail => pass.refuse kind code detail
      | .damaged detail =>
          recoverJournal config files.journal (pass.withDetail detail) true
      | .intact =>
          let payload := bytes.drop kSnapshotHeaderBytes
          recoverJournal config files.journal
            { pass with
              snapshotUsed := true
              sequence := getU64 bytes 56
              snapshotDigest := Sha256.of payload
              state := (decodeState payload).getD {}
              hasState := true }
            false

end FlowOffload

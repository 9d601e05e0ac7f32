import FlowOffload.Store.Recovery

/-!
# The durable store

`Store` holds the two files together with the members of the source class.
The operating system is an explicit argument: `AppendIo`, `RewriteIo` and
`CompactIo` say how far a write got, so a torn write is an ordinary value.
Reading, resizing and creating the store directory always succeed.
-/

namespace FlowOffload

open Foundation

structure Store where
  config : StoreConfig := {}
  files : Files := {}
  isOpen : Bool := false
  hasState : Bool := false
  state : DurableState := {}
  recovery : RecoveryReport := {}
  commitSequence : UInt64 := 0
  journalBytes : Nat := 0
  recordsSinceSnapshot : UInt32 := 0
  snapshotDigest : Sha256Digest := {}
  /-- The append handle of the journal is open. -/
  fileHandle : Bool := false
  forcedFailure : ReasonCode := .ok
  deriving DecidableEq, Repr, Inhabited

/-- How the append of one record ended. -/
inductive AppendIo where
  | complete
  | unflushed
  | short (written : Nat)
  deriving DecidableEq, Repr

/-- How the in-place rewrite of the journal header ended. -/
inductive RewriteIo where
  | complete
  | notOpened
  | short (written : Nat)
  | unflushed
  deriving DecidableEq, Repr

structure CompactIo where
  /-- The reason for which the atomic snapshot write failed, if it did. -/
  snapshotFailure : Option ReasonCode := none
  rewrite : RewriteIo := .complete
  reopened : Bool := true
  deriving DecidableEq, Repr

namespace Store

/-! ## Byte layouts -/

def journalHeaderPrefix (baseSequence : UInt64) (baseDigest : Sha256Digest) :
    Bytes :=
  kJournalMagic ++ writeU32 kJournalContainerVersion ++
    writeU32 kStateSemanticsVersion ++ writeU64 baseSequence ++
    writeDigest baseDigest ++ writeU64 0

def journalHeader (baseSequence : UInt64) (baseDigest : Sha256Digest) :
    Bytes :=
  let head := journalHeaderPrefix baseSequence baseDigest
  head ++ (Sha256.of head).bytes

def recordBody (sequence : UInt64) (payload : Bytes) : Bytes :=
  writeU32 (UInt32.ofNat payload.length) ++ writeU64 sequence ++
    [kRecordKindFullState, 0, 0, 0] ++ payload

def recordBytes (sequence : UInt64) (payload : Bytes) : Bytes :=
  let body := recordBody sequence payload
  body ++ (Sha256.of body).bytes

def snapshotHeaderPrefix (state : DurableState) (payload : Bytes)
    (sequence : UInt64) : Bytes :=
  kSnapshotMagic ++ writeU32 kSnapshotContainerVersion ++
    writeU32 kStateSemanticsVersion ++ writeU32 0 ++ writeU32 0 ++
    writeId state.epoch ++ state.boot.encode ++
    writeU64 payload.length.toUInt64 ++ writeU64 sequence ++
    (Sha256.of payload).bytes

def snapshotBytes (state : DurableState) (payload : Bytes)
    (sequence : UInt64) : Bytes :=
  let head := snapshotHeaderPrefix state payload sequence
  head ++ (Sha256.of head).bytes ++ payload

/-! ## Opening -/

/-- `rewrite_journal`: the journal is replaced by a bare header. -/
def rewriteJournal (store : Store) (baseSequence : UInt64)
    (baseDigest : Sha256Digest) (io : RewriteIo) : Store × Option ReasonCode :=
  let header := journalHeader baseSequence baseDigest
  let closed := { store with fileHandle := false }
  match io with
  | .notOpened => (closed, some .rejectedStoreUnavailable)
  | .short written =>
      ({ closed with
          files := { store.files with journal := some (header.take written) } },
        some .persistCommitFailed)
  | .unflushed =>
      ({ closed with files := { store.files with journal := some header } },
        some .persistCommitFailed)
  | .complete =>
      ({ closed with
          files := { store.files with journal := some header }
          journalBytes := header.length
          recordsSinceSnapshot := 0 },
        none)

/-- Closing keeps the files and everything the members remember. -/
def close (store : Store) : Store :=
  { store with fileHandle := false, isOpen := false }

/-- The repair that truncates a torn tail to the last good byte. -/
def truncateTail (files : Files) (pass : RecoveryPass) : Files × Nat :=
  match files.journal with
  | some bytes =>
      if pass.tornTail && pass.journalGoodBytes ≤ bytes.length then
        ({ files with journal := some (bytes.take pass.journalGoodBytes) },
          bytes.length - pass.journalGoodBytes)
      else (files, 0)
  | none => (files, 0)

/-- The header of the journal left by the repair can be appended to. -/
def headerUsable (pass : RecoveryPass) : Bool :=
  pass.journalExists && pass.journalHeaderOk && !pass.tornTail

/-- `Store::open` with a working file system. -/
def openStore (store : Store) : Store :=
  let closed := { store.close with recovery := {} }
  if store.config.directory.isEmpty then
    { closed with
      recovery := {
        kind := .unavailable
        code := .rejectedStoreUnavailable
        usable := false
        detail := "no store directory configured" } }
  else
    let pass := recover store.config store.files
    if !pass.report.usable then { closed with recovery := pass.report }
    else
      let (files, truncated) := truncateTail store.files pass
      let truncatedStore := { closed with files := files }
      let base := if pass.snapshotUsed then pass.sequence else 0
      let baseDigest := if pass.snapshotUsed then pass.snapshotDigest else {}
      let repaired := if headerUsable pass then truncatedStore
        else (truncatedStore.rewriteJournal base baseDigest .complete).1
      { repaired with
        fileHandle := true
        journalBytes := (repaired.files.journal.getD []).length
        recovery := { pass.report with bytesTruncated := truncated }
        state := pass.state
        hasState := pass.hasState
        commitSequence := pass.sequence
        snapshotDigest := pass.snapshotDigest
        recordsSinceSnapshot := UInt32.ofNat pass.recordsReplayed
        isOpen := true }

/-! ## Committing -/

def appendToJournal (files : Files) (bytes : Bytes) : Files :=
  { files with journal := some (files.journal.getD [] ++ bytes) }

/--
`append_record`: the members advance only once the whole record is flushed;
after a short or unflushed write the bytes stay in the file.
-/
def appendRecord (store : Store) (state : DurableState) (io : AppendIo) :
    Store × Option ReasonCode :=
  let payload := state.encode
  if !writerOk payload || payload.length > kMaxJournalRecordBytes then
    (store, some .rejectedOversizedInput)
  else if store.journalBytes + (kJournalRecordHeaderBytes + payload.length +
      kDigestSize) > store.config.maxJournalBytes then
    (store, some .persistRotationRequired)
  else if !store.fileHandle then (store, some .rejectedStoreUnavailable)
  else
    let record := recordBytes (store.commitSequence + 1) payload
    match io with
    | .short written =>
        ({ store with
            files := appendToJournal store.files (record.take written) },
          some .persistCommitFailed)
    | .unflushed =>
        ({ store with files := appendToJournal store.files record },
          some .persistCommitFailed)
    | .complete =>
        ({ store with
            files := appendToJournal store.files record
            journalBytes := store.journalBytes + record.length
            commitSequence := store.commitSequence + 1
            recordsSinceSnapshot := store.recordsSinceSnapshot + 1
            state := state.canonicalizeOrder
            hasState := true },
          none)

/-- `compact`: a new snapshot, then a fresh journal based on it. -/
def compact (store : Store) (state : DurableState) (io : CompactIo) :
    Store × Status :=
  let payload := state.encode
  if !store.isOpen then (store, .refused .rejectedStoreUnavailable)
  else if !writerOk payload then (store, .refused .rejectedOversizedInput)
  else if payload.length + kSnapshotHeaderBytes > store.config.maxSnapshotBytes
  then (store, .refused .rejectedOversizedInput)
  else
    let nextSequence := store.commitSequence + 1
    match io.snapshotFailure with
    | some code => (store, .refused code)
    | none =>
        let digest := Sha256.of payload
        let written := { store with
          files := { store.files with
            snapshot := some (snapshotBytes state payload nextSequence) }
          commitSequence := nextSequence
          snapshotDigest := digest }
        match written.rewriteJournal nextSequence digest io.rewrite with
        | (rewritten, some code) => (rewritten, .refused code)
        | (rewritten, none) =>
            if io.reopened then
              ({ rewritten with fileHandle := true },
                .accepted .recoveryCompacted)
            else (rewritten, .refused .rejectedStoreUnavailable)

/-- The thresholds after which a commit compacts the store. -/
def compactionDue (store : Store) : Bool :=
  store.recordsSinceSnapshot ≥ store.config.compactionRecordThreshold ||
    store.journalBytes ≥ store.config.maxJournalBytes / 2

def commit (store : Store) (state : DurableState) (io : AppendIo)
    (compactIo : CompactIo) : Store × Status :=
  if store.forcedFailure ≠ .ok then
    ({ store with forcedFailure := .ok }, .refused store.forcedFailure)
  else if !store.isOpen || !store.fileHandle then
    (store, .refused .rejectedStoreUnavailable)
  else
    match store.appendRecord state io with
    | (store, some failure) => (store, .refused failure)
    | (store, none) =>
        if store.compactionDue then
          match store.compact state compactIo with
          | (store, compacted) =>
              if compacted.failed then
                -- the commit itself is already durable
                (store, .accepted .persistRotationRequired)
              else (store, .accepted .recoveryCompacted)
        else (store, .accepted .persistCommitted)

end Store

/--
The boot identity of a coordinator incarnation, derived from the previous boot
and the new epoch.
-/
def deriveBootId (previous : BootId) (epoch : CoordinatorEpoch) : BootId :=
  let first := Sha256.of previous.encode
  let hasher := (({} : Sha256).update first.bytes).update (writeId epoch)
  let digest := hasher.finish.bytes
  let boot : BootId := ⟨getU64 digest 0, getU64 digest 8⟩
  if boot.isValid then boot else { boot with low := 1 }

end FlowOffload

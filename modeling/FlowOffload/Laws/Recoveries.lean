import FlowOffload.Laws.CrashSafety
import FlowOffload.Store.Totality

/-!
# What a recovery returns

A recovery of any two files ends, reads nothing outside them and reports one of
a fixed list of classifications.  A state that it returns was decoded from a
range of bytes whose digest is stored in the same file.
-/

namespace FlowOffload

open Foundation

variable {config : StoreConfig} {files : Files} {bytes : Bytes}
  {pass : RecoveryPass}

/-! ## Classifications -/

/-- The kind and the code that a recovery reports, and whether its result may
be used. -/
def classifications : List (RecoveryKind × ReasonCode × Bool) :=
  [(.emptyStore, .recoveryEmptyStore, true),
   (.cleanReopen, .recoveryCleanReopen, true),
   (.tornTailTruncated, .recoveryTornTailTruncated, true),
   (.journalReplayed, .recoveryJournalReplayed, true),
   (.snapshotOnly, .recoverySnapshotOnly, true),
   (.journalOnly, .recoveryJournalOnly, true),
   (.corrupt, .recoveryCorruptSnapshot, false),
   (.corrupt, .recoveryCorruptJournal, false),
   (.incompatibleVersion, .recoveryIncompatibleVersion, false),
   (.semanticsMismatch, .recoverySemanticsMismatch, false),
   (.oversized, .recoveryOversizedRecord, false)]

def RecoveryReport.Classified (report : RecoveryReport) : Prop :=
  (report.kind, report.code, report.usable) ∈ classifications

theorem classified_classify (damaged torn : Bool) :
    (pass.classify damaged torn).report.Classified := by
  unfold RecoveryPass.classify RecoveryReport.Classified
  dsimp only
  split
  · split
    · simp [RecoveryPass.refuse, classifications]
    · split <;> simp [classifications]
  · cases torn <;> cases pass.snapshotUsed <;> cases pass.journalExists <;>
      by_cases hreplayed : pass.recordsReplayed > 0 <;>
      simp [classifications, hreplayed]

/-- The refusals of one of the two files. -/
def Refuses (kind : RecoveryKind) (code : ReasonCode) : Prop :=
  (kind, code, false) ∈ classifications

instance (kind : RecoveryKind) (code : ReasonCode) :
    Decidable (Refuses kind code) :=
  inferInstanceAs (Decidable (_ ∈ classifications))

theorem classified_refuse {kind : RecoveryKind} {code : ReasonCode}
    {detail : String} (h : Refuses kind code) :
    (pass.refuse kind code detail).report.Classified := h

theorem refuses_snapshotVerdict {kind : RecoveryKind} {code : ReasonCode}
    {detail : String}
    (h : snapshotVerdict config bytes = .refused kind code detail) :
    Refuses kind code := by
  unfold snapshotVerdict at h
  repeat
    rcases ite_eq_iff.mp h with ⟨-, hrefused⟩ | ⟨-, hrest⟩
    · cases hrefused <;> decide
    replace h := hrest
  cases h

theorem refuses_journalVerdict {kind : RecoveryKind} {code : ReasonCode}
    {detail : String}
    (h : journalVerdict config bytes = .refused kind code detail) :
    Refuses kind code := by
  unfold journalVerdict at h
  repeat
    rcases ite_eq_iff.mp h with ⟨-, hrefused⟩ | ⟨-, hrest⟩
    · cases hrefused <;> decide
    replace h := hrest
  cases h

/-! ## States and their digests -/

/-- A range of a file whose digest is stored in the same file. -/
structure Attested (bytes : Bytes) (start stop digestAt : Nat) : Prop where
  ordered : start ≤ stop
  inside : stop ≤ bytes.length
  stored : digestAt + kDigestSize ≤ bytes.length
  digest : digestRange bytes start stop = storedDigest bytes digestAt

/-- The state was decoded from a snapshot or from a record of the journal. -/
inductive ReadFrom (files : Files) (state : DurableState) : Prop where
  | snapshot (bytes : Bytes) (found : files.snapshot = some bytes)
      (attested : Attested bytes kSnapshotHeaderBytes bytes.length 64)
      (decoded : decodeState (bytes.drop kSnapshotHeaderBytes) = some state)
  | record (bytes : Bytes) (found : files.journal = some bytes)
      (offset length : Nat)
      (attested : Attested bytes offset
        (offset + kJournalRecordHeaderBytes + length)
        (offset + kJournalRecordHeaderBytes + length))
      (decoded : decodeState
        ((bytes.drop (offset + kJournalRecordHeaderBytes)).take length) =
          some state)

def RecoveryPass.Backed (pass : RecoveryPass) (files : Files) : Prop :=
  pass.hasState = true → ReadFrom files pass.state

theorem attested_record {offset : Nat} {length : UInt32}
    (hlength : getU32 bytes offset = length)
    (hfits : recordTotal (bytes.drop offset) ≤ (bytes.drop offset).length)
    (hdigest : recordDigestOk (bytes.drop offset) = true) :
    Attested bytes offset (offset + kJournalRecordHeaderBytes + length.toNat)
      (offset + kJournalRecordHeaderBytes + length.toNat) := by
  rw [Checked.recordTotal_drop hlength, List.length_drop] at hfits
  rw [Checked.recordDigestOk_drop hlength, beq_iff_eq] at hdigest
  have hsixteen : kJournalRecordHeaderBytes = 16 := rfl
  have hthirtytwo : kDigestSize = 32 := rfl
  exact ⟨by omega, by omega, by omega, hdigest⟩

/-- One record replaces the state by one that its digest stands for. -/
theorem RecoveryPass.Backed.replayRecords (h : pass.Backed files)
    (hfound : files.journal = some bytes) {fuel offset : Nat} :
    (replayRecords config fuel pass (bytes.drop offset)).1.Backed files := by
  induction fuel generalizing pass offset with
  | zero => exact h
  | succ fuel ih =>
      rw [FlowOffload.replayRecords]
      dsimp only
      split
      · exact h
      split
      · exact h
      split
      · exact h
      split
      · exact h
      next hfits =>
        split
        · split <;> exact h
        next hdigest =>
          split
          · exact h
          rw [List.drop_drop]
          split
          · refine ih ?_
            exact h
          · split
            · exact h
            next state hdecoded =>
              refine ih (fun _ => ?_)
              have hattested := attested_record rfl (Nat.le_of_not_lt hfits)
                (by simpa using hdigest)
              rw [Checked.getU32_drop, List.drop_drop] at hdecoded
              exact .record bytes hfound offset _ hattested hdecoded

theorem RecoveryPass.Backed.classify (h : pass.Backed files)
    {damaged torn : Bool}
    (hstate : (pass.classify damaged torn).hasState = true) :
    ∃ state, ReadFrom files state ∧
      (pass.classify damaged torn).state = state.canonicalizeOrder := by
  unfold RecoveryPass.classify at hstate ⊢
  dsimp only at hstate ⊢
  split at hstate
  next hnone =>
    exfalso
    rw [Bool.not_eq_true'] at hnone
    split at hstate
    · exact absurd (hnone.symm.trans hstate) (by decide)
    · split at hstate
      · exact absurd (hnone.symm.trans hstate) (by decide)
      · exact absurd (hnone.symm.trans hstate) (by decide)
  next hsome =>
    rw [if_neg hsome]
    exact ⟨pass.state, h hstate, rfl⟩

/-! ## The recovery -/

/-- What a recovery of the files may return. -/
structure RecoveryPass.Justified (pass : RecoveryPass) (files : Files) :
    Prop where
  classified : pass.report.Classified
  backed : pass.report.usable = true → pass.hasState = true →
    ∃ state, ReadFrom files state ∧ pass.state = state.canonicalizeOrder

theorem justified_refuse {kind : RecoveryKind} {code : ReasonCode}
    {detail : String} (h : Refuses kind code) :
    (pass.refuse kind code detail).Justified files :=
  ⟨classified_refuse h, nofun⟩

theorem RecoveryPass.Backed.justified (h : pass.Backed files)
    (damaged torn : Bool) : (pass.classify damaged torn).Justified files :=
  ⟨classified_classify damaged torn, fun _ hstate => h.classify hstate⟩

theorem refuses_replayRecords {fuel : Nat} {rest : Bytes}
    {kind : RecoveryKind} {code : ReasonCode} {detail : String}
    (h : (replayRecords config fuel pass rest).2 = .refused kind code detail) :
    Refuses kind code := by
  induction fuel generalizing pass rest with
  | zero => cases h
  | succ fuel ih =>
      rw [replayRecords] at h
      dsimp only at h
      split at h
      · cases h
      split at h
      · cases h
      split at h
      · cases h
        decide
      split at h
      · cases h
      split at h
      · split at h <;> cases h
        decide
      split at h
      · cases h
        decide
      split at h
      · exact ih h
      split at h
      · cases h
        decide
      · exact ih h

theorem justified_recoverJournal (h : pass.Backed files) (damaged : Bool) :
    (recoverJournal config files.journal pass damaged).Justified files := by
  unfold recoverJournal
  split
  · exact h.justified damaged false
  next bytes hfound =>
    split
    next hverdict => exact justified_refuse (refuses_journalVerdict hverdict)
    next detail hverdict =>
      have hkept : (pass.withDetail detail).Backed files := h
      exact hkept.justified damaged true
    next hverdict =>
      dsimp only
      split
      · exact justified_refuse (by decide)
      next hbase =>
        have hbacked := @RecoveryPass.Backed.replayRecords config files bytes
          { pass with
            journalHeaderOk := true
            journalGoodBytes := kJournalHeaderBytes } h hfound
          (bytes.drop kJournalHeaderBytes).length kJournalHeaderBytes
        have hrefuses := @refuses_replayRecords config
          { pass with
            journalHeaderOk := true
            journalGoodBytes := kJournalHeaderBytes }
          (bytes.drop kJournalHeaderBytes).length
          (bytes.drop kJournalHeaderBytes)
        split
        next heq =>
          rw [heq] at hrefuses
          exact justified_refuse (hrefuses rfl)
        next replayed detail heq =>
          rw [heq] at hbacked
          have hkept : (replayed.withDetail detail).Backed files := hbacked
          exact hkept.justified damaged true
        next heq =>
          rw [heq] at hbacked
          exact RecoveryPass.Backed.justified hbacked damaged false

theorem justified_recover (config : StoreConfig) (files : Files) :
    (recover config files).Justified files := by
  unfold recover
  dsimp only
  split
  · refine justified_recoverJournal (fun hstate => ?_) false
    cases hstate
  next bytes hfound =>
    split
    next hverdict => exact justified_refuse (refuses_snapshotVerdict hverdict)
    next hverdict =>
      refine justified_recoverJournal (fun hstate => ?_) true
      cases hstate
    next hverdict =>
      obtain ⟨hlong, hdigest, hdecoded⟩ := Checked.snapshotIntact hverdict
      obtain ⟨state, hstate⟩ := Option.isSome_iff_exists.mp hdecoded
      refine justified_recoverJournal (fun _ => ?_) false
      have hheader : 128 ≤ bytes.length := hlong
      refine .snapshot bytes hfound ⟨hlong, Nat.le_refl _, ?_, hdigest⟩ ?_
      · rw [kDigestSize]
        omega
      · rw [hstate]
        rfl

/--
A recovery of two files that fit into memory never wraps, reads no byte outside
of them and ends.  What it reports is classified, and what it returns is backed
by a digest.
-/
theorem recovery_is_total_and_in_bounds (config : StoreConfig) (files : Files)
    (h : Checked.Addressable files) :
    Checked.recover config files = some (recover config files) ∧
      (recover config files).Justified files :=
  ⟨Checked.recover_eq h, justified_recover config files⟩

/-- A journal with one whole record and the first bytes of another. -/
def partFiles : Files :=
  { journal := some (Store.journalHeader 0 {} ++
      Store.recordBytes 1 ({} : DurableState).encode ++ [0, 0, 0, 1]) }

theorem torn_journal_is_recovered_in_bounds :
    Checked.recover storeConfig partFiles =
        some (recover storeConfig partFiles) ∧
      (recover storeConfig partFiles).Justified partFiles :=
  recovery_is_total_and_in_bounds storeConfig partFiles
    ⟨nofun, by decide +kernel⟩

end FlowOffload

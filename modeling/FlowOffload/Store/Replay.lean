import FlowOffload.Store.Layout

/-!
# Reading a journal record by record

A journal body is a list of intact records and a tail that does not start with
one.  The record loop folds `RecoveryPass.absorb` over the records and then
stops at the tail, so what recovery makes of a journal is known once the
records, the tail and the pass left by the snapshot are.
-/

namespace FlowOffload

open Foundation

variable {config : StoreConfig} {pass : RecoveryPass}

/-! ## One record -/

/--
What the record loop does with an intact record: records that are not newer
than the pass are skipped, the payload of a newer one has to decode.
-/
def RecoveryPass.absorb (pass : RecoveryPass) (record : Bytes) :
    Option RecoveryPass :=
  let good := pass.journalGoodBytes + recordTotal record
  if recordSequence record ≤ pass.sequence then
    some { pass with journalGoodBytes := good }
  else
    (decodeState (recordPayload record)).map fun decoded =>
      { pass with
        state := decoded
        sequence := recordSequence record
        snapshotDigest := Sha256.of (record.take
          (kJournalRecordHeaderBytes + (getU32 record 0).toNat))
        hasState := true
        recordsReplayed := pass.recordsReplayed + 1
        journalGoodBytes := good }

theorem absorb_append {record : Bytes}
    (hheader : kJournalRecordHeaderBytes ≤ record.length)
    (htotal : recordTotal record ≤ record.length) (rest : Bytes) :
    pass.absorb (record ++ rest) = pass.absorb record := by
  have hlength : 0 + 4 ≤ record.length := by
    rw [kJournalRecordHeaderBytes] at hheader
    omega
  have hbody : kJournalRecordHeaderBytes + (getU32 record 0).toNat ≤
      record.length := by
    rw [recordTotal] at htotal
    omega
  simp only [RecoveryPass.absorb, recordTotal_append hheader,
    recordSequence_append hheader, recordPayload_append hheader htotal,
    getU32_append hlength, List.take_append_of_le_length hbody]

/-- The verdict of the record loop on bytes that are not an intact record. -/
def tailVerdict (config : StoreConfig) (rest : Bytes) : ReplayEnd :=
  if rest = [] then .clean
  else if rest.length < kJournalRecordHeaderBytes then
    .torn "journal ends inside a record header"
  else if (getU32 rest 0).toNat > kMaxJournalRecordBytes ||
      (getU32 rest 0).toNat + kJournalRecordHeaderBytes + kDigestSize >
        config.maxJournalBytes then
    .refused .oversized .recoveryOversizedRecord
      "journal record length exceeds the configured bound"
  else if rest.length < recordTotal rest then
    .torn "journal ends inside a record payload"
  else if !recordDigestOk rest then
    if foundValidAfter rest then
      .refused .corrupt .recoveryCorruptJournal
        "journal record digest mismatch with intact records after it"
    else .torn "journal tail record digest mismatch"
  else
    .refused .corrupt .recoveryCorruptJournal
      "journal record kind is not recognised"

/-- The refusal of a payload that is not a canonical state. -/
def undecodable : ReplayEnd :=
  .refused .corrupt .recoveryCorruptJournal
    "journal record payload is not a canonical state record"

theorem replayRecords_framed {rest : Bytes} (h : framed config rest = true)
    (fuel : Nat) :
    replayRecords config (fuel + 1) pass rest =
      match pass.absorb rest with
      | some next => replayRecords config fuel next
          (rest.drop (recordTotal rest))
      | none => (pass, undecodable) := by
  obtain ⟨hheader, hrecord, hjournal, htotal, hdigest, hkind⟩ :=
    framed_iff.mp h
  have hne : rest ≠ [] := by
    rintro rfl
    exact absurd hheader (by decide)
  have hbound : ¬ ((getU32 rest 0).toNat > kMaxJournalRecordBytes ∨
      (getU32 rest 0).toNat + kJournalRecordHeaderBytes + kDigestSize >
        config.maxJournalBytes) := by omega
  simp only [replayRecords, hne, if_false, Nat.not_lt.mpr hheader,
    Bool.or_eq_true, decide_eq_true_eq, hbound, Nat.not_lt.mpr htotal, hdigest,
    Bool.not_true, Bool.false_eq_true, hkind, ne_eq, not_true_eq_false]
  simp only [RecoveryPass.absorb, recordSequence, recordPayload, undecodable]
  by_cases hskip : getU64 rest 4 ≤ pass.sequence
  · simp only [hskip, if_true]
  · simp only [hskip, if_false]
    cases decodeState
      ((rest.drop kJournalRecordHeaderBytes).take (getU32 rest 0).toNat) <;>
      rfl

theorem replayRecords_unframed {rest : Bytes} (h : framed config rest = false)
    (fuel : Nat) (hfuel : rest.length ≤ fuel) :
    replayRecords config fuel pass rest = (pass, tailVerdict config rest) := by
  cases fuel with
  | zero =>
      have hnil : rest = [] := List.length_eq_zero_iff.mp (by omega)
      simp [replayRecords, tailVerdict, hnil]
  | succ fuel =>
      simp only [replayRecords, tailVerdict]
      split
      · rfl
      · split
        · rfl
        · split
          · rfl
          · split
            · rfl
            · split
              · split <;> rfl
              · next hlong hbound hcomplete hdigest =>
                  -- only the kind can be wrong now
                  have hkind : rest.getD 12 0 ≠ kRecordKindFullState := by
                    intro hkind
                    simp only [Bool.or_eq_true, decide_eq_true_eq, not_or]
                      at hbound
                    rw [Bool.not_eq_true', Bool.not_eq_false] at hdigest
                    have hframed : framed config rest = true :=
                      framed_iff.mpr ⟨by omega, by omega, by omega, by omega,
                        hdigest, hkind⟩
                    rw [h] at hframed
                    exact Bool.false_ne_true hframed
                  rw [if_pos hkind]

/-! ## A body as records and a tail -/

/-- The intact records at the front of a body, and what follows them. -/
def splitRecords (config : StoreConfig) : Nat → Bytes → List Bytes × Bytes
  | 0, rest => ([], rest)
  | fuel + 1, rest =>
      if framed config rest then
        let (records, tail) :=
          splitRecords config fuel (rest.drop (recordTotal rest))
        (rest.take (recordTotal rest) :: records, tail)
      else ([], rest)

/-- Every record is longer than nothing, so the length is enough fuel. -/
theorem splitRecords_spec (fuel : Nat) (body : Bytes)
    (hfuel : body.length ≤ fuel) :
    body = (splitRecords config fuel body).1.flatten ++
        (splitRecords config fuel body).2 ∧
      (∀ record ∈ (splitRecords config fuel body).1,
        IsRecord config record) ∧
      framed config (splitRecords config fuel body).2 = false := by
  induction fuel generalizing body with
  | zero =>
      have hnil : body = [] := List.length_eq_zero_iff.mp (by omega)
      subst hnil
      simp [splitRecords, framed, kJournalRecordHeaderBytes]
  | succ fuel ih =>
      cases hframed : framed config body with
      | false => simp [splitRecords, hframed]
      | true =>
          have hrecord := isRecord_take hframed
          have hshort : (body.drop (recordTotal body)).length ≤ fuel := by
            rw [List.length_drop, recordTotal, kJournalRecordHeaderBytes]
            omega
          obtain ⟨hbody, hrecords, htail⟩ := ih _ hshort
          simp only [splitRecords, hframed, if_true, List.flatten_cons,
            List.append_assoc, ← hbody, List.take_append_drop,
            List.mem_cons, forall_eq_or_imp]
          exact ⟨trivial, ⟨hrecord, hrecords⟩, htail⟩

theorem splitRecords_flatten {records : List Bytes} {tail : Bytes}
    (hrecords : ∀ record ∈ records, IsRecord config record)
    (htail : framed config tail = false) (fuel : Nat)
    (hfuel : (records.flatten ++ tail).length ≤ fuel) :
    splitRecords config fuel (records.flatten ++ tail) = (records, tail) := by
  induction records generalizing fuel with
  | nil =>
      cases fuel with
      | zero => rfl
      | succ fuel => simp [splitRecords, htail]
  | cons record records ih =>
      have hrecord := hrecords record List.mem_cons_self
      have hlong := hrecord.length_ge
      obtain ⟨hheader, -, -, -, -, -⟩ := framed_iff.mp hrecord.framed
      rw [List.flatten_cons, List.append_assoc, List.length_append] at hfuel
      cases fuel with
      | zero =>
          rw [kJournalRecordHeaderBytes] at hlong
          omega
      | succ fuel =>
          have hrest := ih
            (fun record h => hrecords record (List.mem_cons_of_mem _ h))
            fuel (by rw [kJournalRecordHeaderBytes] at hlong; omega)
          have hframed := framed_append hrecord.framed (records.flatten ++ tail)
          have htotal : recordTotal (record ++ (records.flatten ++ tail)) =
              record.length := by
            rw [recordTotal_append hheader, hrecord.total]
          rw [List.flatten_cons, List.append_assoc]
          simp only [splitRecords, hframed, if_true, htotal, List.drop_left,
            List.take_left, hrest]

/-- What the loop does to a body, with enough fuel left for the tail. -/
theorem replayRecords_flatten (pass : RecoveryPass) {records : List Bytes}
    (tail : Bytes) (hrecords : ∀ record ∈ records, IsRecord config record)
    (fuel : Nat) :
    (∀ next, records.foldlM RecoveryPass.absorb pass = some next →
        replayRecords config (records.length + fuel) pass
          (records.flatten ++ tail) = replayRecords config fuel next tail) ∧
      (records.foldlM RecoveryPass.absorb pass = none →
        (replayRecords config (records.length + fuel) pass
          (records.flatten ++ tail)).2 = undecodable) := by
  induction records generalizing pass with
  | nil => simp
  | cons record records ih =>
      have hrecord := hrecords record List.mem_cons_self
      obtain ⟨hheader, -, -, htotal, -, -⟩ := framed_iff.mp hrecord.framed
      have hstep : replayRecords config ((record :: records).length + fuel)
            pass ((record :: records).flatten ++ tail) =
          match pass.absorb record with
          | some next => replayRecords config (records.length + fuel) next
              (records.flatten ++ tail)
          | none => (pass, undecodable) := by
        have hfuel : (record :: records).length + fuel =
            (records.length + fuel) + 1 := by
          rw [List.length_cons]
          omega
        rw [hfuel, List.flatten_cons, List.append_assoc, replayRecords_framed
          (framed_append hrecord.framed _), absorb_append hheader htotal,
          recordTotal_append hheader, hrecord.total, List.drop_left]
      rw [hstep, List.foldlM_cons]
      cases habsorb : pass.absorb record with
      | none => simp
      | some next =>
          exact ih next fun record h =>
            hrecords record (List.mem_cons_of_mem _ h)

/-- There are at least as many bytes as records. -/
theorem length_le_length_flatten {records : List Bytes}
    (hrecords : ∀ record ∈ records, IsRecord config record) :
    records.length ≤ records.flatten.length := by
  induction records with
  | nil => simp
  | cons record records ih =>
      have hlong := (hrecords record List.mem_cons_self).length_ge
      rw [kJournalRecordHeaderBytes] at hlong
      have hrest := ih fun record h =>
        hrecords record (List.mem_cons_of_mem _ h)
      rw [List.flatten_cons, List.length_append, List.length_cons]
      omega

/-! ## What the records leave behind -/

/-- Absorbing records, as far as the later steps of a recovery need it. -/
structure Absorbs (pass : RecoveryPass) (records : List Bytes)
    (next : RecoveryPass) : Prop where
  report : next.report = pass.report
  snapshotUsed : next.snapshotUsed = pass.snapshotUsed
  header : next.journalHeaderOk = pass.journalHeaderOk
  journal : next.journalExists = pass.journalExists
  torn : next.tornTail = pass.tornTail
  good : next.journalGoodBytes =
    pass.journalGoodBytes + (records.map recordTotal).sum
  later : pass.sequence ≤ next.sequence
  covers : ∀ record ∈ records, recordSequence record ≤ next.sequence
  quiet : (∀ record ∈ records, recordSequence record ≤ pass.sequence) →
    next = { pass with journalGoodBytes := next.journalGoodBytes }
  moved : (∃ record ∈ records, pass.sequence < recordSequence record) →
    next.hasState = true ∧ pass.sequence < next.sequence ∧
      pass.recordsReplayed < next.recordsReplayed

theorem absorb_skip {record : Bytes}
    (h : recordSequence record ≤ pass.sequence) :
    pass.absorb record = some { pass with
      journalGoodBytes := pass.journalGoodBytes + recordTotal record } := by
  simp only [RecoveryPass.absorb, h, if_true]

theorem absorb_newer {record : Bytes} {state : DurableState}
    (hnewer : pass.sequence < recordSequence record)
    (hdecode : decodeState (recordPayload record) = some state) :
    pass.absorb record = some { pass with
      state := state
      sequence := recordSequence record
      snapshotDigest := Sha256.of (record.take
        (kJournalRecordHeaderBytes + (getU32 record 0).toNat))
      hasState := true
      recordsReplayed := pass.recordsReplayed + 1
      journalGoodBytes := pass.journalGoodBytes + recordTotal record } := by
  simp only [RecoveryPass.absorb, UInt64.not_le.mpr hnewer, if_false, hdecode,
    Option.map_some]

theorem absorb_cases {record : Bytes} {next : RecoveryPass}
    (h : pass.absorb record = some next) :
    (recordSequence record ≤ pass.sequence ∧ next = { pass with
        journalGoodBytes := pass.journalGoodBytes + recordTotal record }) ∨
      ∃ state, pass.sequence < recordSequence record ∧
        decodeState (recordPayload record) = some state ∧
        next = { pass with
          state := state
          sequence := recordSequence record
          snapshotDigest := Sha256.of (record.take
            (kJournalRecordHeaderBytes + (getU32 record 0).toNat))
          hasState := true
          recordsReplayed := pass.recordsReplayed + 1
          journalGoodBytes :=
            pass.journalGoodBytes + recordTotal record } := by
  by_cases hskip : recordSequence record ≤ pass.sequence
  · rw [absorb_skip hskip, Option.some.injEq] at h
    exact .inl ⟨hskip, h.symm⟩
  · have hnewer := UInt64.not_le.mp hskip
    cases hdecode : decodeState (recordPayload record) with
    | none => simp [RecoveryPass.absorb, hskip, hdecode] at h
    | some state =>
        rw [absorb_newer hnewer hdecode, Option.some.injEq] at h
        exact .inr ⟨state, hnewer, rfl, h.symm⟩

theorem absorbs_cons {record : Bytes} {records : List Bytes}
    {middle next : RecoveryPass} (hstep : pass.absorb record = some middle)
    (hrest : Absorbs middle records next) :
    Absorbs pass (record :: records) next := by
  obtain ⟨hskip, rfl⟩ | ⟨state, hnewer, -, rfl⟩ := absorb_cases hstep
  · refine ⟨hrest.report, hrest.snapshotUsed, hrest.header, hrest.journal,
      hrest.torn, ?_, hrest.later, ?_, ?_, ?_⟩
    · rw [hrest.good, List.map_cons, List.sum_cons, ← Nat.add_assoc]
    · rw [List.forall_mem_cons]
      exact ⟨UInt64.le_trans hskip hrest.later, hrest.covers⟩
    · rw [List.forall_mem_cons]
      rintro ⟨-, hquiet⟩
      exact hrest.quiet hquiet
    · rintro ⟨other, hmem, hother⟩
      obtain rfl | hmem := List.mem_cons.mp hmem
      · exact absurd hskip (UInt64.not_le.mpr hother)
      · exact hrest.moved ⟨other, hmem, hother⟩
  · have hmoved : next.hasState = true ∧
        recordSequence record ≤ next.sequence ∧
        pass.recordsReplayed + 1 ≤ next.recordsReplayed := by
      by_cases hquiet : ∀ other ∈ records,
          recordSequence other ≤ recordSequence record
      · have hnext := hrest.quiet hquiet
        rw [hnext]
        exact ⟨rfl, UInt64.le_refl _, Nat.le_refl _⟩
      · simp only [not_forall, UInt64.not_le] at hquiet
        obtain ⟨other, hmem, hother⟩ := hquiet
        obtain ⟨hstate, -, hcount⟩ := hrest.moved ⟨other, hmem, hother⟩
        exact ⟨hstate, hrest.later, Nat.le_of_lt hcount⟩
    have hlater : pass.sequence < next.sequence :=
      UInt64.lt_of_lt_of_le hnewer hmoved.2.1
    refine ⟨hrest.report, hrest.snapshotUsed, hrest.header, hrest.journal,
      hrest.torn, ?_, UInt64.le_of_lt hlater, ?_, ?_, ?_⟩
    · rw [hrest.good, List.map_cons, List.sum_cons, ← Nat.add_assoc]
    · rw [List.forall_mem_cons]
      exact ⟨hrest.later, hrest.covers⟩
    · rw [List.forall_mem_cons]
      rintro ⟨hskip, -⟩
      exact absurd hskip (UInt64.not_le.mpr hnewer)
    · exact fun _ => ⟨hmoved.1, hlater, hmoved.2.2⟩

theorem absorbs_of_foldlM {records : List Bytes} {next : RecoveryPass}
    (h : records.foldlM RecoveryPass.absorb pass = some next) :
    Absorbs pass records next := by
  induction records generalizing pass with
  | nil =>
      rw [List.foldlM_nil, Option.pure_def, Option.some.injEq] at h
      subst h
      exact ⟨rfl, rfl, rfl, rfl, rfl, rfl, UInt64.le_refl _, by simp,
        fun _ => rfl, by simp⟩
  | cons record records ih =>
      rw [List.foldlM_cons, Option.bind_eq_bind, Option.bind_eq_some_iff] at h
      obtain ⟨middle, hstep, hrest⟩ := h
      exact absorbs_cons hstep (ih hrest)

/-- Records that are not newer than the pass are all skipped. -/
theorem foldlM_absorb_quiet (pass : RecoveryPass) {records : List Bytes}
    (h : ∀ record ∈ records, recordSequence record ≤ pass.sequence) :
    records.foldlM RecoveryPass.absorb pass = some { pass with
      journalGoodBytes :=
        pass.journalGoodBytes + (records.map recordTotal).sum } := by
  induction records generalizing pass with
  | nil => rfl
  | cons record records ih =>
      rw [List.forall_mem_cons] at h
      have hrest := ih { pass with
        journalGoodBytes := pass.journalGoodBytes + recordTotal record } h.2
      rw [List.foldlM_cons, absorb_skip h.1, Option.bind_eq_bind,
        Option.bind_some, hrest, List.map_cons, List.sum_cons,
        ← Nat.add_assoc]

/-- Two passes hold the same state under the same number. -/
structure SameState (pass other : RecoveryPass) : Prop where
  sequence : other.sequence = pass.sequence
  hasState : other.hasState = pass.hasState
  state : pass.hasState = true → other.state = pass.state

theorem SameState.foldlM_absorb {other next : RecoveryPass}
    {records : List Bytes} (h : SameState pass other)
    (hfold : records.foldlM RecoveryPass.absorb pass = some next) :
    ∃ other', records.foldlM RecoveryPass.absorb other = some other' ∧
      SameState next other' := by
  induction records generalizing pass other with
  | nil =>
      rw [List.foldlM_nil, Option.pure_def, Option.some.injEq] at hfold
      subst hfold
      exact ⟨other, rfl, h⟩
  | cons record records ih =>
      rw [List.foldlM_cons, Option.bind_eq_bind, Option.bind_eq_some_iff]
        at hfold
      obtain ⟨middle, hstep, hrest⟩ := hfold
      rw [List.foldlM_cons, Option.bind_eq_bind]
      obtain ⟨hskip, rfl⟩ | ⟨state, hnewer, hdecode, rfl⟩ := absorb_cases hstep
      · rw [absorb_skip (by rw [h.sequence]; exact hskip), Option.bind_some]
        refine ih ?_ hrest
        exact ⟨h.sequence, h.hasState, h.state⟩
      · rw [absorb_newer (by rw [h.sequence]; exact hnewer) hdecode,
          Option.bind_some]
        refine ih ?_ hrest
        exact ⟨rfl, rfl, fun _ => rfl⟩

/--
A pass that starts lower either meets a payload it cannot decode, or ends with
the same state as soon as one record is newer than the higher start.
-/
theorem foldlM_absorb_lower {other next : RecoveryPass} {records : List Bytes}
    (hlower : other.sequence ≤ pass.sequence)
    (hfold : records.foldlM RecoveryPass.absorb pass = some next)
    (hnewer : ∃ record ∈ records, pass.sequence < recordSequence record) :
    records.foldlM RecoveryPass.absorb other = none ∨
      ∃ other', records.foldlM RecoveryPass.absorb other = some other' ∧
        SameState next other' := by
  induction records generalizing pass other with
  | nil => simp at hnewer
  | cons record records ih =>
      rw [List.foldlM_cons, Option.bind_eq_bind, Option.bind_eq_some_iff]
        at hfold
      obtain ⟨middle, hstep, hrest⟩ := hfold
      rw [List.foldlM_cons, Option.bind_eq_bind]
      obtain ⟨hskip, rfl⟩ | ⟨state, hfirst, hdecode, rfl⟩ := absorb_cases hstep
      · have hlater : ∃ record ∈ records,
            pass.sequence < recordSequence record := by
          obtain ⟨newer, hmem, hnewer⟩ := hnewer
          obtain rfl | hmem := List.mem_cons.mp hmem
          · exact absurd hskip (UInt64.not_le.mpr hnewer)
          · exact ⟨newer, hmem, hnewer⟩
        -- the lower pass may have to decode what the higher one skipped
        cases hother : other.absorb record with
        | none => exact .inl rfl
        | some after =>
            rw [Option.bind_some]
            obtain ⟨-, rfl⟩ | ⟨decoded, -, -, rfl⟩ := absorb_cases hother
            · refine ih ?_ hrest hlater
              exact hlower
            · refine ih ?_ hrest hlater
              exact hskip
      · have hother := UInt64.lt_of_le_of_lt hlower hfirst
        rw [absorb_newer hother hdecode, Option.bind_some]
        right
        refine SameState.foldlM_absorb ?_ hrest
        exact ⟨rfl, rfl, fun _ => rfl⟩

/-! ## The pass left by the snapshot -/

/--
The pass with which the journal is read, and whether the snapshot was damaged;
`none` when the snapshot already ends the recovery.
-/
def openingPass (config : StoreConfig) (files : Files) :
    Option (RecoveryPass × Bool) :=
  let pass : RecoveryPass := { journalExists := files.journal.isSome }
  match files.snapshot with
  | none => some (pass, false)
  | some bytes =>
      match snapshotVerdict config bytes with
      | .refused _ _ _ => none
      | .damaged detail => some (pass.withDetail detail, true)
      | .intact =>
          let payload := bytes.drop kSnapshotHeaderBytes
          some ({ pass with
            snapshotUsed := true
            sequence := getU64 bytes 56
            snapshotDigest := Sha256.of payload
            state := (decodeState payload).getD {}
            hasState := true }, false)

theorem recover_of_opening {files : Files} {damaged : Bool}
    (h : openingPass config files = some (pass, damaged)) :
    recover config files = recoverJournal config files.journal pass damaged
    := by
  unfold openingPass at h
  unfold recover
  cases hsnapshot : files.snapshot with
  | none =>
      simp only [hsnapshot, Option.some.injEq, Prod.mk.injEq] at h ⊢
      rw [h.1, h.2]
  | some bytes =>
      simp only [hsnapshot] at h ⊢
      cases hverdict : snapshotVerdict config bytes with
      | refused kind code detail => simp [hverdict] at h
      | damaged detail =>
          simp only [hverdict, Option.some.injEq, Prod.mk.injEq] at h ⊢
          rw [h.1, h.2]
      | intact =>
          simp only [hverdict, Option.some.injEq, Prod.mk.injEq] at h ⊢
          rw [h.1, h.2]

theorem recover_of_no_opening {files : Files}
    (h : openingPass config files = none) :
    (recover config files).report.usable = false := by
  unfold openingPass at h
  unfold recover
  cases hsnapshot : files.snapshot with
  | none => simp [hsnapshot] at h
  | some bytes =>
      simp only [hsnapshot] at h ⊢
      cases hverdict : snapshotVerdict config bytes with
      | refused kind code detail => rfl
      | damaged detail => simp [hverdict] at h
      | intact => simp [hverdict] at h

/-- What is known of a pass before the journal is read. -/
structure Opens (pass : RecoveryPass) (damaged : Bool) : Prop where
  replayed : pass.recordsReplayed = 0
  torn : pass.tornTail = false
  header : pass.journalHeaderOk = false
  state : pass.hasState = pass.snapshotUsed
  sequence : pass.snapshotUsed = false → pass.sequence = 0
  damaged : pass.snapshotUsed = true → damaged = false

theorem opens_of_openingPass {files : Files} {damaged : Bool}
    (h : openingPass config files = some (pass, damaged)) :
    Opens pass damaged ∧ pass.journalExists = files.journal.isSome := by
  unfold openingPass at h
  cases hsnapshot : files.snapshot with
  | none =>
      simp only [hsnapshot, Option.some.injEq, Prod.mk.injEq] at h
      obtain ⟨rfl, rfl⟩ := h
      exact ⟨⟨rfl, rfl, rfl, rfl, fun _ => rfl, fun _ => rfl⟩, rfl⟩
  | some bytes =>
      simp only [hsnapshot] at h
      cases hverdict : snapshotVerdict config bytes with
      | refused kind code detail => simp [hverdict] at h
      | damaged detail =>
          simp only [hverdict, Option.some.injEq, Prod.mk.injEq] at h
          obtain ⟨rfl, rfl⟩ := h
          refine ⟨⟨rfl, rfl, rfl, rfl, fun _ => rfl, fun hused => ?_⟩, rfl⟩
          exact absurd hused Bool.false_ne_true
      | intact =>
          simp only [hverdict, Option.some.injEq, Prod.mk.injEq] at h
          obtain ⟨rfl, rfl⟩ := h
          refine ⟨⟨rfl, rfl, rfl, rfl, fun hused => ?_, fun _ => rfl⟩, rfl⟩
          exact absurd hused Bool.true_eq_false.mp

/-- Only whether there is a journal matters to the snapshot half. -/
theorem openingPass_congr {files files' : Files}
    (hsnapshot : files.snapshot = files'.snapshot)
    (hjournal : files.journal.isSome = files'.journal.isSome) :
    openingPass config files = openingPass config files' := by
  unfold openingPass
  rw [hsnapshot, hjournal]

/-! ## What a pass found -/

/-- The pass at the first record of a journal. -/
def RecoveryPass.enter (pass : RecoveryPass) : RecoveryPass :=
  { pass with
    journalHeaderOk := true
    journalGoodBytes := kJournalHeaderBytes }

/--
`none` when the report is not usable, `some none` when it is usable and there
is no state, and otherwise the commit sequence and the state.
-/
def RecoveryPass.findings (pass : RecoveryPass) :
    Option (Option (UInt64 × DurableState)) :=
  if pass.report.usable then
    some (if pass.hasState then some (pass.sequence, pass.state) else none)
  else none

theorem findings_refuse (kind : RecoveryKind) (code : ReasonCode)
    (detail : String) : (pass.refuse kind code detail).findings = none := rfl

theorem findings_classify (damaged torn : Bool) :
    (pass.classify damaged torn).findings =
      if pass.hasState then
        some (some (pass.sequence, pass.state.canonicalizeOrder))
      else if damaged then none else some none := by
  unfold RecoveryPass.classify RecoveryPass.findings
  cases hstate : pass.hasState <;> cases damaged <;> cases torn <;>
    simp [RecoveryPass.refuse, hstate]

/-- How the journal half ends, once the records have been absorbed. -/
def RecoveryPass.finish (pass : RecoveryPass) (damaged : Bool) :
    ReplayEnd → RecoveryPass
  | .refused kind code detail => pass.refuse kind code detail
  | .torn detail => (pass.withDetail detail).classify damaged true
  | .clean => pass.classify damaged false

theorem SameState.findings_classify {other : RecoveryPass}
    (h : SameState pass other) (damaged torn torn' : Bool) :
    (other.classify damaged torn).findings =
      (pass.classify damaged torn').findings := by
  rw [FlowOffload.findings_classify, FlowOffload.findings_classify, h.hasState]
  split
  · next hstate => rw [h.sequence, h.state hstate]
  · rfl

section Journal

variable {bytes : Bytes} {damaged : Bool}

theorem recoverJournal_torn (hsize : bytes.length ≤ config.maxJournalBytes)
    (htorn : HeaderTorn bytes) :
    ∃ detail, recoverJournal config (some bytes) pass damaged =
      (pass.withDetail detail).classify damaged true := by
  obtain ⟨detail, hverdict⟩ := journalVerdict_damaged_iff.mpr ⟨hsize, htorn⟩
  refine ⟨detail, ?_⟩
  simp only [recoverJournal, hverdict]

variable {header : Bytes} {records : List Bytes} {tail : Bytes}

theorem recoverJournal_records (pass : RecoveryPass) (damaged : Bool)
    (hlength : header.length = kJournalHeaderBytes)
    (hheader : HeaderIntact header)
    (hsize : (header ++ (records.flatten ++ tail)).length ≤
      config.maxJournalBytes)
    (hbase : pass.snapshotUsed = true → getU64 header 16 ≤ pass.sequence)
    (hrecords : ∀ record ∈ records, IsRecord config record)
    (htail : framed config tail = false) :
    (∀ next, records.foldlM RecoveryPass.absorb pass.enter = some next →
        recoverJournal config (some (header ++ (records.flatten ++ tail)))
          pass damaged = next.finish damaged (tailVerdict config tail)) ∧
      (records.foldlM RecoveryPass.absorb pass.enter = none →
        (recoverJournal config (some (header ++ (records.flatten ++ tail)))
          pass damaged).report.usable = false) := by
  have hverdict : journalVerdict config
      (header ++ (records.flatten ++ tail)) = .intact :=
    journalVerdict_intact_iff.mpr
      ⟨hsize, (headerIntact_append hlength _).mpr hheader⟩
  have hread : getU64 (header ++ (records.flatten ++ tail)) 16 =
      getU64 header 16 := getU64_append (by rw [hlength]; decide) _
  have hguard : (pass.snapshotUsed && decide (getU64 header 16 >
      pass.sequence)) = false := by
    cases hused : pass.snapshotUsed with
    | false => rfl
    | true => simpa using hbase hused
  have hcount := length_le_length_flatten hrecords
  obtain ⟨fuel, hfuel⟩ := Nat.exists_eq_add_of_le
    (show records.length ≤ (records.flatten ++ tail).length by
      rw [List.length_append]
      omega)
  have henough : tail.length ≤ fuel := by
    rw [List.length_append] at hfuel
    omega
  have hflatten := replayRecords_flatten pass.enter tail hrecords fuel
  simp only [recoverJournal, hverdict, hread, hguard, Bool.false_eq_true,
    if_false, List.drop_left' hlength, hfuel]
  constructor
  · intro next hnext
    have hreplay := hflatten.1 next hnext
    rw [replayRecords_unframed htail fuel henough] at hreplay
    unfold RecoveryPass.enter at hreplay
    rw [hreplay]
    cases tailVerdict config tail <;> rfl
  · intro hnone
    obtain ⟨stuck, hstuck⟩ : ∃ stuck, replayRecords config
        (records.length + fuel) pass.enter (records.flatten ++ tail) =
          (stuck, undecodable) := ⟨_, Prod.ext rfl (hflatten.2 hnone)⟩
    unfold RecoveryPass.enter at hstuck
    rw [hstuck]
    rfl

end Journal

end FlowOffload

import FlowOffload.Engine.Authority

/-!
# Evidence and watermarks

Only `ingest_load` moves the watermark of a source.  It never moves one back,
and it accepts nothing below one.
-/

namespace FlowOffload

open Foundation
open Std (ExtTreeMap)

/-- The source has a watermark that is not below the sequence. -/
def covers (marks : ExtTreeMap EvidenceSourceId SourceWatermark)
    (source : EvidenceSourceId) (sequence : EvidenceSequence) : Bool :=
  (marks[source]?).any fun mark => !decide (mark.sequence < sequence)

theorem covers_iff {marks : ExtTreeMap EvidenceSourceId SourceWatermark}
    {source : EvidenceSourceId} {sequence : EvidenceSequence} :
    covers marks source sequence = true ↔
      ∃ mark : SourceWatermark, lookup marks source = some mark ∧
        sequence.value.toNat ≤ mark.sequence.value.toNat := by
  unfold covers
  change (lookup marks source).any _ = true ↔ _
  cases lookup marks source with
  | none => simp
  | some mark =>
      simp [TypedId.lt_iff_toNat_lt]

namespace Impl

variable {s t : Impl} {evidence : LoadEvidence}

/-! ## One observation -/

/-- No watermark of its source is above the observation. -/
def Fresh (s : Impl) (evidence : LoadEvidence) : Prop :=
  ∀ mark, lookup s.watermarks evidence.source = some mark →
    mark.sequence.value.toNat ≤ evidence.sourceSequence.value.toNat

/-- The watermark that an observation leaves for its source. -/
structure Raises (s : Impl) (evidence : LoadEvidence) (mark : SourceWatermark) :
    Prop where
  source : mark.source = evidence.source
  reached : evidence.sourceSequence.value.toNat ≤ mark.sequence.value.toNat
  kept : ∀ old, lookup s.watermarks evidence.source = some old →
    old.sequence.value.toNat ≤ mark.sequence.value.toNat

/-- How an observation ends: what it leaves and whether it is accepted. -/
inductive Ingests (s : Impl) (evidence : LoadEvidence) : Impl → Bool → Prop where
  | refused {after : Impl} (marks : after.watermarks = s.watermarks)
      (targets : after.targets = s.targets) : Ingests s evidence after false
  | repeated {after : Impl} {target : TargetState}
      (marks : after.watermarks = s.watermarks)
      (targets : after.targets = s.targets)
      (found : lookup s.targets evidence.target = some target)
      (loaded : target.hasLoad = true) (known : evidence = target.load)
      (fresh : s.Fresh evidence) : Ingests s evidence after true
  | agreed {after : Impl} {mark : SourceWatermark}
      (marks : after.watermarks = s.watermarks.insert evidence.source mark)
      (targets : after.targets = s.targets) (raised : s.Raises evidence mark)
      (fresh : s.Fresh evidence) : Ingests s evidence after true
  | recorded {after : Impl} {mark : SourceWatermark} {target : TargetState}
      (marks : after.watermarks = s.watermarks.insert evidence.source mark)
      (found : lookup s.targets evidence.target = some target)
      (targets : after.targets = s.targets.insert evidence.target
        (mergeEvidence target evidence))
      (raised : s.Raises evidence mark) (fresh : s.Fresh evidence) :
      Ingests s evidence after true

theorem raises_raiseSequence (s : Impl) (evidence : LoadEvidence) :
    s.Raises evidence
      (raiseSequence (s.watermarks.getD evidence.source {}) evidence) := by
  have hgetD : ∀ old, lookup s.watermarks evidence.source = some old →
      s.watermarks.getD evidence.source {} = old := by
    intro old hold
    have hfound : s.watermarks[evidence.source]? = some old := hold
    rw [ExtTreeMap.getD_eq_getD_getElem?, hfound]
    rfl
  generalize s.watermarks.getD evidence.source {} = mark at hgetD
  refine ⟨rfl, ?_, ?_⟩
  · simp only [raiseSequence, TypedId.lt_iff_toNat_lt]
    split <;> omega
  · intro old hold
    have hsame := hgetD old hold
    subst hsame
    simp only [raiseSequence, TypedId.lt_iff_toNat_lt]
    split <;> omega

theorem fresh_of_not_replayed
    (h : ¬ ((s.watermarks[evidence.source]?).any fun mark =>
      evidence.sourceSequence < mark.sequence) = true) :
    s.Fresh evidence := by
  intro mark hmark
  have hfound : s.watermarks[evidence.source]? = some mark := hmark
  rw [hfound] at h
  simp only [Option.any_some, decide_eq_true_eq, TypedId.lt_iff_toNat_lt] at h
  omega

theorem ingests_ingestOutOfOrder {target : TargetState}
    (hfresh : s.Fresh evidence) :
    s.Ingests evidence (s.ingestOutOfOrder target evidence).1
      (s.ingestOutOfOrder target evidence).2.ok := by
  unfold ingestOutOfOrder
  split
  · exact .agreed rfl rfl (raises_raiseSequence s evidence) hfresh
  · exact .refused rfl rfl

theorem ingests_recordEvidence {target : TargetState}
    (hfound : lookup s.targets evidence.target = some target)
    (hfresh : s.Fresh evidence) :
    s.Ingests evidence (s.recordEvidence target evidence).1
      (s.recordEvidence target evidence).2.ok := by
  obtain ⟨hsource, hreached, hkept⟩ := raises_raiseSequence s evidence
  exact .recorded rfl hfound rfl ⟨hsource, hreached, hkept⟩ hfresh

theorem Matches.known_fresh {target : TargetState}
    (h : s.Matches evidence target) : s.Fresh evidence :=
  fresh_of_not_replayed (Bool.not_eq_true _ ▸ h.fresh)

theorem ingests_ingestLoad (s : Impl) (evidence : LoadEvidence) :
    s.Ingests evidence (s.ingestLoad evidence).1
      (s.ingestLoad evidence).2.ok := by
  have hreceived := receives_ingestLoad s evidence
  generalize s.ingestLoad evidence = after at hreceived ⊢
  cases hreceived with
  | refused code rejects | rejected code rejects =>
      change s.Ingests evidence _ code.isAcceptance
      rw [rejects]
      exact .refused rfl rfl
  | repeated matched stored same =>
      have hloaded := stored
      simp only [holds, Bool.and_eq_true] at hloaded
      exact .repeated rfl rfl matched.known hloaded.1.1 same
        matched.known_fresh
  | outOfOrder matched => exact ingests_ingestOutOfOrder matched.known_fresh
  | recorded matched =>
      exact ingests_recordEvidence matched.known matched.known_fresh

/-! ## Watermarks and the load of a target -/

/-- Every watermark is kept under its source. -/
def MarksKeyed (s : Impl) : Prop :=
  ∀ source mark, lookup s.watermarks source = some mark →
    mark.source = source

/-- The watermarks cover what the targets are loaded with. -/
def LoadsCovered (s : Impl) : Prop :=
  ∀ id target, lookup s.targets id = some target →
    target.hasLoad = true → covers s.watermarks target.load.source
      target.load.sourceSequence = true

theorem Ingests.covers {accepted : Bool} (h : s.Ingests evidence t accepted)
    {source : EvidenceSourceId} {sequence : EvidenceSequence}
    (hcovers : FlowOffload.covers s.watermarks source sequence = true) :
    FlowOffload.covers t.watermarks source sequence = true := by
  have hraised : ∀ mark, s.Raises evidence mark →
      FlowOffload.covers (s.watermarks.insert evidence.source mark) source
        sequence = true := by
    intro mark hmark
    rw [covers_iff] at hcovers ⊢
    obtain ⟨old, hold, hle⟩ := hcovers
    rw [lookup_insert]
    by_cases hsource : source = evidence.source
    · subst hsource
      rw [Function.update_self]
      exact ⟨mark, rfl, Nat.le_trans hle (hmark.kept old hold)⟩
    · rw [Function.update_of_ne hsource]
      exact ⟨old, hold, hle⟩
  cases h with
  | refused marks targets => rwa [marks]
  | repeated marks targets found loaded known fresh => rwa [marks]
  | agreed marks targets raised fresh =>
      rw [marks]
      exact hraised _ raised
  | recorded marks found targets raised fresh =>
      rw [marks]
      exact hraised _ raised

/-- What is accepted is covered afterwards. -/
theorem Ingests.covers_accepted (hloads : s.LoadsCovered)
    (h : s.Ingests evidence t true) :
    FlowOffload.covers t.watermarks evidence.source
      evidence.sourceSequence = true := by
  have hraised : ∀ mark, s.Raises evidence mark →
      FlowOffload.covers (s.watermarks.insert evidence.source mark)
        evidence.source evidence.sourceSequence = true := by
    intro mark hmark
    rw [covers_iff, lookup_insert, Function.update_self]
    exact ⟨mark, rfl, hmark.reached⟩
  cases h with
  | repeated marks targets found loaded known fresh =>
      have hcovered := hloads evidence.target _ found loaded
      rw [← known] at hcovered
      rw [marks]
      exact hcovered
  | agreed marks targets raised fresh =>
      rw [marks]
      exact hraised _ raised
  | recorded marks found targets raised fresh =>
      rw [marks]
      exact hraised _ raised

/-- What is accepted is not below what was covered. -/
theorem Ingests.not_below (h : s.Ingests evidence t true)
    {sequence : EvidenceSequence}
    (hcovers : FlowOffload.covers s.watermarks evidence.source sequence =
      true) :
    sequence.value.toNat ≤ evidence.sourceSequence.value.toNat := by
  obtain ⟨mark, hmark, hle⟩ := covers_iff.mp hcovers
  have hfresh : s.Fresh evidence := by
    cases h with
    | repeated marks targets found loaded known fresh => exact fresh
    | agreed marks targets raised fresh => exact fresh
    | recorded marks found targets raised fresh => exact fresh
  exact Nat.le_trans hle (hfresh mark hmark)

theorem Ingests.marksKeyed {accepted : Bool} (hkeyed : s.MarksKeyed)
    (h : s.Ingests evidence t accepted) : t.MarksKeyed := by
  have hraised : ∀ mark, s.Raises evidence mark →
      t.watermarks = s.watermarks.insert evidence.source mark →
      t.MarksKeyed := by
    intro mark hmark hmarks source found hfound
    rw [hmarks, lookup_insert] at hfound
    by_cases hsource : source = evidence.source
    · subst hsource
      rw [Function.update_self] at hfound
      cases hfound
      exact hmark.source
    · rw [Function.update_of_ne hsource] at hfound
      exact hkeyed source found hfound
  cases h with
  | refused marks targets =>
      unfold MarksKeyed
      rwa [marks]
  | repeated marks targets found loaded known fresh =>
      unfold MarksKeyed
      rwa [marks]
  | agreed marks targets raised fresh => exact hraised _ raised marks
  | recorded marks found targets raised fresh => exact hraised _ raised marks

theorem Ingests.loadsCovered {accepted : Bool} (hloads : s.LoadsCovered)
    (h : s.Ingests evidence t accepted) : t.LoadsCovered := by
  have hsame : t.targets = s.targets → t.LoadsCovered := by
    intro htargets id target htarget hload
    rw [htargets] at htarget
    exact h.covers (hloads id target htarget hload)
  cases haccepted : h with
  | refused marks targets => exact hsame targets
  | repeated marks targets found loaded known fresh => exact hsame targets
  | agreed marks targets raised fresh => exact hsame targets
  | recorded marks found targets raised fresh =>
      intro id target htarget hload
      rw [targets, lookup_insert] at htarget
      by_cases hid : id = evidence.target
      · subst hid
        rw [Function.update_self] at htarget
        cases htarget
        exact Ingests.covers_accepted hloads h
      · rw [Function.update_of_ne hid] at htarget
        exact h.covers (hloads id target htarget hload)

/-! ## The other operations -/

theorem Counted.watermarks (h : s.Counted t) :
    t.watermarks = s.watermarks := by
  obtain ⟨_, _, rfl⟩ := h
  rfl

theorem Committed.watermarks {request : PlacementRequest} {answer : Status}
    (h : s.Committed request answer t) : t.watermarks = s.watermarks := by
  obtain ⟨published, result, rfl⟩ := h
  obtain ⟨_, _, _, hrecorded⟩ := recordRequest_eq
    ((s.scheduledFor request published).commitBatch request published
      (s.planOf request)).1 request result answer
  obtain ⟨_, _, _, _, _, _, heq⟩ := foldl_commitPending_eq request published
    (s.planOf request).commits
    (s.scheduledFor request published, (s.planOf request).placements)
  rw [hrecorded]
  refine (congrArg Impl.watermarks heq).trans ?_
  unfold scheduledFor
  split <;> rfl

theorem Ends.watermarks {op : Op} {answer : Status} {accepted : Bool}
    (h : s.Ends op answer t accepted) : t.watermarks = s.watermarks := by
  cases h with
  | refused counted => exact counted.watermarks
  | repeated counted known => exact counted.watermarks
  | redeclared call found known => rfl
  | placed call executed commit => exact commit.watermarks
  | @committed u stays targets change =>
      obtain ⟨_, _, heq⟩ := persistLocked_fst u answer
      rw [heq]
      exact stays.watermarks

theorem watermarks_authorize (s : Impl) (recommendation : RecommendationId)
    (instant : Timestamp) :
    (s.authorize recommendation instant).1.watermarks = s.watermarks := by
  unfold authorize
  repeat' split
  all_goals rfl

theorem watermarks_revokeAuthorization (s : Impl)
    (authorization : AuthorizationId) :
    (s.revokeAuthorization authorization).1.watermarks = s.watermarks := by
  unfold revokeAuthorization
  repeat' split
  all_goals rfl

/-- Within an incarnation only evidence moves a watermark. -/
theorem watermarks_step (hkeyed : ∀ k record,
      lookup s.migrations k = some record → record.intent.attempt = k)
    {op : Op} (hanew : s.startsAnew op = false)
    (hevidence : op.observes = none) :
    (s.step op).watermarks = s.watermarks := by
  cases op with
  | openEngine opening answer =>
      have hopen : s.isOpen = true := by simpa [startsAnew] using hanew
      simp [step, openEngine, hopen]
  | shutdown answer =>
      obtain ⟨_, _, heq⟩ := persistLocked_fst s answer
      simp only [step, shutdown]
      split
      · rw [heq]
      · rfl
  | restart config => cases hanew
  | ingestLoad evidence => cases hevidence
  | rebalance request answer =>
      obtain ⟨_, _, heq⟩ := rebalanceLocked_eq s request answer
      simp only [step, heq]
  | place request answer =>
      rcases placeLocked_cases s request answer with
        hcounted | ⟨-, hcommitted⟩
      · exact hcounted.watermarks
      · exact hcommitted.watermarks
  | authorize recommendation instant =>
      exact watermarks_authorize s recommendation instant
  | revokeAuthorization authorization =>
      exact watermarks_revokeAuthorization s authorization
  | _ => exact (ends_step hkeyed rfl).watermarks

theorem lasting_loaded (load : LoadEvidence) :
    Lasting fun target => target.hasLoad = true ∧ target.load = load where
  scheduled := by
    intro before after heq hloaded
    have hfields := TargetState.mk.inj heq
    obtain ⟨-, -, hload, hhas, -⟩ := hfields
    rw [hload, hhas]
    exact hloaded
  undeclared := fun _ h => nomatch h.1
  retired := fun _ h => nomatch h.1

/-- Only evidence loads a target. -/
theorem loaded_step (hkeyed : ∀ k record,
      lookup s.migrations k = some record → record.intent.attempt = k)
    {op : Op} (hanew : s.startsAnew op = false)
    (hevidence : op.observes = none) {id : TargetId}
    {load : LoadEvidence}
    (h : (s.step op).Entry (fun target => target.hasLoad = true ∧
      target.load = load) id) :
    s.Entry (fun target => target.hasLoad = true ∧ target.load = load) id := by
  have hother : op.declared = none →
      s.Entry (fun target => target.hasLoad = true ∧ target.load = load) id :=
    fun hdeclare =>
      entry_step (lasting_loaded load) hkeyed hanew hdeclare hevidence h
  cases op with
  | declareTarget target answer =>
      rcases entry_declareTarget (lasting_loaded load) h with
        hold | ⟨-, hnew | ⟨existing, hexisting, hkept | hdropped⟩⟩
      · exact hold
      · exact nomatch hnew.1
      · exact (lasting_loaded load).entry_iff.mpr
          ⟨existing, hexisting, hkept⟩
      · exact nomatch hdropped.1
  | _ => exact hother rfl

theorem marksKeyed_step (hkeyed : ∀ k record,
      lookup s.migrations k = some record → record.intent.attempt = k)
    (h : s.MarksKeyed) {op : Op} (hanew : s.startsAnew op = false) :
    (s.step op).MarksKeyed := by
  have hother := @watermarks_step s hkeyed op hanew
  cases op with
  | ingestLoad evidence => exact (ingests_ingestLoad s evidence).marksKeyed h
  | _ =>
      unfold MarksKeyed
      rwa [hother rfl]

theorem loadsCovered_step (hkeyed : ∀ k record,
      lookup s.migrations k = some record → record.intent.attempt = k)
    (h : s.LoadsCovered) {op : Op} (hanew : s.startsAnew op = false) :
    (s.step op).LoadsCovered := by
  have hmarks := @watermarks_step s hkeyed op hanew
  have hloaded := @loaded_step s hkeyed op hanew
  cases op with
  | ingestLoad evidence =>
      exact (ingests_ingestLoad s evidence).loadsCovered h
  | _ =>
      intro id target htarget hload
      obtain ⟨old, hold, hhas, hsame⟩ :=
        @hloaded rfl id target.load ⟨target, htarget, hload, rfl⟩
      rw [hmarks rfl, ← hsame]
      exact h id old hold hhas

end Impl

end FlowOffload

import FlowOffload.Engine.Evidence
import FlowOffload.Laws.Reopen

/-!
# Replayed evidence

A `Feed` is an engine over its disk with the observations it has accepted.
The watermark of a source keeps it from accepting an older observation, but a
watermark is on disk only once some other operation has committed: accepting an
observation commits nothing.
-/

namespace FlowOffload

open Foundation
open Std (ExtTreeMap)

/-- An engine over its disk, and the observations it has accepted. -/
structure Feed where
  disk : Disk
  /-- Source and sequence of each, the latest first. -/
  accepted : List (EvidenceSourceId × EvidenceSequence) := []

namespace Feed

open Impl

def engine (f : Feed) : Impl := f.disk.engine

def begin (config : EngineConfig) : Feed := { disk := Disk.start config [] }

def observed (f : Feed) : Op → List (EvidenceSourceId × EvidenceSequence)
  | .ingestLoad evidence =>
      if (f.engine.ingestLoad evidence).2.ok then
        [(evidence.source, evidence.sourceSequence)]
      else []
  | _ => []

def step (f : Feed) (op : Op) : Feed :=
  { disk := f.disk.step op, accepted := f.observed op ++ f.accepted }

/-- The watermarks that a stored state gives back. -/
def marksOf : Option DurableState →
    ExtTreeMap EvidenceSourceId SourceWatermark
  | none => ∅
  | some state => indexBy SourceWatermark.source state.watermarks

/--
Persistence stays enabled, and the store gives back a state that is no older
than the last one it accepted.
-/
def allowed (f : Feed) : Op → Prop
  | .openEngine opening _ =>
      ∀ last ∈ f.disk.stored, ∃ state ∈ opening.state,
        ∀ mark ∈ last.watermarks,
          covers (marksOf (some state)) mark.source mark.sequence = true
  | .restart config => config.persistenceEnabled = true
  | _ => True

instance (f : Feed) : (op : Op) → Decidable (f.allowed op)
  | .openEngine opening _ => inferInstanceAs (Decidable
      (∀ last ∈ f.disk.stored, ∃ state ∈ opening.state,
        ∀ mark ∈ last.watermarks,
          covers (marksOf (some state)) mark.source mark.sequence = true))
  | .restart config => inferInstanceAs (Decidable
      (config.persistenceEnabled = true))
  | .shutdown _ | .registerFlow _ _ | .removeFlow _ _ _
  | .declareTarget _ _ | .removeTarget _ _ _ _ | .ingestLoad _
  | .setPolicy _ _ | .setTopologyGeneration _ _
  | .registerMigrationContract _ _ | .place _ _ | .rebalance _ _
  | .authorize _ _ | .revokeAuthorization _ | .issueIntent _ _ _
  | .acknowledge _ _ | .reportApplied _ _ | .observe _ _
  | .abortMigration _ _ _ => isTrue trivial

/-- The store has a watermark for everything that was accepted. -/
def Kept (f : Feed) : Prop :=
  ∀ entry ∈ f.accepted,
    covers (marksOf f.disk.stored) entry.1 entry.2 = true

instance (f : Feed) : Decidable f.Kept :=
  inferInstanceAs (Decidable (∀ entry ∈ f.accepted, _))

/--
An open engine ends, by a crash or by a shutdown that cannot commit, only when
what it has accepted is in the store.
-/
def CommitsFirst (f : Feed) : Op → Prop
  | .restart _ => f.engine.isOpen = true → f.Kept
  | .shutdown answer =>
      f.engine.isOpen = true → answer.ok = true ∨ f.Kept
  | _ => True

instance (f : Feed) : (op : Op) → Decidable (f.CommitsFirst op)
  | .restart _ => inferInstanceAs (Decidable
      (f.engine.isOpen = true → f.Kept))
  | .shutdown answer => inferInstanceAs (Decidable
      (f.engine.isOpen = true → answer.ok = true ∨ f.Kept))
  | .openEngine _ _ | .registerFlow _ _ | .removeFlow _ _ _
  | .declareTarget _ _ | .removeTarget _ _ _ _ | .ingestLoad _
  | .setPolicy _ _ | .setTopologyGeneration _ _
  | .registerMigrationContract _ _ | .place _ _ | .rebalance _ _
  | .authorize _ _ | .revokeAuthorization _ | .issueIntent _ _ _
  | .acknowledge _ _ | .reportApplied _ _ | .observe _ _
  | .abortMigration _ _ _ => isTrue trivial

/-- No accepted observation is below an earlier one of its source. -/
def Ordered (f : Feed) : Prop :=
  f.accepted.Pairwise fun later earlier =>
    later.1 = earlier.1 → ¬ later.2 < earlier.2

instance (f : Feed) : Decidable f.Ordered :=
  inferInstanceAs (Decidable (List.Pairwise _ _))

end Feed

/-- The life of a store that is fed with evidence, as a machine. -/
def feed : Machine Feed Op where
  step := Feed.step
  allowed := Feed.allowed

instance (f : Feed) (op : Op) : Decidable (feed.allowed f op) :=
  inferInstanceAs (Decidable (f.allowed op))

namespace Feed

open Impl

variable {f : Feed} {op : Op}

@[simp] theorem engine_step (f : Feed) (op : Op) :
    (f.step op).engine = f.engine.step op :=
  Disk.engine_step f.disk op

theorem observed_of_closed (h : f.engine.isOpen = false) (op : Op) :
    f.observed op = [] := by
  cases op with
  | ingestLoad evidence =>
      simp only [observed, ingestLoad, h, Bool.not_false, if_true]
      rfl
  | _ => rfl

theorem observed_of_none (h : op.observes = none) :
    f.observed op = [] := by
  cases op with
  | ingestLoad evidence => cases h
  | _ => rfl

theorem accepted_ingestLoad (f : Feed) (evidence : LoadEvidence) :
    (f.step (.ingestLoad evidence)).accepted =
      if (f.engine.ingestLoad evidence).2.ok then
        (evidence.source, evidence.sourceSequence) :: f.accepted
      else f.accepted := by
  simp only [step, observed]
  split <;> rfl

/-! ## What is kept -/

structure Marked (f : Feed) : Prop where
  keyed : f.engine.ledger.Keyed
  persist : f.engine.config.persistenceEnabled = true
  marks : f.engine.MarksKeyed
  loads : f.engine.LoadsCovered
  memory : f.engine.isOpen = true → ∀ entry ∈ f.accepted,
    covers f.engine.watermarks entry.1 entry.2 = true
  store : f.engine.isOpen = false → f.Kept
  ordered : f.Ordered

theorem marked_begin {config : EngineConfig}
    (hpersist : config.persistenceEnabled = true) :
    (begin config).Marked where
  keyed := (Disk.synced_start config []).keyed
  persist := hpersist
  marks := by
    intro source mark h
    change lookup ∅ source = some mark at h
    simp at h
  loads := by
    intro id target h
    change lookup ∅ id = some target at h
    simp at h
  memory := fun h => nomatch h
  store := fun _ _ h => nomatch h
  ordered := List.Pairwise.nil

/-! ## Within an incarnation -/

/-- An observation that is accepted is not below any earlier one. -/
theorem ordered_ingestLoad (h : f.Marked) (hopen : f.engine.isOpen = true)
    (evidence : LoadEvidence) : (f.step (.ingestLoad evidence)).Ordered := by
  have hingests := ingests_ingestLoad f.engine evidence
  unfold Ordered
  rw [accepted_ingestLoad]
  cases hok : (f.engine.ingestLoad evidence).2.ok with
  | false => exact h.ordered
  | true =>
      rw [hok] at hingests
      refine List.pairwise_cons.mpr ⟨?_, h.ordered⟩
      intro entry hentry hsource
      have hcovered := h.memory hopen entry hentry
      rw [← hsource] at hcovered
      rw [TypedId.lt_iff_toNat_lt]
      exact Nat.not_lt.mpr (hingests.not_below hcovered)

theorem memory_ingestLoad (h : f.Marked) (hopen : f.engine.isOpen = true)
    (evidence : LoadEvidence) :
    ∀ entry ∈ (f.step (.ingestLoad evidence)).accepted,
      covers (f.engine.ingestLoad evidence).1.watermarks entry.1 entry.2 =
        true := by
  have hingests := ingests_ingestLoad f.engine evidence
  have hold : ∀ entry ∈ f.accepted,
      covers (f.engine.ingestLoad evidence).1.watermarks entry.1 entry.2 =
        true :=
    fun entry hentry => hingests.covers (h.memory hopen entry hentry)
  rw [accepted_ingestLoad]
  cases hok : (f.engine.ingestLoad evidence).2.ok with
  | false => exact hold
  | true =>
      rw [hok] at hingests
      intro entry hentry
      rcases List.mem_cons.mp hentry with rfl | hentry
      · exact hingests.covers_accepted h.loads
      · exact hold entry hentry

theorem marked_of_open (h : f.Marked) (hopen : f.engine.isOpen = true)
    (hwithin : op.within = true) : (f.step op).Marked := by
  have hanew : f.engine.startsAnew op = false :=
    Life.not_startsAnew_of_within hwithin
  obtain ⟨hconfig, hisOpen, -, -⟩ := Disk.stays_within h.keyed hwithin
  have hmarks := @watermarks_step f.engine h.keyed.attempt op hanew
  have hobserved := @observed_of_none f op
  constructor
  case keyed =>
    rw [engine_step]
    exact keyed_step h.keyed op
  case persist =>
    rw [engine_step, hconfig]
    exact h.persist
  case marks =>
    rw [engine_step]
    exact marksKeyed_step h.keyed.attempt h.marks hanew
  case loads =>
    rw [engine_step]
    exact loadsCovered_step h.keyed.attempt h.loads hanew
  case memory =>
    intro _
    rw [engine_step]
    cases op with
    | ingestLoad evidence => exact memory_ingestLoad h hopen evidence
    | _ =>
        rw [hmarks rfl]
        change ∀ entry ∈ f.observed _ ++ f.accepted, _
        rw [hobserved rfl]
        exact h.memory hopen
  case store =>
    intro hclosed
    rw [engine_step, hisOpen, hopen] at hclosed
    cases hclosed
  case ordered =>
    cases op with
    | ingestLoad evidence => exact ordered_ingestLoad h hopen evidence
    | _ =>
        change (f.observed _ ++ f.accepted).Pairwise _
        rw [hobserved rfl]
        exact h.ordered

theorem step_of_closed_within (hclosed : f.engine.isOpen = false)
    (hwithin : op.within = true) : f.step op = f := by
  have hsame : f.disk.engine.step op = f.disk.engine :=
    Life.step_of_closed hclosed hwithin
  unfold step
  rw [observed_of_closed hclosed, Disk.step_of_quiet (by rw [hsame]), hsame]
  rfl

/-! ## The end of an incarnation -/

/-- A committed state gives back the watermarks it was built from. -/
theorem lookup_marksOf {s : Impl} (h : s.MarksKeyed)
    (source : EvidenceSourceId) :
    lookup (marksOf (some s.buildDurableLocked)) source =
      lookup s.watermarks source :=
  (lookup_indexBy_sortByKey (g := id) (m := s.watermarks)
    (sortByKey_perm _ _) h source).trans Option.map_id_apply

/-- What the store has once an open engine was shut down. -/
theorem stored_shutdown (hopen : f.engine.isOpen = true)
    (hpersist : f.engine.config.persistenceEnabled = true) (answer : Status) :
    (f.disk.step (.shutdown answer)).stored =
      if answer.ok then
        some (f.engine.persistLocked answer).1.buildDurableLocked
      else f.disk.stored := by
  have hopen' : f.disk.engine.isOpen = true := hopen
  have hpersist' : f.disk.engine.config.persistenceEnabled = true := hpersist
  have hshut : f.disk.engine.step (.shutdown answer) =
      { (f.disk.engine.persistLocked answer).1 with
        submitted := (f.disk.engine.persistLocked
          answer).1.buildDurableLocked ::
            (f.disk.engine.persistLocked answer).1.submitted
        isOpen := false } := by
    simp [Impl.step, shutdown, hopen', hpersist']
  have himage := submitted_persistLocked f.disk.engine answer
  rw [hpersist'] at himage
  rcases himage with ⟨hdisabled, -⟩ | ⟨-, image, himage, -⟩
  · cases hdisabled
  · unfold Disk.step
    dsimp only
    rw [if_neg (by rw [hshut]; simp [himage]; omega)]
    change (if answer.ok then _ else _ : Disk).stored = _
    split
    · rw [hshut]
      rfl
    · rfl

theorem kept_shutdown (h : f.Marked) (answer : Status)
    (hguard : f.CommitsFirst (.shutdown answer)) :
    (f.step (.shutdown answer)).Kept := by
  change ∀ entry ∈ f.accepted,
    covers (marksOf (f.disk.step (.shutdown answer)).stored) entry.1
      entry.2 = true
  cases hopen : f.engine.isOpen with
  | false =>
      have hquiet : (f.disk.engine.step (.shutdown answer)).submitted =
          f.disk.engine.submitted := by
        have hclosed : f.disk.engine.isOpen = false := hopen
        simp [Impl.step, shutdown, hclosed]
      rw [Disk.step_of_quiet hquiet]
      exact h.store hopen
  | true =>
      rw [stored_shutdown hopen h.persist]
      cases hok : answer.ok with
      | false =>
          rcases hguard hopen with haccepted | hkept
          · rw [hok] at haccepted
            cases haccepted
          · exact hkept
      | true =>
          intro entry hentry
          have hcovered := h.memory hopen entry hentry
          obtain ⟨_, _, heq⟩ := persistLocked_fst f.engine answer
          have hkeyed : (f.engine.persistLocked answer).1.MarksKeyed := by
            rw [heq]
            exact h.marks
          rw [covers_iff] at hcovered ⊢
          rw [if_pos rfl, lookup_marksOf hkeyed, heq]
          exact hcovered

theorem marked_shutdown (h : f.Marked) (answer : Status)
    (hguard : f.CommitsFirst (.shutdown answer)) :
    (f.step (.shutdown answer)).Marked := by
  obtain ⟨_, _, heq⟩ := Life.shutdown_eq f.engine answer
  have hengine : (f.step (.shutdown answer)).engine = _ :=
    (engine_step f _).trans heq
  constructor
  case keyed =>
    rw [hengine]
    exact h.keyed
  case persist =>
    rw [hengine]
    exact h.persist
  case marks =>
    rw [hengine]
    exact h.marks
  case loads =>
    rw [hengine]
    exact h.loads
  case memory =>
    rw [hengine]
    exact fun hopen => nomatch hopen
  case store => exact fun _ => kept_shutdown h answer hguard
  case ordered => exact h.ordered

theorem marked_restart (h : f.Marked) {config : EngineConfig}
    (hallowed : f.allowed (.restart config))
    (hguard : f.CommitsFirst (.restart config)) :
    (f.step (.restart config)).Marked := by
  have hengine : (f.step (.restart config)).engine =
      Impl.init config f.engine.submitted := engine_step f _
  have hfresh := Disk.synced_start config f.engine.submitted
  constructor
  case keyed =>
    rw [hengine]
    exact hfresh.keyed
  case persist =>
    rw [hengine]
    exact hallowed
  case marks =>
    rw [hengine]
    intro source mark hmark
    change lookup ∅ source = some mark at hmark
    simp at hmark
  case loads =>
    rw [hengine]
    intro id target htarget
    change lookup ∅ id = some target at htarget
    simp at htarget
  case memory =>
    rw [hengine]
    intro hopen
    cases hopen
  case store =>
    intro _
    have hstored : (f.disk.step (.restart config)).stored = f.disk.stored := by
      rw [Disk.step_of_quiet rfl]
    change ∀ entry ∈ f.accepted,
      covers (marksOf (f.disk.step (.restart config)).stored) entry.1
        entry.2 = true
    rw [hstored]
    cases hopen : f.engine.isOpen with
    | true => exact hguard hopen
    | false => exact h.store hopen
  case ordered => exact h.ordered

/-! ## The beginning of an incarnation -/

section Opening

variable {opening : StoreOpening} {answer : Status}

/-- What an opening finds has its watermarks under their sources. -/
theorem found_covered (h : f.Marked) (opening : StoreOpening) :
    (f.engine.found opening).1.MarksKeyed ∧
      (f.engine.found opening).1.LoadsCovered := by
  cases hstate : opening.state with
  | none =>
      rw [found_none h.persist hstate]
      exact ⟨h.marks, h.loads⟩
  | some state =>
      rw [found_some h.persist hstate]
      refine ⟨fun source mark hmark => (mem_of_lookup_indexBy hmark).2, ?_⟩
      intro id target htarget hload
      rw [(restored_undeclared f.engine opening htarget).2] at hload
      cases hload

theorem openEngine_covered (h : f.Marked) (hclosed : f.engine.isOpen = false)
    (opening : StoreOpening) (answer : Status) :
    (f.engine.openEngine opening answer).1.MarksKeyed ∧
      (f.engine.openEngine opening answer).1.LoadsCovered := by
  obtain ⟨_, _, _, _, hentering⟩ := entering_eq f.engine opening
  obtain ⟨_, _, hpersisted⟩ :=
    persistLocked_fst (f.engine.entering opening) answer
  have hfound := found_covered h opening
  cases hopen : (f.engine.openEngine opening answer).1.isOpen with
  | true =>
      rw [(opensWith hclosed hopen).result, hpersisted, hentering]
      exact hfound
  | false =>
      rcases openEngine_of_failed hclosed hopen with heq | heq | ⟨-, heq⟩
      · rw [heq]
        exact ⟨h.marks, h.loads⟩
      · rw [heq]
        exact hfound
      · rw [heq, hpersisted, hentering]
        exact hfound

/-- What the store gives back covers everything that was accepted. -/
theorem recovered_covers (hkept : f.Kept)
    (hallowed : f.allowed (.openEngine opening answer)) :
    f.accepted = [] ∨ ∃ state, opening.state = some state ∧
      ∀ entry ∈ f.accepted,
        covers (marksOf (some state)) entry.1 entry.2 = true := by
  cases hstored : f.disk.stored with
  | none =>
      refine Or.inl (List.eq_nil_iff_forall_not_mem.mpr ?_)
      intro entry hentry
      have hcovered := hkept entry hentry
      rw [hstored, covers_iff] at hcovered
      obtain ⟨mark, hmark, -⟩ := hcovered
      simp [marksOf] at hmark
  | some last =>
      obtain ⟨state, hstate, hnewer⟩ := hallowed last hstored
      refine Or.inr ⟨state, hstate, ?_⟩
      intro entry hentry
      have hcovered := hkept entry hentry
      rw [hstored, covers_iff] at hcovered
      obtain ⟨mark, hmark, hle⟩ := hcovered
      obtain ⟨hmem, hsource⟩ := mem_of_lookup_indexBy hmark
      obtain ⟨newer, hnewer, hge⟩ := covers_iff.mp (hnewer mark hmem)
      rw [covers_iff]
      exact ⟨newer, by rw [← hsource]; exact hnewer, Nat.le_trans hle hge⟩

/-- An engine that opens has loaded the watermarks it was given. -/
theorem watermarks_openEngine (h : f.Marked)
    (hclosed : f.engine.isOpen = false) {state : DurableState}
    (hstate : opening.state = some state)
    (hopen : (f.engine.openEngine opening answer).1.isOpen = true) :
    (f.engine.openEngine opening answer).1.watermarks =
      marksOf (some state) := by
  obtain ⟨_, _, _, _, hentering⟩ := entering_eq f.engine opening
  obtain ⟨_, _, hpersisted⟩ :=
    persistLocked_fst (f.engine.entering opening) answer
  rw [(opensWith hclosed hopen).result, hpersisted, hentering]
  change (f.engine.found opening).1.watermarks = _
  rw [found_some h.persist hstate]
  rfl

theorem marked_openEngine (h : f.Marked) (hclosed : f.engine.isOpen = false)
    (hallowed : f.allowed (.openEngine opening answer)) :
    (f.step (.openEngine opening answer)).Marked := by
  have hengine : (f.step (.openEngine opening answer)).engine =
      (f.engine.openEngine opening answer).1 := engine_step f _
  obtain ⟨hmarks, hloads⟩ := openEngine_covered h hclosed opening answer
  constructor
  case keyed =>
    rw [hengine]
    exact keyed_step h.keyed (.openEngine opening answer)
  case persist =>
    rw [hengine, (Life.openEngine_frame hclosed opening answer).1]
    exact h.persist
  case marks =>
    rw [hengine]
    exact hmarks
  case loads =>
    rw [hengine]
    exact hloads
  case memory =>
    rw [hengine]
    intro hopen
    change ∀ entry ∈ f.accepted, _
    rcases recovered_covers (h.store hclosed) hallowed with
      hnil | ⟨state, hstate, hcovers⟩
    · rw [hnil]
      exact fun _ hentry => nomatch hentry
    · rw [watermarks_openEngine h hclosed hstate hopen]
      exact hcovers
  case store =>
    rw [hengine]
    intro hfailed
    have hstored : (f.disk.step (.openEngine opening answer)).stored =
        f.disk.stored :=
      Life.stored_of_failed (l := { disk := f.disk }) hclosed hfailed
    change ∀ entry ∈ f.accepted,
      covers (marksOf (f.disk.step (.openEngine opening answer)).stored)
        entry.1 entry.2 = true
    rw [hstored]
    exact h.store hclosed
  case ordered => exact h.ordered

theorem step_of_open (hopen : f.engine.isOpen = true) :
    f.step (.openEngine opening answer) = f := by
  have hsame : f.disk.engine.step (.openEngine opening answer) =
      f.disk.engine := by
    have hopen' : f.disk.engine.isOpen = true := hopen
    simp [Impl.step, openEngine, hopen']
  unfold step
  rw [Disk.step_of_quiet (by rw [hsame]), hsame]
  rfl

end Opening

theorem marked_step (h : f.Marked) (hallowed : f.allowed op)
    (hguard : f.CommitsFirst op) : (f.step op).Marked := by
  cases hwithin : op.within with
  | true =>
      cases hopen : f.engine.isOpen with
      | true => exact marked_of_open h hopen hwithin
      | false =>
          rw [step_of_closed_within hopen hwithin]
          exact h
  | false =>
      cases op with
      | openEngine opening answer =>
          cases hopen : f.engine.isOpen with
          | true =>
              rw [step_of_open hopen]
              exact h
          | false => exact marked_openEngine h hopen hallowed
      | shutdown answer => exact marked_shutdown h answer hguard
      | restart config => exact marked_restart h hallowed hguard
      | _ => cases hwithin

/--
Over the life of a store in which no incarnation ends before what it accepted
is committed, no observation is accepted below an earlier one of its source.
-/
theorem evidence_is_never_replayed (config : EngineConfig)
    (hpersist : config.persistenceEnabled = true) (inputs : List Op)
    (h : feed.Admits CommitsFirst (begin config) inputs) :
    (feed.run (begin config) inputs).Ordered :=
  (h.invariant (P := Marked) (fun _ _ hs hallowed hguard =>
    marked_step hs hallowed hguard) (marked_begin hpersist)).ordered

def sampleLoad (source sequence : UInt64) : LoadEvidence :=
  { target := ⟨1⟩
    incarnation := ⟨1⟩
    capabilityGeneration := ⟨1⟩
    source := ⟨source⟩
    sourceSequence := ⟨sequence⟩
    observedAt := ⟨sequence⟩
    state := .known }

/-- An observation is accepted, and nothing is committed after it. -/
def observedLast : List Op :=
  [.openEngine { report := { usable := true } } committed,
    .declareTarget (sampleHost 1) committed,
    .ingestLoad (sampleLoad 1 5)]

/-- The engine opens again from what its store has. -/
def replayed (before : List Op) (sequence : UInt64) : List Op :=
  before ++
    [.openEngine
        { report := { usable := true }
          state := (feed.run (begin durableConfig) before).disk.stored }
        committed,
      .declareTarget (sampleHost 1) committed,
      .ingestLoad (sampleLoad 1 sequence)]

theorem committed_evidence_is_not_replayed :
    (feed.run (begin durableConfig) (replayed (observedLast ++
        [.shutdown committed, .restart durableConfig]) 5)).accepted =
      [(⟨1⟩, ⟨5⟩), (⟨1⟩, ⟨5⟩)] ∧
    (feed.run (begin durableConfig) (replayed (observedLast ++
        [.shutdown committed, .restart durableConfig]) 5)).Ordered :=
  ⟨by decide +kernel,
    evidence_is_never_replayed durableConfig rfl _ (by decide +kernel)⟩

/-- A crash right after the observation lets an older one in. -/
theorem crash_lets_older_evidence_in :
    feed.Admits (fun _ _ => True) (begin durableConfig)
        (replayed (observedLast ++ [.restart durableConfig]) 3) ∧
      (feed.run (begin durableConfig) (replayed (observedLast ++
        [.restart durableConfig]) 3)).accepted =
          [(⟨1⟩, ⟨3⟩), (⟨1⟩, ⟨5⟩)] ∧
      ¬ (feed.run (begin durableConfig) (replayed (observedLast ++
        [.restart durableConfig]) 3)).Ordered := by
  refine ⟨by decide +kernel, by decide +kernel, by decide +kernel⟩

end Feed

end FlowOffload

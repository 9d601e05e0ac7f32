import FlowOffload.Engine.Ingestion
import FlowOffload.Foundation.Disagreement
import FlowOffload.Laws.Freshness

/-!
# Sources that disagree about a target

A target keeps the last report about it and a flag for a disagreement at that
instant.  A `Lookout` also has every report that was accepted since the target
was last without load.  The flag is lowered by a second report of one source,
whatever the other sources said at that instant.
-/

namespace FlowOffload

open Foundation

/-- An engine, and what it accepted about one target since that target was
last without load. -/
structure Lookout where
  engine : Impl
  /-- The latest first. -/
  reports : List LoadEvidence := []

/-- Reports are compared by source, instant and utilisation. -/
def reading : Reading LoadEvidence EvidenceSourceId Nat CapacityVector where
  source := LoadEvidence.source
  instant evidence := evidence.observedAt.nanos.toNat
  value := LoadEvidence.utilized

namespace Lookout

open Impl

variable {id : TargetId} {w : Lookout} {op : Op}

def isLoaded (s : Impl) (id : TargetId) : Bool :=
  (s.targets[id]?).any fun target => target.hasLoad

def reported (s : Impl) (id : TargetId) (op : Op) : List LoadEvidence :=
  op.observes.toList.filter fun evidence =>
    evidence.target = id && (s.ingestLoad evidence).2.ok

def step (id : TargetId) (w : Lookout) (op : Op) : Lookout :=
  { engine := w.engine.step op
    reports := if isLoaded (w.engine.step op) id then
      reported w.engine id op ++ w.reports else [] }

def begin (config : EngineConfig) : Lookout := { engine := init config [] }

/-- If the sources disagree at the newest instant, the load is unknown for
that reason. -/
def KnowsConflict (id : TargetId) (w : Lookout) : Prop :=
  reading.Disagree w.reports →
    ∃ target, lookup w.engine.targets id = some target ∧
      ∀ instant, w.engine.effectiveLoadLocked target instant =
        { known := false, reason := .rejectedConflictingEvidence }

/-- The source that reported last is accepted once more for that instant,
while another source stands by a different utilisation. -/
def overrules (id : TargetId) (w : Lookout) (op : Op) : Prop :=
  ∃ evidence ∈ op.observes, evidence.target = id ∧
    (w.engine.ingestLoad evidence).2.ok = true ∧
    ((w.engine.targets[id]?).any fun target => target.hasLoad &&
      evidence.source = target.load.source &&
      evidence.observedAt = target.load.observedAt &&
      evidence ≠ target.load) = true ∧
    reading.Opposed w.reports evidence

instance (id : TargetId) (w : Lookout) (op : Op) :
    Decidable (overrules id w op) :=
  inferInstanceAs (Decidable (∃ evidence ∈ op.observes, _))

end Lookout

/-- An engine that is watched for one target, as a machine. -/
def lookout (id : TargetId) : Machine Lookout Op where
  step := Lookout.step id
  allowed w op := engine.allowed w.engine op

instance (id : TargetId) (w : Lookout) (op : Op) :
    Decidable ((lookout id).allowed w op) :=
  inferInstanceAs (Decidable (engine.allowed w.engine op))

namespace Impl

variable {s : Impl} {id : TargetId} {op : Op}

/-! ## What keeps a load -/

/-- What happens to an entry leaves a load as it was, unless it is about a new
observation of the target. -/
theorem EntryStep.load_kept {before after : Option TargetState}
    (h : EntryStep op id before after)
    (hop : ∀ evidence ∈ op.observes, evidence.target ≠ id)
    {target : TargetState} (hafter : after = some target)
    (hload : target.hasLoad = true) :
    ∃ old, before = some old ∧ old.hasLoad = true ∧ old.load = target.load ∧
      old.conflicting = target.conflicting := by
  cases h with
  | same => exact ⟨target, hafter, hload, rfl, rfl⟩
  | updated call named identity =>
      cases hafter
      exact ⟨_, rfl, hload, rfl, rfl⟩
  | loaded call named =>
      subst call
      exact absurd named (hop _ rfl)
  | undeclared | registered | advanced | replaced | removed =>
      cases hafter
      cases hload

/-- An opening finds no load but what the closed engine had. -/
theorem loaded_found {opening : StoreOpening} {target : TargetState}
    (h : lookup (s.found opening).1.targets id = some target)
    (hload : target.hasLoad = true) : lookup s.targets id = some target := by
  unfold found at h
  split at h
  · exact h
  · split at h
    · exact h
    · have hunloaded := (restored_undeclared s opening h).2
      exact absurd (hunloaded.symm.trans hload) (by decide)

theorem loaded_openEngine {opening : StoreOpening} {answer : Status}
    (hclosed : s.isOpen = false) {target : TargetState}
    (h : lookup (s.openEngine opening answer).1.targets id = some target)
    (hload : target.hasLoad = true) : lookup s.targets id = some target := by
  rcases enters_openEngine opening answer hclosed with hsame | hfound
  · obtain ⟨_, _, _, _, _, _, _, _, heq⟩ := hsame
    rw [heq] at h
    exact h
  · obtain ⟨_, _, _, _, _, _, _, _, heq⟩ := hfound
    rw [heq] at h
    exact loaded_found h hload

theorem load_kept (hkeyed : s.ledger.Keyed)
    (hop : ∀ evidence ∈ op.observes, evidence.target ≠ id)
    {target : TargetState}
    (hafter : lookup (s.step op).targets id = some target)
    (hload : target.hasLoad = true) :
    ∃ old, lookup s.targets id = some old ∧ old.hasLoad = true ∧
      old.load = target.load ∧ old.conflicting = target.conflicting := by
  cases hanew : s.startsAnew op with
  | false =>
      have hstep := entryStep_step hkeyed.attempt hanew id
      obtain ⟨entry, hentry, hkept⟩ := hstep.load_kept hop
        (Option.map_eq_some_iff.mpr ⟨target, hafter, rfl⟩) hload
      obtain ⟨old, hold, rfl⟩ := Option.map_eq_some_iff.mp hentry
      exact ⟨old, hold, hkept⟩
  | true =>
      cases op with
      | restart config =>
          change lookup ∅ id = some target at hafter
          simp at hafter
      | openEngine opening answer =>
          have hclosed : s.isOpen = false := by simpa [startsAnew] using hanew
          exact ⟨target, loaded_openEngine hclosed hafter hload, hload, rfl,
            rfl⟩
      | _ => cases hanew

theorem combineLoad_ne_conflict (model : LoadModel)
    (observed scheduled : CapacityVector) :
    (combineLoad model observed scheduled).reason ≠
      .rejectedConflictingEvidence := by
  unfold combineLoad
  -- a sum that is looked into is never done comparing
  generalize CapacityVector.checkedAdd observed scheduled = sum
  cases model with
  | observedOnly => exact nofun
  | scheduledOnly => exact nofun
  | maximumOfBoth => exact nofun
  | sumConservative | unknown =>
      cases sum with
      | none => exact nofun
      | some sum => exact nofun

theorem unknownReason_ne_conflict (target : TargetState) :
    unknownReason target ≠ .rejectedConflictingEvidence := by
  unfold unknownReason
  split
  · split <;> exact nofun
  · exact nofun

/-- The load of a target is unknown for a conflict only when its flag is
raised. -/
theorem conflict_of_effectiveLoadLocked {target : TargetState}
    {instant : Timestamp} (h : s.effectiveLoadLocked target instant =
      { known := false, reason := .rejectedConflictingEvidence }) :
    target.conflicting = true := by
  rw [effectiveLoadLocked_eq] at h
  have hreason := congrArg EffectiveLoad.reason h
  cases hconflicting : target.conflicting with
  | true => rfl
  | false =>
      rw [hconflicting, if_neg (by simp)] at hreason
      split at hreason
      · exact absurd hreason (unknownReason_ne_conflict target)
      · exact absurd hreason (combineLoad_ne_conflict _ _ _)

theorem effectiveLoadLocked_of_conflict {target : TargetState}
    (h : target.conflicting = true) (instant : Timestamp) :
    s.effectiveLoadLocked target instant =
      { known := false, reason := .rejectedConflictingEvidence } := by
  rw [effectiveLoadLocked_eq, h, if_pos rfl]

/-! ## One observation -/

theorem load_mergeEvidence (target : TargetState) (evidence : LoadEvidence) :
    (mergeEvidence target evidence).load = evidence ∧
      (mergeEvidence target evidence).hasLoad = true := by
  unfold mergeEvidence
  exact ⟨rfl, rfl⟩

/-- The flag is raised or kept by another source at the same instant, and
lowered by everything else. -/
theorem conflicting_mergeEvidence (target : TargetState)
    (evidence : LoadEvidence) :
    (mergeEvidence target evidence).conflicting =
      (target.hasLoad && target.load.source ≠ evidence.source &&
        evidence.observedAt = target.load.observedAt &&
        (evidence.utilized ≠ target.load.utilized || target.conflicting)) := by
  unfold mergeEvidence
  cases hload : target.hasLoad with
  | false => simp
  | true =>
      by_cases hsource : target.load.source = evidence.source
      · simp [hsource]
      · by_cases hinstant : evidence.observedAt = target.load.observedAt
        · by_cases hvalue : evidence.utilized = target.load.utilized
          · simp [hsource, hinstant, hvalue]
          · simp [hsource, hinstant, hvalue]
        · simp [hsource, hinstant]

theorem instant_eq_iff {a b : LoadEvidence} :
    reading.instant a = reading.instant b ↔ a.observedAt = b.observedAt := by
  obtain ⟨_, _, _, _, _, ⟨a⟩, _, _⟩ := a
  obtain ⟨_, _, _, _, _, ⟨b⟩, _, _⟩ := b
  simp [reading, UInt64.toNat_inj]

theorem instant_lt_iff {a b : LoadEvidence} :
    reading.instant a < reading.instant b ↔ a.observedAt < b.observedAt :=
  UInt64.lt_iff_toNat_lt.symm

theorem predates_iff {target : TargetState} {evidence : LoadEvidence} :
    predates target evidence = true ↔ target.hasLoad = true ∧
      reading.instant evidence < reading.instant target.load := by
  simp [predates, instant_lt_iff]

end Impl

namespace Lookout

open Impl

variable {id : TargetId} {w : Lookout} {op : Op}

/-! ## What a lookout keeps -/

/-- The reports begin with the load, and the last of them is the load. -/
structure Watched (id : TargetId) (w : Lookout) : Prop where
  keyed : w.engine.ledger.Keyed
  idle : isLoaded w.engine id = false → w.reports = []
  tracks : ∀ target, lookup w.engine.targets id = some target →
    target.hasLoad = true → reading.Tracks w.reports target.load

/-- A disagreement raises the flag. -/
def Flagged (id : TargetId) (w : Lookout) : Prop :=
  reading.Disagree w.reports → ∃ target,
    lookup w.engine.targets id = some target ∧ target.conflicting = true

theorem knowsConflict_iff : KnowsConflict id w ↔ Flagged id w := by
  constructor
  · intro h hdisagree
    obtain ⟨target, htarget, hunknown⟩ := h hdisagree
    exact ⟨target, htarget, conflict_of_effectiveLoadLocked (hunknown {})⟩
  · intro h hdisagree
    obtain ⟨target, htarget, hconflicting⟩ := h hdisagree
    exact ⟨target, htarget, effectiveLoadLocked_of_conflict hconflicting⟩

theorem isLoaded_iff {s : Impl} : isLoaded s id = true ↔
    ∃ target, lookup s.targets id = some target ∧ target.hasLoad = true :=
  Option.any_eq_true ..

theorem not_disagree_nil : ¬ reading.Disagree [] := by
  rintro ⟨_, h, -⟩
  cases h

/-- The load and the flag are what they were, if the target has a load. -/
def Unmoved (id : TargetId) (s t : Impl) : Prop :=
  ∀ target, lookup t.targets id = some target → target.hasLoad = true →
    ∃ old, lookup s.targets id = some old ∧ old.hasLoad = true ∧
      old.load = target.load ∧ old.conflicting = target.conflicting

theorem unmoved_of_targets {s t : Impl} (h : t.targets = s.targets) :
    Unmoved id s t := by
  intro target htarget hload
  rw [h] at htarget
  exact ⟨target, htarget, hload, rfl, rfl⟩

/-- Where no report is accepted, nothing changes for a loaded target. -/
theorem step_of_unreported (hreported : reported w.engine id op = []) :
    w.step id op =
      { engine := w.engine.step op
        reports := if isLoaded (w.engine.step op) id then w.reports
          else [] } := by
  rw [step, hreported]
  rfl

theorem Watched.unmoved (h : Watched id w)
    (hreported : reported w.engine id op = [])
    (hunmoved : Unmoved id w.engine (w.engine.step op)) :
    Watched id (w.step id op) := by
  rw [step_of_unreported hreported]
  refine ⟨keyed_step h.keyed op, fun hidle => ?_, fun target htarget hload =>
    ?_⟩
  · exact if_neg (by simpa using hidle)
  · obtain ⟨old, hold, hhas, hsame, -⟩ := hunmoved target htarget hload
    have hloaded : isLoaded (w.engine.step op) id = true :=
      isLoaded_iff.mpr ⟨target, htarget, hload⟩
    rw [← hsame]
    simp only [hloaded, if_true]
    exact h.tracks old hold hhas

theorem Flagged.unmoved (h : Flagged id w)
    (hreported : reported w.engine id op = [])
    (hunmoved : Unmoved id w.engine (w.engine.step op)) :
    Flagged id (w.step id op) := by
  rw [step_of_unreported hreported]
  intro hdisagree
  cases hloaded : isLoaded (w.engine.step op) id with
  | false =>
      simp only [hloaded, Bool.false_eq_true, if_false] at hdisagree
      exact absurd hdisagree not_disagree_nil
  | true =>
      simp only [hloaded, if_true] at hdisagree
      obtain ⟨target, htarget, hload⟩ := isLoaded_iff.mp hloaded
      obtain ⟨old, hold, -, -, hflag⟩ := hunmoved target htarget hload
      obtain ⟨found, hfound, hconflicting⟩ := h hdisagree
      rw [hold] at hfound
      cases hfound
      exact ⟨target, htarget, hflag.symm.trans hconflicting⟩

/-! ## An observation of the target -/

/-- What an accepted observation leaves to be watched. -/
structure Observes (id : TargetId) (w : Lookout) (evidence : LoadEvidence)
    (target after : TargetState) : Prop where
  before : lookup w.engine.targets id = some target
  found : lookup (w.engine.step (.ingestLoad evidence)).targets id = some after
  loaded : after.hasLoad = true
  reports : (w.step id (.ingestLoad evidence)).reports =
    evidence :: w.reports

theorem observes {evidence : LoadEvidence} {target after : TargetState}
    (hid : evidence.target = id)
    (hok : (w.engine.ingestLoad evidence).2.ok = true)
    (hbefore : lookup w.engine.targets id = some target)
    (hafter : lookup (w.engine.ingestLoad evidence).1.targets id = some after)
    (hload : after.hasLoad = true) : Observes id w evidence target after := by
  refine ⟨hbefore, hafter, hload, ?_⟩
  have hloaded : isLoaded (w.engine.step (.ingestLoad evidence)) id = true :=
    isLoaded_iff.mpr ⟨after, hafter, hload⟩
  have hreported : reported w.engine id (.ingestLoad evidence) =
      [evidence] := by
    simp [reported, Op.observes, hid, hok]
  unfold step
  rw [hloaded, if_pos rfl, hreported]
  rfl

theorem Observes.watched {evidence : LoadEvidence} {target after : TargetState}
    (h : Watched id w) (hobserves : Observes id w evidence target after)
    (htracks : reading.Tracks (evidence :: w.reports) after.load) :
    Watched id (w.step id (.ingestLoad evidence)) where
  keyed := keyed_step h.keyed _
  idle := by
    have hloaded : isLoaded (w.step id (.ingestLoad evidence)).engine id =
        true := isLoaded_iff.mpr ⟨after, hobserves.found, hobserves.loaded⟩
    rw [hloaded]
    exact nofun
  tracks := by
    intro found hfound _
    have hsame : some after = some found :=
      hobserves.found.symm.trans hfound
    cases hsame
    rw [hobserves.reports]
    exact htracks

theorem Observes.flagged_iff {evidence : LoadEvidence}
    {target after : TargetState}
    (hobserves : Observes id w evidence target after) :
    Flagged id (w.step id (.ingestLoad evidence)) ↔
      (reading.Disagree (evidence :: w.reports) →
        after.conflicting = true) := by
  unfold Flagged
  rw [hobserves.reports]
  refine imp_congr_right fun _ => ⟨?_, fun hflag =>
    ⟨after, hobserves.found, hflag⟩⟩
  rintro ⟨found, hfound, hflag⟩
  have hsame : some after = some found := hobserves.found.symm.trans hfound
  cases hsame
  exact hflag

/-- How the flag of a loaded target meets a disagreement after a report. -/
theorem flag_of_report {reports : List LoadEvidence} {target : TargetState}
    {evidence : LoadEvidence} (hload : target.hasLoad = true)
    (htracks : reading.Tracks reports target.load)
    (hnotOlder : predates target evidence = false)
    (hflag : reading.Disagree reports → target.conflicting = true)
    (hguard : evidence.source = target.load.source →
      evidence.observedAt = target.load.observedAt →
      ¬ reading.Opposed reports evidence)
    (hdisagree : reading.Disagree (evidence :: reports)) :
    (mergeEvidence target evidence).conflicting = true := by
  have hnext : reading.instant target.load ≤ reading.instant evidence := by
    refine Nat.not_lt.mp fun holder => ?_
    rw [predates_iff.mpr ⟨hload, holder⟩] at hnotOlder
    cases hnotOlder
  have hopposed := (htracks.next_disagree_iff hnext).mp hdisagree
  have hinstant : reading.instant evidence =
      reading.instant target.load := by
    refine Nat.le_antisymm (Nat.not_lt.mp fun hnewer => ?_) hnext
    exact htracks.not_opposed hnewer hopposed
  have hsource : target.load.source ≠ evidence.source := fun hsource =>
    hguard hsource.symm (instant_eq_iff.mp hinstant) hopposed
  rw [conflicting_mergeEvidence, hload]
  by_cases hvalue : evidence.utilized = target.load.utilized
  · have hbefore := htracks.opposed_of_agrees hinstant hvalue hopposed
    have hraised := hflag (htracks.disagree_iff.mpr hbefore)
    simp [hsource, instant_eq_iff.mp hinstant, hraised]
  · simp [hsource, instant_eq_iff.mp hinstant, hvalue]

/-- An accepted observation of the target repeats its load, is older than it,
or becomes its load. -/
theorem observes_cases {evidence : LoadEvidence}
    (hid : evidence.target = id)
    (hok : (w.engine.ingestLoad evidence).2.ok = true) :
    ∃ target,
      (target.hasLoad = true ∧ evidence = target.load ∧
        Observes id w evidence target target) ∨
      (target.hasLoad = true ∧ predates target evidence = true ∧
        Observes id w evidence target target) ∨
      (holds target evidence = false ∧ predates target evidence = false ∧
        Observes id w evidence target (mergeEvidence target evidence)) := by
  have htakes := takes_ingestLoad w.engine evidence
  cases htakes with
  | refused refused =>
      rw [hok] at refused
      cases refused
  | @repeated target matched stored same accepted targets =>
      have hload : target.hasLoad = true := by
        simp only [holds, Bool.and_eq_true] at stored
        exact stored.1.1
      have hknown := hid ▸ matched.known
      refine ⟨target, Or.inl ⟨hload, same, observes hid hok hknown ?_ hload⟩⟩
      rw [targets]
      exact hknown
  | @agreed target matched unstored older agreed accepted targets =>
      have hload := (predates_iff.mp older).1
      have hknown := hid ▸ matched.known
      refine ⟨target, Or.inr (Or.inl ⟨hload, older,
        observes hid hok hknown ?_ hload⟩)⟩
      rw [targets]
      exact hknown
  | @recorded target matched unstored notOlder room accepted targets =>
      have hknown := hid ▸ matched.known
      refine ⟨target, Or.inr (Or.inr ⟨unstored, notOlder,
        observes hid hok hknown ?_ (load_mergeEvidence _ _).2⟩)⟩
      rw [targets, lookup_insert, hid, Function.update_self]

/-- Either an observation of the target is accepted, or its load stays. -/
theorem accepted_or_unmoved (h : Watched id w) (op : Op) :
    (∃ evidence, op = .ingestLoad evidence ∧ evidence.target = id ∧
        (w.engine.ingestLoad evidence).2.ok = true) ∨
      reported w.engine id op = [] ∧
        Unmoved id w.engine (w.engine.step op) := by
  have hother : (∀ evidence ∈ op.observes, evidence.target ≠ id) →
      Unmoved id w.engine (w.engine.step op) :=
    fun hop target htarget hload => load_kept h.keyed hop htarget hload
  cases op with
  | ingestLoad evidence =>
      by_cases hid : evidence.target = id
      · cases hok : (w.engine.ingestLoad evidence).2.ok with
        | true => exact Or.inl ⟨evidence, rfl, hid, hok⟩
        | false =>
            refine Or.inr ⟨by simp [reported, Op.observes, hok], ?_⟩
            have htakes := takes_ingestLoad w.engine evidence
            cases htakes with
            | refused refused counted =>
                exact unmoved_of_targets counted.targets
            | repeated matched stored same accepted =>
                exact absurd (hok.symm.trans accepted) (by decide)
            | agreed matched unstored older agreed accepted =>
                exact absurd (hok.symm.trans accepted) (by decide)
            | recorded matched unstored notOlder room accepted =>
                exact absurd (hok.symm.trans accepted) (by decide)
      · refine Or.inr ⟨by simp [reported, Op.observes, hid], hother ?_⟩
        rintro _ ⟨⟩
        exact hid
  | _ => exact Or.inr ⟨rfl, hother fun _ h => nomatch h⟩

theorem Watched.reports_of_unloaded (h : Watched id w) {target : TargetState}
    (hfound : lookup w.engine.targets id = some target)
    (hload : target.hasLoad = false) : w.reports = [] := by
  refine h.idle ?_
  rw [← Bool.not_eq_true, isLoaded_iff]
  rintro ⟨found, hlookup, hhas⟩
  rw [hfound] at hlookup
  cases hlookup
  exact absurd (hload.symm.trans hhas) (by decide)

theorem overrules_iff {evidence : LoadEvidence} {target : TargetState}
    (hfound : lookup w.engine.targets id = some target) :
    overrules id w (.ingestLoad evidence) ↔ evidence.target = id ∧
      (w.engine.ingestLoad evidence).2.ok = true ∧ target.hasLoad = true ∧
      evidence.source = target.load.source ∧
      evidence.observedAt = target.load.observedAt ∧
      evidence ≠ target.load ∧ reading.Opposed w.reports evidence := by
  have hget : w.engine.targets[id]? = some target := hfound
  simp [overrules, Op.observes, hget, and_assoc]

theorem watched_step (h : Watched id w) (op : Op) :
    Watched id (w.step id op) := by
  rcases accepted_or_unmoved h op with
    ⟨evidence, rfl, hid, hok⟩ | ⟨hreported, hunmoved⟩
  · obtain ⟨target, ⟨hload, hsame, hobserves⟩ | ⟨hload, holder, hobserves⟩ |
      ⟨-, hnotOlder, hobserves⟩⟩ := observes_cases hid hok
    · refine hobserves.watched h ?_
      rw [hsame]
      exact (h.tracks target hobserves.before hload).again.1
    · refine hobserves.watched h ?_
      exact ((h.tracks target hobserves.before hload).older
        (predates_iff.mp holder).2).1
    · refine hobserves.watched h ?_
      rw [(load_mergeEvidence target evidence).1]
      cases hload : target.hasLoad with
      | false =>
          rw [h.reports_of_unloaded hobserves.before hload]
          exact Reading.tracks_singleton evidence
      | true =>
          refine (h.tracks target hobserves.before hload).next ?_
          refine Nat.not_lt.mp fun holder => ?_
          rw [predates_iff.mpr ⟨hload, holder⟩] at hnotOlder
          cases hnotOlder
  · exact h.unmoved hreported hunmoved

/-- Unless a source overrules the others, a disagreement raises the flag. -/
theorem flagged_step (h : Watched id w) (hflag : Flagged id w)
    (hguard : ¬ overrules id w op) : Flagged id (w.step id op) := by
  rcases accepted_or_unmoved h op with
    ⟨evidence, rfl, hid, hok⟩ | ⟨hreported, hunmoved⟩
  · obtain ⟨target, hcases⟩ := observes_cases hid hok
    have hbefore : lookup w.engine.targets id = some target →
        reading.Disagree w.reports → target.conflicting = true := by
      intro htarget hdisagree
      obtain ⟨found, hfound, hconflicting⟩ := hflag hdisagree
      rw [htarget] at hfound
      cases hfound
      exact hconflicting
    rcases hcases with ⟨hload, hsame, hobserves⟩ |
      ⟨hload, holder, hobserves⟩ | ⟨hunstored, hnotOlder, hobserves⟩
    · rw [hobserves.flagged_iff, hsame,
        (h.tracks target hobserves.before hload).again.2]
      exact hbefore hobserves.before
    · rw [hobserves.flagged_iff,
        ((h.tracks target hobserves.before hload).older
          (predates_iff.mp holder).2).2]
      exact hbefore hobserves.before
    · rw [hobserves.flagged_iff]
      intro hdisagree
      cases hload : target.hasLoad with
      | false =>
          rw [h.reports_of_unloaded hobserves.before hload] at hdisagree
          exact absurd hdisagree (Reading.not_disagree_singleton evidence)
      | true =>
          refine flag_of_report hload
            (h.tracks target hobserves.before hload) hnotOlder
            (hbefore hobserves.before) ?_ hdisagree
          intro hsource hinstant hopposed
          refine hguard ((overrules_iff hobserves.before).mpr
            ⟨hid, hok, hload, hsource, hinstant, fun hsame => ?_, hopposed⟩)
          simp [holds, hload, ← hsame] at hunstored
  · exact hflag.unmoved hreported hunmoved

/-- A source that overrules the others lowers the flag they raised. -/
theorem not_flagged_of_overrules (h : Watched id w)
    (hover : overrules id w op) : ¬ Flagged id (w.step id op) := by
  have hcalled := hover
  obtain ⟨evidence, hobserves, -⟩ := hcalled
  have hcall := Op.eq_ingestLoad hobserves
  subst hcall
  have hcalled := hover
  obtain ⟨_, ⟨⟩, hid, hok, -⟩ := hcalled
  obtain ⟨target, hcases⟩ := observes_cases hid hok
  rcases hcases with ⟨hload, hsame, hobserves⟩ |
    ⟨hload, holder, hobserves⟩ | ⟨-, hnotOlder, hobserves⟩
  all_goals
    obtain ⟨-, -, hload, hsource, hinstant, hother, hopposed⟩ :=
      (overrules_iff hobserves.before).mp hover
    have hinstants := instant_eq_iff.mpr hinstant
  · exact absurd hsame hother
  · exact absurd (predates_iff.mp holder).2 (by omega)
  · rw [hobserves.flagged_iff]
    intro hflag
    have hdisagree := ((h.tracks target hobserves.before
      hload).next_disagree_iff (Nat.le_of_eq hinstants.symm)).mpr hopposed
    have hraised := hflag hdisagree
    rw [conflicting_mergeEvidence] at hraised
    simp [hsource] at hraised

/-! ## Runs -/

theorem watched_begin (config : EngineConfig) (id : TargetId) :
    Watched id (begin config) where
  keyed := (Disk.synced_start config []).keyed
  idle _ := rfl
  tracks := by
    intro target htarget
    change lookup ∅ id = some target at htarget
    simp at htarget

theorem flagged_run_iff {inputs : List Op} (h : Watched id w)
    (hflag : Flagged id w)
    (hrun : (lookout id).Admits (fun _ _ => True) w inputs) :
    (∀ seen, seen <+: inputs → Flagged id ((lookout id).run w seen)) ↔
      (lookout id).Admits (fun w op => ¬ overrules id w op) w inputs := by
  induction inputs generalizing w with
  | nil =>
      refine ⟨fun _ => trivial, fun _ seen hseen => ?_⟩
      rw [List.prefix_nil.mp hseen]
      exact hflag
  | cons op inputs ih =>
      obtain ⟨hallowed, -, hrest⟩ := hrun
      have hwatched := watched_step h op
      constructor
      · intro hseen
        have hguard : ¬ overrules id w op := fun hover =>
          not_flagged_of_overrules h hover
            (hseen [op] (List.prefix_append [op] inputs))
        refine ⟨hallowed, hguard, (ih hwatched
          (flagged_step h hflag hguard) hrest).mp fun seen hprefix => ?_⟩
        exact hseen (op :: seen) (List.cons_prefix_cons.mpr ⟨rfl, hprefix⟩)
      · rintro ⟨-, hguard, hguards⟩ seen hseen
        cases seen with
        | nil => exact hflag
        | cons first seen =>
            obtain ⟨rfl, hprefix⟩ := List.cons_prefix_cons.mp hseen
            exact (ih hwatched (flagged_step h hflag hguard) hrest).mpr
              hguards seen hprefix

/--
Throughout a run a disagreement at the newest instant makes the load unknown
if, and only if, no source is accepted twice in a row for one instant against
what another source last said of it.
-/
theorem conflicts_are_known_iff (config : EngineConfig) (id : TargetId)
    (inputs : List Op)
    (h : (lookout id).Admits (fun _ _ => True) (begin config) inputs) :
    (∀ seen, seen <+: inputs →
        KnowsConflict id ((lookout id).run (begin config) seen)) ↔
      (lookout id).Admits (fun w op => ¬ overrules id w op) (begin config)
        inputs := by
  simp only [knowsConflict_iff]
  refine flagged_run_iff (watched_begin config id) ?_ h
  exact fun hdisagree => absurd hdisagree not_disagree_nil

/-- What a source says of a host at one instant. -/
def saying (source sequence used : UInt64) : Op :=
  .ingestLoad { Feed.sampleLoad source sequence with
    observedAt := ⟨7⟩
    utilized := ⟨used, 0, 0, 0⟩ }

/-- Two sources disagree about a host. -/
def twoSayings : List Op :=
  [.openEngine {} committed, .setPolicy observedPolicy committed,
    .declareTarget (sampleHost 1) committed, saying 1 1 10, saying 2 1 20]

example : (FlowOffload.engine.run (Impl.init sampleConfig [])
    twoSayings).counters.evidenceConflicts = 1 := by
  decide +kernel

theorem two_sayings_conflict :
    reading.Disagree
        ((lookout ⟨1⟩).run (begin sampleConfig) twoSayings).reports ∧
      KnowsConflict ⟨1⟩ ((lookout ⟨1⟩).run (begin sampleConfig) twoSayings) :=
  ⟨by decide +kernel,
    (conflicts_are_known_iff sampleConfig ⟨1⟩ twoSayings
      (by decide +kernel)).mpr (by decide +kernel) twoSayings
        List.prefix_rfl⟩

/-- The second source says it again, and its word is taken for the load. -/
theorem saying_it_twice_settles_it :
    (lookout ⟨1⟩).Admits (fun _ _ => True) (begin sampleConfig)
        (twoSayings ++ [saying 2 2 20]) ∧
      reading.Disagree ((lookout ⟨1⟩).run (begin sampleConfig)
        (twoSayings ++ [saying 2 2 20])).reports ∧
      ∃ target, lookup ((lookout ⟨1⟩).run (begin sampleConfig)
          (twoSayings ++ [saying 2 2 20])).engine.targets ⟨1⟩ = some target ∧
        ((lookout ⟨1⟩).run (begin sampleConfig)
          (twoSayings ++ [saying 2 2 20])).engine.effectiveLoadLocked target
            ⟨7⟩ = ⟨true, ⟨20, 0, 0, 0⟩, .ok⟩ := by
  refine ⟨by decide +kernel, by decide +kernel, ?_⟩
  have hload : ((((lookout ⟨1⟩).run (begin sampleConfig)
      (twoSayings ++ [saying 2 2 20])).engine.targets[(⟨1⟩ : TargetId)]?).any
        fun target => ((lookout ⟨1⟩).run (begin sampleConfig)
          (twoSayings ++ [saying 2 2 20])).engine.effectiveLoadLocked target
            ⟨7⟩ = ⟨true, ⟨20, 0, 0, 0⟩, .ok⟩) = true := by
    decide +kernel
  obtain ⟨target, htarget, hknown⟩ := (Option.any_eq_true ..).mp hload
  exact ⟨target, htarget, of_decide_eq_true hknown⟩

end Lookout

end FlowOffload

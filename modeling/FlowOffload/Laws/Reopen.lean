import FlowOffload.Engine.Authority
import FlowOffload.Laws.Conservative
import FlowOffload.Laws.Durability

/-!
# Opening an engine again

One engine object lives through several incarnations.  A `Life` is the engine
over its disk with the history a caller could keep of it: the incarnations so
far, the attempts that were in flight when it was last shut down, and what was
handed out since it was last opened.
-/

namespace FlowOffload

open Foundation

/-- An engine object, and what its callers remember. -/
structure Life where
  disk : Disk
  /-- Epoch and boot of every opening that succeeded, the latest first. -/
  incarnations : List (CoordinatorEpoch × BootId) := []
  /-- The attempts in flight at the latest shutdown. -/
  left : List MigrationAttemptId := []
  recommended : List RecommendationId := []
  granted : List AuthorizationId := []

namespace Life

open Impl

def engine (l : Life) : Impl := l.disk.engine

def begin (config : EngineConfig) : Life := { disk := Disk.start config [] }

/-- The attempts that have not ended. -/
def inFlight (s : Impl) : List MigrationAttemptId :=
  s.migrations.toList.filterMap fun entry =>
    if entry.2.inFlight then some entry.1 else none

def step (l : Life) (op : Op) : Life :=
  let after := l.disk.step op
  match op with
  | .openEngine _ _ =>
      if !l.engine.isOpen && after.engine.isOpen then
        { l with
          disk := after
          incarnations :=
            (after.engine.epoch, after.engine.boot) :: l.incarnations
          recommended := []
          granted := [] }
      else { l with disk := after }
  | .shutdown _ =>
      { l with
        disk := after
        left := if l.engine.isOpen then inFlight l.engine else l.left }
  | _ =>
      { l with
        disk := after
        recommended := l.engine.recommended op ++ l.recommended
        granted := l.engine.granted op ++ l.granted }

/-- The store gives back a state, and none older than what it accepted. -/
def allowed (l : Life) : Op → Prop
  | .openEngine opening _ =>
      ∀ last ∈ l.disk.stored, ∃ state ∈ opening.state,
        last.epoch.value ≤ state.epoch.value
  | _ => True

instance (l : Life) : (op : Op) → Decidable (l.allowed op)
  | .openEngine opening _ => inferInstanceAs (Decidable
      (∀ last ∈ l.disk.stored, ∃ state ∈ opening.state,
        last.epoch.value ≤ state.epoch.value))
  | .shutdown _ | .restart _ | .registerFlow _ _ | .removeFlow _ _ _
  | .declareTarget _ _ | .removeTarget _ _ _ _ | .ingestLoad _
  | .setPolicy _ _ | .setTopologyGeneration _ _
  | .registerMigrationContract _ _ | .place _ _ | .rebalance _ _
  | .authorize _ _ | .revokeAuthorization _ | .issueIntent _ _ _
  | .acknowledge _ _ | .reportApplied _ _ | .observe _ _
  | .abortMigration _ _ _ => isTrue trivial

end Life

/-- The life of an engine object as a machine. -/
def life : Machine Life Op where
  step := Life.step
  allowed := Life.allowed

instance (l : Life) (op : Op) : Decidable (life.allowed l op) :=
  inferInstanceAs (Decidable (l.allowed op))

namespace Life

open Impl

variable {l : Life} {op : Op}

/-- The recovered state has the attempt, and does not have it as ended by
itself. -/
def Unfinished (state : DurableState) (k : MigrationAttemptId) : Prop :=
  (∃ record ∈ state.migrations, record.intent.attempt = k) ∧
    ∀ record ∈ state.migrations, record.intent.attempt = k →
      record.intent.phase ≠ .completed ∧ record.intent.phase ≠ .aborted

instance (state : DurableState) (k : MigrationAttemptId) :
    Decidable (Unfinished state k) :=
  inferInstanceAs (Decidable (_ ∧ _))

/--
The object is not replaced, and what it recovers when it opens again still has
the attempts that were in flight when it was shut down.
-/
def Reopens (l : Life) : Op → Prop
  | .restart _ => False
  | .openEngine opening _ =>
      l.engine.isOpen = false → l.incarnations ≠ [] →
        ∀ state ∈ opening.state, ∀ k ∈ l.left, Unfinished state k
  | _ => True

instance (l : Life) : (op : Op) → Decidable (l.Reopens op)
  | .restart _ => isFalse id
  | .openEngine opening _ => inferInstanceAs (Decidable
      (l.engine.isOpen = false → l.incarnations ≠ [] →
        ∀ state ∈ opening.state, ∀ k ∈ l.left, Unfinished state k))
  | .shutdown _ | .registerFlow _ _ | .removeFlow _ _ _
  | .declareTarget _ _ | .removeTarget _ _ _ _ | .ingestLoad _
  | .setPolicy _ _ | .setTopologyGeneration _ _
  | .registerMigrationContract _ _ | .place _ _ | .rebalance _ _
  | .authorize _ _ | .revokeAuthorization _ | .issueIntent _ _ _
  | .acknowledge _ _ | .reportApplied _ _ | .observe _ _
  | .abortMigration _ _ _ => isTrue trivial

/-- Nothing of an earlier incarnation has force in the current one. -/
structure Fenced (l : Life) : Prop where
  incarnations : l.incarnations.Nodup
  attempts : l.engine.isOpen = true → ∀ k ∈ l.left,
    ∃ record, lookup l.engine.migrations k = some record ∧
      record.intent.phase = .fenced
  recommendations : ∀ id, id ∉ l.recommended → ∀ instant,
    l.engine.accepted (.authorize id instant) = false
  authorizations : ∀ id, id ∉ l.granted → ∀ wanted answer,
    l.engine.accepted (.issueIntent id wanted answer) = false

/-! ## What is kept -/

structure Sealed (l : Life) : Prop where
  keyed : l.engine.ledger.Keyed
  persist : l.engine.config.persistenceEnabled = true
  nodup : l.incarnations.Nodup
  stored : ∀ pair ∈ l.incarnations, ∃ last, l.disk.stored = some last ∧
    pair.1.value.toNat ≤ last.epoch.value.toNat
  current : l.engine.isOpen = true → l.incarnations ≠ [] ∧
    ∀ pair ∈ l.incarnations, pair.1.value.toNat ≤ l.engine.epoch.value.toNat
  unopened : l.incarnations = [] →
    l.left = [] ∧ l.recommended = [] ∧ l.granted = []
  fenced : l.engine.isOpen = true → ∀ k ∈ l.left,
    ∃ record, lookup l.engine.migrations k = some record ∧
      record.intent.phase = .fenced
  recommendations : ∀ k r, lookup l.engine.recommendations k = some r →
    k ∈ l.recommended
  authorizations : ∀ k a, lookup l.engine.authorizations k = some a →
    k ∈ l.granted

theorem Sealed.fenced_of (h : l.Sealed) : l.Fenced where
  incarnations := h.nodup
  attempts := h.fenced
  recommendations := by
    intro id hid instant
    have hnone : l.engine.recommendations[id]? = none := by
      cases hfound : l.engine.recommendations[id]? with
      | none => rfl
      | some r => exact absurd (h.recommendations id r hfound) hid
    change (l.engine.authorize id instant).2.1.ok = false
    unfold authorize
    split
    · rfl
    · rw [hnone]
      rfl
  authorizations := by
    intro id hid wanted answer
    have hnone : l.engine.authorizations[id]? = none := by
      cases hfound : l.engine.authorizations[id]? with
      | none => rfl
      | some a => exact absurd (h.authorizations id a hfound) hid
    change (l.engine.issueIntent id wanted answer).2.1.ok = false
    unfold issueIntent
    split
    · rfl
    · rw [hnone]
      rfl

theorem sealed_begin {config : EngineConfig}
    (hpersist : config.persistenceEnabled = true) :
    (begin config).Sealed where
  keyed := (Disk.synced_start config []).keyed
  persist := hpersist
  nodup := List.nodup_nil
  stored := fun _ h => nomatch h
  current := fun h => nomatch h
  unopened := fun _ => ⟨rfl, rfl, rfl⟩
  fenced := fun h => nomatch h
  recommendations := by
    intro k r h
    have hempty : lookup (∅ : Std.ExtTreeMap RecommendationId
        Recommendation) k = some r := h
    simp at hempty
  authorizations := by
    intro k a h
    have hempty : lookup (∅ : Std.ExtTreeMap AuthorizationId
        Authorization) k = some a := h
    simp at hempty

/-! ## Operations -/

/-- An engine that is closed ignores everything but an opening. -/
theorem step_of_closed {s : Impl} (h : s.isOpen = false)
    (hwithin : op.within = true) : s.step op = s := by
  cases op with
  | openEngine opening answer => cases hwithin
  | shutdown answer => cases hwithin
  | restart config => cases hwithin
  | registerFlow flow answer => simp [Impl.step, registerFlow, h]
  | removeFlow flow generation answer => simp [Impl.step, removeFlow, h]
  | declareTarget target answer => simp [Impl.step, declareTarget, h]
  | removeTarget target incarnation instant answer =>
      simp [Impl.step, removeTarget, h]
  | ingestLoad evidence => simp [Impl.step, ingestLoad, h]
  | setPolicy policy answer => simp [Impl.step, setPolicy, h]
  | setTopologyGeneration generation answer =>
      simp [Impl.step, setTopologyGeneration, h]
  | registerMigrationContract contract answer =>
      simp [Impl.step, registerMigrationContract, h]
  | place request answer => simp [Impl.step, placeLocked, h]
  | rebalance request answer => simp [Impl.step, rebalanceLocked, h]
  | authorize recommendation instant => simp [Impl.step, authorize, h]
  | revokeAuthorization authorization =>
      simp [Impl.step, revokeAuthorization, h]
  | issueIntent authorization wanted answer =>
      simp [Impl.step, issueIntent, h]
  | acknowledge ack answer => simp [Impl.step, acknowledge, h]
  | reportApplied effect answer => simp [Impl.step, reportApplied, h]
  | observe observation answer => simp [Impl.step, observe, h]
  | abortMigration attempt reason answer =>
      simp [Impl.step, abortMigration, h]

theorem handed_of_closed {s : Impl} (h : s.isOpen = false) (op : Op) :
    s.recommended op = [] ∧ s.granted op = [] := by
  cases op with
  | place request answer => simp [Impl.recommended, Impl.granted,
      placeLocked, h]
  | authorize recommendation instant =>
      refine ⟨rfl, ?_⟩
      simp only [Impl.granted, authorize, h, Bool.not_false, if_true]
      rfl
  | _ => exact ⟨rfl, rfl⟩

theorem step_within (h : op.within = true) :
    l.step op =
      { l with
        disk := l.disk.step op
        recommended := l.engine.recommended op ++ l.recommended
        granted := l.engine.granted op ++ l.granted } := by
  cases op with
  | openEngine opening answer => cases h
  | shutdown answer => cases h
  | restart config => cases h
  | _ => rfl

theorem not_startsAnew_of_within {s : Impl} (h : op.within = true) :
    s.startsAnew op = false := by
  cases op with
  | openEngine opening answer => cases h
  | restart config => cases h
  | _ => rfl

/-- A commit in the current incarnation is newer than what was stored. -/
theorem stored_of_commit {pairs : List (CoordinatorEpoch × BootId)}
    {t : Impl} (h : ∀ pair ∈ pairs, ∃ last, l.disk.stored = some last ∧
      pair.1.value.toNat ≤ last.epoch.value.toNat)
    (hcurrent : ∀ pair ∈ pairs, pair.1.value.toNat ≤ t.epoch.value.toNat)
    (hsubmitted : t.submitted = l.engine.submitted)
    (hstep : l.engine.step op = (t.persistLocked op.answer).1) :
    ∀ pair ∈ pairs, ∃ last, (l.disk.step op).stored = some last ∧
      pair.1.value.toNat ≤ last.epoch.value.toNat := by
  intro pair hpair
  have himage := submitted_persistLocked t op.answer
  rw [← hstep, hsubmitted] at himage
  rcases himage with ⟨-, hquiet⟩ | ⟨-, image, himage, -, hepoch, -⟩
  · rw [Disk.step_of_quiet hquiet]
    exact h pair hpair
  · cases hok : op.answer.ok with
    | true =>
        rw [Disk.step_of_saved himage hok]
        exact ⟨image, rfl, by rw [hepoch]; exact hcurrent pair hpair⟩
    | false =>
        rw [Disk.step_of_unsaved himage hok]
        exact h pair hpair

theorem step_of_closed_within (hclosed : l.engine.isOpen = false)
    (hwithin : op.within = true) : l.step op = l := by
  have hsame : l.disk.engine.step op = l.disk.engine :=
    step_of_closed hclosed hwithin
  obtain ⟨hrecommended, hgranted⟩ := handed_of_closed hclosed op
  rw [step_within hwithin, hrecommended, hgranted,
    Disk.step_of_quiet (by rw [hsame]), hsame]
  rfl

theorem sealed_within (h : l.Sealed) (hwithin : op.within = true) :
    (l.step op).Sealed := by
  cases hopen : l.engine.isOpen with
  | false =>
      rw [step_of_closed_within hopen hwithin]
      exact h
  | true =>
      have hanew := not_startsAnew_of_within (s := l.engine) hwithin
      obtain ⟨hconfig, hisOpen, hepoch, -⟩ :=
        Disk.stays_within h.keyed hwithin
      have hengine : (l.step op).engine = l.engine.step op := by
        rw [step_within hwithin]
        exact Disk.engine_step l.disk op
      have hcurrent := h.current hopen
      constructor
      case keyed =>
        rw [hengine]
        exact keyed_step h.keyed op
      case persist =>
        rw [hengine, hconfig]
        exact h.persist
      case nodup =>
        rw [step_within hwithin]
        exact h.nodup
      case stored =>
        rw [step_within hwithin]
        cases passes h.keyed hwithin with
        | quiet stays keeps =>
            rw [show l.disk.step op = _ from
              Disk.step_of_quiet stays.submitted]
            exact h.stored
        | redeclared call found known step =>
            rw [show l.disk.step op = _ from
              Disk.step_of_quiet (by
                rw [show l.disk.engine.step op = _ from step]
                rfl)]
            exact h.stored
        | commits stays step =>
            refine stored_of_commit h.stored ?_ stays.submitted step
            rw [stays.epoch]
            exact hcurrent.2
      case current =>
        intro _
        rw [hengine, hepoch]
        rw [step_within hwithin]
        exact hcurrent
      case unopened =>
        rw [step_within hwithin]
        exact fun hnone => absurd hnone hcurrent.1
      case fenced =>
        intro _ k hk
        rw [step_within hwithin] at hk
        obtain ⟨record, hrecord, hphase⟩ := h.fenced hopen k hk
        refine ⟨record, ?_, hphase⟩
        rw [hengine]
        exact (sparesFenced h.keyed hanew).attempts k record hrecord hphase
      case recommendations =>
        intro k r hr
        rw [hengine] at hr
        rw [step_within hwithin, List.mem_append]
        rcases recommended_step h.keyed.attempt hanew hr with
          ⟨old, hold⟩ | hnew
        · exact Or.inr (h.recommendations k old hold)
        · exact Or.inl hnew
      case authorizations =>
        intro k a ha
        rw [hengine] at ha
        rw [step_within hwithin, List.mem_append]
        rcases granted_step h.keyed.attempt hanew ha with ⟨old, hold⟩ | hnew
        · exact Or.inr (h.authorizations k old hold)
        · exact Or.inl hnew

/-- Shutting down closes the engine and leaves everything else. -/
theorem shutdown_eq (s : Impl) (answer : Status) :
    ∃ counters submitted, s.shutdown answer =
      { s with
        isOpen := false
        counters := counters
        submitted := submitted } := by
  unfold shutdown
  split
  · obtain ⟨counters, submitted, heq⟩ := persistLocked_fst s answer
    rw [heq]
    exact ⟨_, _, rfl⟩
  · exact ⟨_, _, rfl⟩

theorem stored_shutdown {answer : Status}
    (hpersist : l.engine.config.persistenceEnabled = true)
    {pairs : List (CoordinatorEpoch × BootId)}
    (h : ∀ pair ∈ pairs, ∃ last, l.disk.stored = some last ∧
      pair.1.value.toNat ≤ last.epoch.value.toNat)
    (hcurrent : l.engine.isOpen = true → ∀ pair ∈ pairs,
      pair.1.value.toNat ≤ l.engine.epoch.value.toNat) :
    ∀ pair ∈ pairs, ∃ last,
      (l.disk.step (.shutdown answer)).stored = some last ∧
        pair.1.value.toNat ≤ last.epoch.value.toNat := by
  intro pair hpair
  cases hopen : l.engine.isOpen with
  | false =>
      have hquiet : (l.disk.engine.step (.shutdown answer)).submitted =
          l.disk.engine.submitted := by
        have hclosed : l.disk.engine.isOpen = false := hopen
        simp [Impl.step, shutdown, hclosed]
      rw [Disk.step_of_quiet hquiet]
      exact h pair hpair
  | true =>
      have hopen' : l.disk.engine.isOpen = true := hopen
      have hpersist' : l.disk.engine.config.persistenceEnabled = true :=
        hpersist
      obtain ⟨counters, submitted, heq⟩ :=
        persistLocked_fst l.disk.engine answer
      have himage := submitted_persistLocked l.disk.engine answer
      rw [hpersist'] at himage
      rcases himage with ⟨hdisabled, -⟩ | ⟨-, image, himage, -⟩
      · cases hdisabled
      · have hshut : l.disk.engine.step (.shutdown answer) =
            { (l.disk.engine.persistLocked answer).1 with
              submitted := (l.disk.engine.persistLocked
                answer).1.buildDurableLocked :: (l.disk.engine.persistLocked
                  answer).1.submitted
              isOpen := false } := by
          simp [Impl.step, shutdown, hopen', hpersist']
        unfold Disk.step
        dsimp only
        rw [if_neg (by rw [hshut]; simp [himage]; omega)]
        split
        · refine ⟨_, by rw [hshut]; rfl, ?_⟩
          rw [heq]
          exact hcurrent hopen pair hpair
        · exact h pair hpair

theorem sealed_shutdown (h : l.Sealed) (answer : Status) :
    (l.step (.shutdown answer)).Sealed := by
  obtain ⟨counters, submitted, heq⟩ := shutdown_eq l.engine answer
  have hengine : (l.step (.shutdown answer)).engine =
      { l.engine with
        isOpen := false
        counters := counters
        submitted := submitted } := by
    rw [← heq]
    exact Disk.engine_step l.disk (.shutdown answer)
  constructor
  case keyed =>
    rw [hengine]
    exact h.keyed
  case persist =>
    rw [hengine]
    exact h.persist
  case nodup => exact h.nodup
  case stored =>
    exact stored_shutdown h.persist h.stored fun hopen => (h.current hopen).2
  case current =>
    rw [hengine]
    exact fun hopen => nomatch hopen
  case unopened =>
    intro hnone
    obtain ⟨hleft, hrest⟩ := h.unopened hnone
    refine ⟨?_, hrest⟩
    change (if l.engine.isOpen then inFlight l.engine else l.left) = []
    cases hopen : l.engine.isOpen with
    | true => exact absurd hnone (h.current hopen).1
    | false => exact hleft
  case fenced =>
    rw [hengine]
    exact fun hopen => nomatch hopen
  case recommendations =>
    rw [hengine]
    exact h.recommendations
  case authorizations =>
    rw [hengine]
    exact h.authorizations

section Opening

variable {opening : StoreOpening} {answer : Status}

theorem step_of_open (h : l.engine.isOpen = true) :
    l.step (.openEngine opening answer) = l := by
  have hsame : l.disk.engine.step (.openEngine opening answer) =
      l.disk.engine := by
    have hopen : l.disk.engine.isOpen = true := h
    simp [Impl.step, openEngine, hopen]
  have hdisk : l.disk.step (.openEngine opening answer) = l.disk := by
    rw [Disk.step_of_quiet (by rw [hsame]), hsame]
  simp [step, hdisk, h]

/-- An opening that fails leaves the store as it was. -/
theorem stored_of_failed (hclosed : l.engine.isOpen = false)
    (hfailed : (l.engine.openEngine opening answer).1.isOpen = false) :
    (l.disk.step (.openEngine opening answer)).stored = l.disk.stored := by
  rcases openEngine_of_failed hclosed hfailed with
    heq | heq | ⟨hrefused, heq⟩
  · have hquiet := congrArg Impl.submitted heq
    rw [Disk.step_of_quiet]
    exact hquiet
  · have hquiet := congrArg Impl.submitted heq
    rw [(found_frame l.engine opening).2.1] at hquiet
    rw [Disk.step_of_quiet]
    exact hquiet
  · have hsubmitted := congrArg Impl.submitted heq
    change (l.disk.engine.step (.openEngine opening answer)).submitted =
      ((l.engine.entering opening).persistLocked answer).1.submitted
      at hsubmitted
    have himage := submitted_persistLocked (l.engine.entering opening) answer
    rw [(entering_frame l.engine opening).2.1] at himage
    rcases himage with ⟨-, hquiet⟩ | ⟨-, image, himage, -, -, hans⟩
    · rw [Disk.step_of_quiet (hsubmitted.trans hquiet)]
    · rw [hans] at hrefused
      rw [Disk.step_of_unsaved (hsubmitted.trans himage) hrefused]

/-- Opening a closed engine keeps its configuration, and keeps both tables or
clears them. -/
theorem openEngine_frame {s : Impl} (hclosed : s.isOpen = false)
    (opening : StoreOpening) (answer : Status) :
    (s.openEngine opening answer).1.config = s.config ∧
      (((s.openEngine opening answer).1.recommendations = s.recommendations ∧
          (s.openEngine opening answer).1.authorizations =
            s.authorizations) ∨
        (s.openEngine opening answer).1.recommendations = ∅ ∧
          (s.openEngine opening answer).1.authorizations = ∅) := by
  have hfound : (s.found opening).1.config = s.config ∧
      (((s.found opening).1.recommendations = s.recommendations ∧
          (s.found opening).1.authorizations = s.authorizations) ∨
        (s.found opening).1.recommendations = ∅ ∧
          (s.found opening).1.authorizations = ∅) := by
    unfold found
    split
    · exact ⟨rfl, Or.inl ⟨rfl, rfl⟩⟩
    · split
      · exact ⟨rfl, Or.inl ⟨rfl, rfl⟩⟩
      · exact ⟨rfl, Or.inr ⟨rfl, rfl⟩⟩
  obtain ⟨_, _, _, _, hentering⟩ := entering_eq s opening
  obtain ⟨_, _, hpersisted⟩ := persistLocked_fst (s.entering opening) answer
  cases hopen : (s.openEngine opening answer).1.isOpen with
  | true =>
      rw [(opensWith hclosed hopen).result, hpersisted, hentering]
      exact hfound
  | false =>
      rcases openEngine_of_failed hclosed hopen with heq | heq | ⟨-, heq⟩
      · rw [heq]
        exact ⟨rfl, Or.inl ⟨rfl, rfl⟩⟩
      · rw [heq]
        exact hfound
      · rw [heq, hpersisted, hentering]
        exact hfound

/-- The table of a closed engine, once an opening was tried. -/
theorem Sealed.authority_openEngine (h : l.Sealed)
    (hclosed : l.engine.isOpen = false) (opening : StoreOpening)
    (answer : Status) :
    (∀ k r, lookup (l.engine.openEngine opening answer).1.recommendations k =
        some r → k ∈ l.recommended) ∧
      ∀ k a, lookup (l.engine.openEngine opening answer).1.authorizations k =
        some a → k ∈ l.granted := by
  rcases (openEngine_frame hclosed opening answer).2 with
    ⟨hrecommendations, hauthorizations⟩ | ⟨hrecommendations, hauthorizations⟩
  · rw [hrecommendations, hauthorizations]
    exact ⟨h.recommendations, h.authorizations⟩
  · rw [hrecommendations, hauthorizations]
    simp

theorem step_of_failed (hclosed : l.engine.isOpen = false)
    (hfailed : (l.engine.openEngine opening answer).1.isOpen = false) :
    l.step (.openEngine opening answer) =
      { l with disk := l.disk.step (.openEngine opening answer) } := by
  have hafter : (l.disk.engine.step (.openEngine opening answer)).isOpen =
      false := hfailed
  simp [step, hclosed, hafter]

theorem sealed_of_failed (h : l.Sealed) (hclosed : l.engine.isOpen = false)
    (hfailed : (l.engine.openEngine opening answer).1.isOpen = false) :
    (l.step (.openEngine opening answer)).Sealed := by
  have hengine : (l.step (.openEngine opening answer)).engine =
      (l.engine.openEngine opening answer).1 := by
    rw [step_of_failed hclosed hfailed]
    exact Disk.engine_step l.disk (.openEngine opening answer)
  obtain ⟨hrecommendations, hauthorizations⟩ :=
    h.authority_openEngine hclosed opening answer
  constructor
  case keyed =>
    rw [hengine]
    exact keyed_step h.keyed (.openEngine opening answer)
  case persist =>
    rw [hengine, (openEngine_frame hclosed opening answer).1]
    exact h.persist
  case nodup =>
    rw [step_of_failed hclosed hfailed]
    exact h.nodup
  case stored =>
    rw [step_of_failed hclosed hfailed, stored_of_failed hclosed hfailed]
    exact h.stored
  case current =>
    rw [hengine, hfailed]
    exact fun hopen => nomatch hopen
  case unopened =>
    rw [step_of_failed hclosed hfailed]
    exact h.unopened
  case fenced =>
    rw [hengine, hfailed]
    exact fun hopen => nomatch hopen
  case recommendations =>
    rw [hengine, step_of_failed hclosed hfailed]
    exact hrecommendations
  case authorizations =>
    rw [hengine, step_of_failed hclosed hfailed]
    exact hauthorizations

theorem step_of_opened (hclosed : l.engine.isOpen = false)
    (hopen : (l.engine.openEngine opening answer).1.isOpen = true) :
    l.step (.openEngine opening answer) =
      { l with
        disk := l.disk.step (.openEngine opening answer)
        incarnations := ((l.engine.openEngine opening answer).1.epoch,
          (l.engine.openEngine opening answer).1.boot) :: l.incarnations
        recommended := []
        granted := [] } := by
  have hafter : (l.disk.engine.step (.openEngine opening answer)).isOpen =
      true := hopen
  simp [step, hclosed, hafter]
  exact ⟨rfl, rfl⟩

/-- The epoch of the new incarnation is above every earlier one. -/
theorem Sealed.epoch_openEngine (h : l.Sealed)
    (hallowed : l.allowed (.openEngine opening answer))
    (hclosed : l.engine.isOpen = false)
    (hopen : (l.engine.openEngine opening answer).1.isOpen = true) :
    ∀ pair ∈ l.incarnations, pair.1.value.toNat <
      (l.engine.openEngine opening answer).1.epoch.value.toNat := by
  intro pair hpair
  obtain ⟨last, hlast, hle⟩ := h.stored pair hpair
  obtain ⟨state, hstate, hnewer⟩ := hallowed last hlast
  have hepoch :=
    (conservative_openEngine hclosed h.persist hstate hopen).epoch
  rw [UInt64.le_iff_toNat_le] at hnewer
  omega

/-- The image that a successful opening commits. -/
theorem stored_of_opened (h : l.Sealed) (hclosed : l.engine.isOpen = false)
    (hopen : (l.engine.openEngine opening answer).1.isOpen = true) :
    ∃ last, (l.disk.step (.openEngine opening answer)).stored = some last ∧
      last.epoch = (l.engine.openEngine opening answer).1.epoch := by
  have hopens := opensWith hclosed hopen
  obtain ⟨_, _, hpersisted⟩ :=
    persistLocked_fst (l.engine.entering opening) answer
  have himage := submitted_persistLocked (l.engine.entering opening) answer
  rw [(entering_frame l.engine opening).1, h.persist, ← hopens.result,
    (entering_frame l.engine opening).2.1] at himage
  rcases himage with ⟨hdisabled, -⟩ | ⟨-, image, himage, -, hepoch, hans⟩
  · cases hdisabled
  · have hok : answer.ok = true := by
      rw [← hans]
      exact hopens.accepted
    have hstored : (l.disk.engine.step (.openEngine opening
        answer)).submitted = image :: l.disk.engine.submitted := himage
    refine ⟨image, ?_, ?_⟩
    · rw [Disk.step_of_saved hstored hok]
    · rw [hepoch, hopens.result, hpersisted]

theorem restored_unfinished (s : Impl) (opening : StoreOpening)
    {state : DurableState} {k : MigrationAttemptId} (h : Unfinished state k) :
    ∃ record, lookup (s.recovered opening state).migrations k =
      some record ∧ record.intent.phase = .fenced := by
  obtain ⟨⟨record, hmem, hkey⟩, hunfinished⟩ := h
  obtain ⟨found, hfound⟩ : ∃ found, lookup (indexBy
      (fun record => record.intent.attempt) state.migrations) k =
        some found :=
    exists_lookup_indexBy hmem hkey
  obtain ⟨hmem', hkey'⟩ := mem_of_lookup_indexBy hfound
  obtain ⟨hcompleted, haborted⟩ := hunfinished found hmem' hkey'
  have hrestored : lookup (s.recovered opening state).migrations k =
      some (endAttempt (fun _ => true) .fenced .rejectedFencedByRestart
        found) := by
    change lookup (Std.ExtTreeMap.map (fun _ record =>
      endAttempt (fun _ => true) .fenced .rejectedFencedByRestart record)
      (indexBy (fun record => record.intent.attempt) state.migrations)) k = _
    simp only [lookup_map, hfound, Option.map_some]
  refine ⟨_, hrestored, ?_⟩
  rcases ended_phase (Ledger.inFlight_endAttempt_restart found) with
    hphase | hphase | hphase
  · unfold endAttempt at hphase
    split at hphase
    · cases hphase
    · exact absurd hphase hcompleted
  · unfold endAttempt at hphase
    split at hphase
    · cases hphase
    · exact absurd hphase haborted
  · exact hphase

theorem sealed_of_opened (h : l.Sealed)
    (hallowed : l.allowed (.openEngine opening answer))
    (hguard : l.Reopens (.openEngine opening answer))
    (hclosed : l.engine.isOpen = false)
    (hopen : (l.engine.openEngine opening answer).1.isOpen = true) :
    (l.step (.openEngine opening answer)).Sealed := by
  have hengine : (l.step (.openEngine opening answer)).engine =
      (l.engine.openEngine opening answer).1 := by
    rw [step_of_opened hclosed hopen]
    exact Disk.engine_step l.disk (.openEngine opening answer)
  have hnewer := h.epoch_openEngine hallowed hclosed hopen
  -- with an incarnation behind it, the store has a state to give back
  have hstate : l.incarnations ≠ [] → ∃ state, opening.state = some state := by
    intro hne
    obtain ⟨pair, hpair⟩ := List.exists_mem_of_ne_nil _ hne
    obtain ⟨last, hlast, -⟩ := h.stored pair hpair
    obtain ⟨state, hstate, -⟩ := hallowed last hlast
    exact ⟨state, hstate⟩
  constructor
  case keyed =>
    rw [hengine]
    exact keyed_step h.keyed (.openEngine opening answer)
  case persist =>
    rw [hengine, (openEngine_frame hclosed opening answer).1]
    exact h.persist
  case nodup =>
    rw [step_of_opened hclosed hopen]
    refine List.nodup_cons.mpr ⟨fun hmem => ?_, h.nodup⟩
    exact absurd (hnewer _ hmem) (Nat.lt_irrefl _)
  case stored =>
    obtain ⟨last, hlast, hepoch⟩ := stored_of_opened h hclosed hopen
    rw [step_of_opened hclosed hopen]
    intro pair hpair
    refine ⟨last, hlast, ?_⟩
    rw [hepoch]
    rcases List.mem_cons.mp hpair with rfl | hpair
    · exact Nat.le_refl _
    · exact Nat.le_of_lt (hnewer pair hpair)
  case current =>
    intro _
    rw [hengine, step_of_opened hclosed hopen]
    refine ⟨List.cons_ne_nil _ _, ?_⟩
    intro pair hpair
    rcases List.mem_cons.mp hpair with rfl | hpair
    · exact Nat.le_refl _
    · exact Nat.le_of_lt (hnewer pair hpair)
  case unopened =>
    rw [step_of_opened hclosed hopen]
    exact fun hnil => absurd hnil (List.cons_ne_nil _ _)
  case fenced =>
    intro _ k hk
    rw [step_of_opened hclosed hopen] at hk
    rw [hengine]
    by_cases hnil : l.incarnations = []
    · have hk' : k ∈ l.left := hk
      rw [(h.unopened hnil).1] at hk'
      cases hk'
    · obtain ⟨state, hstate⟩ := hstate hnil
      obtain ⟨record, hrecord, hphase⟩ := restored_unfinished l.engine
        opening (hguard hclosed hnil state hstate k hk)
      obtain ⟨_, _, _, _, _, heq⟩ :=
        openEngine_eq_recovered hclosed h.persist hstate hopen
      refine ⟨record, ?_, hphase⟩
      rw [heq]
      exact hrecord
  case recommendations =>
    intro k r hr
    rw [hengine] at hr
    by_cases hnil : l.incarnations = []
    · have hmem := (h.authority_openEngine hclosed opening answer).1 k r hr
      rw [(h.unopened hnil).2.1] at hmem
      cases hmem
    · obtain ⟨state, hstate⟩ := hstate hnil
      rw [(conservative_openEngine hclosed h.persist hstate
        hopen).recommendations] at hr
      simp at hr
  case authorizations =>
    intro k a ha
    rw [hengine] at ha
    by_cases hnil : l.incarnations = []
    · have hmem := (h.authority_openEngine hclosed opening answer).2 k a ha
      rw [(h.unopened hnil).2.2] at hmem
      cases hmem
    · obtain ⟨state, hstate⟩ := hstate hnil
      rw [(conservative_openEngine hclosed h.persist hstate
        hopen).authorizations] at ha
      simp at ha

end Opening

theorem sealed_step (h : l.Sealed) (hallowed : l.allowed op)
    (hguard : l.Reopens op) : (l.step op).Sealed := by
  cases hwithin : op.within with
  | true => exact sealed_within h hwithin
  | false =>
      cases op with
      | openEngine opening answer =>
          cases hwas : l.engine.isOpen with
          | true =>
              rw [step_of_open hwas]
              exact h
          | false =>
              cases hopen : (l.engine.openEngine opening answer).1.isOpen with
              | true => exact sealed_of_opened h hallowed hguard hwas hopen
              | false => exact sealed_of_failed h hwas hopen
      | shutdown answer => exact sealed_shutdown h answer
      | restart config => exact absurd hguard id
      | _ => cases hwithin

/--
With persistence, a store that gives back what it accepted, and attempts that
had reached it, an engine that is opened again has fenced what it was before.
-/
theorem reopening_fences (config : EngineConfig)
    (hpersist : config.persistenceEnabled = true) (inputs : List Op)
    (h : life.Admits Reopens (begin config) inputs) :
    (life.run (begin config) inputs).Fenced :=
  (h.invariant (P := Sealed) (fun _ _ hs hallowed hguard =>
    sealed_step hs hallowed hguard) (sealed_begin hpersist)).fenced_of

/-- An attempt is in flight when the engine is shut down. -/
def shutInFlight : List Op :=
  [.openEngine { report := { usable := true } } committed] ++
    (plainIntent true).tail ++ [.shutdown committed]

/-- The state that the shutdown committed. -/
def openedAgain : Op :=
  .openEngine
    { report := { usable := true }
      state := (life.run (begin durableConfig) shutInFlight).disk.stored }
    committed

theorem reopening_fences_an_attempt :
    (life.run (begin durableConfig) shutInFlight).left = [⟨1⟩] ∧
      (life.run (begin durableConfig)
        (shutInFlight ++ [openedAgain])).engine.isOpen = true ∧
      (life.run (begin durableConfig)
        (shutInFlight ++ [openedAgain])).Fenced := by
  have hall : (life.run (begin durableConfig) shutInFlight).left = [⟨1⟩] ∧
      (life.run (begin durableConfig)
        (shutInFlight ++ [openedAgain])).engine.isOpen = true ∧
      life.Admits Reopens (begin durableConfig)
        (shutInFlight ++ [openedAgain]) := by
    decide +kernel
  obtain ⟨hleft, hopen, hadmits⟩ := hall
  exact ⟨hleft, hopen, reopening_fences durableConfig rfl _ hadmits⟩

/-- Without persistence the second incarnation is the first one over again. -/
theorem reopening_in_memory_repeats_the_incarnation :
    life.Admits Reopens (begin sampleConfig) [.openEngine {} committed,
        .shutdown committed, .openEngine {} committed] ∧
      ¬ (life.run (begin sampleConfig) [.openEngine {} committed,
        .shutdown committed, .openEngine {} committed]).Fenced := by
  refine ⟨by decide +kernel, fun h => ?_⟩
  have hrepeated : ¬ (life.run (begin sampleConfig)
      [.openEngine {} committed, .shutdown committed,
        .openEngine {} committed]).incarnations.Nodup := by
    decide +kernel
  exact hrepeated h.incarnations

end Life

end FlowOffload

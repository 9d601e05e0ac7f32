import FlowOffload.Engine.Lifecycle

/-!
# Entering an incarnation

An opening of a closed engine either leaves it closed or commits one state:
what was found, under the next epoch, with every earlier authority fenced.
-/

namespace FlowOffload

namespace Impl

variable {s t : Impl} {opening : StoreOpening} {answer : Status}

/-- Committing changes the accounting and what the store has seen. -/
theorem persistLocked_fst (t : Impl) (answer : Status) :
    ∃ counters submitted, (t.persistLocked answer).1 =
      { t with counters := counters, submitted := submitted } := by
  unfold persistLocked
  split
  · exact ⟨_, _, rfl⟩
  · dsimp only
    split <;> exact ⟨_, _, rfl⟩

/-- What an opening starts from: the state, and the epoch and boot found. -/
def found (s : Impl) (opening : StoreOpening) :
    Impl × CoordinatorEpoch × BootId :=
  if !s.config.persistenceEnabled then
    ({ s with recovery := memoryRecovery }, {}, {})
  else
    match opening.state with
    | none => ({ s with recovery := opening.report }, {}, {})
    | some state =>
        ({ s with recovery := opening.report }.restoreLocked state,
          state.epoch, state.boot)

/-- The state that an opening commits. -/
def entering (s : Impl) (opening : StoreOpening) : Impl :=
  { ((s.found opening).1.enterIncarnation
      ⟨(s.found opening).2.1.value + 1⟩ (s.found opening).2.2).fencePrevious
        (s.found opening).2.2 with
    isOpen := true }

theorem found_none (hpersist : s.config.persistenceEnabled = true)
    (hstate : opening.state = none) :
    s.found opening = ({ s with recovery := opening.report }, {}, {}) := by
  simp [found, hpersist, hstate]

theorem found_some (hpersist : s.config.persistenceEnabled = true)
    {state : DurableState} (hstate : opening.state = some state) :
    s.found opening =
      ({ s with recovery := opening.report }.restoreLocked state,
        state.epoch, state.boot) := by
  simp [found, hpersist, hstate]

theorem isOpen_found (s : Impl) (opening : StoreOpening) :
    (s.found opening).1.isOpen = s.isOpen := by
  unfold found
  split
  · rfl
  · split <;> rfl

/-- An unusable store leaves the engine as it was; otherwise the engine enters
its next incarnation. -/
theorem openEngine_closed (hclosed : s.isOpen = false) :
    (s.openEngine opening answer).1 =
        { s with recovery := opening.report } ∨
      s.openEngine opening answer =
        (s.found opening).1.startIncarnation (s.found opening).2.1
          (s.found opening).2.2 answer := by
  unfold openEngine found
  rw [if_neg (by simp [hclosed])]
  split
  · exact Or.inr rfl
  · dsimp only
    split
    · exact Or.inl rfl
    · cases opening.state with
      | none => exact Or.inr rfl
      | some state => exact Or.inr rfl

/-- Either the epoch is used up, or the next incarnation is committed. -/
theorem startIncarnation_cases (t : Impl) (epoch : CoordinatorEpoch)
    (boot : BootId) (answer : Status) :
    (t.startIncarnation epoch boot answer).1 = t ∨
      epoch.value ≠ 0xFFFFFFFFFFFFFFFF ∧
        ∃ persisted, { (t.enterIncarnation ⟨epoch.value + 1⟩
            boot).fencePrevious boot with
          isOpen := true }.persistLocked answer = persisted ∧
          (t.startIncarnation epoch boot answer).1 =
            if persisted.2.ok then persisted.1
            else { persisted.1 with isOpen := false } := by
  unfold startIncarnation
  split
  · exact Or.inl rfl
  next hroom =>
    dsimp only
    refine Or.inr ⟨hroom, _, rfl, ?_⟩
    generalize { (t.enterIncarnation ⟨epoch.value + 1⟩ boot).fencePrevious
      boot with isOpen := true }.persistLocked answer = persisted
    cases hok : persisted.2.ok with
    | true => simp [Status.failed, hok]
    | false => simp [Status.failed, hok]

/-- An opening that succeeds commits the state it enters. -/
structure OpensWith (s : Impl) (opening : StoreOpening) (answer : Status) :
    Prop where
  result : (s.openEngine opening answer).1 =
    ((s.entering opening).persistLocked answer).1
  accepted : ((s.entering opening).persistLocked answer).2.ok = true
  room : (s.found opening).2.1.value ≠ 0xFFFFFFFFFFFFFFFF

theorem opensWith (hclosed : s.isOpen = false)
    (hopen : (s.openEngine opening answer).1.isOpen = true) :
    s.OpensWith opening answer := by
  rcases openEngine_closed hclosed with heq | heq
  · rw [heq] at hopen
    exact absurd (hclosed.symm.trans hopen) (by decide)
  · rcases startIncarnation_cases (s.found opening).1 (s.found opening).2.1
      (s.found opening).2.2 answer with hsame | ⟨hroom, persisted, hpersisted,
        hresult⟩
    · rw [heq, hsame, isOpen_found, hclosed] at hopen
      cases hopen
    · have hentering : (s.entering opening).persistLocked answer = persisted :=
        hpersisted
      rw [heq, hresult] at hopen
      cases hok : persisted.2.ok with
      | false => simp [hok] at hopen
      | true =>
          rw [hok, if_pos rfl] at hresult
          exact ⟨by rw [heq, hresult, hentering], by rw [hentering, hok],
            hroom⟩

/-- An opening that fails leaves the engine closed. -/
theorem openEngine_of_failed (hclosed : s.isOpen = false)
    (hfailed : (s.openEngine opening answer).1.isOpen = false) :
    (s.openEngine opening answer).1 =
        { s with recovery := opening.report } ∨
      (s.openEngine opening answer).1 = (s.found opening).1 ∨
      ((s.entering opening).persistLocked answer).2.ok = false ∧
        (s.openEngine opening answer).1 =
          { ((s.entering opening).persistLocked answer).1 with
            isOpen := false } := by
  rcases openEngine_closed hclosed with heq | heq
  · exact Or.inl heq
  · rcases startIncarnation_cases (s.found opening).1 (s.found opening).2.1
      (s.found opening).2.2 answer with hsame | ⟨-, persisted, hpersisted,
        hresult⟩
    · exact Or.inr (Or.inl (by rw [heq, hsame]))
    · have hentering : (s.entering opening).persistLocked answer = persisted :=
        hpersisted
      rw [hentering]
      cases hok : persisted.2.ok with
      | true =>
          obtain ⟨counters, submitted, hpersist⟩ :=
            persistLocked_fst (s.entering opening) answer
          rw [hentering] at hpersist
          rw [heq, hresult, hok, if_pos rfl, hpersist] at hfailed
          cases hfailed
      | false =>
          rw [hok, if_neg (by simp)] at hresult
          exact Or.inr (Or.inr ⟨rfl, by rw [heq, hresult]⟩)

/-! ## The state that is entered -/

/-- Fencing earlier authority touches fences, accounting and the report. -/
theorem fencePrevious_eq (t : Impl) (boot : BootId) :
    ∃ fences nextFence counters recovery, t.fencePrevious boot =
      { t with
        fences := fences
        nextFence := nextFence
        counters := counters
        recovery := recovery } := by
  unfold fencePrevious
  split
  · dsimp only
    split <;> exact ⟨_, _, _, _, rfl⟩
  · exact ⟨_, _, _, _, rfl⟩

/-- What was found, in the incarnation that begins. -/
theorem entering_eq (s : Impl) (opening : StoreOpening) :
    ∃ fences nextFence counters recovery, s.entering opening =
      { (s.found opening).1 with
        isOpen := true
        epoch := ⟨(s.found opening).2.1.value + 1⟩
        boot := if (s.found opening).1.config.bootIdOverride.isValid then
          (s.found opening).1.config.bootIdOverride
          else deriveBootId (s.found opening).2.2
            ⟨(s.found opening).2.1.value + 1⟩
        fences := fences
        nextFence := nextFence
        counters := counters
        recovery := recovery } := by
  obtain ⟨fences, nextFence, counters, recovery, heq⟩ := fencePrevious_eq
    ((s.found opening).1.enterIncarnation
      ⟨(s.found opening).2.1.value + 1⟩ (s.found opening).2.2)
    (s.found opening).2.2
  refine ⟨fences, nextFence, counters, recovery, ?_⟩
  unfold entering
  rw [heq]
  rfl

/-- What an opening leaves of the tables it found. -/
def Enters (t after : Impl) : Prop :=
  ∃ isOpen epoch boot fences nextFence counters recovery submitted, after =
    { t with
      isOpen := isOpen
      epoch := epoch
      boot := boot
      fences := fences
      nextFence := nextFence
      counters := counters
      recovery := recovery
      submitted := submitted }

/-- An opening, whether it succeeds or not, keeps its tables or takes those it
found in the store. -/
theorem enters_openEngine (opening : StoreOpening) (answer : Status)
    (hclosed : s.isOpen = false) :
    Enters s (s.openEngine opening answer).1 ∨
      Enters (s.found opening).1 (s.openEngine opening answer).1 := by
  obtain ⟨_, _, _, _, hentering⟩ := entering_eq s opening
  obtain ⟨_, _, hpersisted⟩ :=
    persistLocked_fst (s.entering opening) answer
  cases hopen : (s.openEngine opening answer).1.isOpen with
  | true =>
      rw [(opensWith hclosed hopen).result, hpersisted, hentering]
      exact Or.inr ⟨_, _, _, _, _, _, _, _, rfl⟩
  | false =>
      rcases openEngine_of_failed hclosed hopen with heq | heq | ⟨-, heq⟩
      · rw [heq]
        exact Or.inl ⟨_, _, _, _, _, _, _, _, rfl⟩
      · rw [heq]
        exact Or.inr ⟨_, _, _, _, _, _, _, _, rfl⟩
      · rw [heq, hpersisted, hentering]
        exact Or.inr ⟨_, _, _, _, _, _, _, _, rfl⟩

/-- Restoring a state keeps the configuration and what the store has seen. -/
theorem restoreLocked_frame (s : Impl) (state : DurableState) :
    (s.restoreLocked state).config = s.config ∧
      (s.restoreLocked state).submitted = s.submitted ∧
      (s.restoreLocked state).policyGeneration =
        (s.restoreLocked state).policy.generation :=
  ⟨rfl, rfl, rfl⟩

theorem found_frame (s : Impl) (opening : StoreOpening) :
    (s.found opening).1.config = s.config ∧
      (s.found opening).1.submitted = s.submitted ∧
      (s.policyGeneration = s.policy.generation →
        (s.found opening).1.policyGeneration =
          (s.found opening).1.policy.generation) := by
  unfold found
  split
  · exact ⟨rfl, rfl, id⟩
  · split
    · exact ⟨rfl, rfl, id⟩
    next state hstate =>
      obtain ⟨hconfig, hsubmitted, hstamp⟩ := restoreLocked_frame
        { s with recovery := opening.report } state
      exact ⟨hconfig, hsubmitted, fun _ => hstamp⟩

theorem entering_frame (s : Impl) (opening : StoreOpening) :
    (s.entering opening).config = s.config ∧
      (s.entering opening).submitted = s.submitted ∧
      (s.policyGeneration = s.policy.generation →
        (s.entering opening).policyGeneration =
          (s.entering opening).policy.generation) := by
  obtain ⟨_, _, _, _, heq⟩ := entering_eq s opening
  rw [heq]
  exact found_frame s opening

end Impl

end FlowOffload

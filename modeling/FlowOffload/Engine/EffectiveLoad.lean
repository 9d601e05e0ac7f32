import FlowOffload.Engine.Demand
import FlowOffload.Engine.PlanSpec

/-!
# The load a target is evaluated against

A known load rests on current evidence unless the policy counts only what is
scheduled, and it is at least what is scheduled unless the policy counts only
what is observed.  A target that passes the capacity check has room above it.
-/

namespace FlowOffload

open Foundation

/-- The load of a target rests on evidence, and an unknown load refuses it. -/
def Policy.needsEvidence (policy : Policy) : Bool :=
  (policy.loadModel = .observedOnly || policy.loadModel = .sumConservative ||
    policy.loadModel = .maximumOfBoth) &&
      !policy.allowPlacementWithoutLoadEvidence

/-- The load of a target counts what is scheduled on it, and an unknown load
refuses it. -/
def Policy.countsScheduled (policy : Policy) : Bool :=
  (policy.loadModel = .scheduledOnly || policy.loadModel = .sumConservative ||
    policy.loadModel = .maximumOfBoth) &&
      !policy.allowPlacementWithoutLoadEvidence

namespace Impl

variable {s : Impl} {state : TargetState} {instant : Timestamp}

/-! ## A known load -/

def reportsLoad (state : TargetState) : Bool :=
  state.hasLoad && !state.conflicting && state.load.state = .known

/-- The reported load may be used at an instant. -/
def observedKnown (s : Impl) (state : TargetState) (instant : Timestamp) :
    Bool :=
  reportsLoad state && !(reportsLoad state &&
    s.config.evidenceFreshness.nanos > 0 &&
      (saturatingElapsed instant state.load.observedAt).nanos >
        s.config.evidenceFreshness.nanos)

/-- How the models combine what is observed with what is scheduled. -/
def combineLoad (model : LoadModel) (observed scheduled : CapacityVector) :
    EffectiveLoad :=
  match model with
  | .observedOnly => ⟨true, observed, .ok⟩
  | .scheduledOnly => ⟨true, scheduled, .ok⟩
  | .maximumOfBoth => ⟨true, .maximum observed scheduled, .ok⟩
  | .sumConservative | .unknown =>
      match CapacityVector.checkedAdd observed scheduled with
      | none => { known := false, reason := .rejectedCapacityOverflow }
      | some sum => ⟨true, sum, .ok⟩

/-- Why the load of a target is not known. -/
def unknownReason (state : TargetState) : ReasonCode :=
  if state.hasLoad then
    if state.load.state = .unsupported then .rejectedUnsupportedTarget
    else .rejectedStaleEvidence
  else .rejectedMissingEvidence

theorem effectiveLoadLocked_eq (s : Impl) (state : TargetState)
    (instant : Timestamp) :
    s.effectiveLoadLocked state instant =
      if state.conflicting then
        { known := false, reason := .rejectedConflictingEvidence }
      else if s.policy.loadModel ≠ .scheduledOnly &&
          !s.observedKnown state instant then
        { known := false, reason := unknownReason state }
      else combineLoad s.policy.loadModel
        (if s.observedKnown state instant then state.load.utilized else .zero)
        state.scheduled := by
  unfold effectiveLoadLocked observedKnown reportsLoad unknownReason
    combineLoad
  dsimp only
  -- a sum that is looked into is never done comparing
  all_goals
    generalize CapacityVector.checkedAdd _ state.scheduled = sum
    rfl

theorem reason_combineLoad {model : LoadModel}
    {observed scheduled : CapacityVector}
    (h : (combineLoad model observed scheduled).known = false) :
    (combineLoad model observed scheduled).reason ≠ .ok := by
  unfold combineLoad at h ⊢
  generalize CapacityVector.checkedAdd observed scheduled = sum at h ⊢
  cases model <;> cases sum <;> simp_all

theorem unknownReason_ne_ok (state : TargetState) :
    unknownReason state ≠ .ok := by
  unfold unknownReason
  repeat' split
  all_goals simp

theorem reason_of_unknown_load
    (h : (s.effectiveLoadLocked state instant).known = false) :
    (s.effectiveLoadLocked state instant).reason ≠ .ok := by
  rw [effectiveLoadLocked_eq] at h ⊢
  split
  · simp
  next hagreed =>
    rw [if_neg hagreed] at h
    split
    · exact unknownReason_ne_ok state
    next hobserved =>
      rw [if_neg hobserved] at h
      exact reason_combineLoad h

/-- The load evidence of a target is known, undisputed and recent enough. -/
structure Current (s : Impl) (state : TargetState) (instant : Timestamp) :
    Prop where
  loaded : state.hasLoad = true
  agreed : state.conflicting = false
  known : state.load.state = .known
  recent : s.config.evidenceFreshness.nanos > 0 →
    (saturatingElapsed instant state.load.observedAt).nanos ≤
      s.config.evidenceFreshness.nanos

theorem current_of_observedKnown
    (h : s.observedKnown state instant = true) : s.Current state instant := by
  simp only [observedKnown, reportsLoad, Bool.and_eq_true, Bool.not_eq_true',
    decide_eq_true_eq] at h
  obtain ⟨⟨⟨hloaded, hagreed⟩, hknown⟩, hrecent⟩ := h
  refine ⟨hloaded, hagreed, hknown, fun hhorizon => ?_⟩
  simpa [hloaded, hagreed, hknown, hhorizon] using hrecent

theorem current_of_known (hmodel : s.policy.loadModel ≠ .scheduledOnly)
    (h : (s.effectiveLoadLocked state instant).known = true) :
    s.Current state instant := by
  rw [effectiveLoadLocked_eq] at h
  split at h
  · cases h
  · split at h
    · cases h
    next hobserved =>
      refine current_of_observedKnown ?_
      simpa [hmodel] using hobserved

theorem scheduled_le_combineLoad {model : LoadModel}
    {observed scheduled : CapacityVector}
    (hmodel : model = .scheduledOnly ∨ model = .sumConservative ∨
      model = .maximumOfBoth)
    (h : (combineLoad model observed scheduled).known = true)
    (d : Dimension) :
    scheduled.part d ≤ (combineLoad model observed scheduled).used.part d := by
  have hsum : ∀ sum, CapacityVector.checkedAdd observed scheduled = some sum →
      scheduled.part d ≤ sum.part d := by
    intro sum hadd
    have := CapacityVector.checkedAdd_eq_some_iff.mp hadd d
    omega
  unfold combineLoad at h ⊢
  generalize CapacityVector.checkedAdd observed scheduled = sum at h hsum ⊢
  rcases hmodel with rfl | rfl | rfl
  · exact Nat.le_refl _
  · cases sum with
    | none => cases h
    | some sum => exact hsum sum rfl
  · exact CapacityVector.part_le_maximum_right _ _ d

theorem scheduled_le_effectiveLoad
    (hmodel : s.policy.loadModel = .scheduledOnly ∨
      s.policy.loadModel = .sumConservative ∨
      s.policy.loadModel = .maximumOfBoth)
    (h : (s.effectiveLoadLocked state instant).known = true)
    (d : Dimension) :
    state.scheduled.part d ≤
      (s.effectiveLoadLocked state instant).used.part d := by
  rw [effectiveLoadLocked_eq] at h ⊢
  split at h
  · cases h
  next hagreed =>
    rw [if_neg hagreed]
    split at h
    · cases h
    next hobserved =>
      rw [if_neg hobserved]
      exact scheduled_le_combineLoad hmodel h d

/-! ## A target that passes -/

variable {flow : FlowDescriptor}

theorem capacityVerdict_ne_ok (policy : Policy) (flow : FlowDescriptor)
    (descriptor : TargetDescriptor) (used : CapacityVector) :
    capacityVerdict policy flow descriptor used ≠ .error .ok := by
  unfold capacityVerdict
  repeat' split
  all_goals simp

theorem capacityVerdict_congr {policy : Policy} {flow : FlowDescriptor}
    {a b : TargetDescriptor} {used : CapacityVector}
    (hcapacity : a.capacity = b.capacity)
    (hreserved : a.reserved = b.reserved) :
    capacityVerdict policy flow a used =
      capacityVerdict policy flow b used := by
  have hroom : availableRoom a used = availableRoom b used := by
    unfold availableRoom
    rw [hcapacity, hreserved]
  unfold capacityVerdict
  -- a sum that is looked into is never done comparing
  generalize CapacityVector.checkedAdd flow.demand policy.reserve = required
  generalize CapacityVector.checkedAdd used flow.demand = after
  rw [hroom, hcapacity]

/-- A target that passes although nothing may be assumed of its load has a
known load, and passes the capacity check against it. -/
theorem known_of_evaluateTargetLocked
    (hstrict : s.policy.allowPlacementWithoutLoadEvidence = false)
    (h : (s.evaluateTargetLocked flow state instant).1 = .ok) :
    (s.effectiveLoadLocked state instant).known = true ∧
      ∃ utilisation, capacityVerdict s.policy flow state.descriptor
        (s.effectiveLoadLocked state instant).used = .ok utilisation := by
  obtain ⟨hlifecycle, hadmitted, hlocality⟩ :=
    admitted_of_evaluateTargetLocked h
  unfold evaluateTargetLocked admissionRefusal at h
  rw [hlifecycle, hadmitted, hlocality] at h
  dsimp only [Option.or] at h
  cases hknown : (s.effectiveLoadLocked state instant).known with
  | false =>
      rw [hknown, hstrict, if_pos (by simp)] at h
      exact absurd h (reason_of_unknown_load hknown)
  | true =>
      rw [hknown, if_neg (by simp), if_pos rfl] at h
      refine ⟨rfl, ?_⟩
      unfold evaluateCapacity at h
      split at h
      next reason hverdict =>
        have hreason : reason = .ok := h
        rw [hreason] at hverdict
        exact absurd hverdict (capacityVerdict_ne_ok _ _ _ _)
      next ppm saturated hverdict => exact ⟨_, hverdict⟩

/-- The load that a target is checked against. -/
def assumedLoad (s : Impl) (state : TargetState) (instant : Timestamp) :
    CapacityVector :=
  if (s.effectiveLoadLocked state instant).known then
    (s.effectiveLoadLocked state instant).used
  else .zero

/-- A target passes when it passes every check of its own, its load is known
or need not be, and it has room above that load. -/
theorem evaluateTargetLocked_eq_ok_iff :
    (s.evaluateTargetLocked flow state instant).1 = .ok ↔
      (lifecycleRefusal state = none ∧
        policyRefusal s.policy flow state.descriptor = none ∧
        s.localityRefusal flow state.descriptor = none) ∧
      ((s.effectiveLoadLocked state instant).known = true ∨
        s.policy.allowPlacementWithoutLoadEvidence = true) ∧
      ∃ utilisation, capacityVerdict s.policy flow state.descriptor
        (s.assumedLoad state instant) = .ok utilisation := by
  constructor
  · intro h
    have hadmitted := admitted_of_evaluateTargetLocked h
    refine ⟨hadmitted, ?_⟩
    obtain ⟨hlifecycle, hpolicy, hlocality⟩ := hadmitted
    unfold evaluateTargetLocked admissionRefusal at h
    rw [hlifecycle, hpolicy, hlocality] at h
    dsimp only [Option.or] at h
    split at h
    next hrefused =>
      have hunknown : (s.effectiveLoadLocked state instant).known = false := by
        simp only [Bool.and_eq_true, Bool.not_eq_true'] at hrefused
        exact hrefused.1
      exact absurd h (reason_of_unknown_load hunknown)
    next hallowed =>
      refine ⟨?_, ?_⟩
      · simpa [Classical.or_iff_not_imp_left] using hallowed
      · unfold evaluateCapacity at h
        split at h
        next reason hverdict =>
          have hreason : reason = .ok := h
          rw [hreason] at hverdict
          exact absurd hverdict (capacityVerdict_ne_ok _ _ _ _)
        next ppm saturated hverdict => exact ⟨_, hverdict⟩
  · rintro ⟨⟨hlifecycle, hpolicy, hlocality⟩, hallowed, utilisation, hverdict⟩
    unfold evaluateTargetLocked admissionRefusal
    rw [hlifecycle, hpolicy, hlocality]
    dsimp only [Option.or]
    have hpasses : (!(s.effectiveLoadLocked state instant).known &&
        !s.policy.allowPlacementWithoutLoadEvidence) = false := by
      rcases hallowed with hknown | hallow
      · rw [hknown]
        rfl
      · rw [hallow, Bool.not_true, Bool.and_false]
    rw [hpasses, if_neg Bool.false_ne_true]
    unfold assumedLoad at hverdict
    unfold evaluateCapacity
    rw [hverdict]

/-- Only current evidence lets a target pass, when evidence is needed. -/
theorem current_of_evaluateTargetLocked
    (hpolicy : s.policy.needsEvidence = true)
    (h : (s.evaluateTargetLocked flow state instant).1 = .ok) :
    s.Current state instant := by
  simp only [Policy.needsEvidence, Bool.and_eq_true, Bool.or_eq_true,
    decide_eq_true_eq, Bool.not_eq_true'] at hpolicy
  obtain ⟨hmodel, hstrict⟩ := hpolicy
  refine current_of_known ?_ (known_of_evaluateTargetLocked hstrict h).1
  intro hscheduled
  rw [hscheduled] at hmodel
  simp at hmodel

/-- A target that passes the capacity check has room above the used load. -/
theorem room_of_capacityVerdict {policy : Policy}
    {descriptor : TargetDescriptor} {used : CapacityVector}
    {utilisation : UInt32 × Bool}
    (h : capacityVerdict policy flow descriptor used = .ok utilisation)
    (d : Dimension) :
    used.part d + flow.demand.part d ≤ descriptor.capacity.part d := by
  unfold capacityVerdict at h
  split at h
  · cases h
  next hunder =>
    split at h
    · cases h
    next required hrequired =>
      split at h
      · cases h
      next hdominates =>
        have hnot : used.exceedsAny descriptor.capacity = false := by
          simpa using hunder
        have hroom := CapacityVector.exceedsAny_eq_false_iff.mp hnot d
        have htotal :=
          CapacityVector.checkedAdd_eq_some_iff.mp hrequired d
        have havailable := CapacityVector.dominates_iff.mp
          (by simpa using hdominates) d
        rw [availableRoom, hnot, if_neg (by simp),
          CapacityVector.part_saturatingSub,
          CapacityVector.part_saturatingSub] at havailable
        omega

/-- A target that passes with a known load has room above what is scheduled on
it. -/
theorem room_of_known
    (hmodel : s.policy.loadModel = .scheduledOnly ∨
      s.policy.loadModel = .sumConservative ∨
      s.policy.loadModel = .maximumOfBoth)
    (hknown : (s.effectiveLoadLocked state instant).known = true)
    (h : (s.evaluateTargetLocked flow state instant).1 = .ok)
    (d : Dimension) :
    state.scheduled.part d + flow.demand.part d ≤
      state.descriptor.capacity.part d := by
  obtain ⟨-, -, utilisation, hverdict⟩ := evaluateTargetLocked_eq_ok_iff.mp h
  rw [assumedLoad, if_pos hknown] at hverdict
  have hscheduled := scheduled_le_effectiveLoad hmodel hknown d
  have hroom := room_of_capacityVerdict hverdict d
  omega

/-- A target that passes has room above what is scheduled on it, under a policy
that counts it. -/
theorem room_of_evaluateTargetLocked
    (hpolicy : s.policy.countsScheduled = true)
    (h : (s.evaluateTargetLocked flow state instant).1 = .ok)
    (d : Dimension) :
    state.scheduled.part d + flow.demand.part d ≤
      state.descriptor.capacity.part d := by
  simp only [Policy.countsScheduled, Bool.and_eq_true, Bool.or_eq_true,
    decide_eq_true_eq, Bool.not_eq_true'] at hpolicy
  exact room_of_known (or_assoc.mp hpolicy.1)
    (known_of_evaluateTargetLocked hpolicy.2 h).1 h d

end Impl

end FlowOffload

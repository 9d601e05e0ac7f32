import FlowOffload.Ledger.Basic

/-!
# The ledger after an event

What can be read from the ledger once an event is applied, field by field.
Each lemma is an inversion: an entry that is there afterwards was there before
or is what the event wrote.  The laws use these and never unfold `apply`.
-/

namespace FlowOffload.Ledger

variable {l : Ledger} {e : Event}

/-! ## Helper changes -/

/-- The flow is stateful and the key is the one of its state. -/
def Claims (l : Ledger) (flow : FlowId) (key : ExclusiveStateKeyId) : Prop :=
  ∃ descriptor, l.flow flow = some descriptor ∧
    descriptor.statefulness = .stateful ∧ descriptor.exclusiveStateKey = key

section Hold

variable (l) (flow : FlowId) (holder : StateHolder)

@[simp] theorem flow_hold : (l.hold flow holder).flow = l.flow := by
  unfold hold
  split
  · split <;> rfl
  · rfl

@[simp] theorem target_hold : (l.hold flow holder).target = l.target := by
  unfold hold
  split
  · split <;> rfl
  · rfl

@[simp] theorem assignment_hold :
    (l.hold flow holder).assignment = l.assignment := by
  unfold hold
  split
  · split <;> rfl
  · rfl

@[simp] theorem attempt_hold : (l.hold flow holder).attempt = l.attempt := by
  unfold hold
  split
  · split <;> rfl
  · rfl

@[simp] theorem contract_hold :
    (l.hold flow holder).contract = l.contract := by
  unfold hold
  split
  · split <;> rfl
  · rfl

variable {l}

theorem holder_hold_of_claims {flow : FlowId} {holder : StateHolder}
    {key : ExclusiveStateKeyId} (h : l.Claims flow key) :
    (l.hold flow holder).holder key = some holder := by
  obtain ⟨descriptor, hflow, hstateful, rfl⟩ := h
  unfold hold
  rw [hflow]
  simp [hstateful]

theorem holder_hold_of_not_claims {flow : FlowId} {holder : StateHolder}
    {key : ExclusiveStateKeyId} (h : ¬ l.Claims flow key) :
    (l.hold flow holder).holder key = l.holder key := by
  unfold hold
  cases hflow : l.flow flow with
  | none => rfl
  | some descriptor =>
      dsimp only
      split
      next hstateful =>
        have hkey : key ≠ descriptor.exclusiveStateKey := by
          rintro rfl
          exact h ⟨descriptor, hflow, hstateful, rfl⟩
        exact Function.update_of_ne hkey _ _
      next => rfl

end Hold

section Commit

variable (l) (a : Assignment) (batch : List Assignment)

@[simp] theorem flow_commit : (l.commit a).flow = l.flow := by
  simp [commit]

@[simp] theorem target_commit : (l.commit a).target = l.target := by
  simp [commit]

@[simp] theorem attempt_commit : (l.commit a).attempt = l.attempt := by
  simp [commit]

@[simp] theorem contract_commit : (l.commit a).contract = l.contract := by
  simp [commit]

@[simp] theorem assignment_commit : (l.commit a).assignment =
    Function.update l.assignment a.flow (some a) := by
  simp [commit]

@[simp] theorem flow_foldl_commit : (batch.foldl commit l).flow = l.flow := by
  induction batch generalizing l with
  | nil => rfl
  | cons a batch ih => rw [List.foldl_cons, ih, flow_commit]

@[simp] theorem target_foldl_commit :
    (batch.foldl commit l).target = l.target := by
  induction batch generalizing l with
  | nil => rfl
  | cons a batch ih => rw [List.foldl_cons, ih, target_commit]

@[simp] theorem attempt_foldl_commit :
    (batch.foldl commit l).attempt = l.attempt := by
  induction batch generalizing l with
  | nil => rfl
  | cons a batch ih => rw [List.foldl_cons, ih, attempt_commit]

@[simp] theorem contract_foldl_commit :
    (batch.foldl commit l).contract = l.contract := by
  induction batch generalizing l with
  | nil => rfl
  | cons a batch ih => rw [List.foldl_cons, ih, contract_commit]

variable {l} {batch}

theorem assignment_foldl_commit_of_notMem {flow : FlowId}
    (h : flow ∉ batch.map Assignment.flow) :
    (batch.foldl commit l).assignment flow = l.assignment flow := by
  induction batch generalizing l with
  | nil => rfl
  | cons a batch ih =>
      rw [List.map_cons, List.mem_cons, not_or] at h
      rw [List.foldl_cons, ih h.2, assignment_commit,
        Function.update_of_ne h.1]

theorem assignment_foldl_commit_of_mem
    (hnodup : (batch.map Assignment.flow).Nodup) {a : Assignment}
    (ha : a ∈ batch) :
    (batch.foldl commit l).assignment a.flow = some a := by
  induction batch generalizing l with
  | nil => cases ha
  | cons first batch ih =>
      rw [List.map_cons, List.nodup_cons] at hnodup
      rw [List.foldl_cons]
      rcases List.mem_cons.mp ha with rfl | ha
      · rw [assignment_foldl_commit_of_notMem hnodup.1, assignment_commit,
          Function.update_self]
      · exact ih hnodup.2 ha

/-- A placement after a batch is one of the batch or one from before. -/
theorem assignment_foldl_commit {flow : FlowId} {a : Assignment}
    (h : (batch.foldl commit l).assignment flow = some a) :
    (a ∈ batch ∧ a.flow = flow) ∨
      (l.assignment flow = some a ∧ flow ∉ batch.map Assignment.flow) := by
  induction batch generalizing l with
  | nil => exact Or.inr ⟨h, by simp⟩
  | cons first batch ih =>
      rw [List.foldl_cons] at h
      rcases ih h with ⟨hmem, hflow⟩ | ⟨hold, hnot⟩
      · exact Or.inl ⟨List.mem_cons_of_mem _ hmem, hflow⟩
      · rw [assignment_commit] at hold
        by_cases hfirst : flow = first.flow
        · subst hfirst
          rw [Function.update_self] at hold
          cases hold
          exact Or.inl ⟨List.mem_cons_self, rfl⟩
        · rw [Function.update_of_ne hfirst] at hold
          refine Or.inr ⟨hold, ?_⟩
          rw [List.map_cons, List.mem_cons, not_or]
          exact ⟨hfirst, hnot⟩

theorem exists_assignment_foldl_commit {flow : FlowId} {a : Assignment}
    (h : l.assignment flow = some a) :
    ∃ a, (batch.foldl commit l).assignment flow = some a := by
  induction batch generalizing l a with
  | nil => exact ⟨a, h⟩
  | cons first batch ih =>
      rw [List.foldl_cons]
      by_cases hflow : flow = first.flow
      · subst hflow
        exact ih ((congrFun (assignment_commit l first) _).trans
          (Function.update_self _ _ _))
      · exact ih ((congrFun (assignment_commit l first) _).trans
          ((Function.update_of_ne hflow _ _).trans h))

/-- The holder of a key after a batch: the last claimant of the batch. -/
theorem holder_foldl_commit (key : ExclusiveStateKeyId) :
    ((batch.foldl commit l).holder key = l.holder key ∧
        ∀ a ∈ batch, ¬ l.Claims a.flow key) ∨
      ∃ a ∈ batch, l.Claims a.flow key ∧
        (batch.foldl commit l).holder key =
          some (Impl.holderOf a.flow a) := by
  induction batch generalizing l with
  | nil => exact Or.inl ⟨rfl, by simp⟩
  | cons first batch ih =>
      have hclaims : ∀ flow, (l.commit first).Claims flow key ↔
          l.Claims flow key := by
        intro flow
        unfold Claims
        rw [flow_commit]
      rw [List.foldl_cons]
      rcases ih (l := l.commit first) with
        ⟨heq, hnone⟩ | ⟨a, ha, haclaims, heq⟩
      · by_cases hfirst : l.Claims first.flow key
        · refine Or.inr ⟨first, List.mem_cons_self, hfirst, ?_⟩
          rw [heq]
          exact holder_hold_of_claims hfirst
        · refine Or.inl ⟨?_, ?_⟩
          · rw [heq]
            exact holder_hold_of_not_claims hfirst
          · intro a ha
            rcases List.mem_cons.mp ha with rfl | ha
            · exact hfirst
            · exact (hclaims a.flow).not.mp (hnone a ha)
      · exact Or.inr ⟨a, List.mem_cons_of_mem _ ha,
          (hclaims a.flow).mp haclaims, heq⟩

end Commit

section Move

variable (l) (intent : MigrationIntent) (observation : EffectObservation)
  (next : UInt64)

@[simp] theorem flow_move :
    (l.move intent observation next).flow = l.flow := by
  unfold move
  split
  · rfl
  · rw [flow_hold]

@[simp] theorem target_move :
    (l.move intent observation next).target = l.target := by
  unfold move
  split
  · rfl
  · rw [target_hold]

@[simp] theorem attempt_move :
    (l.move intent observation next).attempt = l.attempt := by
  unfold move
  split
  · rfl
  · rw [attempt_hold]

@[simp] theorem contract_move :
    (l.move intent observation next).contract = l.contract := by
  unfold move
  split
  · rfl
  · rw [contract_hold]

@[simp] theorem assignment_move :
    (l.move intent observation next).assignment =
      Function.update l.assignment intent.flow ((l.assignment intent.flow).map
        (Impl.completedAssignment intent observation next)) := by
  unfold move
  cases h : l.assignment intent.flow with
  | none =>
      dsimp only [Option.map_none]
      rw [← h, Function.update_eq_self]
  | some previous =>
      dsimp only
      rw [assignment_hold]
      rfl

end Move

/-! ## Flows, targets and contracts -/

theorem flow_apply {k : FlowId} {flow : FlowDescriptor}
    (h : (e.apply l).flow k = some flow) :
    l.flow k = some flow ∨
      (k = flow.flow ∧ (e = .register flow ∨ ∃ old, e = .supersede old flow)) := by
  cases e with
  | register new =>
      by_cases hk : k = new.flow
      · subst hk
        simp only [Event.apply, Function.update_self, Option.some.injEq] at h
        subst h
        exact Or.inr ⟨rfl, Or.inl rfl⟩
      · simp only [Event.apply, Function.update_of_ne hk] at h
        exact Or.inl h
  | supersede old new =>
      by_cases hk : k = new.flow
      · subst hk
        simp only [Event.apply, Function.update_self, Option.some.injEq] at h
        subst h
        exact Or.inr ⟨rfl, Or.inr ⟨old, rfl⟩⟩
      · simp only [Event.apply, Function.update_of_ne hk] at h
        exact Or.inl h
  | remove old gone =>
      by_cases hk : k = gone
      · subst hk
        simp [Event.apply] at h
      · simp only [Event.apply, Function.update_of_ne hk] at h
        exact Or.inl h
  | place batch =>
      simp only [Event.apply, flow_foldl_commit] at h
      exact Or.inl h
  | issue descriptor source intent =>
      simp only [Event.apply, flow_hold] at h
      exact Or.inl h
  | complete record observation next =>
      simp only [Event.apply, flow_move] at h
      exact Or.inl h
  | _ => exact Or.inl h

/-- A registered flow stays registered until it is superseded or removed. -/
theorem flow_apply_of_flow {k : FlowId} {flow : FlowDescriptor}
    (henabled : e.enabled l) (h : l.flow k = some flow) :
    (e.apply l).flow k = some flow ∨
      (∃ new, e = .supersede flow new ∧ k = new.flow) ∨
      e = .remove flow k := by
  cases e with
  | register new =>
      have hk : k ≠ new.flow := by
        rintro rfl
        rw [henabled.1] at h
        cases h
      exact Or.inl (by simpa only [Event.apply, Function.update_of_ne hk])
  | supersede old new =>
      by_cases hk : k = new.flow
      · subst hk
        rw [henabled.1] at h
        cases h
        exact Or.inr (Or.inl ⟨new, rfl, rfl⟩)
      · exact Or.inl (by simpa only [Event.apply, Function.update_of_ne hk])
  | remove old gone =>
      by_cases hk : k = gone
      · subst hk
        have hold : l.flow k = some old := henabled
        rw [hold] at h
        cases h
        exact Or.inr (Or.inr rfl)
      · exact Or.inl (by simpa only [Event.apply, Function.update_of_ne hk])
  | place batch =>
      exact Or.inl (by simpa only [Event.apply, flow_foldl_commit])
  | issue descriptor source intent =>
      exact Or.inl (by simpa only [Event.apply, flow_hold])
  | complete record observation next =>
      exact Or.inl (by simpa only [Event.apply, flow_move])
  | _ => exact Or.inl h

/-- The descriptor an event writes for a target. -/
def Event.declares : Event → Option TargetDescriptor
  | .declare target | .advanceCapability target | .advanceIncarnation target
  | .retire target => some target
  | _ => none

theorem target_apply (k : TargetId) :
    (e.apply l).target k =
      match e.declares with
      | some target =>
          if k = target.target then some target else l.target k
      | none => l.target k := by
  have hset : ∀ (l : Ledger) (target : TargetDescriptor),
      (l.setTarget target).target k =
        if k = target.target then some target else l.target k := by
    intro l target
    by_cases hk : k = target.target
    · subst hk
      simp [setTarget]
    · simp [setTarget, hk]
  cases e with
  | declare target => exact hset _ _
  | advanceCapability target => exact hset _ _
  | advanceIncarnation target => exact hset _ _
  | retire target => exact hset _ _
  | place batch => simp only [Event.apply, Event.declares, target_foldl_commit]
  | issue descriptor source intent =>
      simp only [Event.apply, Event.declares, target_hold]
      rfl
  | complete record observation next =>
      simp only [Event.apply, Event.declares, target_move]
      rfl
  | _ => rfl

/-- A known target stays known. -/
theorem exists_target_apply {k : TargetId} {target : TargetDescriptor}
    (h : l.target k = some target) :
    ∃ target, (e.apply l).target k = some target := by
  rw [target_apply]
  split
  · split
    · exact ⟨_, rfl⟩
    · exact ⟨target, h⟩
  · exact ⟨target, h⟩

theorem contract_apply {k : MigrationContractId}
    {contract : MigrationContract}
    (h : (e.apply l).contract k = some contract) :
    l.contract k = some contract ∨
      (e = .addContract contract ∧ k = contract.id) := by
  cases e with
  | addContract new =>
      by_cases hk : k = new.id
      · subst hk
        simp only [Event.apply, Function.update_self, Option.some.injEq] at h
        subst h
        exact Or.inr ⟨rfl, rfl⟩
      · simp only [Event.apply, Function.update_of_ne hk] at h
        exact Or.inl h
  | place batch =>
      simp only [Event.apply, contract_foldl_commit] at h
      exact Or.inl h
  | issue descriptor source intent =>
      simp only [Event.apply, contract_hold] at h
      exact Or.inl h
  | complete record observation next =>
      simp only [Event.apply, contract_move] at h
      exact Or.inl h
  | _ => exact Or.inl h

/-- A registered contract is never replaced. -/
theorem contract_apply_of_contract {k : MigrationContractId}
    {contract : MigrationContract} (henabled : e.enabled l)
    (h : l.contract k = some contract) :
    (e.apply l).contract k = some contract := by
  cases e with
  | addContract new =>
      have hk : k ≠ new.id := by
        rintro rfl
        have hnone : l.contract new.id = none := henabled
        rw [hnone] at h
        cases h
      simpa only [Event.apply, Function.update_of_ne hk]
  | place batch => simpa only [Event.apply, contract_foldl_commit]
  | issue descriptor source intent => simpa only [Event.apply, contract_hold]
  | complete record observation next => simpa only [Event.apply, contract_move]
  | _ => exact h

/-! ## Placements -/

theorem assignment_release (old : FlowDescriptor) {flow k : FlowId}
    (reason : ReasonCode) {a : Assignment}
    (h : (l.release old flow reason).assignment k = some a) :
    l.assignment k = some a ∧ k ≠ flow := by
  by_cases hk : k = flow
  · subst hk
    simp [release] at h
  · simp only [release, Function.update_of_ne hk] at h
    exact ⟨h, hk⟩

theorem exists_of_assignment_setEffect {flow k : FlowId}
    {effect : EffectState} {a : Assignment}
    (h : (l.setEffect flow effect).assignment k = some a) :
    ∃ old effect', l.assignment k = some old ∧
      a = { old with effect := effect' } := by
  by_cases hk : k = flow
  · subst hk
    simp only [setEffect, Function.update_self, Option.map_eq_some_iff] at h
    obtain ⟨old, hold, rfl⟩ := h
    exact ⟨old, effect, hold, rfl⟩
  · simp only [setEffect, Function.update_of_ne hk] at h
    exact ⟨a, a.effect, h, rfl⟩

theorem exists_of_assignment_demoteOn {target : TargetId} {k : FlowId}
    {a : Assignment} (h : (l.demoteOn target).assignment k = some a) :
    ∃ old effect, l.assignment k = some old ∧
      a = { old with effect := effect } := by
  simp only [demoteOn, Option.map_eq_some_iff] at h
  obtain ⟨old, hold, rfl⟩ := h
  unfold demote
  split
  · exact ⟨old, .unknown, hold, rfl⟩
  · exact ⟨old, old.effect, hold, rfl⟩

/--
A placement after an event is the one from before with its effect rewritten,
one of a batch, or the result of a completed migration.
-/
theorem assignment_apply {k : FlowId} {a : Assignment}
    (h : (e.apply l).assignment k = some a) :
    (∃ old effect, l.assignment k = some old ∧
        a = { old with effect := effect }) ∨
      (∃ batch, e = .place batch ∧ a ∈ batch ∧ a.flow = k) ∨
      ∃ record observation next old,
        e = .complete record observation next ∧ record.intent.flow = k ∧
        l.assignment k = some old ∧
        a = Impl.completedAssignment record.intent observation next old := by
  have hsame : ∀ {old : Assignment}, l.assignment k = some old → a = old →
      ∃ old effect, l.assignment k = some old ∧
        a = { old with effect := effect } := by
    rintro old hold rfl
    exact ⟨a, a.effect, hold, rfl⟩
  cases e with
  | supersede old flow =>
      exact Or.inl (hsame
        (assignment_release old .rejectedStaleFlowGeneration h).1 rfl)
  | remove old flow =>
      exact Or.inl (hsame (assignment_release old .rejectedUnknownFlow h).1 rfl)
  | advanceCapability target =>
      exact Or.inl (exists_of_assignment_demoteOn h)
  | advanceIncarnation target =>
      exact Or.inl (exists_of_assignment_demoteOn h)
  | retire target => exact Or.inl (exists_of_assignment_demoteOn h)
  | place batch =>
      rcases assignment_foldl_commit h with ⟨hmem, hflow⟩ | ⟨hold, -⟩
      · exact Or.inr (Or.inl ⟨batch, rfl, hmem, hflow⟩)
      · exact Or.inl (hsame hold rfl)
  | issue descriptor source intent =>
      simp only [Event.apply, assignment_hold] at h
      exact Or.inl (exists_of_assignment_setEffect h)
  | progress record advanced effect =>
      exact Or.inl (exists_of_assignment_setEffect h)
  | complete record observation next =>
      simp only [Event.apply, assignment_move] at h
      by_cases hk : k = record.intent.flow
      · subst hk
        rw [Function.update_self, Option.map_eq_some_iff] at h
        obtain ⟨old, hold, rfl⟩ := h
        exact Or.inr (Or.inr ⟨record, observation, next, old, rfl, rfl, hold,
          rfl⟩)
      · rw [Function.update_of_ne hk] at h
        exact Or.inl (hsame h rfl)
  | abort record reason => exact Or.inl (exists_of_assignment_setEffect h)
  | _ => exact Or.inl (hsame h rfl)

/-- Only a removed or superseded flow loses its placement. -/
theorem exists_assignment_apply {k : FlowId} {a : Assignment}
    (h : l.assignment k = some a) :
    (∃ a, (e.apply l).assignment k = some a) ∨
      (∃ old flow, e = .supersede old flow ∧ k = flow.flow) ∨
      ∃ old, e = .remove old k := by
  have heffect : ∀ (flow : FlowId) (effect : EffectState),
      ∃ a, (l.setEffect flow effect).assignment k = some a := by
    intro flow effect
    by_cases hk : k = flow
    · subst hk
      simp [setEffect, h]
    · simp [setEffect, Function.update_of_ne hk, h]
  have hdemote : ∀ target : TargetId,
      ∃ a, (l.demoteOn target).assignment k = some a := by
    intro target
    simp [demoteOn, h]
  cases e with
  | supersede old flow =>
      by_cases hk : k = flow.flow
      · exact Or.inr (Or.inl ⟨old, flow, rfl, hk⟩)
      · exact Or.inl ⟨a, by simpa [Event.apply, release, hk] using h⟩
  | remove old flow =>
      by_cases hk : k = flow
      · subst hk
        exact Or.inr (Or.inr ⟨old, rfl⟩)
      · exact Or.inl ⟨a, by simpa [Event.apply, release, hk] using h⟩
  | advanceCapability target => exact Or.inl (hdemote _)
  | advanceIncarnation target => exact Or.inl (hdemote _)
  | retire target => exact Or.inl (hdemote _)
  | place batch =>
      exact Or.inl (exists_assignment_foldl_commit h)
  | issue descriptor source intent =>
      left
      simp only [Event.apply, assignment_hold]
      exact heffect _ _
  | progress record advanced effect => exact Or.inl (heffect _ _)
  | complete record observation next =>
      left
      simp only [Event.apply, assignment_move]
      by_cases hk : k = record.intent.flow
      · subst hk
        rw [Function.update_self]
        exact ⟨_, congrArg (Option.map _) h⟩
      · rw [Function.update_of_ne hk]
        exact ⟨a, h⟩
  | abort record reason => exact Or.inl (heffect _ _)
  | _ => exact Or.inl ⟨a, h⟩

/-! ## Attempts -/

/-- What an event can make of an attempt in flight. -/
inductive Advances (e : Event) (record : MigrationRecord) :
    MigrationRecord → Prop where
  | ended {phase : MigrationPhase} {reason : ReasonCode}
      (terminal : phase = .aborted ∨ phase = .fenced) :
      Advances e record
        { record with intent.phase := phase, abortReason := reason }
  | progress {advanced : MigrationRecord} {effect : EffectState}
      (event : e = .progress record advanced effect) :
      Advances e record advanced
  | declined {isSource : Bool} {ack : MigrationAcknowledgement}
      (event : e = .decline record isSource ack) :
      Advances e record (declinedRecord record isSource ack)
  | completed {observation : EffectObservation} {next : UInt64}
      (event : e = .complete record observation next) :
      Advances e record (Impl.completedRecord record observation)

/-- An attempt after an event: as before, advanced, or newly opened. -/
def AttemptAfter (l : Ledger) (e : Event) (k : MigrationAttemptId)
    (record : MigrationRecord) : Prop :=
  l.attempt k = some record ∨
    (∃ old, l.attempt k = some old ∧ old.inFlight = true ∧
      Advances e old record) ∨
    ∃ descriptor source intent, e = .issue descriptor source intent ∧
      l.attempt k = none ∧ k = intent.attempt ∧ record = { intent := intent }

theorem attemptAfter_of_endAttempts {ends : MigrationRecord → Bool}
    {phase : MigrationPhase} {reason : ReasonCode} {k : MigrationAttemptId}
    {record : MigrationRecord} (hphase : phase = .aborted ∨ phase = .fenced)
    (h : (l.endAttempts ends phase reason).attempt k = some record) :
    AttemptAfter l e k record := by
  simp only [endAttempts, Option.map_eq_some_iff] at h
  obtain ⟨old, hold, rfl⟩ := h
  unfold Impl.endAttempt
  split
  next hended =>
    rw [Bool.and_eq_true] at hended
    exact Or.inr (Or.inl ⟨old, hold, hended.1, .ended hphase⟩)
  next => exact Or.inl hold

theorem attemptAfter_of_setAttempt {old new record : MigrationRecord}
    {k : MigrationAttemptId} (hold : l.attempt old.intent.attempt = some old)
    (hflight : old.inFlight = true) (hadvances : Advances e old new)
    (hkey : new.intent.attempt = old.intent.attempt)
    (h : (l.setAttempt new).attempt k = some record) :
    AttemptAfter l e k record := by
  by_cases hk : k = new.intent.attempt
  · subst hk
    simp only [setAttempt, Function.update_self, Option.some.injEq] at h
    subst h
    rw [hkey]
    exact Or.inr (Or.inl ⟨old, hold, hflight, hadvances⟩)
  · simp only [setAttempt, Function.update_of_ne hk] at h
    exact Or.inl h

theorem Progress.inFlight {record advanced : MigrationRecord}
    {effect : EffectState} (h : Progress record advanced effect) :
    record.inFlight = true := by
  rw [MigrationRecord.inFlight_iff]
  cases h with
  | acknowledged phase => split at phase <;> simp [phase]
  | applied phase => simp [phase]

theorem Progress.attempt {record advanced : MigrationRecord}
    {effect : EffectState} (h : Progress record advanced effect) :
    advanced.intent.attempt = record.intent.attempt := by
  cases h with
  | @acknowledged isSource _ _ _ _ _ => cases isSource <;> rfl
  | applied => rfl

theorem attempt_declinedRecord (record : MigrationRecord) (isSource : Bool)
    (ack : MigrationAcknowledgement) :
    (declinedRecord record isSource ack).intent.attempt =
      record.intent.attempt := by
  cases isSource <;> rfl

theorem attempt_apply (henabled : e.enabled l) {k : MigrationAttemptId}
    {record : MigrationRecord} (h : (e.apply l).attempt k = some record) :
    AttemptAfter l e k record := by
  cases e with
  | supersede old flow =>
      exact attemptAfter_of_endAttempts (Or.inr rfl) h
  | remove old flow => exact attemptAfter_of_endAttempts (Or.inr rfl) h
  | advanceIncarnation target =>
      exact attemptAfter_of_endAttempts (Or.inl rfl) h
  | retire target => exact attemptAfter_of_endAttempts (Or.inl rfl) h
  | place batch =>
      simp only [Event.apply, attempt_foldl_commit] at h
      exact Or.inl h
  | issue descriptor source intent =>
      simp only [Event.apply, attempt_hold] at h
      change Function.update l.attempt intent.attempt _ k = _ at h
      by_cases hk : k = intent.attempt
      · subst hk
        rw [Function.update_self] at h
        cases hold : l.attempt intent.attempt with
        | none =>
            rw [hold] at h
            cases h
            exact Or.inr (Or.inr ⟨descriptor, source, intent, rfl, hold, rfl,
              rfl⟩)
        | some old =>
            rw [hold] at h
            cases h
            exact Or.inl hold
      · rw [Function.update_of_ne hk] at h
        exact Or.inl h
  | progress old advanced effect =>
      exact attemptAfter_of_setAttempt henabled.1 henabled.2.inFlight
        (.progress rfl) henabled.2.attempt h
  | decline old isSource ack =>
      exact attemptAfter_of_setAttempt henabled.1 henabled.2 (.declined rfl)
        (attempt_declinedRecord old isSource ack) h
  | complete old observation next =>
      simp only [Event.apply, attempt_move] at h
      exact attemptAfter_of_setAttempt henabled.1 henabled.2.1
        (.completed rfl) rfl h
  | abort old reason =>
      have hset : (l.setAttempt (abortedRecord old reason)).attempt k =
          some record := h
      exact attemptAfter_of_setAttempt henabled.1 henabled.2
        (.ended (Or.inl rfl)) rfl hset
  | _ => exact Or.inl h

/-- The phase is the only part of an intent that ever changes. -/
theorem Advances.intent_eq {record advanced : MigrationRecord}
    (henabled : e.enabled l) (h : Advances e record advanced) :
    ∃ phase, advanced.intent = { record.intent with phase := phase } := by
  cases h with
  | ended => exact ⟨_, rfl⟩
  | progress event =>
      subst event
      cases henabled.2 with
      | @acknowledged isSource _ _ _ _ _ _ =>
          cases isSource <;> exact ⟨_, rfl⟩
      | applied => exact ⟨_, rfl⟩
  | @declined isSource ack event => cases isSource <;> exact ⟨_, rfl⟩
  | completed => exact ⟨_, rfl⟩

/-- An attempt that is in flight afterwards made progress or was opened. -/
theorem inFlight_apply (henabled : e.enabled l) {k : MigrationAttemptId}
    {record : MigrationRecord} (h : (e.apply l).attempt k = some record)
    (hflight : record.inFlight = true) :
    (∃ old phase, l.attempt k = some old ∧ old.inFlight = true ∧
        record.intent = { old.intent with phase := phase }) ∨
      ∃ descriptor source intent, e = .issue descriptor source intent ∧
        k = intent.attempt ∧ record = { intent := intent } := by
  rcases attempt_apply henabled h with
    hold | ⟨old, hold, hold_flight, hadvances⟩ |
      ⟨descriptor, source, intent, heq, -, hk, hrecord⟩
  · exact Or.inl ⟨record, record.intent.phase, hold, hflight, rfl⟩
  · obtain ⟨phase, hintent⟩ := hadvances.intent_eq henabled
    exact Or.inl ⟨old, phase, hold, hold_flight, hintent⟩
  · exact Or.inr ⟨descriptor, source, intent, heq, hk, hrecord⟩

/-- An attempt that has ended is never touched again. -/
theorem attempt_apply_of_ended (henabled : e.enabled l)
    {k : MigrationAttemptId} {record : MigrationRecord}
    (h : l.attempt k = some record) (hended : record.inFlight = false) :
    (e.apply l).attempt k = some record := by
  have hends : ∀ (ends : MigrationRecord → Bool) (phase : MigrationPhase)
      (reason : ReasonCode),
      (l.endAttempts ends phase reason).attempt k = some record := by
    intro ends phase reason
    simp [endAttempts, h, Impl.endAttempt, hended]
  have hset : ∀ old new : MigrationRecord,
      l.attempt old.intent.attempt = some old → old.inFlight = true →
      new.intent.attempt = old.intent.attempt →
      (l.setAttempt new).attempt k = some record := by
    intro old new hold hflight hkey
    have hk : k ≠ new.intent.attempt := by
      rintro rfl
      rw [hkey, hold] at h
      cases h
      rw [hflight] at hended
      cases hended
    simpa only [setAttempt, Function.update_of_ne hk]
  cases e with
  | supersede old flow => exact hends _ _ _
  | remove old flow => exact hends _ _ _
  | advanceIncarnation target => exact hends _ _ _
  | retire target => exact hends _ _ _
  | place batch => simpa only [Event.apply, attempt_foldl_commit]
  | issue descriptor source intent =>
      simp only [Event.apply, attempt_hold]
      change Function.update l.attempt intent.attempt _ k = _
      by_cases hk : k = intent.attempt
      · subst hk
        rw [Function.update_self, h]
        rfl
      · rw [Function.update_of_ne hk, h]
  | progress old advanced effect =>
      exact hset old advanced henabled.1 henabled.2.inFlight
        henabled.2.attempt
  | decline old isSource ack =>
      exact hset old _ henabled.1 henabled.2
        (attempt_declinedRecord old isSource ack)
  | complete old observation next =>
      simp only [Event.apply, attempt_move]
      exact hset old _ henabled.1 henabled.2.1 rfl
  | abort old reason =>
      exact hset old (abortedRecord old reason) henabled.1 henabled.2 rfl
  | _ => exact h

/-! ## Holders -/

/-- The holder entry that an event writes for a stateful flow. -/
inductive Event.Writes (l : Ledger) : Event → FlowId → StateHolder → Prop where
  | place {batch : List Assignment} {a : Assignment} (mem : a ∈ batch) :
      Writes l (.place batch) a.flow (Impl.holderOf a.flow a)
  | issue {descriptor : FlowDescriptor} {source : Assignment}
      {intent : MigrationIntent} :
      Writes l (.issue descriptor source intent) intent.flow
        (Impl.handoffHolder intent.flow descriptor source intent.attempt)
  | complete {record : MigrationRecord} {observation : EffectObservation}
      {next : UInt64} {previous : Assignment}
      (placed : l.assignment record.intent.flow = some previous) :
      Writes l (.complete record observation next) record.intent.flow
        { Impl.holderOf record.intent.flow (Impl.completedAssignment
            record.intent observation next previous) with
          flowGeneration := record.intent.flowGeneration }

/-- The flow whose exclusive state an event releases, with the descriptor it
was registered under. -/
def Event.releases : Event → Option (FlowDescriptor × FlowId)
  | .supersede old flow => some (old, flow.flow)
  | .remove old flow => some (old, flow)
  | _ => none

/-- A holder entry that an event releases. -/
def Event.frees (e : Event) (key : ExclusiveStateKeyId)
    (holder : StateHolder) : Prop :=
  ∃ old flow, e.releases = some (old, flow) ∧
    old.statefulness = .stateful ∧ key = old.exclusiveStateKey ∧
    holder.flow = flow

/-- What an event does to every holder entry it leaves. -/
def Event.touch (l : Ledger) : Event → StateHolder → StateHolder
  | .advanceIncarnation target => moveHolder target
  | .retire target => Impl.clearPending (l.endedBy target.target)
  | .decline record _ _ =>
      Impl.clearPending fun pending => pending = record.intent.attempt
  | .abort record _ =>
      Impl.clearPending fun pending => pending = record.intent.attempt
  | _ => id

theorem touch_placement (l : Ledger) (e : Event) (holder : StateHolder) :
    (e.touch l holder).flow = holder.flow ∧
      (e.touch l holder).flowGeneration = holder.flowGeneration ∧
      (e.touch l holder).target = holder.target ∧
      (e.touch l holder).assignment = holder.assignment := by
  have hclear : ∀ ended : MigrationAttemptId → Bool,
      (Impl.clearPending ended holder).flow = holder.flow ∧
      (Impl.clearPending ended holder).flowGeneration =
        holder.flowGeneration ∧
      (Impl.clearPending ended holder).target = holder.target ∧
      (Impl.clearPending ended holder).assignment = holder.assignment := by
    intro ended
    unfold Impl.clearPending
    split <;> exact ⟨rfl, rfl, rfl, rfl⟩
  cases e with
  | advanceIncarnation target =>
      simp only [Event.touch, moveHolder]
      split <;> exact ⟨rfl, rfl, rfl, rfl⟩
  | retire target => exact hclear _
  | decline record isSource ack => exact hclear _
  | abort record reason => exact hclear _
  | _ => exact ⟨rfl, rfl, rfl, rfl⟩

/-- The holder of a key that nothing in the event writes. -/
def Left (l : Ledger) (e : Event) (key : ExclusiveStateKeyId) : Prop :=
  (∀ flow holder, e.Writes l flow holder → ¬ l.Claims flow key) ∧
    ((e.apply l).holder key = (l.holder key).map (e.touch l) ∧
        (∀ holder, l.holder key = some holder → ¬ e.frees key holder) ∨
      (e.apply l).holder key = none ∧
        ∀ holder, l.holder key = some holder → e.frees key holder)

theorem left_of_releases {old : FlowDescriptor} {flow : FlowId}
    {key : ExclusiveStateKeyId}
    (hwrites : ∀ flow holder, ¬ e.Writes l flow holder)
    (hreleases : e.releases = some (old, flow)) (htouch : e.touch l = id)
    (hholder : (e.apply l).holder key =
      if old.statefulness = .stateful ∧ key = old.exclusiveStateKey then
        (l.holder key).filter fun holder => holder.flow ≠ flow
      else l.holder key) : Left l e key := by
  refine ⟨fun flow holder h => absurd h (hwrites flow holder), ?_⟩
  rw [htouch, Option.map_id]
  rw [hholder]
  by_cases hkey : old.statefulness = .stateful ∧ key = old.exclusiveStateKey
  · rw [if_pos hkey]
    cases hold : l.holder key with
    | none => exact Or.inr ⟨rfl, by simp⟩
    | some holder =>
        by_cases hflow : holder.flow = flow
        · refine Or.inr ⟨by simp [hflow], ?_⟩
          rintro _ ⟨⟩
          exact ⟨old, flow, hreleases, hkey.1, hkey.2, hflow⟩
        · refine Or.inl ⟨by simp [hflow], ?_⟩
          rintro _ ⟨⟩ ⟨_, _, heq, -, -, hfree⟩
          rw [hreleases] at heq
          cases heq
          exact hflow hfree
  · rw [if_neg hkey]
    refine Or.inl ⟨rfl, ?_⟩
    rintro holder - ⟨_, _, heq, hstateful, hk, -⟩
    rw [hreleases] at heq
    cases heq
    exact hkey ⟨hstateful, hk⟩

theorem left_of_touch {key : ExclusiveStateKeyId}
    (hwrites : ∀ flow holder, e.Writes l flow holder → ¬ l.Claims flow key)
    (hreleases : e.releases = none)
    (hholder : (e.apply l).holder key = (l.holder key).map (e.touch l)) :
    Left l e key := by
  refine ⟨hwrites, Or.inl ⟨hholder, ?_⟩⟩
  rintro holder - ⟨_, _, heq, -⟩
  rw [hreleases] at heq
  cases heq

/-- Holders after an event: written by it, or left to the entry before. -/
theorem holder_apply (l : Ledger) (e : Event) (key : ExclusiveStateKeyId) :
    (∃ flow holder, e.Writes l flow holder ∧ l.Claims flow key ∧
        (e.apply l).holder key = some holder) ∨ Left l e key := by
  have hid : ∀ found : Option StateHolder, found = found.map id := by
    intro found
    rw [Option.map_id]
    rfl
  cases e with
  | supersede old flow =>
      exact Or.inr (left_of_releases (fun _ _ h => nomatch h) rfl rfl rfl)
  | remove old flow =>
      exact Or.inr (left_of_releases (fun _ _ h => nomatch h) rfl rfl rfl)
  | place batch =>
      rcases holder_foldl_commit key with ⟨heq, hnone⟩ | ⟨a, ha, hclaims, heq⟩
      · refine Or.inr (left_of_touch ?_ rfl (heq.trans (hid _)))
        rintro _ _ ⟨hmem⟩
        exact hnone _ hmem
      · exact Or.inl ⟨a.flow, _, .place ha, hclaims, heq⟩
  | issue descriptor source intent =>
      by_cases hclaims : l.Claims intent.flow key
      · exact Or.inl ⟨intent.flow, _, .issue, hclaims,
          holder_hold_of_claims hclaims⟩
      · refine Or.inr (left_of_touch ?_ rfl ?_)
        · rintro _ _ ⟨⟩
          exact hclaims
        · refine Eq.trans ?_ (hid _)
          exact holder_hold_of_not_claims hclaims
  | complete record observation next =>
      cases hplaced : l.assignment record.intent.flow with
      | none =>
          refine Or.inr (left_of_touch ?_ rfl ?_)
          · intro flow holder hwrites
            cases hwrites with
            | complete placed =>
                rw [hplaced] at placed
                cases placed
          · refine Eq.trans ?_ (hid _)
            have hsame : (l.setAttempt (Impl.completedRecord record
                observation)).assignment record.intent.flow = none := hplaced
            simp only [Event.apply, move, hsame]
            rfl
      | some previous =>
          have hsame : (l.setAttempt (Impl.completedRecord record
              observation)).assignment record.intent.flow =
                some previous := hplaced
          by_cases hclaims : l.Claims record.intent.flow key
          · refine Or.inl ⟨_, _, .complete hplaced, hclaims, ?_⟩
            simp only [Event.apply, move, hsame]
            exact holder_hold_of_claims hclaims
          · refine Or.inr (left_of_touch ?_ rfl ?_)
            · rintro _ _ ⟨⟩
              exact hclaims
            · refine Eq.trans ?_ (hid _)
              simp only [Event.apply, move, hsame]
              exact holder_hold_of_not_claims hclaims
  | advanceIncarnation target =>
      exact Or.inr (left_of_touch (fun _ _ h => nomatch h) rfl rfl)
  | retire target =>
      exact Or.inr (left_of_touch (fun _ _ h => nomatch h) rfl rfl)
  | decline record isSource ack =>
      exact Or.inr (left_of_touch (fun _ _ h => nomatch h) rfl rfl)
  | abort record reason =>
      exact Or.inr (left_of_touch (fun _ _ h => nomatch h) rfl rfl)
  | _ =>
      exact Or.inr (left_of_touch (fun _ _ h => nomatch h) rfl (hid _))

end FlowOffload.Ledger

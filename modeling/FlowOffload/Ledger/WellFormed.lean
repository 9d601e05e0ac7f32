import FlowOffload.Ledger.Apply
import FlowOffload.Ledger.Runs

/-!
# Well-formed ledgers

What holds in every reachable state without any condition on the inputs:
records are stored under their identity, a placement belongs to a registered
flow of its generation and to a known target, and an attempt in flight still
has all it was opened with.
-/

namespace FlowOffload

open Foundation

namespace Ledger

/-- What an attempt in flight keeps from the intent it was opened with. -/
structure Backed (l : Ledger) (intent : MigrationIntent) : Prop where
  flow : ∃ descriptor, l.flow intent.flow = some descriptor ∧
    intent.flowGeneration = descriptor.generation ∧
    (descriptor.statefulness = .stateful → Covered l intent)
  destination : ∃ target, l.target intent.destinationTarget = some target
  placed : ∃ a, l.assignment intent.flow = some a

structure WellFormed (l : Ledger) : Prop extends Keyed l where
  stateKey : ∀ k descriptor, l.flow k = some descriptor →
    descriptor.statefulness = .stateful →
    descriptor.exclusiveStateKey.isValid = true
  placed : ∀ k a, l.assignment k = some a →
    (∃ descriptor, l.flow k = some descriptor ∧
      a.flowGeneration = descriptor.generation) ∧
    ∃ target, l.target a.target = some target
  backed : ∀ k record, l.attempt k = some record → record.inFlight = true →
    Backed l record.intent

variable {l : Ledger} {e : Event}

theorem wellFormed_empty : WellFormed empty := by
  constructor
  · constructor <;> (intro k v h; cases h)
  · intro k v h
    cases h
  · intro k v h
    cases h
  · intro k v h
    cases h

/-! ## Events -/

theorem Placeable.flow_eq {a : Assignment} (hkeyed : l.Keyed)
    (h : Placeable l a) : ∃ descriptor, l.flow a.flow = some descriptor ∧
      descriptor.flow = a.flow := by
  obtain ⟨descriptor, hflow, -⟩ := h.known
  exact ⟨descriptor, hflow, hkeyed.flow _ _ hflow⟩

theorem Keyed.apply (h : l.Keyed) (henabled : e.enabled l) :
    (e.apply l).Keyed where
  flow := by
    intro k flow hflow
    rcases flow_apply hflow with hold | ⟨hk, -⟩
    · exact h.flow k flow hold
    · exact hk.symm
  target := by
    intro k target htarget
    rw [target_apply] at htarget
    split at htarget
    · split at htarget
      next hk =>
        cases htarget
        exact hk.symm
      next => exact h.target k target htarget
    · exact h.target k target htarget
  assignment := by
    intro k a ha
    rcases assignment_apply ha with
      ⟨old, effect, hold, rfl⟩ | ⟨batch, -, -, hflow⟩ |
        ⟨record, observation, next, old, -, -, hold, rfl⟩
    · exact h.assignment k old hold
    · exact hflow
    · exact h.assignment k old hold
  attempt := by
    intro k record hrecord
    rcases attempt_apply henabled hrecord with
      hold | ⟨old, hold, -, hadvances⟩ |
        ⟨descriptor, source, intent, -, -, hk, rfl⟩
    · exact h.attempt k record hold
    · obtain ⟨phase, hintent⟩ := hadvances.intent_eq henabled
      rw [hintent]
      exact h.attempt k old hold
    · exact hk.symm
  contract := by
    intro k contract hcontract
    rcases contract_apply hcontract with hold | ⟨-, hk⟩
    · exact h.contract k contract hold
    · exact hk.symm

theorem Covered.apply {intent : MigrationIntent} (henabled : e.enabled l)
    (h : Covered l intent) : Covered (e.apply l) intent := by
  obtain ⟨contract, hcontract, hrest⟩ := h
  exact ⟨contract, contract_apply_of_contract henabled hcontract, hrest⟩

theorem Covered.withPhase {intent : MigrationIntent} {phase : MigrationPhase}
    (h : Covered l intent) :
    Covered l { intent with phase := phase } := h

/-- A flow that an event takes away has no attempt left in flight. -/
theorem flow_ne_of_inFlight_apply (henabled : e.enabled l)
    {k : MigrationAttemptId} {record : MigrationRecord}
    (h : (e.apply l).attempt k = some record)
    (hflight : record.inFlight = true) :
    (∀ old flow, e = .supersede old flow → record.intent.flow ≠ flow.flow) ∧
      ∀ old flow, e = .remove old flow → record.intent.flow ≠ flow := by
  have hends : ∀ (flow : FlowId) (reason : ReasonCode),
      (l.endAttempts (Impl.attemptOf flow) .fenced reason).attempt k =
        some record → record.intent.flow ≠ flow := by
    intro flow reason hrecord
    simp only [endAttempts, Option.map_eq_some_iff] at hrecord
    obtain ⟨old, -, rfl⟩ := hrecord
    unfold Impl.endAttempt at hflight ⊢
    split at hflight
    · rw [MigrationRecord.inFlight_iff] at hflight
      exact absurd rfl hflight.2.2
    next hkept =>
      rw [if_neg hkept]
      rw [hflight, Bool.true_and] at hkept
      simpa [Impl.attemptOf] using hkept
  constructor
  · rintro old flow rfl
    exact hends flow.flow .rejectedStaleFlowGeneration h
  · rintro old flow rfl
    exact hends flow .rejectedUnknownFlow h

/-- The flow of an attempt that is still in flight is the one it was. -/
theorem flow_apply_of_inFlight (henabled : e.enabled l)
    {k : MigrationAttemptId} {record : MigrationRecord}
    (h : (e.apply l).attempt k = some record)
    (hflight : record.inFlight = true) {descriptor : FlowDescriptor}
    (hflow : l.flow record.intent.flow = some descriptor) :
    (e.apply l).flow record.intent.flow = some descriptor := by
  obtain ⟨hsupersede, hremove⟩ := flow_ne_of_inFlight_apply henabled h hflight
  rcases flow_apply_of_flow henabled hflow with hkept | ⟨new, heq, hk⟩ | heq
  · exact hkept
  · exact absurd hk (hsupersede _ _ heq)
  · exact absurd rfl (hremove _ _ heq)

theorem Backed.apply {record : MigrationRecord} {k : MigrationAttemptId}
    {intent : MigrationIntent} {phase : MigrationPhase}
    (henabled : e.enabled l) (hrecord : (e.apply l).attempt k = some record)
    (hflight : record.inFlight = true)
    (hintent : record.intent = { intent with phase := phase })
    (h : Backed l intent) : Backed (e.apply l) record.intent := by
  obtain ⟨hsupersede, hremove⟩ :=
    flow_ne_of_inFlight_apply henabled hrecord hflight
  have hflow_eq : record.intent.flow = intent.flow := by rw [hintent]
  obtain ⟨descriptor, hflow, hgeneration, hcovered⟩ := h.flow
  obtain ⟨target, htarget⟩ := h.destination
  obtain ⟨a, ha⟩ := h.placed
  refine ⟨⟨descriptor, ?_, ?_, ?_⟩, ?_, ?_⟩
  · rw [← hflow_eq] at hflow
    exact flow_apply_of_inFlight henabled hrecord hflight hflow
  · rw [hintent]
    exact hgeneration
  · intro hstateful
    rw [hintent]
    exact (hcovered hstateful).apply henabled
  · rw [hintent]
    exact exists_target_apply htarget
  · rw [hflow_eq]
    rcases exists_assignment_apply (e := e) ha with
      hkept | ⟨old, flow, heq, hk⟩ | ⟨old, heq⟩
    · exact hkept
    · exact absurd (hflow_eq.trans hk) (hsupersede _ _ heq)
    · exact absurd hflow_eq (hremove _ _ heq)

theorem backed_issue {descriptor : FlowDescriptor} {source : Assignment}
    {intent : MigrationIntent}
    (henabled : (Event.issue descriptor source intent).enabled l) :
    Backed ((Event.issue descriptor source intent).apply l) intent := by
  obtain ⟨-, hflow, hgeneration, hsource, -, -, ⟨target, htarget, -⟩,
    hstateful⟩ := id henabled
  refine ⟨⟨descriptor, ?_, hgeneration, ?_⟩, ?_, ?_⟩
  · simpa only [Event.apply, flow_hold]
  · intro h
    exact (hstateful h).1.apply henabled
  · exact exists_target_apply htarget
  · rcases exists_assignment_apply (e := .issue descriptor source intent)
      hsource with hkept | ⟨_, _, heq, -⟩ | ⟨_, heq⟩
    · exact hkept
    · cases heq
    · cases heq

/-- The flow of a placement that is left was neither superseded nor removed. -/
theorem flow_apply_of_placed (henabled : e.enabled l) {k : FlowId}
    {a : Assignment} (ha : (e.apply l).assignment k = some a)
    {descriptor : FlowDescriptor} (hflow : l.flow k = some descriptor) :
    (e.apply l).flow k = some descriptor := by
  rcases flow_apply_of_flow henabled hflow with hkept | ⟨new, rfl, hk⟩ | rfl
  · exact hkept
  · exact absurd hk
      (assignment_release descriptor .rejectedStaleFlowGeneration ha).2
  · exact absurd rfl
      (assignment_release descriptor .rejectedUnknownFlow ha).2

theorem WellFormed.placed_apply (h : WellFormed l) (henabled : e.enabled l)
    {k : FlowId} {a : Assignment} (ha : (e.apply l).assignment k = some a) :
    (∃ descriptor, (e.apply l).flow k = some descriptor ∧
      a.flowGeneration = descriptor.generation) ∧
    ∃ target, (e.apply l).target a.target = some target := by
  have hkept : ∀ descriptor, l.flow k = some descriptor →
      (e.apply l).flow k = some descriptor :=
    fun descriptor => flow_apply_of_placed henabled ha
  rcases assignment_apply ha with
    ⟨old, effect, hold, rfl⟩ | ⟨batch, rfl, hmem, rfl⟩ |
      ⟨record, observation, next, old, rfl, rfl, hold, rfl⟩
  · obtain ⟨⟨descriptor, hflow, hgeneration⟩, target, htarget⟩ :=
      h.placed k old hold
    exact ⟨⟨descriptor, hkept descriptor hflow, hgeneration⟩,
      exists_target_apply htarget⟩
  · have hplaceable := henabled.2 a hmem
    obtain ⟨descriptor, hflow, hgeneration, -⟩ := hplaceable.known
    obtain ⟨target, htarget, -⟩ := hplaceable.current
    exact ⟨⟨descriptor, hkept descriptor hflow, hgeneration⟩,
      exists_target_apply htarget⟩
  · obtain ⟨⟨descriptor, hflow, hgeneration⟩, -⟩ := h.placed _ old hold
    obtain ⟨target, htarget⟩ :=
      (h.backed _ record henabled.1 henabled.2.1).destination
    exact ⟨⟨descriptor, hkept descriptor hflow, hgeneration⟩,
      exists_target_apply htarget⟩

theorem WellFormed.apply (h : WellFormed l) (henabled : e.enabled l) :
    WellFormed (e.apply l) where
  toKeyed := h.toKeyed.apply henabled
  stateKey := by
    intro k descriptor hflow
    rcases flow_apply hflow with hold | ⟨-, rfl | ⟨old, rfl⟩⟩
    · exact h.stateKey k descriptor hold
    · exact henabled.2
    · exact henabled.2.2
  placed := fun k a ha => h.placed_apply henabled ha
  backed := by
    intro k record hrecord hflight
    rcases inFlight_apply henabled hrecord hflight with
      ⟨old, phase, hold, hold_flight, hintent⟩ |
        ⟨descriptor, source, intent, rfl, rfl, rfl⟩
    · exact (h.backed k old hold hold_flight).apply henabled hrecord hflight
        hintent
    · exact backed_issue henabled

/-! ## Restart -/

theorem inFlight_endAttempt_restart (record : MigrationRecord) :
    (Impl.endAttempt (fun _ => true) .fenced .rejectedFencedByRestart
      record).inFlight = false := by
  unfold Impl.endAttempt
  split
  · rfl
  next h => simpa using h

theorem Restarted.not_inFlight {l' : Ledger} (h : Restarted l l')
    {k : MigrationAttemptId} {record : MigrationRecord}
    (hrecord : l'.attempt k = some record) : record.inFlight = false := by
  rw [h.attempt, Option.map_eq_some_iff] at hrecord
  obtain ⟨old, -, rfl⟩ := hrecord
  exact inFlight_endAttempt_restart old

theorem Keyed.restart {l' : Ledger} (h : l.Keyed) (hrestart : Restarted l l') :
    l'.Keyed where
  flow := by
    rw [hrestart.flow]
    exact h.flow
  target := by
    intro k target htarget
    rw [hrestart.target, Option.map_eq_some_iff] at htarget
    obtain ⟨old, hold, rfl⟩ := htarget
    exact h.target k old hold
  assignment := by
    intro k a ha
    rw [hrestart.assignment, Option.map_eq_some_iff] at ha
    obtain ⟨old, hold, rfl⟩ := ha
    rw [Impl.flow_durableAssignment]
    exact h.assignment k old hold
  attempt := by
    intro k record hrecord
    rw [hrestart.attempt, Option.map_eq_some_iff] at hrecord
    obtain ⟨old, hold, rfl⟩ := hrecord
    have hkey := h.attempt k old hold
    unfold Impl.endAttempt
    split <;> exact hkey
  contract := by
    rw [hrestart.contract]
    exact h.contract

theorem WellFormed.restart {l' : Ledger} (h : WellFormed l)
    (hrestart : Restarted l l') : WellFormed l' where
  toKeyed := h.toKeyed.restart hrestart
  stateKey := by
    rw [hrestart.flow]
    exact h.stateKey
  placed := by
    intro k a ha
    rw [hrestart.assignment, Option.map_eq_some_iff] at ha
    obtain ⟨old, hold, rfl⟩ := ha
    obtain ⟨⟨descriptor, hflow, hgeneration⟩, target, htarget⟩ :=
      h.placed k old hold
    have hsame : (Impl.durableAssignment old).flowGeneration =
        old.flowGeneration ∧
        (Impl.durableAssignment old).target = old.target := by
      unfold Impl.durableAssignment
      split <;> exact ⟨rfl, rfl⟩
    rw [hsame.1, hsame.2, hrestart.flow, hrestart.target, htarget]
    exact ⟨⟨descriptor, hflow, hgeneration⟩, _, rfl⟩
  backed := by
    intro k record hrecord hflight
    rw [hrestart.not_inFlight hrecord] at hflight
    cases hflight

end Ledger

/-! ## Runs -/

namespace Impl

/-- What has to be shown of a law over well-formed ledgers. -/
structure Law (guard : Impl → Op → Prop) (law : Ledger → Prop) : Prop where
  empty : law Ledger.empty
  event : ∀ (s : Impl) (op : Op) (event : Ledger.Event),
    s.ledger.WellFormed → law s.ledger → guard s op → s.Produces op event →
    event.enabled s.ledger → law (event.apply s.ledger)
  restart : ∀ l l', Ledger.WellFormed l → law l → Ledger.Restarted l l' →
    law l'

variable {guard : Impl → Op → Prop} {law : Ledger → Prop}

theorem Law.preserved (h : Law guard law) :
    Preserved guard fun l => l.WellFormed ∧ law l where
  keyed := fun _ hl => hl.1.toKeyed
  empty := ⟨Ledger.wellFormed_empty, h.empty⟩
  event := by
    intro s op event hl hguard hproduces henabled
    exact ⟨hl.1.apply henabled,
      h.event s op event hl.1 hl.2 hguard hproduces henabled⟩
  restart := by
    intro l l' hl hrestart
    exact ⟨hl.1.restart hrestart, h.restart l l' hl.1 hl.2 hrestart⟩

theorem Law.run (h : Law guard law) {config : EngineConfig}
    {inputs : List Op} (hrun : engine.Admits guard (init config []) inputs) :
    law (engine.run (init config []) inputs).ledger :=
  (h.preserved.run hrun).now.2

theorem law_true (guard : Impl → Op → Prop) : Law guard fun _ => True :=
  ⟨trivial, fun _ _ _ _ _ _ _ _ => trivial, fun _ _ _ _ _ => trivial⟩

/-- Every reachable ledger is well formed. -/
theorem wellFormed_run {config : EngineConfig} {inputs : List Op}
    (hrun : engine.Admits guard (init config []) inputs) :
    (engine.run (init config []) inputs).ledger.WellFormed :=
  ((law_true guard).preserved.run hrun).now.1

/-! ## Keys, whatever the store hands back -/

/-- The tables of a recovered state are filled by the identity of each record,
also when no engine wrote that state. -/
theorem keyed_restoredLedger (state : DurableState) :
    (restoredLedger state).Keyed where
  flow := fun _ _ h => (mem_of_lookup_indexBy h).2
  target := by
    intro k target h
    have htarget : (restoredLedger state).target k =
        (lookup (indexBy (fun target => target.descriptor.target)
          (state.targets.map fun descriptor =>
            ({ descriptor := descriptor } : TargetState))) k).map
          TargetState.descriptor :=
      congrFun (congrArg Ledger.target (Eq.trans (ledger_mapHolders _ _)
        (congrArg (Ledger.mapHolders · _) ((ledger_fenceAttempts _ _ _).trans
          (congrArg (Ledger.endAttempts · _ _ _)
            (ledger_recomputeScheduledLocked _)))))) k
    rw [htarget, Option.map_eq_some_iff] at h
    obtain ⟨entry, hentry, rfl⟩ := h
    exact (mem_of_lookup_indexBy hentry).2
  assignment := fun _ _ h => (mem_of_lookup_indexBy h).2
  attempt := by
    intro k record h
    have hmap : lookup (Std.ExtTreeMap.map (fun _ record =>
        endAttempt (fun _ => true) .fenced .rejectedFencedByRestart record)
        (indexBy (fun record => record.intent.attempt)
          state.migrations)) k = some record := h
    rw [lookup_map, Option.map_eq_some_iff] at hmap
    obtain ⟨stored, hstored, rfl⟩ := hmap
    rw [← (mem_of_lookup_indexBy hstored).2]
    unfold endAttempt
    split <;> rfl
  contract := fun _ _ h => (mem_of_lookup_indexBy h).2

theorem keyed_step {s : Impl} (h : s.ledger.Keyed) (op : Op) :
    (s.step op).ledger.Keyed := by
  rcases step_ledger h op with
    (heq | ⟨event, -, henabled, heq⟩) | ⟨config, -, heq⟩ | ⟨state, -, heq⟩
  · rw [heq]
    exact h
  · rw [heq]
    exact h.apply henabled
  · rw [heq]
    exact Ledger.wellFormed_empty.toKeyed
  · rw [heq]
    exact keyed_restoredLedger state

end Impl

end FlowOffload

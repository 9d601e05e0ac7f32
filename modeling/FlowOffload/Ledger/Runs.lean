import FlowOffload.Engine.Durable
import FlowOffload.Ledger.Restart

/-!
# Laws of the ledger over whole runs

A law that events preserve, and that survives a restart, holds in every state
of every run.  The store may hand back any state it was ever given, so the law
is carried for the current ledger and for what every submitted state would be
recovered to.
-/

namespace FlowOffload

open Foundation

namespace Impl

variable {s : Impl}

/-! ## Opening and shutting down -/

theorem ledger_fencePrevious (s : Impl) (boot : BootId) :
    (s.fencePrevious boot).ledger = s.ledger := by
  unfold fencePrevious
  split
  · dsimp only
    split <;> rfl
  · rfl

theorem submitted_fencePrevious (s : Impl) (boot : BootId) :
    (s.fencePrevious boot).submitted = s.submitted := by
  unfold fencePrevious
  split
  · dsimp only
    split <;> rfl
  · rfl

theorem ledger_startIncarnation (s : Impl) (epoch : CoordinatorEpoch)
    (boot : BootId) (answer : Status) :
    (s.startIncarnation epoch boot answer).1.ledger = s.ledger := by
  have hpersist : ∀ t : Impl, (if (t.persistLocked answer).2.failed then
        (({ (t.persistLocked answer).1 with isOpen := false } : Impl),
          (t.persistLocked answer).2)
      else t.persistLocked answer).1.ledger = t.ledger := by
    intro t
    have h := ledger_persistLocked t answer
    split <;> exact h
  unfold startIncarnation
  split
  · rfl
  · dsimp only
    refine (hpersist _).trans ?_
    exact ledger_fencePrevious _ boot

theorem recorded_startIncarnation {t : Impl}
    (h : t.submitted = s.submitted) (epoch : CoordinatorEpoch)
    (boot : BootId) (answer : Status) :
    s.Recorded (t.startIncarnation epoch boot answer).1 := by
  have hpersist : ∀ u : Impl, u.submitted = s.submitted →
      s.Recorded (if (u.persistLocked answer).2.failed then
        (({ (u.persistLocked answer).1 with isOpen := false } : Impl),
          (u.persistLocked answer).2)
      else u.persistLocked answer).1 := by
    intro u hu
    have hrecorded : s.Recorded (u.persistLocked answer).1 :=
      .persistLocked hu
    split <;> exact hrecorded
  unfold startIncarnation
  split
  · exact .same h
  · dsimp only
    refine hpersist _ ?_
    exact (submitted_fencePrevious _ boot).trans h

theorem ledger_openEngine (s : Impl) (opening : StoreOpening)
    (answer : Status) :
    (s.openEngine opening answer).1.ledger = s.ledger ∨
      ∃ state, opening.state = some state ∧
        (s.openEngine opening answer).1.ledger = restoredLedger state := by
  unfold openEngine
  split
  · exact Or.inl rfl
  · split
    · exact Or.inl (ledger_startIncarnation _ _ _ _)
    · dsimp only
      split
      · exact Or.inl rfl
      · split
        · exact Or.inl (ledger_startIncarnation _ _ _ _)
        next state hstate =>
          exact Or.inr ⟨state, hstate, ledger_startIncarnation _ _ _ _⟩

theorem submitted_restoreLocked (s : Impl) (state : DurableState) :
    (s.restoreLocked state).submitted = s.submitted := by
  have hclear : ∀ (t : Impl) (f : StateHolder → StateHolder),
      (t.mapHolders f).submitted = t.submitted := fun _ _ => rfl
  have hfence : ∀ t : Impl, (t.fenceAttempts (fun _ => true)
      .rejectedFencedByRestart).submitted = t.submitted := fun _ => rfl
  unfold restoreLocked
  rw [hclear, hfence]
  rfl

theorem recorded_openEngine (opening : StoreOpening) (answer : Status) :
    s.Recorded (s.openEngine opening answer).1 := by
  unfold openEngine
  split
  · exact .same rfl
  · split
    · exact recorded_startIncarnation rfl _ _ _
    · dsimp only
      split
      · exact .same rfl
      · split
        · exact recorded_startIncarnation rfl _ _ _
        next state hstate =>
          have hsubmitted := submitted_restoreLocked
            { s with recovery := opening.report } state
          exact recorded_startIncarnation (hsubmitted.trans rfl) _ _ _

theorem ledger_shutdown (s : Impl) (answer : Status) :
    (s.shutdown answer).ledger = s.ledger := by
  unfold shutdown
  split
  · exact ledger_persistLocked s answer
  · rfl

theorem recorded_shutdown (answer : Status) :
    s.Recorded (s.shutdown answer) := by
  unfold shutdown
  split
  · have hrecorded : s.Recorded (s.persistLocked answer).1 :=
      .persistLocked rfl
    intro state hstate
    rcases List.mem_cons.mp hstate with rfl | hstate
    · exact Or.inr ⟨_, rfl⟩
    · exact hrecorded state hstate
  · exact .same rfl

/-! ## One step -/

theorem recorded_step (op : Op) : s.Recorded (s.step op) := by
  cases op with
  | openEngine opening answer => exact recorded_openEngine opening answer
  | shutdown answer => exact recorded_shutdown answer
  | restart config => exact .same rfl
  | registerFlow flow answer => exact recorded_registerFlow flow answer
  | removeFlow flow generation answer =>
      exact recorded_removeFlow flow generation answer
  | declareTarget target answer => exact recorded_declareTarget target answer
  | removeTarget target incarnation instant answer =>
      exact recorded_removeTarget target incarnation instant answer
  | ingestLoad evidence => exact recorded_ingestLoad evidence
  | setPolicy policy answer => exact recorded_setPolicy policy answer
  | setTopologyGeneration generation answer =>
      exact recorded_setTopologyGeneration generation answer
  | registerMigrationContract contract answer =>
      exact recorded_registerMigrationContract contract answer
  | place request answer => exact recorded_placeLocked request answer
  | rebalance request answer => exact recorded_rebalanceLocked request answer
  | authorize recommendation instant =>
      exact recorded_authorize recommendation instant
  | revokeAuthorization authorization =>
      exact recorded_revokeAuthorization authorization
  | issueIntent authorization wanted answer =>
      exact recorded_issueIntent authorization wanted answer
  | acknowledge ack answer => exact recorded_acknowledge ack answer
  | reportApplied effect answer => exact recorded_reportApplied effect answer
  | observe observation answer => exact recorded_observe observation answer
  | abortMigration attempt reason answer =>
      exact recorded_abortMigration attempt reason answer

/-- What one operation does to the ledger. -/
theorem step_ledger (hkeyed : s.ledger.Keyed) (op : Op) :
    s.Steps op (s.step op).ledger ∨
      (∃ config, op = .restart config ∧
        (s.step op).ledger = Ledger.empty) ∨
      ∃ state, op.recovered = some state ∧
        (s.step op).ledger = restoredLedger state := by
  cases op with
  | openEngine opening answer =>
      rcases ledger_openEngine s opening answer with h | ⟨state, hstate, h⟩
      · exact Or.inl (.stay h)
      · exact Or.inr (Or.inr ⟨state, hstate, h⟩)
  | shutdown answer => exact Or.inl (.stay (ledger_shutdown s answer))
  | restart config =>
      refine Or.inr (Or.inl ⟨config, rfl, ?_⟩)
      simp [step, init, ledger, Ledger.empty]
  | registerFlow flow answer => exact Or.inl (steps_registerFlow flow answer)
  | removeFlow flow generation answer =>
      exact Or.inl (steps_removeFlow flow generation answer)
  | declareTarget target answer =>
      exact Or.inl (steps_declareTarget target answer)
  | removeTarget target incarnation instant answer =>
      exact Or.inl
        (steps_removeTarget hkeyed target incarnation instant answer)
  | ingestLoad evidence =>
      exact Or.inl (.stay (ledger_ingestLoad s evidence))
  | setPolicy policy answer =>
      exact Or.inl (.stay (ledger_setPolicy s policy answer))
  | setTopologyGeneration generation answer =>
      exact Or.inl (.stay (ledger_setTopologyGeneration s generation answer))
  | registerMigrationContract contract answer =>
      exact Or.inl (steps_registerMigrationContract contract answer)
  | place request answer =>
      exact Or.inl (steps_placeLocked hkeyed request answer)
  | rebalance request answer =>
      exact Or.inl (.stay (ledger_rebalanceLocked s request answer))
  | authorize recommendation instant =>
      exact Or.inl (.stay (ledger_authorize s recommendation instant))
  | revokeAuthorization authorization =>
      exact Or.inl (.stay (ledger_revokeAuthorization s authorization))
  | issueIntent authorization wanted answer =>
      exact Or.inl (steps_issueIntent hkeyed authorization wanted answer)
  | acknowledge ack answer =>
      exact Or.inl (steps_acknowledge hkeyed ack answer)
  | reportApplied effect answer =>
      exact Or.inl (steps_reportApplied hkeyed effect answer)
  | observe observation answer =>
      exact Or.inl (steps_observe hkeyed observation answer)
  | abortMigration attempt reason answer =>
      exact Or.inl (steps_abortMigration hkeyed attempt reason answer)

/-! ## Whole runs -/

/-- A law holds now and after recovering anything the store was given. -/
structure Sound (law : Ledger → Prop) (s : Impl) : Prop where
  now : law s.ledger
  later : ∀ state ∈ s.submitted, law (restoredLedger state)

/-- What has to be shown of a law, one event at a time. -/
structure Preserved (guard : Impl → Op → Prop) (law : Ledger → Prop) :
    Prop where
  keyed : ∀ l, law l → l.Keyed
  empty : law Ledger.empty
  event : ∀ (s : Impl) (op : Op) (event : Ledger.Event), law s.ledger →
    guard s op → s.Produces op event → event.enabled s.ledger →
    law (event.apply s.ledger)
  restart : ∀ l l', law l → Ledger.Restarted l l' → law l'

variable {guard : Impl → Op → Prop} {law : Ledger → Prop}

theorem Preserved.step (h : Preserved guard law) {op : Op}
    (hs : Sound law s) (hallowed : s.allowed op) (hguard : guard s op) :
    Sound law (s.step op) := by
  have hkeyed := h.keyed _ hs.now
  have hnow : law (s.step op).ledger := by
    rcases step_ledger hkeyed op with
      (heq | ⟨event, hproduces, henabled, heq⟩) | ⟨config, -, heq⟩ |
        ⟨state, hstate, heq⟩
    · rw [heq]
      exact hs.now
    · rw [heq]
      exact h.event s op event hs.now hguard hproduces henabled
    · rw [heq]
      exact h.empty
    · rw [heq]
      exact hs.later state (hallowed state hstate)
  refine ⟨hnow, ?_⟩
  intro state hstate
  rcases recorded_step op state hstate with hold | ⟨counters, rfl⟩
  · exact hs.later state hold
  · refine h.restart (s.step op).ledger _ hnow ?_
    exact restarted (s := { s.step op with counters := counters })
      (h.keyed _ hnow)

theorem sound_init (h : Preserved guard law) (config : EngineConfig) :
    Sound law (init config []) := by
  refine ⟨?_, by simp [init]⟩
  have hempty : (init config []).ledger = Ledger.empty := by
    simp [init, ledger, Ledger.empty]
  rw [hempty]
  exact h.empty

/-- A preserved law holds in every state that a guarded run reaches. -/
theorem Preserved.run (h : Preserved guard law) {config : EngineConfig}
    {inputs : List Op} (hrun : engine.Admits guard (init config []) inputs) :
    Sound law (engine.run (init config []) inputs) :=
  Machine.Admits.invariant (P := Sound law)
    (fun _ _ hs hallowed hguard => h.step hs hallowed hguard)
    (sound_init h config) hrun

end Impl

end FlowOffload

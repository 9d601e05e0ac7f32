import FlowOffload.Foundation.Bounded
import FlowOffload.Laws.Reopen

/-!
# Tables stay within their bounds

Flows, targets and contracts are admitted one at a time while there is room for
them, and nothing else adds to their tables; so no run takes them past the
bounds that it was configured with, not even one that restarts over what an
earlier incarnation stored.
-/

namespace FlowOffload

open Foundation

/-- The configured bounds of the tables are within these. -/
structure EngineConfig.Within (config : EngineConfig)
    (flows targets contracts : Nat) : Prop where
  flows : config.maxFlows ≤ flows
  targets : config.maxTargets ≤ targets
  contracts : config.maxContracts ≤ contracts

namespace Impl

variable {s : Impl} {flows targets contracts : Nat}

/-- The operation would add to a table that is full. -/
def full (s : Impl) : Op → Bool
  | .registerFlow flow _ =>
      (lookup s.flows flow.flow).isNone && s.config.maxFlows ≤ s.flows.size
  | .declareTarget target _ =>
      (lookup s.targets target.target).isNone &&
        s.config.maxTargets ≤ s.targets.size
  | .registerMigrationContract contract _ =>
      (lookup s.contracts contract.id).isNone &&
        s.config.maxContracts ≤ s.contracts.size
  | _ => false

/-- An operation that finds its table full changes nothing. -/
theorem step_of_full {op : Op} (h : s.full op = true) : s.step op = s := by
  cases op with
  | registerFlow flow answer =>
      simp only [full, Bool.and_eq_true, Option.isNone_iff_eq_none,
        decide_eq_true_eq] at h
      obtain ⟨hnone, hsize⟩ := h
      change s.flows[flow.flow]? = none at hnone
      change (s.registerFlow flow answer).1 = s
      unfold registerFlow
      rw [hnone]
      dsimp only
      rw [if_pos hsize]
      split
      · rfl
      · split <;> rfl
  | declareTarget target answer =>
      simp only [full, Bool.and_eq_true, Option.isNone_iff_eq_none,
        decide_eq_true_eq] at h
      obtain ⟨hnone, hsize⟩ := h
      change s.targets[target.target]? = none at hnone
      change (s.declareTarget target answer).1 = s
      unfold declareTarget
      rw [hnone]
      dsimp only
      rw [if_pos hsize]
      split
      · rfl
      · split <;> rfl
  | registerMigrationContract contract answer =>
      simp only [full, Bool.and_eq_true, Option.isNone_iff_eq_none,
        decide_eq_true_eq] at h
      obtain ⟨hnone, hsize⟩ := h
      change s.contracts[contract.id]? = none at hnone
      change (s.registerMigrationContract contract answer).1 = s
      unfold registerMigrationContract
      rw [hnone]
      dsimp only
      rw [if_pos hsize]
      split
      · rfl
      · split <;> rfl
  | _ => cases h

/-! ## One event -/

/-- The tables bind at most so many keys. -/
structure Roomy (flows targets contracts : Nat) (l : Ledger) : Prop where
  keyed : l.Keyed
  flow : AtMost flows l.flow
  target : AtMost targets l.target
  contract : AtMost contracts l.contract

/-- There is room for what the operation adds. -/
structure TablesHaveRoom (flows targets contracts : Nat) (s : Impl) (op : Op) :
    Prop where
  within : s.config.Within flows targets contracts
  room : s.full op = false

theorem atMost_target : AtMost s.targets.size s.ledger.target := by
  refine (atMost_lookup_iff.mpr (Nat.le_refl s.targets.size)).sub
    fun k hk hnone => hk ?_
  change (lookup s.targets k).map TargetState.descriptor = none
  rw [hnone]
  rfl

theorem flow_room {e : Ledger.Event} {op : Op}
    (h : AtMost flows s.ledger.flow)
    (hroom : TablesHaveRoom flows targets contracts s op)
    (hproduces : s.Produces op e) (henabled : e.enabled s.ledger) :
    AtMost flows (e.apply s.ledger).flow := by
  by_cases hregister : ∃ flow, e = .register flow
  · obtain ⟨flow, rfl⟩ := hregister
    cases hproduces
    have hfree := hroom.room
    have hnone : lookup s.flows flow.flow = none := henabled.1
    simp only [full, hnone, Option.isNone_none, Bool.true_and,
      decide_eq_false_iff_not, Nat.not_le] at hfree
    have hbound : AtMost s.flows.size s.ledger.flow :=
      atMost_lookup_iff.mpr (Nat.le_refl _)
    refine hbound.grow hfree hroom.within.flows (a := flow.flow) fun k hk => ?_
    by_cases hsame : k = flow.flow
    · exact Or.inl hsame
    · change Function.update s.ledger.flow flow.flow (some flow) k ≠ none at hk
      rw [Function.update_of_ne hsame] at hk
      exact Or.inr hk
  · refine h.sub fun k hk => ?_
    obtain ⟨flow, hflow⟩ := Option.ne_none_iff_exists'.mp hk
    rcases Ledger.flow_apply hflow with hold | ⟨rfl, rfl | ⟨old, rfl⟩⟩
    · rw [hold]
      exact Option.some_ne_none _
    · exact absurd ⟨flow, rfl⟩ hregister
    · rw [henabled.1]
      exact Option.some_ne_none _

/-- Only the declaration of an unknown target adds to the targets. -/
theorem declare_of_unknown {e : Ledger.Event} {target : TargetDescriptor}
    (hdeclares : e.declares = some target) (henabled : e.enabled s.ledger)
    (hunknown : s.ledger.target target.target = none) :
    e = .declare target := by
  cases e with
  | declare declared =>
      cases hdeclares
      rfl
  | advanceCapability declared =>
      cases hdeclares
      obtain ⟨old, hold, -⟩ := henabled
      rw [hunknown] at hold
      cases hold
  | advanceIncarnation declared =>
      cases hdeclares
      obtain ⟨old, hold, -⟩ := henabled
      rw [hunknown] at hold
      cases hold
  | retire declared =>
      cases hdeclares
      obtain ⟨old, hold, -⟩ := henabled
      rw [hunknown] at hold
      cases hold
  | _ => cases hdeclares

theorem target_room {e : Ledger.Event} {op : Op}
    (h : AtMost targets s.ledger.target)
    (hroom : TablesHaveRoom flows targets contracts s op)
    (hproduces : s.Produces op e) (henabled : e.enabled s.ledger) :
    AtMost targets (e.apply s.ledger).target := by
  have hsub : ∀ k, (e.apply s.ledger).target k ≠ none →
      (∃ target, e.declares = some target ∧ k = target.target) ∨
        s.ledger.target k ≠ none := by
    intro k hk
    rw [Ledger.target_apply] at hk
    cases hdeclares : e.declares with
    | none =>
        rw [hdeclares] at hk
        exact Or.inr hk
    | some target =>
        rw [hdeclares] at hk
        dsimp only at hk
        by_cases hsame : k = target.target
        · exact Or.inl ⟨target, rfl, hsame⟩
        · rw [if_neg hsame] at hk
          exact Or.inr hk
  by_cases hnew : ∃ target, e.declares = some target ∧
      s.ledger.target target.target = none
  · obtain ⟨target, hdeclares, hunknown⟩ := hnew
    have hevent := declare_of_unknown hdeclares henabled hunknown
    subst hevent
    cases hproduces
    have hfree := hroom.room
    have hnone : lookup s.targets target.target = none :=
      Option.map_eq_none_iff.mp hunknown
    simp only [full, hnone, Option.isNone_none, Bool.true_and,
      decide_eq_false_iff_not, Nat.not_le] at hfree
    refine atMost_target.grow hfree hroom.within.targets
      (a := target.target) fun k hk => ?_
    rcases hsub k hk with ⟨other, hother, hsame⟩ | hknown
    · cases hother
      exact Or.inl hsame
    · exact Or.inr hknown
  · refine h.sub fun k hk => ?_
    rcases hsub k hk with ⟨target, hdeclares, rfl⟩ | hknown
    · exact fun hunknown => hnew ⟨target, hdeclares, hunknown⟩
    · exact hknown

theorem contract_room {e : Ledger.Event} {op : Op}
    (h : AtMost contracts s.ledger.contract)
    (hroom : TablesHaveRoom flows targets contracts s op)
    (hproduces : s.Produces op e) (henabled : e.enabled s.ledger) :
    AtMost contracts (e.apply s.ledger).contract := by
  by_cases hadds : ∃ contract, e = .addContract contract
  · obtain ⟨contract, rfl⟩ := hadds
    cases hproduces
    have hfree := hroom.room
    have hnone : lookup s.contracts contract.id = none := henabled
    simp only [full, hnone, Option.isNone_none, Bool.true_and,
      decide_eq_false_iff_not, Nat.not_le] at hfree
    have hbound : AtMost s.contracts.size s.ledger.contract :=
      atMost_lookup_iff.mpr (Nat.le_refl _)
    refine hbound.grow hfree hroom.within.contracts (a := contract.id)
      fun k hk => ?_
    obtain ⟨found, hfound⟩ := Option.ne_none_iff_exists'.mp hk
    rcases Ledger.contract_apply hfound with hold | ⟨hevent, hsame⟩
    · rw [hold]
      exact Or.inr (Option.some_ne_none _)
    · cases hevent
      exact Or.inl hsame
  · refine h.sub fun k hk => ?_
    obtain ⟨contract, hcontract⟩ := Option.ne_none_iff_exists'.mp hk
    rcases Ledger.contract_apply hcontract with hold | ⟨hevent, -⟩
    · rw [hold]
      exact Option.some_ne_none _
    · exact absurd ⟨contract, hevent⟩ hadds

theorem preserved_roomy :
    Preserved (TablesHaveRoom flows targets contracts)
      (Roomy flows targets contracts) where
  keyed _ h := h.keyed
  empty := ⟨Ledger.wellFormed_empty.toKeyed, atMost_empty, atMost_empty,
    atMost_empty⟩
  event s op e h hroom hproduces henabled :=
    ⟨h.keyed.apply henabled, flow_room h.flow hroom hproduces henabled,
      target_room h.target hroom hproduces henabled,
      contract_room h.contract hroom hproduces henabled⟩
  restart l l' h hrestarted := by
    refine ⟨h.keyed.restart hrestarted, ?_, ?_, ?_⟩
    · rw [hrestarted.flow]
      exact h.flow
    · refine h.target.sub fun k hk hnone => hk ?_
      rw [hrestarted.target, hnone]
      rfl
    · rw [hrestarted.contract]
      exact h.contract

/-! ## Runs -/

/-- Only a restart changes the configuration. -/
theorem config_step_of_ne_restart (hkeyed : s.ledger.Keyed) {op : Op}
    (hrestart : ∀ config, op ≠ .restart config) :
    (s.step op).config = s.config := by
  cases op with
  | openEngine opening answer =>
      change (s.openEngine opening answer).1.config = s.config
      cases hopen : s.isOpen with
      | true =>
          unfold openEngine
          rw [if_pos hopen]
      | false => exact (Life.openEngine_frame hopen opening answer).1
  | shutdown answer =>
      change (s.shutdown answer).config = s.config
      obtain ⟨counters, submitted, heq⟩ := persistLocked_fst s answer
      unfold shutdown
      rw [heq]
      split <;> rfl
  | restart config => exact absurd rfl (hrestart config)
  | _ => exact (Disk.stays_within hkeyed rfl).1

/-- A restart of the run keeps the configured bounds within these. -/
def RestartsWithin (flows targets contracts : Nat) (_ : Impl) (op : Op) :
    Prop :=
  ∀ config, op = .restart config → config.Within flows targets contracts

/-- The bounds of the tables, now and after every recovery. -/
structure InBounds (flows targets contracts : Nat) (s : Impl) : Prop where
  sound : Sound (Roomy flows targets contracts) s
  config : s.config.Within flows targets contracts

theorem inBounds_step (h : s.InBounds flows targets contracts) {op : Op}
    (hallowed : s.allowed op)
    (hguard : RestartsWithin flows targets contracts s op) :
    (s.step op).InBounds flows targets contracts := by
  cases hfull : s.full op with
  | true =>
      rw [step_of_full hfull]
      exact h
  | false =>
      refine ⟨preserved_roomy.step h.sound hallowed ⟨h.config, hfull⟩, ?_⟩
      by_cases hrestart : ∃ config, op = .restart config
      · obtain ⟨config, rfl⟩ := hrestart
        exact hguard config rfl
      · rw [config_step_of_ne_restart h.sound.now.keyed
          fun config heq => hrestart ⟨config, heq⟩]
        exact h.config

theorem inBounds_run {config : EngineConfig} {inputs : List Op}
    (hconfig : config.Within flows targets contracts)
    (hrun : engine.Admits (RestartsWithin flows targets contracts)
      (init config []) inputs) :
    (engine.run (init config []) inputs).InBounds flows targets contracts :=
  Machine.Admits.invariant (P := InBounds flows targets contracts)
    (fun _ _ h hallowed hguard => inBounds_step h hallowed hguard)
    ⟨sound_init preserved_roomy config, hconfig⟩ hrun

theorem Roomy.sizes (h : Roomy flows targets contracts s.ledger) :
    s.flows.size ≤ flows ∧ s.targets.size ≤ targets ∧
      s.contracts.size ≤ contracts := by
  refine ⟨atMost_lookup_iff.mp h.flow, atMost_lookup_iff.mp ?_,
    atMost_lookup_iff.mp h.contract⟩
  refine h.target.sub fun k hk hnone => hk ?_
  exact Option.map_eq_none_iff.mp hnone

/--
No run takes the flows, the targets or the contracts past the bounds that its
configurations stay within, and neither does the recovery of anything that it
ever handed to the store; and there are never more placements than flows.
-/
theorem tables_stay_bounded (config : EngineConfig)
    (flows targets contracts : Nat) (inputs : List Op)
    (hconfig : config.Within flows targets contracts)
    (hrun : engine.Admits (RestartsWithin flows targets contracts)
      (init config []) inputs) :
    let s := engine.run (init config []) inputs
    (s.flows.size ≤ flows ∧ s.targets.size ≤ targets ∧
        s.contracts.size ≤ contracts) ∧
      s.assignments.size ≤ s.flows.size ∧
      ∀ state ∈ s.submitted, ∀ t : Impl,
        (t.restoreLocked state).flows.size ≤ flows ∧
          (t.restoreLocked state).targets.size ≤ targets ∧
          (t.restoreLocked state).contracts.size ≤ contracts := by
  have hbounds := inBounds_run hconfig hrun
  have hformed := wellFormed_run hrun
  refine ⟨hbounds.sound.now.sizes, ?_, fun state hstate t => ?_⟩
  · refine atMost_lookup_iff.mp ((atMost_lookup_iff.mpr
      (Nat.le_refl _)).sub fun k hk => ?_)
    obtain ⟨a, ha⟩ := Option.ne_none_iff_exists'.mp hk
    obtain ⟨⟨descriptor, hflow, -⟩, -⟩ := hformed.placed k a ha
    change lookup _ k = some descriptor at hflow
    rw [hflow]
    exact Option.some_ne_none _
  · have hlater := hbounds.sound.later state hstate
    rw [← ledger_restoreLocked t state] at hlater
    exact hlater.sizes

/-- Two flows for one place. -/
def crowdedRun : List Op :=
  [.openEngine {} committed, .registerFlow (sampleFlow 1 7 10) committed,
    .registerFlow (sampleFlow 2 8 10) committed]

theorem sample_tables_stay_bounded :
    (engine.run (init { maxFlows := 1 } []) crowdedRun).flows.size ≤ 1 ∧
      ((engine.run (init { maxFlows := 1 } []) crowdedRun).flows.toList.map
        Prod.fst) = [⟨1⟩] := by
  have hrun : engine.Admits (RestartsWithin 1 kMaxTargets kMaxMigrationContracts)
      (init { maxFlows := 1 } []) crowdedRun :=
    ⟨by decide, (fun _ h => by cases h), by decide, (fun _ h => by cases h),
      by decide, (fun _ h => by cases h), trivial⟩
  exact ⟨(tables_stay_bounded { maxFlows := 1 } 1 kMaxTargets
    kMaxMigrationContracts crowdedRun
    ⟨Nat.le_refl _, Nat.le_refl _, Nat.le_refl _⟩ hrun).1.1,
    by decide +kernel⟩

end Impl

end FlowOffload

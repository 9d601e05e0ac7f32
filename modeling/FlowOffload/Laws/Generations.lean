import FlowOffload.Engine.Generations
import FlowOffload.Laws.Conservative
import FlowOffload.Laws.Durability

/-!
# Generations never go back

Within an incarnation no operation takes a generation, a target, a registered
flow or a watermark back, and what is accepted twice at one generation is the
same policy, target or flow.  Policies are compared in their canonical form,
and a flow that was removed is forgotten together with its generation.
-/

namespace FlowOffload

open Foundation

/-! ## Versions -/

/-- Incarnations first, capabilities second. -/
@[irreducible] def TargetDescriptor.version (target : TargetDescriptor) : Nat :=
  target.incarnation.value.toNat * 2 ^ 64 +
    target.capabilityGeneration.value.toNat

def FlowDescriptor.version (flow : FlowDescriptor) : Nat :=
  flow.generation.value.toNat

def SameIdentity (a b : TargetDescriptor) : Prop :=
  Impl.sameTargetIdentity a b = true

/-- A later descriptor of a target. -/
abbrev TargetSupersedes (old new : TargetDescriptor) : Prop :=
  Supersedes TargetDescriptor.version SameIdentity old new

/-- A later descriptor of a flow. -/
abbrev FlowSupersedes (old new : FlowDescriptor) : Prop :=
  Supersedes FlowDescriptor.version Eq old new

/-- A later policy, each under the generation it is in force at. -/
abbrev PolicySupersedes (old new : PolicyGeneration × Policy) : Prop :=
  Supersedes (fun entry => entry.1.value.toNat) (fun a b => a.2 = b.2) old new

theorem SameIdentity.refl (a : TargetDescriptor) : SameIdentity a a := by
  simp [SameIdentity, Impl.sameTargetIdentity]

theorem SameIdentity.trans (a b c : TargetDescriptor)
    (hab : SameIdentity a b) (hbc : SameIdentity b c) : SameIdentity a c := by
  simp only [SameIdentity, Impl.sameTargetIdentity, Bool.and_eq_true,
    decide_eq_true_eq] at hab hbc ⊢
  simp only [hab, hbc, and_self]

theorem SameIdentity.version {a b : TargetDescriptor} (h : SameIdentity a b) :
    TargetDescriptor.version a = TargetDescriptor.version b := by
  simp only [SameIdentity, Impl.sameTargetIdentity, Bool.and_eq_true,
    decide_eq_true_eq] at h
  simp only [TargetDescriptor.version, h]

namespace Impl

variable {s t : Impl} {op : Op} {id : TargetId}

/-! ## One operation -/

/-- An entry is never dropped, and its descriptor never falls back. -/
theorem EntryStep.supersedes {before : TargetState}
    {after : Option TargetState} (h : EntryStep op id (some before) after) :
    ∃ target, after = some target ∧
      TargetSupersedes before.descriptor target.descriptor := by
  have hkept : ∀ target : TargetDescriptor,
      SameIdentity before.descriptor target →
        TargetSupersedes before.descriptor target :=
    fun target hsame => Or.inr ⟨hsame.version, hsame⟩
  cases h with
  | same => exact ⟨before, rfl, .refl SameIdentity.refl _⟩
  | undeclared => exact ⟨_, rfl, .refl SameIdentity.refl _⟩
  | updated call named identity => exact ⟨_, rfl, hkept _ identity⟩
  | removed call =>
      refine ⟨_, rfl, hkept _ ?_⟩
      simp [SameIdentity, sameTargetIdentity, retiredEntry]
  | loaded call =>
      refine ⟨_, rfl, ?_⟩
      rw [(declared_mergeEvidence before _).2]
      exact .refl SameIdentity.refl _
  | advanced call named incarnation capability =>
      refine ⟨_, rfl, Or.inl ?_⟩
      rw [TypedId.lt_iff_toNat_lt] at capability
      simp only [TargetDescriptor.version, declaredEntry, incarnation]
      omega
  | @replaced target _ call named incarnation =>
      refine ⟨_, rfl, Or.inl ?_⟩
      have hold := before.descriptor.capabilityGeneration.value.toNat_lt
      rw [TypedId.lt_iff_toNat_lt] at incarnation
      simp only [TargetDescriptor.version]
      omega

theorem target_step (hkeyed : s.ledger.Keyed)
    (hanew : s.startsAnew op = false) {before : TargetState}
    (h : lookup s.targets id = some before) :
    ∃ after, lookup (s.step op).targets id = some after ∧
      TargetSupersedes before.descriptor after.descriptor := by
  have hstep := entryStep_step hkeyed.attempt hanew id
  have hentry : s.entry id = some (unscheduled before) := by
    rw [entry, h, Option.map_some]
  rw [hentry] at hstep
  obtain ⟨target, hafter, hsupersedes⟩ := hstep.supersedes
  obtain ⟨after, hfound, rfl⟩ := Option.map_eq_some_iff.mp hafter
  exact ⟨after, hfound, hsupersedes⟩

theorem flow_step (hkeyed : s.ledger.Keyed) (hanew : s.startsAnew op = false)
    {flow : FlowId} {before after : FlowDescriptor}
    (hbefore : lookup s.flows flow = some before)
    (hafter : lookup (s.step op).flows flow = some after) :
    FlowSupersedes before after := by
  have hflow : s.ledger.flow flow = some before := hbefore
  have hflow' : (s.step op).ledger.flow flow = some after := hafter
  have hsame : some before = some after → FlowSupersedes before after := by
    intro heq
    cases heq
    exact .refl (fun _ => rfl) before
  rcases steps_of_not_startsAnew hkeyed hanew with
    heq | ⟨event, -, henabled, heq⟩
  · rw [heq, hflow] at hflow'
    exact hsame hflow'
  · rw [heq] at hflow'
    rcases Ledger.flow_apply_of_flow henabled hflow with
      hkept | ⟨new, rfl, rfl⟩ | rfl
    · exact hsame (hkept.symm.trans hflow')
    · have hnewer := henabled.2.1
      rw [TypedId.lt_iff_toNat_lt] at hnewer
      simp only [Ledger.Event.apply, Function.update_self,
        Option.some.injEq] at hflow'
      subst hflow'
      exact Or.inl hnewer
    · simp [Ledger.Event.apply] at hflow'

theorem watermark_step (hkeyed : s.ledger.Keyed)
    (hanew : s.startsAnew op = false) {source : EvidenceSourceId}
    {before : SourceWatermark}
    (h : lookup s.watermarks source = some before) :
    ∃ after, lookup (s.step op).watermarks source = some after ∧
      ¬ after.sequence < before.sequence := by
  have hcovered : covers s.watermarks source before.sequence = true :=
    covers_iff.mpr ⟨before, h, Nat.le_refl _⟩
  have hstill : covers (s.step op).watermarks source before.sequence =
      true := by
    have hother := @watermarks_step s hkeyed.attempt op hanew
    cases op with
    | ingestLoad evidence => exact (ingests_ingestLoad s evidence).covers hcovered
    | _ =>
        rw [hother rfl]
        exact hcovered
  obtain ⟨after, hafter, hle⟩ := covers_iff.mp hstill
  refine ⟨after, hafter, ?_⟩
  rw [TypedId.lt_iff_toNat_lt]
  exact Nat.not_lt.mpr hle

/-! ## Before a policy is set -/

/-- Without a policy in force there is no generation of one. -/
structure PolicyUnset (s : Impl) : Prop where
  current : s.policyPresent = false →
    s.policyGeneration = {} ∧ s.policy.generation = {}
  stored : ∀ state ∈ s.submitted, state.policyPresent = false →
    state.policy.generation = {}

theorem unset_headerStep {before after : Header}
    (h : HeaderStep op before after)
    (hbefore : before.policyPresent = false →
      before.policyGeneration = {} ∧ before.policy.generation = {}) :
    after.policyPresent = false →
      after.policyGeneration = {} ∧ after.policy.generation = {} := by
  cases h with
  | same => exact hbefore
  | topology => exact hbefore
  | policy => exact nofun
  | schedule => exact hbefore

/-- What a step hands to the store is no different from what it leaves. -/
theorem PolicyUnset.stored_step (h : s.PolicyUnset) (himages : s.Images t)
    (ht : t.policyPresent = false →
      t.policyGeneration = {} ∧ t.policy.generation = {}) : t.PolicyUnset := by
  refine ⟨ht, ?_⟩
  intro state hstate
  rcases himages state hstate with hold | ⟨u, hmirrors, rfl⟩
  · exact h.stored state hold
  · obtain ⟨_, _, _, _, rfl⟩ := hmirrors
    exact fun hpresent => (ht hpresent).2

theorem policyUnset_found (h : s.PolicyUnset) (opening : StoreOpening)
    (hallowed : ∀ state ∈ opening.state, state ∈ s.submitted) :
    (s.found opening).1.policyPresent = false →
      (s.found opening).1.policyGeneration = {} ∧
        (s.found opening).1.policy.generation = {} := by
  unfold found
  split
  · exact h.current
  · split
    · exact h.current
    next state hstate =>
      intro hpresent
      have hgeneration := h.stored state (hallowed state hstate) hpresent
      exact ⟨hgeneration, hgeneration⟩

theorem policyUnset_step (hkeyed : s.ledger.Keyed) (h : s.PolicyUnset)
    (hallowed : s.allowed op) : (s.step op).PolicyUnset := by
  refine h.stored_step (images_step hkeyed op) ?_
  cases hanew : s.startsAnew op with
  | false =>
      have hstep := headerStep_step hanew
      exact unset_headerStep hstep h.current
  | true =>
      cases op with
      | restart config => exact fun _ => ⟨rfl, rfl⟩
      | openEngine opening answer =>
          have hclosed : s.isOpen = false := by simpa [startsAnew] using hanew
          rcases enters_openEngine opening answer hclosed with
            hsame | hfound
          · obtain ⟨_, _, _, _, _, _, _, _, heq⟩ := hsame
            rw [step, heq]
            exact h.current
          · obtain ⟨_, _, _, _, _, _, _, _, heq⟩ := hfound
            rw [step, heq]
            exact policyUnset_found h opening hallowed
      | _ => cases hanew

theorem policyUnset_run {guard : Impl → Op → Prop} {config : EngineConfig}
    {inputs : List Op}
    (h : engine.Admits guard (init config []) inputs) :
    (engine.run (init config []) inputs).PolicyUnset := by
  have hkeyed : (init config []).ledger.Keyed :=
    (Disk.synced_start config []).keyed
  refine (h.invariant (P := fun s => s.ledger.Keyed ∧ s.PolicyUnset)
    (fun _ op hs hallowed _ => ⟨keyed_step hs.1 op,
      policyUnset_step hs.1 hs.2 hallowed⟩) ⟨hkeyed, ?_⟩).2
  refine ⟨fun _ => ⟨rfl, rfl⟩, ?_⟩
  intro state hstate
  change state ∈ [] at hstate
  cases hstate

/-! ## Monotonicity -/

/-- Nothing has gone back between two states. -/
structure Advances (s t : Impl) : Prop where
  topology : ¬ t.topologyGeneration < s.topologyGeneration
  policy : ¬ t.policyGeneration < s.policyGeneration
  schedule : ¬ t.scheduleGeneration < s.scheduleGeneration
  targets : ∀ id before, lookup s.targets id = some before →
    ∃ after, lookup t.targets id = some after ∧
      (before.descriptor.incarnation < after.descriptor.incarnation ∨
        before.descriptor.incarnation = after.descriptor.incarnation ∧
          ¬ after.descriptor.capabilityGeneration <
            before.descriptor.capabilityGeneration)
  flows : ∀ flow before after, lookup s.flows flow = some before →
    lookup t.flows flow = some after →
      ¬ after.generation < before.generation
  watermarks : ∀ source before, lookup s.watermarks source = some before →
    ∃ after, lookup t.watermarks source = some after ∧
      ¬ after.sequence < before.sequence

theorem lexicographic_of_version {old new : TargetDescriptor}
    (h : old.version ≤ new.version) :
    old.incarnation < new.incarnation ∨
      old.incarnation = new.incarnation ∧
        ¬ new.capabilityGeneration < old.capabilityGeneration := by
  have hold := old.capabilityGeneration.value.toNat_lt
  have hnew := new.capabilityGeneration.value.toNat_lt
  simp only [TargetDescriptor.version] at h
  simp only [TypedId.lt_iff_toNat_lt, TypedId.eq_iff_toNat_eq]
  omega

theorem not_lt_self {tag : IdTag} (a : TypedId tag) : ¬ a < a := by
  rw [TypedId.lt_iff_toNat_lt]
  exact Nat.lt_irrefl _

theorem not_lt_of_lt {tag : IdTag} {a b : TypedId tag} (h : a < b) :
    ¬ b < a := by
  rw [TypedId.lt_iff_toNat_lt] at h ⊢
  omega

/-- The generations in force after a step of the header. -/
theorem header_monotone {before after : Header}
    (h : HeaderStep op before after)
    (hunset : before.policyPresent = false →
      before.policyGeneration = {} ∧ before.policy.generation = {}) :
    ¬ after.topology < before.topology ∧
      ¬ after.policyGeneration < before.policyGeneration ∧
      ¬ after.schedule < before.schedule := by
  cases h with
  | same => exact ⟨not_lt_self _, not_lt_self _, not_lt_self _⟩
  | topology newer =>
      exact ⟨not_lt_of_lt newer, not_lt_self _, not_lt_self _⟩
  | schedule newer =>
      exact ⟨not_lt_self _, not_lt_self _, not_lt_of_lt newer⟩
  | policy call newer =>
      refine ⟨not_lt_self _, ?_, not_lt_self _⟩
      cases hpresent : before.policyPresent with
      | true => exact not_lt_of_lt (newer hpresent)
      | false =>
          rw [(hunset hpresent).1, TypedId.lt_iff_toNat_lt]
          exact Nat.not_lt_zero _

theorem advances_step (hkeyed : s.ledger.Keyed) (hunset : s.PolicyUnset)
    (hanew : s.startsAnew op = false) : s.Advances (s.step op) := by
  have hstep := headerStep_step hanew
  obtain ⟨htopology, hpolicy, hschedule⟩ :=
    header_monotone hstep hunset.current
  refine ⟨htopology, hpolicy, hschedule, ?_, ?_, ?_⟩
  · intro id before hbefore
    obtain ⟨after, hafter, hsupersedes⟩ := target_step hkeyed hanew hbefore
    exact ⟨after, hafter, lexicographic_of_version hsupersedes.le⟩
  · intro flow before after hbefore hafter
    have hle := (flow_step hkeyed hanew hbefore hafter).le
    rw [TypedId.lt_iff_toNat_lt]
    exact Nat.not_lt.mpr hle
  · intro source before hbefore
    exact watermark_step hkeyed hanew hbefore

/-! ## What is accepted is in force -/

theorem flows_persistThen (t : Impl) (answer : Status) (outcome : ReasonCode) :
    (t.persistThen answer outcome).1.flows = t.flows := by
  obtain ⟨_, _, heq⟩ := persistLocked_fst t answer
  rw [persistThen_fst, heq]

theorem registered_of_accepted {flow : FlowDescriptor} {answer : Status}
    (h : (s.registerFlow flow answer).2.ok = true) :
    lookup (s.registerFlow flow answer).1.flows flow.flow = some flow := by
  generalize hafter : s.registerFlow flow answer = after at h ⊢
  unfold registerFlow at hafter
  split at hafter
  · subst hafter
    cases h
  · split at hafter
    next code hcode =>
      subst hafter
      have hrejects := rejects_flowRefusal hcode
      exact absurd (hrejects.symm.trans h) (by decide)
    · split at hafter
      · split at hafter
        · subst hafter
          cases h
        · subst hafter
          rw [flows_persistThen]
          simp
      next old hold =>
        split at hafter
        next hsame =>
          subst hafter
          rw [← hsame]
          exact hsame ▸ hold
        · split at hafter
          · subst hafter
            cases h
          · split at hafter
            · subst hafter
              cases h
            · subst hafter
              rw [flows_persistThen]
              simp [supersedeFlow]

theorem declared_finishDeclaration {u : Impl} {target : TargetDescriptor}
    {state : TargetState} (h : state.descriptor = target) (answer : Status)
    (outcome : ReasonCode) :
    ∃ entry, ((u.setTarget target.target state).finishDeclaration target
        answer outcome).1.entry target.target = some entry ∧
      entry.descriptor = target := by
  rcases entry_finishDeclaration (u.setTarget target.target state) target
    answer outcome target.target with hsame | ⟨hne, -⟩
  · refine ⟨unscheduled state, ?_, h⟩
    rw [hsame, entry_setTarget]
  · exact absurd rfl hne

theorem declared_of_accepted {target : TargetDescriptor} {answer : Status}
    (h : (s.declareTarget target answer).2.ok = true) :
    ∃ entry, (s.declareTarget target answer).1.entry target.target =
        some entry ∧
      entry.descriptor = target := by
  have hset : ∀ (u : Impl) (state : TargetState) (outcome : ReasonCode),
      state.descriptor = target →
      ∃ entry, ((u.setTarget target.target state).finishDeclaration target
          answer outcome).1.entry target.target = some entry ∧
        entry.descriptor = target :=
    fun _ _ outcome hstate =>
      declared_finishDeclaration hstate answer outcome
  generalize hafter : s.declareTarget target answer = after at h ⊢
  unfold declareTarget at hafter
  split at hafter
  · subst hafter
    cases h
  · split at hafter
    next code hcode =>
      subst hafter
      have hrejects := rejects_targetRefusal hcode
      exact absurd (hrejects.symm.trans h) (by decide)
    · split at hafter
      · split at hafter
        · subst hafter
          cases h
        · subst hafter
          exact hset _ _ _ rfl
      · dsimp only at hafter
        split at hafter
        · subst hafter
          cases h
        · split at hafter
          · split at hafter
            · subst hafter
              cases h
            · split at hafter
              · split at hafter
                · subst hafter
                  cases h
                · split at hafter
                  · subst hafter
                    refine ⟨_, entry_setTarget _ _ _, rfl⟩
                  · subst hafter
                    exact hset _ _ _ rfl
              · subst hafter
                exact hset _ _ _ rfl
          · subst hafter
            exact hset _ _ _ rfl

/-- The policy in force, under its generation. -/
def inForce (s : Impl) : PolicyGeneration × Policy :=
  (s.policyGeneration, s.policy)

theorem inForce_of_accepted {policy : Policy} {answer : Status}
    (h : (s.setPolicy policy answer).2.ok = true) :
    (s.setPolicy policy answer).1.policyPresent = true ∧
      (s.setPolicy policy answer).1.inForce =
        (policy.generation, canonicalize policy) := by
  have hpersist : ∀ (t : Impl) (outcome : ReasonCode),
      (t.persistThen answer outcome).1.policyPresent = t.policyPresent ∧
        (t.persistThen answer outcome).1.inForce = t.inForce := by
    intro t outcome
    have hheader := header_persistThen t answer outcome
    exact ⟨congrArg Header.policyPresent hheader,
      congrArg (fun u => (u.policyGeneration, u.policy)) hheader⟩
  generalize hafter : s.setPolicy policy answer = after at h ⊢
  unfold setPolicy at hafter
  split at hafter
  · subst hafter
    cases h
  · split at hafter
    next code hcode =>
      subst hafter
      have hrejects := rejects_policyInputRefusal hcode
      exact absurd (hrejects.symm.trans h) (by decide)
    · dsimp only at hafter
      split at hafter
      · subst hafter
        cases h
      · split at hafter
        next hsame =>
          simp only [Bool.and_eq_true, decide_eq_true_eq] at hsame
          split at hafter
          next hcanonical =>
            subst hafter
            refine ⟨hsame.1, ?_⟩
            rw [inForce, ← hcanonical, ← hsame.2]
            rfl
          · subst hafter
            cases h
        · subst hafter
          obtain ⟨hpresent, hforce⟩ := hpersist
            (s.applyPolicy (canonicalize policy)) .acceptedPolicyApplied
          rw [hpresent, hforce]
          exact ⟨rfl, rfl⟩

/-! ## Runs within an incarnation -/

/-- The guard of a run that stays within one incarnation. -/
def withinIncarnation (s : Impl) (op : Op) : Prop := s.startsAnew op = false

theorem policy_run {inputs : List Op} (hpresent : s.policyPresent = true)
    (h : engine.Admits withinIncarnation s inputs) :
    (engine.run s inputs).policyPresent = true ∧
      PolicySupersedes s.inForce (engine.run s inputs).inForce := by
  have hrefl : ∀ a : PolicyGeneration × Policy, a.2 = a.2 := fun _ => rfl
  have htrans : ∀ a b c : PolicyGeneration × Policy, a.2 = b.2 → b.2 = c.2 →
      a.2 = c.2 := fun _ _ _ => Eq.trans
  refine h.invariant (P := fun t => t.policyPresent = true ∧
    PolicySupersedes s.inForce t.inForce) ?_ ⟨hpresent, .refl hrefl _⟩
  rintro t op ⟨hpresent, hforce⟩ - hanew
  have hstep := headerStep_step hanew
  have hmoves : ∀ {before after : Header}, HeaderStep op before after →
      before.policyPresent = true →
      after.policyPresent = true ∧
        PolicySupersedes (before.policyGeneration, before.policy)
          (after.policyGeneration, after.policy) := by
    intro before after hstep hbefore
    cases hstep with
    | same => exact ⟨hbefore, .refl hrefl _⟩
    | topology => exact ⟨hbefore, .refl hrefl _⟩
    | schedule => exact ⟨hbefore, .refl hrefl _⟩
    | policy call newer =>
        have hnewer := newer hbefore
        rw [TypedId.lt_iff_toNat_lt] at hnewer
        exact ⟨rfl, Or.inl hnewer⟩
  obtain ⟨hpresent', hmoved⟩ := hmoves hstep hpresent
  exact ⟨hpresent', hforce.trans htrans hmoved⟩

theorem target_run {inputs : List Op} (hkeyed : s.ledger.Keyed)
    {before : TargetState} (hbefore : lookup s.targets id = some before)
    (h : engine.Admits withinIncarnation s inputs) :
    ∃ after, lookup (engine.run s inputs).targets id = some after ∧
      TargetSupersedes before.descriptor after.descriptor := by
  have hstart : TargetSupersedes before.descriptor before.descriptor :=
    .refl SameIdentity.refl before.descriptor
  refine (h.invariant (P := fun t => t.ledger.Keyed ∧
    ∃ after, lookup t.targets id = some after ∧
      TargetSupersedes before.descriptor after.descriptor) ?_
    ⟨hkeyed, before, hbefore, hstart⟩).2
  rintro t op ⟨hkeyed, after, hafter, hsupersedes⟩ - hanew
  obtain ⟨next, hnext, hmoved⟩ := target_step hkeyed hanew hafter
  exact ⟨keyed_step hkeyed op, next, hnext,
    hsupersedes.trans SameIdentity.trans hmoved⟩

/-- The guard of a run through which a flow stays registered. -/
def keepsFlow (flow : FlowId) (s : Impl) (op : Op) : Prop :=
  s.startsAnew op = false ∧ (lookup (s.step op).flows flow).isSome = true

theorem flow_run {inputs : List Op} {flow : FlowId} (hkeyed : s.ledger.Keyed)
    {before : FlowDescriptor} (hbefore : lookup s.flows flow = some before)
    (h : engine.Admits (keepsFlow flow) s inputs) :
    ∃ after, lookup (engine.run s inputs).flows flow = some after ∧
      FlowSupersedes before after := by
  have hrefl : ∀ a : FlowDescriptor, a = a := fun _ => rfl
  have htrans : ∀ a b c : FlowDescriptor, a = b → b = c → a = c :=
    fun _ _ _ => Eq.trans
  refine (h.invariant (P := fun t => t.ledger.Keyed ∧
    ∃ after, lookup t.flows flow = some after ∧
      FlowSupersedes before after) ?_
    ⟨hkeyed, before, hbefore, .refl hrefl before⟩).2
  rintro t op ⟨hkeyed, after, hafter, hsupersedes⟩ - ⟨hanew, hkept⟩
  obtain ⟨next, hnext⟩ := Option.isSome_iff_exists.mp hkept
  have hmoved := flow_step hkeyed hanew hafter hnext
  exact ⟨keyed_step hkeyed op, next, hnext, hsupersedes.trans htrans hmoved⟩

/-- Two calls that are accepted at one generation, in one incarnation, are
about the same policy, target or flow. -/
structure OnePerGeneration (s : Impl) : Prop where
  policies : ∀ first answer more second answer',
    s.accepted (.setPolicy first answer) = true →
    engine.Admits withinIncarnation (s.step (.setPolicy first answer)) more →
    (engine.run (s.step (.setPolicy first answer)) more).accepted
      (.setPolicy second answer') = true →
    first.generation = second.generation →
    canonicalize first = canonicalize second
  targets : ∀ first answer more second answer',
    s.accepted (.declareTarget first answer) = true →
    engine.Admits withinIncarnation (s.step (.declareTarget first answer))
      more →
    (engine.run (s.step (.declareTarget first answer)) more).accepted
      (.declareTarget second answer') = true →
    first.target = second.target → first.incarnation = second.incarnation →
    first.capabilityGeneration = second.capabilityGeneration →
    sameTargetIdentity first second = true
  flows : ∀ first answer more second answer',
    s.accepted (.registerFlow first answer) = true →
    engine.Admits (keepsFlow first.flow) (s.step (.registerFlow first answer))
      more →
    (engine.run (s.step (.registerFlow first answer)) more).accepted
      (.registerFlow second answer') = true →
    first.flow = second.flow → first.generation = second.generation →
    first = second

theorem inForce_step {policy : Policy} {answer : Status}
    (h : s.accepted (.setPolicy policy answer) = true) :
    (s.step (.setPolicy policy answer)).policyPresent = true ∧
      (s.step (.setPolicy policy answer)).inForce =
        (policy.generation, canonicalize policy) := by
  have hok : (s.setPolicy policy answer).2.ok = true := h
  exact inForce_of_accepted hok

/-- A run goes on with a call that recovers nothing. -/
theorem admits_concat {guard : Impl → Op → Prop} {inputs : List Op}
    (h : engine.Admits guard s inputs) (hop : op.recovered = none)
    (hguard : guard (engine.run s inputs) op) :
    engine.Admits guard s (inputs ++ [op]) := by
  refine Machine.admits_append.mpr ⟨h, ?_, hguard, trivial⟩
  intro state hstate
  rw [hop] at hstate
  cases hstate

/-- A policy that is accepted later, at the generation that was in force. -/
theorem policy_of_later {more : List Op} {first second : Policy}
    {answer : Status} (hpresent : s.policyPresent = true)
    (hforce : s.inForce = (first.generation, canonicalize first))
    (hrun : engine.Admits withinIncarnation s more)
    (hsecond : (engine.run s more).accepted (.setPolicy second answer) = true)
    (hgeneration : first.generation = second.generation) :
    canonicalize first = canonicalize second := by
  obtain ⟨-, hforce'⟩ := inForce_step hsecond
  have hadmits : engine.Admits withinIncarnation s
      (more ++ [.setPolicy second answer]) :=
    admits_concat hrun rfl rfl
  obtain ⟨-, hsupersedes⟩ := policy_run hpresent hadmits
  rw [Machine.run_append, hforce] at hsupersedes
  have hlast : PolicySupersedes (first.generation, canonicalize first)
      (second.generation, canonicalize second) := by
    rw [← hforce']
    exact hsupersedes
  exact hlast.same_of_eq (by rw [hgeneration])

theorem declared_step {target : TargetDescriptor} {answer : Status}
    (h : s.accepted (.declareTarget target answer) = true) :
    ∃ entry, lookup (s.step (.declareTarget target answer)).targets
        target.target = some entry ∧
      entry.descriptor = target := by
  have hok : (s.declareTarget target answer).2.ok = true := h
  obtain ⟨entry, hentry, hdescriptor⟩ := declared_of_accepted hok
  obtain ⟨found, hfound, rfl⟩ := Option.map_eq_some_iff.mp hentry
  exact ⟨found, hfound, hdescriptor⟩

theorem target_of_later {more : List Op} {first second : TargetDescriptor}
    {answer : Status} {entry : TargetState} (hkeyed : s.ledger.Keyed)
    (hentry : lookup s.targets first.target = some entry)
    (hdescriptor : entry.descriptor = first)
    (hrun : engine.Admits withinIncarnation s more)
    (hsecond : (engine.run s more).accepted (.declareTarget second answer) =
      true)
    (htarget : first.target = second.target)
    (hincarnation : first.incarnation = second.incarnation)
    (hcapability : first.capabilityGeneration = second.capabilityGeneration) :
    sameTargetIdentity first second = true := by
  obtain ⟨last, hlast, hsecond'⟩ := declared_step hsecond
  have hadmits : engine.Admits withinIncarnation s
      (more ++ [.declareTarget second answer]) :=
    admits_concat hrun rfl rfl
  obtain ⟨after, hafter, hsupersedes⟩ := target_run hkeyed hentry hadmits
  rw [Machine.run_append, htarget] at hafter
  have hsame : some last = some after := hlast.symm.trans hafter
  cases hsame
  rw [hdescriptor, hsecond'] at hsupersedes
  refine hsupersedes.same_of_eq ?_
  simp only [TargetDescriptor.version, hincarnation, hcapability]

theorem registered_step {flow : FlowDescriptor} {answer : Status}
    (h : s.accepted (.registerFlow flow answer) = true) :
    lookup (s.step (.registerFlow flow answer)).flows flow.flow =
      some flow := by
  have hok : (s.registerFlow flow answer).2.ok = true := h
  exact registered_of_accepted hok

theorem flow_of_later {more : List Op} {first second : FlowDescriptor}
    {answer : Status} (hkeyed : s.ledger.Keyed)
    (hregistered : lookup s.flows first.flow = some first)
    (hrun : engine.Admits (keepsFlow first.flow) s more)
    (hsecond : (engine.run s more).accepted (.registerFlow second answer) =
      true)
    (hflow : first.flow = second.flow)
    (hgeneration : first.generation = second.generation) :
    first = second := by
  have hlast := registered_step hsecond
  have hkeeps : keepsFlow first.flow (engine.run s more)
      (.registerFlow second answer) := by
    refine ⟨rfl, ?_⟩
    rw [hflow, hlast]
    rfl
  have hadmits : engine.Admits (keepsFlow first.flow) s
      (more ++ [.registerFlow second answer]) :=
    admits_concat hrun rfl hkeeps
  obtain ⟨after, hafter, hsupersedes⟩ := flow_run hkeyed hregistered hadmits
  rw [Machine.run_append, hflow] at hafter
  have hsame : some second = some after := hlast.symm.trans hafter
  cases hsame
  refine hsupersedes.same_of_eq ?_
  simp only [FlowDescriptor.version, hgeneration]

theorem onePerGeneration (hkeyed : s.ledger.Keyed) : s.OnePerGeneration where
  policies := by
    intro first answer more second answer' hfirst
    obtain ⟨hpresent, hforce⟩ := inForce_step hfirst
    exact policy_of_later hpresent hforce
  targets := by
    intro first answer more second answer' hfirst
    obtain ⟨entry, hentry, hdescriptor⟩ := declared_step hfirst
    exact target_of_later (keyed_step hkeyed _) hentry hdescriptor
  flows := by
    intro first answer more second answer' hfirst
    exact flow_of_later (keyed_step hkeyed _) (registered_step hfirst)

/--
In every reachable state no operation of the incarnation takes a generation
back, and two calls of it that are accepted at one generation agree.
-/
theorem generations_never_go_back (config : EngineConfig) (inputs : List Op)
    (h : engine.Admits (fun _ _ => True) (init config []) inputs) :
    (∀ op, (engine.run (init config []) inputs).startsAnew op = false →
      (engine.run (init config []) inputs).Advances
        ((engine.run (init config []) inputs).step op)) ∧
      (engine.run (init config []) inputs).OnePerGeneration := by
  have hstart : (init config []).ledger.Keyed :=
    (Disk.synced_start config []).keyed
  have hkeyed := keyed_run hstart h
  have hunset := policyUnset_run h
  exact ⟨fun op => advances_step hkeyed hunset, onePerGeneration hkeyed⟩

/-- A newer policy is taken while two hosts and two flows are known. -/
theorem newer_policy_goes_forward :
    (engine.run (init sampleConfig []) twinSetup).Advances
        ((engine.run (init sampleConfig []) twinSetup).step
          (.setPolicy { samplePolicy true with generation := ⟨2⟩ }
            committed)) ∧
      (engine.run (init sampleConfig []) twinSetup).OnePerGeneration := by
  obtain ⟨hadvances, hone⟩ :=
    generations_never_go_back sampleConfig twinSetup (by decide +kernel)
  exact ⟨hadvances _ (by decide +kernel), hone⟩

/-- A policy that keeps two hosts from being used. -/
def avoiding (hosts : List HostId) : Policy :=
  { samplePolicy true with generation := ⟨2⟩, forbiddenHosts := hosts }

/--
The order of the hosts in a policy does not count, and a flow that was removed
comes back with another demand at the generation it had.
-/
theorem one_generation_twice :
    avoiding [⟨3⟩, ⟨4⟩] ≠ avoiding [⟨4⟩, ⟨3⟩] ∧
      (engine.run (init sampleConfig []) twinSetup).accepted
        (.setPolicy (avoiding [⟨3⟩, ⟨4⟩]) committed) = true ∧
      (engine.run (init sampleConfig []) (twinSetup ++
        [.setPolicy (avoiding [⟨3⟩, ⟨4⟩]) committed])).accepted
          (.setPolicy (avoiding [⟨4⟩, ⟨3⟩]) committed) = true ∧
      (engine.run (init sampleConfig []) (twinSetup.take 4)).accepted
        (.registerFlow (sampleFlow 1 7 60) committed) = true ∧
      (engine.run (init sampleConfig []) (twinSetup ++
        [.removeFlow ⟨1⟩ ⟨1⟩ committed])).accepted
          (.registerFlow (sampleFlow 1 7 20) committed) = true := by
  refine ⟨by decide +kernel, by decide +kernel, by decide +kernel,
    by decide +kernel, by decide +kernel⟩

end Impl

end FlowOffload

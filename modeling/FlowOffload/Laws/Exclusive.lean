import FlowOffload.Ledger.WellFormed

/-!
# Exclusive state is assigned once

The law behind the holder map: whoever is placed with an exclusive state is
the holder of it.  Planning checks the holders that were there before the
batch, so the law is kept by every operation except a batch that names two
claimants of a state nobody holds yet.
-/

namespace FlowOffload

open Foundation

namespace Ledger

variable {l : Ledger} {e : Event}

/-- Whoever is placed with an exclusive state holds it. -/
def Exclusive (l : Ledger) : Prop :=
  ∀ flow key a, l.Claims flow key → l.assignment flow = some a →
    ∃ holder, l.holder key = some holder ∧ holder.flow = flow

/-- Claimants of one state in one batch are one flow, or the state is held. -/
def Event.OneClaimant (l : Ledger) : Event → Prop
  | .place batch => ∀ a ∈ batch, ∀ b ∈ batch, ∀ key, l.Claims a.flow key →
      l.Claims b.flow key → a.flow ≠ b.flow → l.holder key ≠ none
  | _ => True

theorem Event.Writes.flow_eq {flow : FlowId} {holder : StateHolder}
    (h : e.Writes l flow holder) : holder.flow = flow := by
  cases h <;> rfl

/-- A flow that is placed afterwards was registered as it is before. -/
theorem claims_of_apply {flow : FlowId} {key : ExclusiveStateKeyId}
    {a : Assignment} (hwf : WellFormed l) (henabled : e.enabled l)
    (h : (e.apply l).Claims flow key)
    (ha : (e.apply l).assignment flow = some a) : l.Claims flow key := by
  obtain ⟨descriptor, hflow, hrest⟩ := h
  rcases flow_apply hflow with hold | ⟨rfl, rfl | ⟨old, rfl⟩⟩
  · exact ⟨descriptor, hold, hrest⟩
  · have hplaced : l.assignment descriptor.flow = some a := ha
    obtain ⟨⟨other, hother, -⟩, -⟩ := hwf.placed _ _ hplaced
    rw [henabled.1] at hother
    cases hother
  · exact absurd rfl
      (assignment_release old .rejectedStaleFlowGeneration ha).2

/-- What `Placeable` says about the holder of a claimed state. -/
theorem Placeable.holder_flow {a : Assignment} (h : Placeable l a)
    {key : ExclusiveStateKeyId} (hclaims : l.Claims a.flow key)
    {holder : StateHolder} (hholder : l.holder key = some holder) :
    holder.flow = a.flow := by
  obtain ⟨descriptor, hflow, -, hfree⟩ := h.known
  obtain ⟨claimed, hclaimed, hstateful, rfl⟩ := hclaims
  rw [hflow] at hclaimed
  cases hclaimed
  exact hfree hstateful holder hholder

/-- Whoever an event makes the holder of a held state held it before. -/
theorem writes_flow_eq (hexclusive : Exclusive l) (henabled : e.enabled l) {flow : FlowId} {holder written : StateHolder}
    {key : ExclusiveStateKeyId} (hwrites : e.Writes l flow written)
    (hclaims : l.Claims flow key) (hholder : l.holder key = some holder) :
    holder.flow = flow := by
  cases hwrites with
  | @place batch a hmem =>
      exact (henabled.2 a hmem).holder_flow hclaims hholder
  | @issue descriptor source intent =>
      obtain ⟨-, hflow, -, -, -, -, -, hstateful⟩ := henabled
      obtain ⟨claimed, hclaimed, hkind, rfl⟩ := hclaims
      rw [hflow] at hclaimed
      cases hclaimed
      exact ((hstateful hkind).2 holder hholder).2
  | @complete record observation next previous hplaced =>
      obtain ⟨found, hfound, heq⟩ := hexclusive _ key _ hclaims hplaced
      rw [hholder] at hfound
      cases hfound
      exact heq

/-- A released flow is not placed afterwards. -/
theorem ne_of_releases {old : FlowDescriptor} {flow freed : FlowId}
    {a : Assignment} (hreleases : e.releases = some (old, freed))
    (ha : (e.apply l).assignment flow = some a) : flow ≠ freed := by
  cases e with
  | supersede _ new =>
      cases hreleases
      exact (assignment_release old .rejectedStaleFlowGeneration ha).2
  | remove _ gone =>
      cases hreleases
      exact (assignment_release old .rejectedUnknownFlow ha).2
  | _ => cases hreleases

theorem Exclusive.apply (hwf : WellFormed l) (henabled : e.enabled l)
    (hone : e.OneClaimant l) (h : Exclusive l) : Exclusive (e.apply l) := by
  intro flow key a hclaims' ha
  have hclaims := claims_of_apply hwf henabled hclaims' ha
  -- where the placement comes from: from before, or from this batch
  have hsource : (∃ old, l.assignment flow = some old) ∨
      ∃ batch, e = .place batch ∧ a ∈ batch ∧ a.flow = flow := by
    rcases assignment_apply ha with
      ⟨old, -, hold, -⟩ | hbatch | ⟨-, -, -, old, -, -, hold, -⟩
    · exact Or.inl ⟨old, hold⟩
    · exact Or.inr hbatch
    · exact Or.inl ⟨old, hold⟩
  rcases holder_apply l e key with
    ⟨writer, written, hwrites, hwriter, heq⟩ | ⟨hnone, hleft⟩
  · refine ⟨written, heq, ?_⟩
    rw [hwrites.flow_eq]
    rcases hsource with ⟨old, hold⟩ | ⟨batch, rfl, hmem, rfl⟩
    · obtain ⟨holder, hholder, rfl⟩ := h flow key old hclaims hold
      exact (writes_flow_eq h henabled hwrites hwriter hholder).symm
    · cases hwrites with
      | @place _ b hb =>
          by_contra hne
          have hheld := hone b hb a hmem key hwriter hclaims hne
          obtain ⟨holder, hholder⟩ := Option.ne_none_iff_exists'.mp hheld
          apply hne
          rw [← (henabled.2 a hmem).holder_flow hclaims hholder,
            ← (henabled.2 b hb).holder_flow hwriter hholder]
  · rcases hsource with ⟨old, hold⟩ | ⟨batch, rfl, hmem, rfl⟩
    · obtain ⟨holder, hholder, rfl⟩ := h flow key old hclaims hold
      rcases hleft with ⟨heq, -⟩ | ⟨-, hfrees⟩
      · refine ⟨e.touch l holder, ?_, (touch_placement l e holder).1⟩
        rw [heq, hholder]
        rfl
      · obtain ⟨gone, freed, hreleases, -, -, hfreed⟩ := hfrees holder hholder
        exact absurd hfreed (ne_of_releases hreleases ha)
    · exact absurd hclaims (hnone _ _ (.place hmem))

theorem Exclusive.restart {l' : Ledger} (hwf : WellFormed l)
    (h : Exclusive l) (hrestart : Restarted l l') : Exclusive l' := by
  have hbefore : ∀ flow a, l'.assignment flow = some a →
      ∃ old, l.assignment flow = some old := by
    intro flow a ha
    rw [hrestart.assignment, Option.map_eq_some_iff] at ha
    obtain ⟨old, hold, -⟩ := ha
    exact ⟨old, hold⟩
  intro flow key a hclaims ha
  obtain ⟨descriptor, hflow, hstateful, rfl⟩ := hclaims
  rw [hrestart.flow] at hflow
  obtain ⟨holder, hholder⟩ := hrestart.holder_exists flow descriptor a hflow
    hstateful (hwf.stateKey flow descriptor hflow hstateful) ha
  refine ⟨holder, hholder, ?_⟩
  obtain ⟨other, b, hother, hother_stateful, hkey, hb, -⟩ :=
    hrestart.holder_spec _ holder hholder
  obtain ⟨old, hold⟩ := hbefore flow a ha
  obtain ⟨old', hold'⟩ := hbefore holder.flow b hb
  obtain ⟨first, hfirst, hfirst_flow⟩ := h flow _ old
    ⟨descriptor, hflow, hstateful, rfl⟩ hold
  obtain ⟨second, hsecond, hsecond_flow⟩ := h holder.flow _ old'
    ⟨other, hother, hother_stateful, hkey⟩ hold'
  rw [hfirst] at hsecond
  cases hsecond
  rw [← hsecond_flow, hfirst_flow]

end Ledger

/-! ## Runs -/

namespace Impl

/-- Two stateful flows that share a state nobody holds. -/
def Twins (s : Impl) (f g : FlowId) : Prop :=
  f ≠ g ∧ ∃ flow ∈ s.flows[f]?, ∃ twin ∈ s.flows[g]?,
    flow.statefulness = .stateful ∧ twin.statefulness = .stateful ∧
      flow.exclusiveStateKey = twin.exclusiveStateKey ∧
      s.holders[flow.exclusiveStateKey]? = none

instance (s : Impl) (f g : FlowId) : Decidable (s.Twins f g) :=
  inferInstanceAs (Decidable (_ ∧ _))

/--
No batch names twins.  The check of `place_locked` reads the holders of the
state before the batch, so it refuses neither of the two.
-/
def NamesOneClaimant (s : Impl) (op : Op) : Prop :=
  ∀ request ∈ s.wetRequest op, ∀ item ∈ request.items,
    ∀ other ∈ request.items, ¬ s.Twins item.flow other.flow

instance (s : Impl) (op : Op) : Decidable (s.NamesOneClaimant op) :=
  inferInstanceAs (Decidable (∀ request ∈ s.wetRequest op, _))

/-- Two stateful flows with one exclusive state are never on two targets. -/
def NeverDoubleAssigned (s : Impl) : Prop :=
  ∀ f g flow twin a b, f ≠ g →
    lookup s.flows f = some flow → lookup s.flows g = some twin →
    flow.statefulness = .stateful → twin.statefulness = .stateful →
    flow.exclusiveStateKey = twin.exclusiveStateKey →
    lookup s.assignments f = some a → lookup s.assignments g = some b →
    a.target = b.target

variable {s : Impl}

theorem oneClaimant_of_namesOneClaimant {op : Op} {event : Ledger.Event}
    (hkeyed : s.ledger.Keyed) (hguard : s.NamesOneClaimant op)
    (h : s.Produces op event) : event.OneClaimant s.ledger := by
  cases h with
  | @place request answer batch hexecutes hplanned =>
      have hitem : ∀ a ∈ batch, ∃ item ∈ request.items,
          item.flow = a.flow := by
        intro a ha
        obtain ⟨pending, hpending, hflow, -⟩ := hplanned a ha
        obtain ⟨before, item, after, hitems, hp⟩ :=
          planned_of_mem_commits (List.mem_of_mem_filter hpending)
        refine ⟨item, mem_items_of_mem_itemsOf (by simp [hitems]), ?_⟩
        rw [hflow, hp.flow_eq hkeyed]
      intro a ha b hb key hclaims hclaims' hne
      obtain ⟨item, hitem_mem, hitem_flow⟩ := hitem a ha
      obtain ⟨other, hother_mem, hother_flow⟩ := hitem b hb
      obtain ⟨flow, hflow, hstateful, rfl⟩ := hclaims
      obtain ⟨twin, htwin, htwin_stateful, hkey⟩ := hclaims'
      rw [← hitem_flow] at hflow
      rw [← hother_flow] at htwin
      intro hfree
      refine hguard request (by simp [wetRequest, hexecutes]) item hitem_mem
        other hother_mem ⟨?_, flow, hflow, twin, htwin, hstateful,
          htwin_stateful, hkey.symm, hfree⟩
      rw [hitem_flow, hother_flow]
      exact hne
  | _ => trivial

theorem law_exclusive : Law NamesOneClaimant Ledger.Exclusive where
  empty := by
    intro flow key a _ ha
    cases ha
  event := by
    intro s op event hwf hlaw hguard hproduces henabled
    exact hlaw.apply hwf henabled
      (oneClaimant_of_namesOneClaimant hwf.toKeyed hguard hproduces)
  restart := fun _ _ hwf hlaw hrestart => hlaw.restart hwf hrestart

theorem neverDoubleAssigned_of_exclusive (h : s.ledger.Exclusive) :
    s.NeverDoubleAssigned := by
  intro f g flow twin a b hne hf hg hflow htwin hkey ha hb
  obtain ⟨holder, hholder, hholder_f⟩ := h f _ a ⟨flow, hf, hflow, rfl⟩ ha
  obtain ⟨found, hfound, hfound_g⟩ := h g _ b ⟨twin, hg, htwin, rfl⟩ hb
  rw [← hkey, hholder] at hfound
  cases hfound
  exact absurd (hholder_f.symm.trans hfound_g) hne

/-- The law in every state of a run that never names two claimants. -/
theorem exclusive_state_never_double_assigned (config : EngineConfig)
    (inputs : List Op)
    (h : engine.Admits NamesOneClaimant (init config []) inputs) :
    (engine.run (init config []) inputs).NeverDoubleAssigned :=
  neverDoubleAssigned_of_exclusive (law_exclusive.run h)

/-! ## A small installation -/

/-- The answer of a store that accepts a commit. -/
def committed : Status := .accepted .persistCommitted

def samplePolicy (sticky : Bool) : Policy :=
  { generation := ⟨1⟩
    domainPreference := .hostFirst
    fallback := .allowAnyFallback
    loadModel := .scheduledOnly
    sticky := sticky
    allowMigration := true }

def sampleHost (id : UInt64) : TargetDescriptor :=
  { target := ⟨id⟩
    incarnation := ⟨1⟩
    capabilityGeneration := ⟨1⟩
    topologyGeneration := ⟨1⟩
    domain := .host
    kind := .hostKernelPath
    host := ⟨id⟩
    capacity := ⟨100, 100, 100, 100⟩
    costClass := .economy
    lifecycle := .ready
    supportsStateful := true
    supportsMigration := true }

def sampleFlow (id key demand : UInt64) : FlowDescriptor :=
  { flow := ⟨id⟩
    generation := ⟨1⟩
    function := ⟨1⟩
    statefulness := .stateful
    exclusiveStateKey := ⟨key⟩
    demand := ⟨demand, demand, demand, demand⟩ }

def sampleRequest (request instant : UInt64) (flows : List UInt64) :
    PlacementRequest :=
  { request := ⟨request⟩
    items := flows.map fun flow => { flow := ⟨flow⟩ }
    evaluationInstant := ⟨instant⟩ }

/-- Two hosts that fit one flow each, and two flows that share a state. -/
def twinSetup : List Op :=
  [.openEngine {} committed, .setPolicy (samplePolicy true) committed,
    .declareTarget (sampleHost 1) committed,
    .declareTarget (sampleHost 2) committed,
    .registerFlow (sampleFlow 1 7 60) committed,
    .registerFlow (sampleFlow 2 7 60) committed]

/-- Both claimants in one batch end on two targets. -/
theorem twins_of_one_batch_are_double_assigned :
    engine.Admits (fun _ _ => True) (init {} [])
        (twinSetup ++ [.place (sampleRequest 1 1 [1, 2]) committed]) ∧
      ¬ (engine.run (init {} []) (twinSetup ++
        [.place (sampleRequest 1 1 [1, 2]) committed])).NeverDoubleAssigned := by
  refine ⟨by decide +kernel, ?_⟩
  intro h
  have hflow : (engine.run (init {} []) (twinSetup ++
      [.place (sampleRequest 1 1 [1, 2]) committed])).flows[(⟨1⟩ : FlowId)]? =
        some (sampleFlow 1 7 60) := by decide +kernel
  have htwin : (engine.run (init {} []) (twinSetup ++
      [.place (sampleRequest 1 1 [1, 2]) committed])).flows[(⟨2⟩ : FlowId)]? =
        some (sampleFlow 2 7 60) := by decide +kernel
  have ha : ((engine.run (init {} []) (twinSetup ++
      [.place (sampleRequest 1 1 [1, 2]) committed])).assignments[
        (⟨1⟩ : FlowId)]?).map Assignment.target = some ⟨1⟩ := by
    decide +kernel
  have hb : ((engine.run (init {} []) (twinSetup ++
      [.place (sampleRequest 1 1 [1, 2]) committed])).assignments[
        (⟨2⟩ : FlowId)]?).map Assignment.target = some ⟨2⟩ := by
    decide +kernel
  obtain ⟨a, ha, hat⟩ := Option.map_eq_some_iff.mp ha
  obtain ⟨b, hb, hbt⟩ := Option.map_eq_some_iff.mp hb
  have hsame := h _ _ _ _ a b (by decide) hflow htwin rfl rfl rfl ha hb
  rw [hat, hbt] at hsame
  cases hsame

/-- In two batches the second claimant is refused. -/
theorem twins_of_two_batches_are_not :
    engine.Admits NamesOneClaimant (init {} [])
        (twinSetup ++ [.place (sampleRequest 1 1 [1]) committed,
          .place (sampleRequest 2 2 [2, 1]) committed]) ∧
      (engine.run (init {} []) (twinSetup ++
        [.place (sampleRequest 1 1 [1]) committed,
          .place (sampleRequest 2 2 [2, 1]) committed])).NeverDoubleAssigned :=
  ⟨by decide +kernel,
    exclusive_state_never_double_assigned {} _ (by decide +kernel)⟩

end Impl

end FlowOffload

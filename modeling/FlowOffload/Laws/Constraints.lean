import FlowOffload.Engine.Decided
import FlowOffload.Engine.Search
import FlowOffload.Laws.Declared
import FlowOffload.Laws.Generations
import FlowOffload.Laws.Submission

/-!
# The constraints of a policy

The lists of a policy are sets: they are sorted on every way into the engine,
so that binary search decides membership, and a target that is chosen honours
all of them.
-/

namespace FlowOffload

open Foundation
open Std (ExtTreeMap)

/-! ## Sorted policies -/

/-- The lists of the policy are in canonical order. -/
structure Policy.Sorted (policy : Policy) : Prop where
  domains : Ascending (fun a b => EnumTraits.wire a > EnumTraits.wire b)
    policy.allowedDomains
  hosts : Ascending (fun a b => b < a) policy.forbiddenHosts
  devices : Ascending (fun a b => b < a) policy.forbiddenDevices
  functions : Ascending (fun a b => b < a) policy.allowedFunctions

theorem isPreorder_wire :
    IsPreorder fun a b : ExecutionDomain =>
      decide (EnumTraits.wire a > EnumTraits.wire b) := by
  refine @IsPreorder.of_weight _ _ (fun d => (EnumTraits.wire d).toNat) ?_
  intro a b
  rw [decide_eq_true_eq, gt_iff_lt, UInt8.lt_iff_toNat_lt]

theorem isPreorder_id {tag : IdTag} :
    IsPreorder fun a b : TypedId tag => decide (b < a) := by
  refine @IsPreorder.of_weight _ _ (fun id => id.value.toNat) ?_
  intro a b
  rw [decide_eq_true_eq, TypedId.lt_iff_toNat_lt]

theorem tied_wire (a b : ExecutionDomain)
    (hab : decide (EnumTraits.wire a < EnumTraits.wire b) = false)
    (hba : decide (EnumTraits.wire b < EnumTraits.wire a) = false) :
    a = b := by
  refine EnumTraits.wire_injective (UInt8.toNat_inj.mp ?_)
  rw [decide_eq_false_iff_not, UInt8.lt_iff_toNat_lt] at hab hba
  omega

theorem tied_id {tag : IdTag} (a b : TypedId tag)
    (hab : decide (a < b) = false) (hba : decide (b < a) = false) :
    a = b := by
  refine TypedId.eq_iff_toNat_eq.mpr ?_
  rw [decide_eq_false_iff_not, TypedId.lt_iff_toNat_lt] at hab hba
  omega

theorem sorted_canonicalize (policy : Policy) : (canonicalize policy).Sorted
    where
  domains := ascending_canonicalSort isPreorder_wire _
  hosts := ascending_canonicalSort isPreorder_id _
  devices := ascending_canonicalSort isPreorder_id _
  functions := ascending_canonicalSort isPreorder_id _

/-- Two policies that differ in the order of their lists only. -/
structure Policy.Reordered (a b : Policy) : Prop where
  rest : { a with
    allowedDomains := b.allowedDomains
    forbiddenHosts := b.forbiddenHosts
    forbiddenDevices := b.forbiddenDevices
    allowedFunctions := b.allowedFunctions } = b
  domains : a.allowedDomains.Perm b.allowedDomains
  hosts : a.forbiddenHosts.Perm b.forbiddenHosts
  devices : a.forbiddenDevices.Perm b.forbiddenDevices
  functions : a.allowedFunctions.Perm b.allowedFunctions

theorem Policy.Reordered.canonicalize_eq {a b : Policy} (h : a.Reordered b) :
    canonicalize a = canonicalize b := by
  have hids : ∀ {tag : IdTag} {values other : List (TypedId tag)},
      values.Perm other →
        canonicalSort (fun a b => decide (b < a)) values =
          canonicalSort (fun a b => decide (b < a)) other :=
    fun hperm => canonicalSort_eq_of_perm isPreorder_id
      (fun a b hab hba => tied_id a b hba hab) hperm
  have hdomains := canonicalSort_eq_of_perm isPreorder_wire
    (fun a b hab hba => tied_wire a b hba hab) h.domains
  rw [← h.rest]
  unfold canonicalize
  dsimp only
  rw [hdomains, hids h.hosts, hids h.devices, hids h.functions]

/-! ## A target that honours a policy -/

/-- The target is one that the policy and the flow allow, with the lists of
the policy taken as sets. -/
structure Honours (policy : Policy) (flow : FlowDescriptor)
    (target : TargetDescriptor) : Prop where
  hostOnly : policy.domainPreference = .hostOnly → target.domain = .host
  offloadOnly : policy.domainPreference = .offloadOnly →
    target.domain = .offloadDevice
  domain : policy.allowedDomains ≠ [] →
    target.domain ∈ policy.allowedDomains
  host : target.host ∉ policy.forbiddenHosts
  device : target.device.isValid = true →
    target.device ∉ policy.forbiddenDevices
  function : policy.allowedFunctions ≠ [] →
    flow.function ∈ policy.allowedFunctions
  flowCapabilities : satisfies target.capabilities
    flow.requiredCapabilities = true
  policyCapabilities : satisfies target.capabilities
    policy.requiredCapabilities = true
  stateful : flow.statefulness = .stateful → target.supportsStateful = true
  costKnown : target.costClass ≠ .unknown
  flowCost : target.costClass.exceeds flow.maxCostClass = false
  policyCost : target.costClass.exceeds policy.maxCostClass = false

theorem binarySearch_id_iff {tag : IdTag} {values : List (TypedId tag)}
    (hsorted : Ascending (fun a b => decide (b < a)) values)
    {value : TypedId tag} :
    binarySearch (fun a b => decide (a < b)) values value = true ↔
      value ∈ values :=
  binarySearch_iff isPreorder_id tied_id hsorted

theorem binarySearch_domain_iff {values : List ExecutionDomain}
    (hsorted : Ascending
      (fun a b => decide (EnumTraits.wire a > EnumTraits.wire b)) values)
    {value : ExecutionDomain} :
    binarySearch (fun a b => decide (EnumTraits.wire a < EnumTraits.wire b))
      values value = true ↔ value ∈ values :=
  binarySearch_iff isPreorder_wire tied_wire hsorted

namespace Impl

variable {s t : Impl} {op : Op} {request : PlacementRequest}
  {answer : Status} {p : FlowPlacement}

/-- What the eligibility checks let through honours a sorted policy. -/
theorem honours_of_policyRefusal {policy : Policy} {flow : FlowDescriptor}
    {descriptor : TargetDescriptor} (hsorted : policy.Sorted)
    (h : policyRefusal policy flow descriptor = none) :
    Honours policy flow descriptor := by
  simp only [policyRefusal, passes_iff, Bool.and_eq_true,
    Bool.not_eq_true', Bool.or_eq_true, decide_eq_true_eq, not_and,
    not_or, Bool.not_eq_true, binarySearch_id_iff hsorted.hosts,
    Bool.not_eq_false] at h
  obtain ⟨hhostOnly, hoffloadOnly, hdomain, hhost, hdevice, hfunction,
    hcapabilities, hstateful, ⟨⟨hcost, hflowCost⟩, hpolicyCost⟩, -⟩ := h
  have hnonempty : ∀ {α : Type} {values : List α}, values ≠ [] →
      values.isEmpty = false := by
    intro α values hne
    simpa using hne
  constructor
  case hostOnly => exact fun hkind => by simpa using hhostOnly hkind
  case offloadOnly => exact fun hkind => by simpa using hoffloadOnly hkind
  case domain =>
    intro hne
    exact (binarySearch_domain_iff hsorted.domains).mp
      (hdomain (hnonempty hne))
  case host => exact hhost
  case device =>
    intro hvalid
    rw [← binarySearch_id_iff hsorted.devices, hdevice hvalid]
    decide
  case function =>
    intro hne
    exact (binarySearch_id_iff hsorted.functions).mp
      (hfunction (hnonempty hne))
  case flowCapabilities => exact satisfies_of_or hcapabilities
  case policyCapabilities =>
    rw [UInt64.or_comm] at hcapabilities
    exact satisfies_of_or hcapabilities
  case stateful => exact hstateful
  case costKnown => exact hcost
  case flowCost => exact hflowCost
  case policyCost => exact hpolicyCost

/-! ## Every way into the engine -/

/-- The policy in force is sorted, and so is every one that is stored. -/
structure PolicySorted (s : Impl) : Prop where
  current : s.policy.Sorted
  stored : ∀ state ∈ s.submitted, state.policy.Sorted

theorem sorted_headerStep {before after : Header}
    (h : HeaderStep op before after) (hbefore : before.policy.Sorted) :
    after.policy.Sorted := by
  cases h with
  | same => exact hbefore
  | topology => exact hbefore
  | @policy policy => exact sorted_canonicalize policy
  | schedule => exact hbefore

/-- What is handed to the store is put in order. -/
theorem PolicySorted.stored_step (h : s.PolicySorted) (himages : s.Images t)
    (ht : t.policy.Sorted) : t.PolicySorted := by
  refine ⟨ht, fun state hstate => ?_⟩
  rcases himages state hstate with hold | ⟨u, -, rfl⟩
  · exact h.stored state hold
  · exact sorted_canonicalize u.policy

theorem policySorted_step (hkeyed : s.ledger.Keyed) (h : s.PolicySorted)
    (hallowed : s.allowed op) : (s.step op).PolicySorted := by
  refine h.stored_step (images_step hkeyed op) ?_
  cases hanew : s.startsAnew op with
  | false => exact sorted_headerStep (headerStep_step hanew) h.current
  | true =>
      cases op with
      | restart config => exact sorted_canonicalize {}
      | openEngine opening answer =>
          have hclosed : s.isOpen = false := by simpa [startsAnew] using hanew
          rcases enters_openEngine opening answer hclosed with
            hsame | hfound
          · obtain ⟨_, _, _, _, _, _, _, _, heq⟩ := hsame
            rw [step, heq]
            exact h.current
          · obtain ⟨_, _, _, _, _, _, _, _, heq⟩ := hfound
            rw [step, heq]
            change (s.found opening).1.policy.Sorted
            unfold found
            split
            · exact h.current
            · split
              · exact h.current
              next state hstate => exact h.stored state (hallowed state hstate)
      | _ => cases hanew

theorem policySorted_run {guard : Impl → Op → Prop} {config : EngineConfig}
    {inputs : List Op} (h : engine.Admits guard (init config []) inputs) :
    (engine.run (init config []) inputs).PolicySorted := by
  refine (h.invariant (P := fun s => s.ledger.Keyed ∧ s.PolicySorted)
    (fun _ op hs hallowed _ => ⟨keyed_step hs.1 op,
      policySorted_step hs.1 hs.2 hallowed⟩)
    ⟨(Disk.synced_start config []).keyed, sorted_canonicalize {}, ?_⟩).2
  intro state hstate
  change state ∈ [] at hstate
  cases hstate

/-! ## Chosen targets -/

theorem Chosen.honours (hkeyed : s.ledger.Keyed) (hsorted : s.policy.Sorted)
    {flow : FlowDescriptor} {chosen : CandidateView}
    (h : s.Chosen request p flow chosen) :
    ∃ state, lookup s.targets p.target = some state ∧
      state.declared = true ∧ state.descriptor.lifecycle = .ready ∧
      Honours s.policy flow state.descriptor := by
  obtain ⟨state, own, hfound, hcandidate, -⟩ :=
    h.evaluated (targets_of_keyed hkeyed)
  obtain ⟨hlifecycle, hpolicy, -⟩ := admitted_of_evaluateTargetLocked
    (candidate_of_candidateOf hcandidate).eligible
  obtain ⟨hdeclared, hready⟩ := ready_of_lifecycleRefusal hlifecycle
  exact ⟨state, hfound, hdeclared, hready,
    honours_of_policyRefusal hsorted hpolicy⟩

theorem setPolicy_of_reordered {policy other : Policy}
    (h : policy.Reordered other) (answer : Status) :
    s.setPolicy policy answer = s.setPolicy other answer := by
  have hrefusal : policyInputRefusal policy = policyInputRefusal other := by
    rw [← h.rest]
    rfl
  unfold setPolicy
  rw [hrefusal, h.canonicalize_eq]

/--
A target that a request chooses is declared and ready, and honours the policy
in force with its lists taken as sets; the order in which the lists are given
to `set_policy` makes no difference.  A request that is answered again chooses
nothing.
-/
theorem policy_is_honoured (config : EngineConfig) (inputs : List Op)
    (h : engine.Admits (fun _ _ => True) (init config []) inputs) :
    (∀ request answer, ∀ p ∈ ((engine.run (init config []) inputs).placeLocked
        request answer).2.placements,
      ((engine.run (init config []) inputs).placeLocked request
        answer).2.duplicate = false → p.accepted = true →
      ∃ flow state,
        lookup (engine.run (init config []) inputs).flows p.flow =
          some flow ∧
        lookup (engine.run (init config []) inputs).targets p.target =
          some state ∧
        state.declared = true ∧ state.descriptor.lifecycle = .ready ∧
        Honours (engine.run (init config []) inputs).policy flow
          state.descriptor) ∧
    ∀ policy other answer, policy.Reordered other →
      (engine.run (init config []) inputs).setPolicy policy answer =
        (engine.run (init config []) inputs).setPolicy other answer := by
  refine ⟨?_, fun policy other answer hreordered =>
    setPolicy_of_reordered hreordered answer⟩
  intro request answer p hmem hfresh haccepted
  obtain ⟨flow, chosen, hchosen⟩ :=
    chosen_of_placeLocked hmem hfresh haccepted
  obtain ⟨state, hstate⟩ :=
    hchosen.honours (keyed_of_run h) (policySorted_run h).current
  exact ⟨flow, state, hchosen.registered, hstate⟩

/-! ## Runs -/

/-- A policy with its lists out of order and with repetitions. -/
def scatteredPolicy : Policy :=
  { samplePolicy true with
    allowedDomains := [.offloadDevice, .host, .offloadDevice]
    forbiddenHosts := [⟨9⟩, ⟨2⟩, ⟨9⟩, ⟨1⟩]
    allowedFunctions := [⟨4⟩, ⟨1⟩] }

/-- The first two hosts are forbidden, the third is not. -/
def scatteredLists : List Op :=
  [.openEngine {} committed, .setPolicy scatteredPolicy committed,
    .declareTarget (sampleHost 1) committed,
    .declareTarget (sampleHost 2) committed,
    .declareTarget (sampleHost 3) committed,
    .registerFlow (plainFlow 1 10) committed]

/-- The flow is placed on the third host, which is not in the list. -/
theorem scattered_lists_are_sets :
    ∃ p ∈ ((engine.run (init sampleConfig []) scatteredLists).placeLocked
        (sampleRequest 1 1 [1]) committed).2.placements,
      p.accepted = true ∧ ∃ flow state,
        lookup (engine.run (init sampleConfig []) scatteredLists).flows
          p.flow = some flow ∧
        lookup (engine.run (init sampleConfig []) scatteredLists).targets
          p.target = some state ∧
        state.declared = true ∧ state.descriptor.lifecycle = .ready ∧
        Honours (engine.run (init sampleConfig []) scatteredLists).policy flow
          state.descriptor := by
  obtain ⟨p, hmem, hplaced⟩ : ∃ p ∈
      ((engine.run (init sampleConfig []) scatteredLists).placeLocked
        (sampleRequest 1 1 [1]) committed).2.placements,
      p.accepted = true := by
    decide +kernel
  exact ⟨p, hmem, hplaced, (policy_is_honoured sampleConfig scatteredLists
    (by decide +kernel)).1 _ _ p hmem (by decide +kernel) hplaced⟩

/-- A request is answered again after its host was forbidden. -/
def hostForbiddenLater : List Op :=
  [.openEngine {} committed, .setPolicy (samplePolicy true) committed,
    .declareTarget (sampleHost 1) committed,
    .registerFlow (plainFlow 1 10) committed,
    .place (sampleRequest 1 1 [1]) committed,
    .setPolicy { samplePolicy true with
      generation := ⟨2⟩
      forbiddenHosts := [⟨1⟩] } committed]

/-- The answer repeats the committed assignment as it is. -/
theorem duplicate_is_on_forbidden_host :
    engine.Admits (fun _ _ => True) (init sampleConfig [])
        hostForbiddenLater ∧
      ∃ p ∈ ((engine.run (init sampleConfig [])
          hostForbiddenLater).placeLocked (sampleRequest 1 1 [1])
            committed).2.placements,
        p.accepted = true ∧
          ¬ ∃ flow state,
            lookup (engine.run (init sampleConfig [])
              hostForbiddenLater).targets p.target = some state ∧
            Honours (engine.run (init sampleConfig [])
              hostForbiddenLater).policy flow state.descriptor := by
  refine ⟨by decide +kernel, ?_⟩
  obtain ⟨p, hmem, hplaced, htarget⟩ : ∃ p ∈
      ((engine.run (init sampleConfig []) hostForbiddenLater).placeLocked
        (sampleRequest 1 1 [1]) committed).2.placements,
      p.accepted = true ∧ p.target = ⟨1⟩ := by
    decide +kernel
  have hhost : ((lookup (engine.run (init sampleConfig [])
      hostForbiddenLater).targets ⟨1⟩).all fun state =>
        state.descriptor.host ∈ (engine.run (init sampleConfig [])
          hostForbiddenLater).policy.forbiddenHosts) = true := by
    decide +kernel
  refine ⟨p, hmem, hplaced, ?_⟩
  rintro ⟨flow, state, hfound, hhonours⟩
  rw [htarget] at hfound
  rw [hfound, Option.all_some, decide_eq_true_eq] at hhost
  exact hhonours.host hhost

end Impl

end FlowOffload

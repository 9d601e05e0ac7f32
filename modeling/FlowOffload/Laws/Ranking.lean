import FlowOffload.Engine.Decided
import FlowOffload.Engine.EffectiveLoad
import FlowOffload.Laws.Declared
import FlowOffload.Laws.Submission

/-!
# Which target is chosen

The chosen target outranks every other target that the flow could go to, as
long as the best of them is among those that the candidate loop keeps.
-/

namespace FlowOffload

open Foundation
open Std (ExtTreeMap)

namespace Impl

variable {s : Impl} {request : PlacementRequest} {plan : BatchPlan}
  {flow : FlowDescriptor} {current : Option Assignment} {instant : Timestamp}
  {p : FlowPlacement} {answer : Status}

/-! ## Candidates and their keys -/

theorem target_of_candidate {id : TargetId} {state : TargetState}
    {candidate : RankedCandidate} (hkeyed : state.descriptor.target = id)
    (h : s.Candidate plan flow current instant (id, state) candidate) :
    candidate.view.target = id ∧ candidate.key.target = id.value := by
  have htarget : candidate.view.target = id :=
    h.describes.target.trans hkeyed
  refine ⟨htarget, ?_⟩
  have hkey := h.key
  unfold keyFor at hkey
  split at hkey
  · cases hkey
  · rw [← Option.some.inj hkey, ← htarget]

/-- Keys of one rank name one target. -/
theorem target_eq_of_rankWeight {a b : RankKey}
    (h : rankWeight a = rankWeight b) : a.target = b.target := by
  have ha := a.target.toNat_lt
  have hb := b.target.toNat_lt
  rw [← UInt64.toNat_inj]
  unfold rankWeight at h
  omega

/-- What is ordered before an element of a prefix is in the prefix too. -/
theorem mem_take_of_rel {α : Type} {R : α → α → Prop} {values : List α}
    (hsorted : values.Pairwise R) (hasymm : ∀ a b, R a b → ¬ R b a)
    {x y : α} {n : Nat} (hx : x ∈ values.take n) (hy : y ∈ values)
    (h : R y x) : y ∈ values.take n := by
  rw [← List.take_append_drop n values, List.pairwise_append] at hsorted
  rw [← List.take_append_drop n values, List.mem_append] at hy
  rcases hy with hy | hy
  · exact hy
  · exact absurd (hsorted.2.2 x hx y hy) (hasymm y x h)

/-! ## The targets that a flow could go to -/

/-- The candidate that a target is for a flow of a request, against the plan
of the items before it. -/
def offer (s : Impl) (request : PlacementRequest) (flow : FlowId)
    (id : TargetId) : Option RankedCandidate :=
  (s.flows[flow]?).bind fun descriptor =>
    (s.targets[id]?).bind fun state =>
      s.candidateOf (s.planBefore request flow) descriptor
        s.assignments[descriptor.flow]? request.evaluationInstant (id, state)

/-- All of them, in identity order. -/
def offers (s : Impl) (request : PlacementRequest) (flow : FlowId) :
    List RankedCandidate :=
  (s.flows[flow]?).elim [] fun descriptor =>
    s.eligibles (s.planBefore request flow) descriptor
      s.assignments[descriptor.flow]? request.evaluationInstant

/-- The target of the placement outranks every other one. -/
def Wins (s : Impl) (request : PlacementRequest) (p : FlowPlacement) : Prop :=
  ∀ id, id ≠ p.target → ∀ other ∈ s.offer request p.flow id,
    ∃ own ∈ s.offer request p.flow p.target, compareRank own.key other.key < 0

/-- The best of all candidates is one of those that the loop keeps. -/
def LeaderKept (s : Impl) (request : PlacementRequest) (flow : FlowId) :
    Prop :=
  ∀ leader ∈ s.offers request flow, Best (s.offers request flow) leader →
    leader ∈ (s.offers request flow).take kMaxRankedCandidates

instance (s : Impl) (request : PlacementRequest) (flow : FlowId) :
    Decidable (s.LeaderKept request flow) :=
  inferInstanceAs (Decidable (∀ leader ∈ _, _))

theorem mem_offers_iff {id : FlowId} {candidate : RankedCandidate} :
    candidate ∈ s.offers request id ↔
      ∃ target, candidate ∈ s.offer request id target := by
  unfold offers offer
  cases s.flows[id]? with
  | none => simp
  | some descriptor =>
      simp only [Option.elim_some, mem_eligibles_iff, Option.bind_some]
      constructor
      · rintro ⟨target, state, hfound, hcandidate⟩
        refine ⟨target, ?_⟩
        rw [show s.targets[target]? = some state from hfound]
        exact hcandidate
      · rintro ⟨target, hmem⟩
        obtain ⟨state, hfound, hcandidate⟩ := Option.bind_eq_some_iff.mp hmem
        exact ⟨target, state, hfound, hcandidate⟩

theorem offers_eq {id : FlowId} (h : lookup s.flows id = some flow) :
    s.offers request id = s.eligibles (s.planBefore request id) flow
      (lookup s.assignments flow.flow) request.evaluationInstant := by
  unfold offers
  rw [show s.flows[id]? = some flow from h]
  rfl

/-- An offer names the target that makes it. -/
theorem target_of_offer (hkeyed : ∀ k target,
      lookup s.targets k = some target → target.descriptor.target = k)
    {flow : FlowId} {id : TargetId} {candidate : RankedCandidate}
    (h : candidate ∈ s.offer request flow id) :
    candidate.view.target = id ∧ candidate.key.target = id.value := by
  obtain ⟨descriptor, -, h⟩ := Option.bind_eq_some_iff.mp h
  obtain ⟨state, hfound, h⟩ := Option.bind_eq_some_iff.mp h
  exact target_of_candidate (hkeyed id state hfound)
    (candidate_of_candidateOf h)

/-- Offers of one target are one offer. -/
theorem offer_eq_of_target (hkeyed : ∀ k target,
      lookup s.targets k = some target → target.descriptor.target = k)
    {flow : FlowId} {a b : RankedCandidate} (ha : a ∈ s.offers request flow)
    (hb : b ∈ s.offers request flow) (h : a.key.target = b.key.target) :
    a = b := by
  obtain ⟨id, ha⟩ := mem_offers_iff.mp ha
  obtain ⟨id', hb⟩ := mem_offers_iff.mp hb
  rw [(target_of_offer hkeyed ha).2, (target_of_offer hkeyed hb).2] at h
  have hid : id = id' := TypedId.eq_iff_toNat_eq.mpr (by rw [h])
  subst hid
  exact Option.some.inj ((Option.mem_def.mp ha).symm.trans hb)

/-- The chosen candidate is the best of those that the loop keeps. -/
theorem Chosen.kept (hkeyed : ∀ k target,
      lookup s.targets k = some target → target.descriptor.target = k)
    {chosen : CandidateView} (h : s.Chosen request p flow chosen) :
    ∃ own ∈ s.offer request p.flow p.target,
      own ∈ (s.offers request p.flow).take kMaxRankedCandidates ∧
        Best ((s.offers request p.flow).take kMaxRankedCandidates) own ∧
        Offered s.policy own := by
  obtain ⟨item, haccepts⟩ := h.accepts
  obtain ⟨own, rest, hsorted, hoffered, hchosen⟩ := haccepts.candidate
  have hoffers := @offers_eq _ request _ _ h.registered
  have hmem : own ∈ (s.offers request p.flow).take kMaxRankedCandidates := by
    rw [hoffers, ← ranked_surveyTargets, ← mem_canonicalSort, ← sortRanked,
      hsorted]
    exact List.mem_cons_self
  have hbest := best_of_sortRanked hsorted
  rw [ranked_surveyTargets, ← hoffers] at hbest
  obtain ⟨id, hoffer⟩ := mem_offers_iff.mp (List.mem_of_mem_take hmem)
  have hid : p.target = id := by
    rw [h.target, hchosen]
    exact (target_of_offer hkeyed hoffer).1
  rw [← hid] at hoffer
  exact ⟨own, hoffer, hmem, hbest, hoffered⟩

/-- A best offer that is kept is the one that is looked at. -/
theorem head_of_leaderKept (hkeyed : ∀ k target,
      lookup s.targets k = some target → target.descriptor.target = k)
    {id : FlowId} (hkept : s.LeaderKept request id)
    {leader : RankedCandidate} (hleader : leader ∈ s.offers request id)
    (hbest : Best (s.offers request id) leader) :
    leader ∈ (sortRanked
      ((s.offers request id).take kMaxRankedCandidates)).head? := by
  have hmem := hkept leader hleader hbest
  obtain ⟨first, hhead, hfirst, hbestKept⟩ :=
    exists_head_sortRanked (List.ne_nil_of_mem hmem)
  have hless := hbestKept leader hmem
  have hless' := hbest first (List.mem_of_mem_take hfirst)
  rw [compareRank_neg_iff] at hless hless'
  have hsame : first = leader :=
    offer_eq_of_target hkeyed (List.mem_of_mem_take hfirst) hleader
      (target_eq_of_rankWeight (by omega))
  rw [← hsame]
  exact hhead

/-- What is chosen outranks the rest exactly when the best one was kept. -/
theorem Chosen.wins_iff (hkeyed : ∀ k target,
      lookup s.targets k = some target → target.descriptor.target = k)
    {chosen : CandidateView} (h : s.Chosen request p flow chosen) :
    s.Wins request p ↔ s.LeaderKept request p.flow := by
  obtain ⟨own, hown, hkept, hbest, -⟩ := h.kept hkeyed
  constructor
  · intro hwins leader hleader hleads
    obtain ⟨id, hoffer⟩ := mem_offers_iff.mp hleader
    by_cases hid : id = p.target
    · subst hid
      have hsame := Option.some.inj ((Option.mem_def.mp hoffer).symm.trans hown)
      rw [hsame]
      exact hkept
    · obtain ⟨own', hown', hless⟩ := hwins id hid leader hoffer
      exact absurd hless
        (hleads own' (mem_offers_iff.mpr ⟨p.target, hown'⟩))
  · intro hleads id hid other hother
    have hothers := mem_offers_iff.mpr ⟨id, hother⟩
    obtain ⟨leader, -, hleader, hbestAll⟩ :=
      exists_head_sortRanked (List.ne_nil_of_mem hothers)
    have hfirst := hbest leader (hleads leader hleader hbestAll)
    have hsecond := hbestAll own (List.mem_of_mem_take hkept)
    have hleast := hbestAll other hothers
    rw [compareRank_neg_iff] at hfirst hsecond hleast
    refine ⟨own, hown, compareRank_neg_iff.mpr ?_⟩
    have hne : rankWeight own.key ≠ rankWeight other.key := by
      intro heq
      have hsame := offer_eq_of_target hkeyed (List.mem_of_mem_take hkept)
        hothers (target_eq_of_rankWeight heq)
      rw [← hsame] at hother
      exact hid ((target_of_offer hkeyed hother).1.symm.trans
        (target_of_offer hkeyed hown).1)
    omega

/--
A placement that a request reports as accepted is on a target that strictly
outranks every other one that evaluates to `Ok`, exactly when the best of them
is among the first candidates in identity order that the loop keeps.
-/
theorem best_target_wins_iff (config : EngineConfig) (inputs : List Op)
    (h : engine.Admits (fun _ _ => True) (init config []) inputs)
    (request : PlacementRequest) (answer : Status) (p : FlowPlacement)
    (hmem : p ∈ ((engine.run (init config []) inputs).placeLocked request
      answer).2.placements)
    (hfresh : ((engine.run (init config []) inputs).placeLocked request
      answer).2.duplicate = false)
    (haccepted : p.accepted = true) :
    (engine.run (init config []) inputs).Wins request p ↔
      (engine.run (init config []) inputs).LeaderKept request p.flow := by
  have htargets := targets_of_keyed (keyed_of_run h)
  obtain ⟨flow, chosen, hchosen⟩ :=
    chosen_of_placeLocked hmem hfresh haccepted
  exact hchosen.wins_iff htargets

/-- An economy host beside one of another class. -/
def twoClasses : List Op :=
  [.openEngine {} committed, .setPolicy (samplePolicy false) committed,
    .declareTarget { sampleHost 1 with costClass := .premium } committed,
    .declareTarget (sampleHost 2) committed,
    .registerFlow (plainFlow 1 10) committed]

theorem economy_host_wins :
    ((engine.run (init sampleConfig []) twoClasses).placeLocked
        (sampleRequest 1 1 [1]) committed).2.placements.map
          (fun p => (p.accepted, p.target)) = [(true, ⟨2⟩)] ∧
      ∀ p ∈ ((engine.run (init sampleConfig []) twoClasses).placeLocked
          (sampleRequest 1 1 [1]) committed).2.placements,
        (engine.run (init sampleConfig []) twoClasses).Wins
          (sampleRequest 1 1 [1]) p := by
  refine ⟨by decide +kernel, fun p hp => ?_⟩
  have hall : ∀ p ∈ ((engine.run (init sampleConfig [])
      twoClasses).placeLocked (sampleRequest 1 1 [1]) committed).2.placements,
      p.accepted = true ∧ p.flow = ⟨1⟩ := by
    decide +kernel
  refine (best_target_wins_iff sampleConfig twoClasses (by decide +kernel)
    _ committed p hp (by decide +kernel) (hall p hp).1).mpr ?_
  rw [(hall p hp).2]
  decide +kernel

/-! ## More hosts than the loop keeps -/

/-- Hosts of a dearer class, up to the last one that is looked at. -/
def crowdHost (id : UInt64) : TargetDescriptor :=
  { sampleHost id with
    costClass := if id.toNat ≤ kMaxRankedCandidates then .standard
      else .economy }

def crowdSetup : List Op :=
  [.openEngine {} committed, .setTopologyGeneration ⟨1⟩ committed,
    .setPolicy (samplePolicy false) committed,
    .registerFlow (plainFlow 1 10) committed]

/-- The first hosts are declared one after the other. -/
def declarations (n : Nat) : List Op :=
  (List.range n).map fun i =>
    .declareTarget (crowdHost (UInt64.ofNat (i + 1))) committed

def crowdBase : Impl := engine.run (init sampleConfig []) crowdSetup

def crowdEntry (id : UInt64) : TargetState :=
  { descriptor := crowdHost id, declared := true }

/-- The first hosts are declared, and nothing else has changed. -/
structure Crowded (s : Impl) (n : Nat) : Prop where
  frame : ∃ counters targets,
    s = { crowdBase with counters := counters, targets := targets }
  size : s.targets.size = n
  entries : ∀ id, lookup s.targets id =
    if 1 ≤ id.value.toNat ∧ id.value.toNat ≤ n then some (crowdEntry id.value)
    else none

theorem crowded_crowdBase : Crowded crowdBase 0 where
  frame := ⟨_, _, rfl⟩
  size := by decide +kernel
  entries := by
    intro id
    have hempty : crowdBase.targets.toList = [] := by decide +kernel
    rw [if_neg (by omega)]
    cases hfound : lookup crowdBase.targets id with
    | none => rfl
    | some state =>
        have hmem := lookup_eq_some_iff_mem_toList.mp hfound
        rw [hempty] at hmem
        cases hmem

theorem crowdBase_ready : crowdBase.isOpen = true ∧
    crowdBase.topologyGeneration = ⟨1⟩ ∧ crowdBase.assignments.toList = [] ∧
    crowdBase.config.persistenceEnabled = false ∧
    crowdBase.config.maxTargets = kMaxTargets := by
  decide +kernel

theorem crowdBase_policy : crowdBase.policy = samplePolicy false ∧
    crowdBase.flows[(⟨1⟩ : FlowId)]? = some (plainFlow 1 10) ∧
    crowdBase.assignments[(⟨1⟩ : FlowId)]? = none := by
  decide +kernel

theorem crowdBase_plans :
    crowdBase.plans (sampleRequest 1 1 [1]) = true := by
  decide +kernel

example : crowdBase.flows.size = 1 := by decide +kernel

/-- A new target of the present topology is added, and nothing else changes
while no flow is placed. -/
theorem declareTarget_of_new {target : TargetDescriptor}
    (hopen : s.isOpen = true) (hchecked : s.targetRefusal target = none)
    (hnew : lookup s.targets target.target = none)
    (hroom : s.targets.size < s.config.maxTargets)
    (htopology : s.topologyGeneration = target.topologyGeneration)
    (hunplaced : s.assignments.toList = [])
    (hmemory : s.config.persistenceEnabled = false) :
    ∃ counters, (s.declareTarget target answer).1 =
      { s with
        counters := counters
        targets := (s.targets.insert target.target
          { descriptor := target, declared := true }).map fun _ state =>
            { state with scheduled := CapacityVector.zero } } := by
  have hnone : s.targets[target.target]? = none := hnew
  have hsame : ¬ s.topologyGeneration < target.topologyGeneration := by
    rw [htopology, TypedId.lt_iff_toNat_lt]
    exact Nat.lt_irrefl _
  unfold declareTarget finishDeclaration
  rw [hopen, hchecked, hnone]
  simp only [Bool.not_true, Bool.false_eq_true, if_false,
    Nat.not_le.mpr hroom, setTarget, hsame]
  unfold persistThen persistLocked recomputeScheduledLocked
  simp only [hmemory, hunplaced, List.foldl_nil, Bool.not_false, if_true]
  exact ⟨_, rfl⟩

theorem targetRefusal_crowdHost {id : UInt64} (hid : id ≠ 0)
    (htopology : s.topologyGeneration = ⟨1⟩) :
    s.targetRefusal (crowdHost id) = none := by
  have hvalid : ∀ tag, (⟨id⟩ : TypedId tag).isValid = true := by
    intro tag
    simpa [TypedId.isValid] using hid
  have hcost : (crowdHost id).costClass ≠ .unknown := by
    unfold crowdHost
    dsimp only
    split <;> decide
  simp only [targetRefusal, passes_iff, htopology]
  refine ⟨?_, ?_, hcost, ?_, ?_, ?_, ?_, trivial⟩
  · simp [crowdHost, sampleHost, hvalid]
    decide
  · exact of_decide_eq_true rfl
  · exact Bool.false_ne_true
  · simp [crowdHost, sampleHost, hvalid]
  · exact Bool.false_ne_true
  · change ¬ (⟨1⟩ : TopologyGeneration) < ⟨1⟩
    decide

theorem crowded_declareTarget {n : Nat} (h : Crowded s n)
    (hn : n < kMaxTargets) : Crowded (s.declareTarget
      (crowdHost (UInt64.ofNat (n + 1))) committed).1 (n + 1) := by
  have hvalue : (UInt64.ofNat (n + 1)).toNat = n + 1 := by
    rw [UInt64.toNat_ofNat']
    exact Nat.mod_eq_of_lt (by simp only [kMaxTargets] at hn; omega)
  have hid : UInt64.ofNat (n + 1) ≠ 0 := by
    intro hzero
    rw [hzero] at hvalue
    cases hvalue
  have htarget : (crowdHost (UInt64.ofNat (n + 1))).target =
      ⟨UInt64.ofNat (n + 1)⟩ := rfl
  have hnew : lookup s.targets ⟨UInt64.ofNat (n + 1)⟩ = none := by
    rw [h.entries, if_neg]
    simp only [hvalue]
    omega
  obtain ⟨counters, targets, hframe⟩ := h.frame
  obtain ⟨hopen, htopology, hunplaced, hmemory, hroom⟩ := crowdBase_ready
  obtain ⟨counters', heq⟩ := @declareTarget_of_new s committed
    (crowdHost (UInt64.ofNat (n + 1)))
    (by rw [hframe]; exact hopen)
    (targetRefusal_crowdHost hid (by rw [hframe]; exact htopology))
    hnew (by rw [h.size, hframe]; exact hroom ▸ hn)
    (by rw [hframe]; exact htopology) (by rw [hframe]; exact hunplaced)
    (by rw [hframe]; exact hmemory)
  rw [htarget] at heq
  rw [heq]
  refine ⟨⟨_, _, by rw [hframe]⟩, ?_, ?_⟩
  · rw [ExtTreeMap.size_map, ExtTreeMap.size_insert, if_neg, h.size]
    intro hmem
    rw [ExtTreeMap.contains_eq_isSome_getElem?] at hmem
    have hsome : (lookup s.targets ⟨UInt64.ofNat (n + 1)⟩).isSome = true :=
      hmem
    rw [hnew] at hsome
    cases hsome
  · intro id
    rw [lookup_map, lookup_insert]
    dsimp only
    by_cases hsame : id = ⟨UInt64.ofNat (n + 1)⟩
    · subst hsame
      rw [Function.update_self, if_pos]
      · rfl
      · simp only [hvalue]
        omega
    · have hne : id.value.toNat ≠ n + 1 := by
        rw [TypedId.eq_iff_toNat_eq, hvalue] at hsame
        exact hsame
      rw [Function.update_of_ne hsame, h.entries]
      by_cases hin : 1 ≤ id.value.toNat ∧ id.value.toNat ≤ n
      · rw [if_pos hin, if_pos ⟨hin.1, by omega⟩]
        rfl
      · rw [if_neg hin, if_neg (by omega)]
        rfl

theorem crowded_declarations {n : Nat} (hn : n ≤ kMaxTargets) :
    engine.Admits (fun _ _ => True) crowdBase (declarations n) ∧
      Crowded (engine.run crowdBase (declarations n)) n := by
  induction n with
  | zero => exact ⟨trivial, crowded_crowdBase⟩
  | succ n ih =>
      obtain ⟨hadmits, hcrowded⟩ := ih (by omega)
      have hmore : declarations (n + 1) = declarations n ++
          [.declareTarget (crowdHost (UInt64.ofNat (n + 1))) committed] := by
        rw [declarations, List.range_succ, List.map_append]
        rfl
      rw [hmore, Machine.admits_append, Machine.run_append]
      refine ⟨⟨hadmits, ?_, trivial, trivial⟩, ?_⟩
      · intro state hstate
        cases hstate
      · exact crowded_declareTarget hcrowded hn

theorem policyRefusal_crowdHost (id : UInt64) :
    policyRefusal (samplePolicy false) (plainFlow 1 10) (crowdHost id) =
      none := by
  have hcost : (crowdHost id).costClass = .standard ∨
      (crowdHost id).costClass = .economy := by
    unfold crowdHost
    dsimp only
    split
    · exact Or.inl rfl
    · exact Or.inr rfl
  simp only [policyRefusal, passes_iff]
  refine ⟨?_, ?_, ?_, ?_, ?_, ?_, ?_, ?_, ?_, trivial⟩
  iterate 6 exact Bool.false_ne_true
  · change ¬ (!satisfies (sampleHost 1).capabilities
      ((plainFlow 1 10).requiredCapabilities |||
        (samplePolicy false).requiredCapabilities)) = true
    decide
  · exact Bool.false_ne_true
  rcases hcost with hcost | hcost
  · rw [hcost]
    decide
  · rw [hcost]
    decide

/-- Each of the hosts is a candidate. -/
theorem passes_crowdEntry {n : Nat} (h : Crowded s n) (id : UInt64) :
    (s.evaluateTargetLocked (plainFlow 1 10) (crowdEntry id) ⟨1⟩).1 = .ok := by
  obtain ⟨counters, targets, hframe⟩ := h.frame
  have hpolicy : s.policy = samplePolicy false := by
    rw [hframe]
    exact crowdBase_policy.1
  refine evaluateTargetLocked_eq_ok_iff.mpr ⟨⟨rfl, ?_, rfl⟩, ?_, ?_⟩
  · rw [hpolicy]
    exact policyRefusal_crowdHost id
  · rw [effectiveLoadLocked_eq, hpolicy]
    exact Or.inl rfl
  · have hused : s.assumedLoad (crowdEntry id) ⟨1⟩ = .zero := by
      rw [assumedLoad, effectiveLoadLocked_eq, hpolicy]
      rfl
    have hsame : capacityVerdict (samplePolicy false) (plainFlow 1 10)
        (crowdEntry id).descriptor .zero = capacityVerdict (samplePolicy false)
          (plainFlow 1 10) (sampleHost 1) .zero :=
      capacityVerdict_congr rfl rfl
    rw [hused, hpolicy, hsame]
    exact ⟨(100000, false), by decide +kernel⟩

/-! ### The best one is the last -/

/-- Offers come in identity order. -/
theorem sorted_offers (hkeyed : ∀ k target,
      lookup s.targets k = some target → target.descriptor.target = k)
    (flow : FlowId) : (s.offers request flow).Pairwise fun a b =>
      a.key.target < b.key.target := by
  unfold offers
  cases s.flows[flow]? with
  | none => exact List.Pairwise.nil
  | some descriptor =>
      rw [Option.elim_some, eligibles, List.pairwise_filterMap]
      refine (sorted_toList s.targets).imp_of_mem ?_
      intro a b ha hb hlt x hx y hy
      have hkey : ∀ {entry candidate}, entry ∈ s.targets.toList →
          s.candidateOf (s.planBefore request flow) descriptor
            s.assignments[descriptor.flow]? request.evaluationInstant entry =
              some candidate → candidate.key.target = entry.1.value := by
        intro entry candidate hentry hcandidate
        exact (target_of_candidate (hkeyed entry.1 entry.2
          (lookup_eq_some_iff_mem_toList.mpr hentry))
          (candidate_of_candidateOf hcandidate)).2
      rw [hkey ha hx, hkey hb hy]
      exact compareOfLessAndEq_eq_lt.mp hlt

theorem keyed_of_crowded {n : Nat} (h : Crowded s n) (k : TargetId)
    (target : TargetState) (htarget : lookup s.targets k = some target) :
    target.descriptor.target = k := by
  rw [h.entries] at htarget
  split at htarget
  · rw [← Option.some.inj htarget]
    rfl
  · cases htarget

/-- What a host offers the flow: the rank of its cost class. -/
theorem offer_of_crowded {n : Nat} (h : Crowded s n) {id : UInt64}
    (hlow : 1 ≤ id.toNat) (hhigh : id.toNat ≤ n) :
    ∃ candidate ∈ s.offer (sampleRequest 1 1 [1]) ⟨1⟩ ⟨id⟩,
      candidate.key.sticky = 1 ∧ candidate.key.domainRank = 0 ∧
        candidate.key.costRank = EnumTraits.wire (crowdHost id).costClass ∧
        candidate.key.target = id := by
  have hentry : s.targets[(⟨id⟩ : TargetId)]? = some (crowdEntry id) := by
    have := h.entries ⟨id⟩
    rw [if_pos ⟨hlow, hhigh⟩] at this
    exact this
  obtain ⟨counters, targets, hframe⟩ := h.frame
  have hpolicy : s.policy = samplePolicy false := by
    rw [hframe]
    exact crowdBase_policy.1
  have hflow : s.flows[(⟨1⟩ : FlowId)]? = some (plainFlow 1 10) := by
    rw [hframe]
    exact crowdBase_policy.2.1
  have hfree : s.assignments[(⟨1⟩ : FlowId)]? = none := by
    rw [hframe]
    exact crowdBase_policy.2.2
  have hplan : s.planBefore (sampleRequest 1 1 [1]) ⟨1⟩ = s.initialPlan := rfl
  have hplanned : plannedTarget s.initialPlan ⟨id⟩ (crowdEntry id) =
      crowdEntry id := by
    simp [plannedTarget, initialPlan]
  have hpasses := passes_crowdEntry h id
  rw [← hplanned] at hpasses
  have hsome : (s.candidateOf s.initialPlan (plainFlow 1 10) none ⟨1⟩
      (⟨id⟩, crowdEntry id)).isSome = true :=
    candidateOf_isSome_iff.mpr hpasses
  obtain ⟨candidate, hcandidate⟩ := Option.isSome_iff_exists.mp hsome
  refine ⟨candidate, ?_, ?_⟩
  · unfold offer
    rw [hflow, Option.bind_some, hentry, Option.bind_some, hplan]
    rw [show (plainFlow 1 10).flow = ⟨1⟩ from rfl, hfree]
    exact hcandidate
  · have hcost := costClass_of_candidateOf hcandidate
    have hof := candidate_of_candidateOf hcandidate
    have htarget := target_of_candidate
      (keyed_of_crowded h ⟨id⟩ (crowdEntry id) hentry) hof
    have hdomain := hof.describes.domain
    have hkey := hof.key
    unfold keyFor at hkey
    split at hkey
    · cases hkey
    · rw [← Option.some.inj hkey, hcost, hdomain, htarget.1, hpolicy]
      exact ⟨rfl, rfl, rfl, rfl⟩

/-- Whatever the flow is offered, one of the hosts offers it. -/
theorem offers_of_crowded {n : Nat} (h : Crowded s n)
    {candidate : RankedCandidate}
    (hmem : candidate ∈ s.offers (sampleRequest 1 1 [1]) ⟨1⟩) :
    candidate.key.target.toNat ≤ n ∧ candidate.key.sticky = 1 ∧
      candidate.key.domainRank = 0 ∧ candidate.key.costRank =
        EnumTraits.wire (crowdHost candidate.key.target).costClass := by
  obtain ⟨id, hoffer⟩ := mem_offers_iff.mp hmem
  have htarget := (target_of_offer (keyed_of_crowded h) hoffer).2
  obtain ⟨descriptor, -, hbind⟩ := Option.bind_eq_some_iff.mp hoffer
  obtain ⟨state, hfound, -⟩ := Option.bind_eq_some_iff.mp hbind
  have hentry := h.entries id
  rw [show lookup s.targets id = some state from hfound] at hentry
  split at hentry
  next hin =>
    obtain ⟨own, hown, hsticky, hdomain, hcost, hid⟩ :=
      offer_of_crowded h hin.1 hin.2
    have hsame := Option.some.inj ((Option.mem_def.mp hoffer).symm.trans hown)
    rw [htarget]
    rw [hsame]
    exact ⟨hin.2, hsticky, hdomain, hcost⟩
  next => cases hentry

theorem exists_offer_of_crowded {n : Nat} (h : Crowded s n)
    (hn : n ≤ kMaxTargets) {i : Nat} (hlow : 1 ≤ i) (hhigh : i ≤ n) :
    ∃ candidate ∈ s.offers (sampleRequest 1 1 [1]) ⟨1⟩,
      candidate.key.target.toNat = i := by
  have hvalue : (UInt64.ofNat i).toNat = i := by
    rw [UInt64.toNat_ofNat']
    exact Nat.mod_eq_of_lt (by simp only [kMaxTargets] at hn; omega)
  obtain ⟨candidate, hcandidate, -, -, -, htarget⟩ :=
    @offer_of_crowded _ _ h (UInt64.ofNat i) (by omega) (by omega)
  exact ⟨candidate, mem_offers_iff.mpr ⟨_, hcandidate⟩, by rw [htarget, hvalue]⟩

/-- The last of the hosts is the only one of its class, and the best one. -/
theorem best_of_crowded (h : Crowded s (kMaxRankedCandidates + 1))
    {leader : RankedCandidate}
    (hmem : leader ∈ s.offers (sampleRequest 1 1 [1]) ⟨1⟩)
    (hlast : leader.key.target.toNat = kMaxRankedCandidates + 1) :
    Best (s.offers (sampleRequest 1 1 [1]) ⟨1⟩) leader := by
  have hcostOf : ∀ id : UInt64,
      (EnumTraits.wire (crowdHost id).costClass).toNat =
        if id.toNat ≤ kMaxRankedCandidates then 2 else 1 := by
    intro id
    unfold crowdHost
    dsimp only
    split <;> rfl
  intro other hother
  rw [compareRank_neg_iff]
  obtain ⟨-, hsticky, hdomain, hcost⟩ := offers_of_crowded h hmem
  obtain ⟨hbound, hsticky', hdomain', hcost'⟩ := offers_of_crowded h hother
  have hload := leader.key.utilisationPpm.toNat_lt
  have hload' := other.key.utilisationPpm.toNat_lt
  have htarget := leader.key.target.toNat_lt
  have htarget' := other.key.target.toNat_lt
  by_cases hlow : other.key.target.toNat ≤ kMaxRankedCandidates
  · unfold rankWeight
    rw [hsticky, hdomain, hcost, hsticky', hdomain', hcost', hcostOf, hcostOf,
      if_pos hlow, if_neg (by omega)]
    omega
  · have hsame : other = leader := by
      refine offer_eq_of_target (keyed_of_crowded h) hother hmem ?_
      rw [← UInt64.toNat_inj]
      omega
    rw [hsame]
    exact Nat.lt_irrefl _

/-- With more hosts than the loop keeps, the best one is not kept. -/
theorem not_leaderKept_of_crowded
    (h : Crowded s (kMaxRankedCandidates + 1)) :
    ¬ s.LeaderKept (sampleRequest 1 1 [1]) ⟨1⟩ := by
  have hn : kMaxRankedCandidates + 1 ≤ kMaxTargets := by decide
  obtain ⟨leader, hleader, hlast⟩ := exists_offer_of_crowded h hn
    (show 1 ≤ kMaxRankedCandidates + 1 by omega) (Nat.le_refl _)
  intro hkept
  have hfirst := hkept leader hleader (best_of_crowded h hleader hlast)
  have hall : List.range' 1 (kMaxRankedCandidates + 1) ⊆
      ((s.offers (sampleRequest 1 1 [1]) ⟨1⟩).take kMaxRankedCandidates).map
        fun candidate => candidate.key.target.toNat := by
    intro i hi
    rw [List.mem_range'_1] at hi
    obtain ⟨candidate, hcandidate, htarget⟩ := exists_offer_of_crowded h hn
      hi.1 (by omega)
    refine List.mem_map.mpr ⟨candidate, ?_, htarget⟩
    by_cases hsame : i = kMaxRankedCandidates + 1
    · have hleads : candidate = leader := by
        refine offer_eq_of_target (keyed_of_crowded h) hcandidate hleader ?_
        rw [← UInt64.toNat_inj]
        omega
      rw [hleads]
      exact hfirst
    · refine mem_take_of_rel (sorted_offers (keyed_of_crowded h) ⟨1⟩)
        (fun a b hab => ?_) hfirst hcandidate ?_
      · rw [UInt64.lt_iff_toNat_lt] at hab ⊢
        omega
      · rw [UInt64.lt_iff_toNat_lt, htarget, hlast]
        omega
  have hlength := (List.subperm_of_subset List.nodup_range' hall).length_le
  rw [List.length_range', List.length_map, List.length_take] at hlength
  omega

/-- The flow is placed all the same, on a dearer host. -/
theorem placed_of_crowded (h : Crowded s (kMaxRankedCandidates + 1)) :
    (s.placeLocked (sampleRequest 1 1 [1]) committed).2.duplicate = false ∧
      ∃ p ∈ (s.placeLocked (sampleRequest 1 1 [1]) committed).2.placements,
        p.accepted = true ∧ ¬ s.Wins (sampleRequest 1 1 [1]) p := by
  have hplans : s.plans (sampleRequest 1 1 [1]) = true := by
    obtain ⟨counters, targets, hframe⟩ := h.frame
    rw [hframe]
    exact crowdBase_plans
  have hfresh := @duplicate_of_plans _ _ committed hplans
  refine ⟨hfresh, ?_⟩
  have hchecked : s.Checked { flow := ⟨1⟩ } (plainFlow 1 10) := by
    obtain ⟨counters, targets, hframe⟩ := h.frame
    refine ⟨?_, fun hvalid => ?_, rfl⟩
    · rw [hframe]
      exact crowdBase_policy.2.1
    · cases hvalid
  obtain ⟨p, hp, hreported⟩ := reported_of_plans hplans
    (show { flow := ⟨1⟩ } ∈ itemsOf (sampleRequest 1 1 [1]) by decide) committed
  have haccepted : p.accepted = true := by
    rw [hreported.accepted, accepted_placementFor_iff hchecked,
      ← @offers_eq _ (sampleRequest 1 1 [1]) _ _ hchecked.registered]
    obtain ⟨candidate, hcandidate, -⟩ := exists_offer_of_crowded h
      (by decide) (Nat.le_refl 1) (by omega)
    have hkept : (s.offers (sampleRequest 1 1 [1]) ⟨1⟩).take
        kMaxRankedCandidates ≠ [] := by
      have hpositive := List.length_pos_of_mem hcandidate
      rw [ne_eq, ← List.length_eq_zero_iff, List.length_take]
      simp only [kMaxRankedCandidates]
      omega
    obtain ⟨first, hfirst, hmem, -⟩ := exists_head_sortRanked hkept
    exact ⟨first, hfirst, Or.inl
      (offers_of_crowded h (List.mem_of_mem_take hmem)).2.2.1⟩
  refine ⟨p, hp, haccepted, ?_⟩
  obtain ⟨flow, chosen, hchosen⟩ := hreported.chosen haccepted
  rw [hchosen.wins_iff (keyed_of_crowded h)]
  rw [hreported.flow]
  exact not_leaderKept_of_crowded h

def crowd (n : Nat) : List Op := crowdSetup ++ declarations n

example : (engine.run (init sampleConfig [])
    (crowd 2)).counters.targetsRegistered = 2 := by
  decide +kernel

theorem placed_in_crowd {n : Nat} (hn : n = kMaxRankedCandidates + 1) :
    engine.Admits (fun _ _ => True) (init sampleConfig []) (crowd n) ∧
      ((engine.run (init sampleConfig []) (crowd n)).placeLocked
        (sampleRequest 1 1 [1]) committed).2.duplicate = false ∧
      ∃ p ∈ ((engine.run (init sampleConfig []) (crowd n)).placeLocked
          (sampleRequest 1 1 [1]) committed).2.placements,
        p.accepted = true ∧
          ¬ (engine.run (init sampleConfig []) (crowd n)).Wins
            (sampleRequest 1 1 [1]) p := by
  have hbound : n ≤ kMaxTargets := by
    rw [hn]
    decide
  obtain ⟨hadmits, hcrowded⟩ := crowded_declarations hbound
  have hsetup : engine.Admits (fun _ _ => True) (init sampleConfig [])
      crowdSetup := by
    decide +kernel
  rw [crowd, Machine.admits_append, Machine.run_append, ← crowdBase]
  refine ⟨⟨hsetup, hadmits⟩, placed_of_crowded ?_⟩
  rw [← hn]
  exact hcrowded

/-- The best host is declared after the ones that are looked at. -/
theorem last_host_is_never_looked_at :
    engine.Admits (fun _ _ => True) (init sampleConfig [])
        (crowd (kMaxRankedCandidates + 1)) ∧
      ((engine.run (init sampleConfig [])
        (crowd (kMaxRankedCandidates + 1))).placeLocked
          (sampleRequest 1 1 [1]) committed).2.duplicate = false ∧
      ∃ p ∈ ((engine.run (init sampleConfig [])
          (crowd (kMaxRankedCandidates + 1))).placeLocked
            (sampleRequest 1 1 [1]) committed).2.placements,
        p.accepted = true ∧
          ¬ (engine.run (init sampleConfig [])
            (crowd (kMaxRankedCandidates + 1))).Wins
              (sampleRequest 1 1 [1]) p :=
  placed_in_crowd rfl

end Impl

end FlowOffload

import FlowOffload.Ledger.Landed
import FlowOffload.Laws.Ranking

/-!
# The report and what is committed

What a request reports as accepted is what it commits, except where a flow
keeps its assignment: the report then names the capability generation that its
target has now, and the assignment keeps the one it was placed at.
-/

namespace FlowOffload

open Foundation
open Std (ExtTreeMap)

namespace Impl

variable {s : Impl} {request : PlacementRequest} {p : FlowPlacement}
  {answer : Status}

/-! ## Flows that stay -/

/-- One of the candidates that the loop keeps is the target of the flow, under
a sticky policy. -/
def stays (s : Impl) (request : PlacementRequest) (flow : FlowId) : Bool :=
  ((s.offers request flow).take kMaxRankedCandidates).any fun own =>
    own.key.sticky = 0

theorem rankWeight_lt_of_sticky {a b : RankKey} (ha : a.sticky = 0)
    (hb : b.sticky ≠ 0) : rankWeight a < rankWeight b := by
  have hdomain := a.domainRank.toNat_lt
  have hcost := a.costRank.toNat_lt
  have hload := a.utilisationPpm.toNat_lt
  have htarget := a.target.toNat_lt
  have hzero : a.sticky.toNat = 0 := by
    rw [ha]
    rfl
  have hone : b.sticky.toNat ≠ 0 := fun h => hb (UInt8.toNat_inj.mp h)
  unfold rankWeight
  omega

/-- An accepted flow is retained exactly when it stays. -/
theorem Chosen.retained_eq (hkeyed : ∀ k target,
      lookup s.targets k = some target → target.descriptor.target = k)
    {flow : FlowDescriptor} {chosen : CandidateView}
    (h : s.Chosen request p flow chosen) :
    p.retained = s.stays request p.flow := by
  obtain ⟨state, own, hfound, hcandidate, hchosen⟩ := h.evaluated hkeyed
  obtain ⟨kept, hoffer, hkept, hbest, -⟩ := h.kept hkeyed
  have hsame : kept = own := by
    have hget : s.targets[p.target]? = some state := hfound
    have hflow : s.flows[p.flow]? = some flow := h.registered
    unfold offer at hoffer
    rw [hflow, Option.bind_some, hget, Option.bind_some] at hoffer
    exact Option.some.inj (hoffer.symm.trans hcandidate)
  subst hsame
  have hkey := (candidate_of_candidateOf hcandidate).key_eq
  have hretained : p.retained = decide (kept.key.sticky = 0) := by
    have hview : stickyOn s.policy (lookup s.assignments flow.flow) chosen =
        stickyOn s.policy (lookup s.assignments flow.flow) kept.view := by
      rw [hchosen]
      rfl
    rw [h.retained, hview, hkey]
    cases stickyOn s.policy (lookup s.assignments flow.flow) kept.view with
    | false => rfl
    | true => rfl
  rw [hretained, stays, Bool.eq_iff_iff, decide_eq_true_eq, List.any_eq_true]
  constructor
  · intro hsticky
    exact ⟨kept, hkept, by simpa using hsticky⟩
  · rintro ⟨other, hother, hsticky⟩
    by_contra hne
    refine hbest other hother (compareRank_neg_iff.mpr ?_)
    exact rankWeight_lt_of_sticky (by simpa using hsticky) hne

/-! ## The report of a real run -/

theorem placements_of_accepted (hwet : request.dryRun = false)
    (haccepted : (s.placeLocked request answer).2.accepted = true)
    (hnew : (s.placeLocked request answer).2.duplicate = false) :
    (s.placeLocked request answer).2.placements =
      ((s.scheduledFor request (s.publishedBy request)).commitBatch request
        (s.publishedBy request) (s.planOf request)).2 := by
  obtain ⟨-, -, -, heq⟩ := placeLocked_eq_of_accepted haccepted hnew
  rw [heq] at haccepted ⊢
  revert haccepted
  unfold executeRequest
  dsimp only
  rw [← planOf]
  unfold publishedBy scheduledFor
  cases hchange : (s.planOf request).anyChange with
  | false =>
      simp only [Bool.false_and, Bool.false_eq_true, if_false, hwet]
      exact fun _ => rfl
  | true =>
      simp only [hwet, Bool.not_false, Bool.and_self, Bool.true_and, if_true,
        Bool.false_eq_true, if_false]
      split
      · intro haccepted
        cases haccepted
      · exact fun _ => rfl

theorem recommendsBelow_scheduledFor (h : s.RecommendsBelow)
    (published : ScheduleGeneration) :
    (s.scheduledFor request published).RecommendsBelow := by
  unfold scheduledFor
  split <;> exact h

theorem scheduledFor_counters (published : ScheduleGeneration) :
    (s.scheduledFor request published).nextRecommendation =
      s.nextRecommendation ∧
    lookup (s.scheduledFor request published).assignments =
      lookup s.assignments := by
  unfold scheduledFor
  split <;> exact ⟨rfl, rfl⟩

/-- An accepted placement of a report has its commit in the plan. -/
theorem announced_of_placeLocked (hkeyed : s.ledger.Keyed)
    (hwet : request.dryRun = false)
    (haccepted : (s.placeLocked request answer).2.accepted = true)
    (hnew : (s.placeLocked request answer).2.duplicate = false)
    (hmem : p ∈ (s.placeLocked request answer).2.placements)
    (hplaced : p.accepted = true) :
    ∃ pending ∈ (s.planOf request).commits, Announces p pending ∧
      (s.placeLocked request answer).2.placements[pending.index]? = some p ∧
      ∃ old, (s.planOf request).placements[pending.index]? = some old := by
  rw [placements_of_accepted hwet haccepted hnew] at hmem ⊢
  obtain ⟨i, hi⟩ := List.mem_iff_getElem?.mp hmem
  have hplan := @map_decision_foldl_commitPending request
    (s.publishedBy request) (s.planOf request).commits
    (s.scheduledFor request (s.publishedBy request),
      (s.planOf request).placements)
  obtain ⟨old, hold, hsame⟩ : ∃ old,
      (s.planOf request).placements[i]? = some old ∧
        decision old = decision p := by
    have hdecided := congrArg (fun list => list[i]?) hplan
    simp only [List.getElem?_map] at hdecided
    rw [← commitBatch, hi, Option.map_some] at hdecided
    exact Option.map_eq_some_iff.mp hdecided.symm
  have hacceptedOld : old.accepted = true :=
    (congrArg FlowPlacement.accepted hsame).trans hplaced
  obtain ⟨pending, hpending, hindex, hannounces⟩ :=
    paired_planOf hkeyed request i old hold hacceptedOld
  refine ⟨pending, hpending, ?_, by rw [hindex]; exact hi, old,
    by rw [hindex]; exact hold⟩
  -- committing changes none of the fields that were announced
  have hfield : ∀ {α : Type} (f : FlowPlacement → α),
      (∀ q, f (decision q) = f q) → f p = f old := by
    intro α f hf
    rw [← hf p, ← hsame, hf old]
  constructor
  · exact (hfield FlowPlacement.flow fun _ => rfl).trans hannounces.flow
  · exact (hfield FlowPlacement.flowGeneration fun _ => rfl).trans
      hannounces.generation
  · exact (hfield FlowPlacement.target fun _ => rfl).trans hannounces.target
  · exact (hfield FlowPlacement.incarnation fun _ => rfl).trans
      hannounces.incarnation
  · exact (hfield FlowPlacement.capabilityGeneration fun _ => rfl).trans
      hannounces.capability
  · exact (hfield FlowPlacement.retained fun _ => rfl).trans
      hannounces.retained

/-- The report of a real run: the placement was planned, and its commit has
landed. -/
theorem landed_of_placeLocked (hkeyed : s.ledger.Keyed)
    (hissued : s.RecommendsBelow)
    (hroom : s.nextRecommendation.toNat + (itemsOf request).length ≤
      counterLimit)
    (hwet : request.dryRun = false)
    (haccepted : (s.placeLocked request answer).2.accepted = true)
    (hnew : (s.placeLocked request answer).2.duplicate = false)
    (hmem : p ∈ (s.placeLocked request answer).2.placements)
    (hplaced : p.accepted = true) :
    ∃ pending, Announces p pending ∧
      Landed pending
        (s.scheduledFor request (s.publishedBy request),
          (s.planOf request).placements)
        (((s.scheduledFor request (s.publishedBy request)).commitBatch request
          (s.publishedBy request) (s.planOf request)))
        p.recommendation p.assignment := by
  obtain ⟨pending, hpending, hannounces, hi, old, hold⟩ :=
    announced_of_placeLocked hkeyed hwet haccepted hnew hmem hplaced
  have hindexed := indexed_planBatch s request (itemsOf request)
  obtain ⟨id, assigned, hlanded⟩ := @landed_foldl_commitPending request
    (s.publishedBy request) pending (s.planOf request).commits
    (s.scheduledFor request (s.publishedBy request),
      (s.planOf request).placements)
    (recommendsBelow_scheduledFor hissued _)
    (by
      have hfew := length_commits_planOf s request
      rw [(scheduledFor_counters _).1]
      omega)
    (nodup_flow_commits hkeyed request) hindexed.nodup hpending
  have hreport := hlanded.report
  rw [placements_of_accepted hwet haccepted hnew] at hi
  rw [← commitBatch, hi, hold, Option.map_some, Option.some.injEq] at hreport
  have hidentities : p.recommendation = id ∧ p.assignment = assigned := by
    rw [hreport]
    exact ⟨rfl, rfl⟩
  rw [hidentities.1, hidentities.2]
  exact ⟨pending, hannounces, hlanded⟩

/-! ## Faithful reports -/

/-- What the placement reports is what stands in the tables. -/
structure Faithful (after : Impl) (p : FlowPlacement) : Prop where
  assignment : ∃ a, lookup after.assignments p.flow = some a ∧
    p.flowGeneration = a.flowGeneration ∧ p.target = a.target ∧
    p.incarnation = a.incarnation ∧
    p.capabilityGeneration = a.capabilityGeneration ∧
    p.assignment = a.assignment
  recommendation : ∀ r,
    lookup after.recommendations p.recommendation = some r →
    p.flow = r.flow ∧ p.flowGeneration = r.flowGeneration ∧
      p.target = r.target ∧ p.incarnation = r.incarnation ∧
      p.capabilityGeneration = r.capabilityGeneration

/-- The flow was placed at the capability generation that its target has. -/
def capabilityKept (s : Impl) (flow : FlowId) : Bool :=
  (s.assignments[flow]?).all fun a =>
    (s.targets[a.target]?).all fun state =>
      a.capabilityGeneration = state.descriptor.capabilityGeneration

/-- What stands of a placement after its request. -/
theorem landed_after {pending : PendingCommit}
    (hwet : request.dryRun = false)
    (haccepted : (s.placeLocked request answer).2.accepted = true)
    (hnew : (s.placeLocked request answer).2.duplicate = false)
    (hannounces : Announces p pending)
    (hlanded : Landed pending
      (s.scheduledFor request (s.publishedBy request),
        (s.planOf request).placements)
      (((s.scheduledFor request (s.publishedBy request)).commitBatch request
        (s.publishedBy request) (s.planOf request)))
      p.recommendation p.assignment) :
    (p.retained = true →
      lookup (s.placeLocked request answer).1.assignments p.flow =
        lookup s.assignments p.flow ∧
      ∀ a, lookup s.assignments p.flow = some a →
        p.assignment = a.assignment) ∧
    (p.retained = false → ∃ a,
      lookup (s.placeLocked request answer).1.assignments p.flow = some a ∧
        Records a pending ∧ p.assignment = a.assignment) ∧
    ∀ r, lookup (s.placeLocked request answer).1.recommendations
        p.recommendation = some r → Recommends r pending := by
  have hassignments : lookup (s.placeLocked request answer).1.assignments =
      lookup ((s.scheduledFor request (s.publishedBy request)).commitBatch
        request (s.publishedBy request)
          (s.planOf request)).1.assignments := by
    rw [(executed_of_accepted hwet haccepted hnew).state]
    exact congrArg Ledger.assignment (ledger_recordRequest _ _ _ _)
  rw [hassignments, hannounces.flow, hannounces.retained]
  refine ⟨?_, hlanded.replaced, ?_⟩
  · intro hretained
    have hkept := hlanded.retained hretained
    rw [(scheduledFor_counters _).2] at hkept
    exact hkept
  · intro r hr
    rw [(executed_of_accepted hwet haccepted hnew).state] at hr
    obtain ⟨other, hother, hrecommends⟩ := hlanded.recommendation
    have hfound := recommendations_recordRequest hr
    rw [hother, Option.some.injEq] at hfound
    rw [← hfound]
    exact hrecommends

theorem faithful_iff (hformed : s.ledger.WellFormed)
    (hissued : s.RecommendsBelow)
    (hroom : s.nextRecommendation.toNat + (itemsOf request).length ≤
      counterLimit)
    (hwet : request.dryRun = false)
    (haccepted : (s.placeLocked request answer).2.accepted = true)
    (hnew : (s.placeLocked request answer).2.duplicate = false)
    (hmem : p ∈ (s.placeLocked request answer).2.placements)
    (hplaced : p.accepted = true) :
    Faithful (s.placeLocked request answer).1 p ↔
      (s.stays request p.flow = true → s.capabilityKept p.flow = true) := by
  have hkeyed := hformed.toKeyed
  have htargets := targets_of_keyed hkeyed
  obtain ⟨pending, hannounces, hlanded⟩ := landed_of_placeLocked hkeyed
    hissued hroom hwet haccepted hnew hmem hplaced
  obtain ⟨hretains, hreplaces, hrecommends⟩ :=
    landed_after hwet haccepted hnew hannounces hlanded
  obtain ⟨flow, chosen, hchosen⟩ := chosen_of_placeLocked hmem hnew hplaced
  rw [← hchosen.retained_eq htargets]
  have hrecommendation : ∀ r,
      lookup (s.placeLocked request answer).1.recommendations
        p.recommendation = some r →
      p.flow = r.flow ∧ p.flowGeneration = r.flowGeneration ∧
        p.target = r.target ∧ p.incarnation = r.incarnation ∧
        p.capabilityGeneration = r.capabilityGeneration := by
    intro r hr
    have hr := hrecommends r hr
    rw [hr.flow, hr.generation, hr.target, hr.incarnation, hr.capability]
    exact ⟨hannounces.flow, hannounces.generation, hannounces.target,
      hannounces.incarnation, hannounces.capability⟩
  cases hretained : p.retained with
  | false =>
      refine ⟨fun _ => nofun, fun _ => ⟨?_, hrecommendation⟩⟩
      obtain ⟨a, ha, hrecords, hnumber⟩ := hreplaces hretained
      refine ⟨a, ha, ?_⟩
      rw [hrecords.generation, hrecords.target, hrecords.incarnation,
        hrecords.capability]
      exact ⟨hannounces.generation, hannounces.target,
        hannounces.incarnation, hannounces.capability, hnumber⟩
  | true =>
      obtain ⟨hkept, hnumber⟩ := hretains hretained
      -- the flow keeps its assignment, and the report reads its target now
      have hsticky := hchosen.retained.symm.trans hretained
      have hflow : flow.flow = p.flow := hkeyed.flow _ _ hchosen.registered
      rw [hflow] at hsticky
      cases ha : lookup s.assignments p.flow with
      | none =>
          rw [ha] at hsticky
          cases hsticky
      | some a =>
          rw [ha] at hsticky
          simp only [stickyOn, Bool.and_eq_true, decide_eq_true_eq] at hsticky
          obtain ⟨⟨-, htarget⟩, hincarnation⟩ := hsticky
          obtain ⟨descriptor, hregistered, hgeneration⟩ :=
            (hformed.placed _ _ ha).1
          have hsame : descriptor = flow :=
            Option.some.inj (hregistered.symm.trans hchosen.registered)
          obtain ⟨state, own, hfound, hcandidate, hview⟩ :=
            hchosen.evaluated htargets
          have hcapability : p.capabilityGeneration =
              state.descriptor.capabilityGeneration := by
            rw [hchosen.capability, hview]
            exact (candidate_of_candidateOf hcandidate).describes.capability
          have hcondition : s.capabilityKept p.flow = true ↔
              a.capabilityGeneration = p.capabilityGeneration := by
            have hassigned : s.assignments[p.flow]? = some a := ha
            have hget : s.targets[a.target]? = some state := by
              rw [htarget, ← hchosen.target]
              exact hfound
            rw [capabilityKept, hassigned, Option.all_some, hget,
              Option.all_some, decide_eq_true_eq, hcapability]
          rw [hcondition]
          constructor
          · rintro ⟨⟨b, hb, -, -, -, hb', -⟩, -⟩ -
            rw [hkept, ha, Option.some.injEq] at hb
            rw [hb, hb']
          · intro hcurrent
            refine ⟨⟨a, ?_, ?_, ?_, ?_, ?_, ?_⟩, hrecommendation⟩
            · rw [hkept, ha]
            · rw [hchosen.generation, hgeneration, hsame]
            · rw [hchosen.target, htarget]
            · rw [hchosen.incarnation, hincarnation]
            · exact (hcurrent rfl).symm
            · exact hnumber a ha

/--
An accepted placement is what stands in the tables after its request, exactly
when its flow does not stay on a target whose capability generation has moved
on.
-/
theorem report_is_committed_iff (config : EngineConfig) (inputs : List Op)
    (h : engine.Admits (fun _ _ => True) (init config []) inputs)
    (request : PlacementRequest) (answer : Status) (p : FlowPlacement)
    (hroom : (engine.run (init config []) inputs).nextRecommendation.toNat +
      (itemsOf request).length ≤ counterLimit)
    (hwet : request.dryRun = false)
    (haccepted : ((engine.run (init config []) inputs).placeLocked request
      answer).2.accepted = true)
    (hnew : ((engine.run (init config []) inputs).placeLocked request
      answer).2.duplicate = false)
    (hmem : p ∈ ((engine.run (init config []) inputs).placeLocked request
      answer).2.placements)
    (hplaced : p.accepted = true) :
    Faithful ((engine.run (init config []) inputs).placeLocked request
        answer).1 p ↔
      ((engine.run (init config []) inputs).stays request p.flow = true →
        (engine.run (init config []) inputs).capabilityKept p.flow = true) :=
  faithful_iff (wellFormed_run h)
    (recommendsBelow_run (Disk.synced_start config []).keyed h) hroom hwet
    haccepted hnew hmem hplaced

/-! ## Runs -/

/-- A flow on a host. -/
def onFirstHost : List Op :=
  [.openEngine {} committed, .setPolicy (samplePolicy true) committed,
    .declareTarget (sampleHost 1) committed,
    .registerFlow (plainFlow 1 10) committed,
    .place (sampleRequest 1 1 [1]) committed]

/-- The host is declared again, with a newer capability generation. -/
def capabilityAdvanced : List Op :=
  onFirstHost ++
    [.declareTarget { sampleHost 1 with capabilityGeneration := ⟨2⟩ }
      committed]

/-- The flow is placed again on the host as it was. -/
theorem kept_flow_reported_faithfully :
    ∃ p ∈ ((engine.run (init sampleConfig []) onFirstHost).placeLocked
        (sampleRequest 2 1 [1]) committed).2.placements,
      p.retained = true ∧
        Faithful ((engine.run (init sampleConfig []) onFirstHost).placeLocked
          (sampleRequest 2 1 [1]) committed).1 p := by
  have hiff := report_is_committed_iff sampleConfig onFirstHost
    (by decide +kernel) (sampleRequest 2 1 [1]) committed
  generalize hbefore : engine.run (init sampleConfig []) onFirstHost = s
    at hiff ⊢
  have hall : (∃ p ∈
        (s.placeLocked (sampleRequest 2 1 [1]) committed).2.placements,
        p.accepted = true ∧ p.retained = true ∧ p.flow = ⟨1⟩) ∧
      s.nextRecommendation.toNat +
        (itemsOf (sampleRequest 2 1 [1])).length ≤ counterLimit ∧
      (s.placeLocked (sampleRequest 2 1 [1]) committed).2.accepted = true ∧
      (s.placeLocked (sampleRequest 2 1 [1]) committed).2.duplicate = false ∧
      s.capabilityKept ⟨1⟩ = true := by
    rw [← hbefore]
    decide +kernel
  obtain ⟨⟨p, hmem, hplaced, hretained, hflow⟩, hroom, haccepted, hnew, hkept⟩ :=
    hall
  refine ⟨p, hmem, hretained,
    (hiff p hroom rfl haccepted hnew hmem hplaced).mpr fun _ => ?_⟩
  rw [hflow]
  exact hkept

/-- The report names the new capability generation, the assignment the old
one. -/
theorem advanced_capability_misreported :
    engine.Admits (fun _ _ => True) (init sampleConfig [])
        capabilityAdvanced ∧
      ((engine.run (init sampleConfig []) capabilityAdvanced).placeLocked
        (sampleRequest 2 1 [1]) committed).2.accepted = true ∧
      ((engine.run (init sampleConfig []) capabilityAdvanced).placeLocked
        (sampleRequest 2 1 [1]) committed).2.duplicate = false ∧
      ∃ p ∈ ((engine.run (init sampleConfig [])
          capabilityAdvanced).placeLocked (sampleRequest 2 1 [1])
            committed).2.placements,
        p.accepted = true ∧
          ¬ Faithful ((engine.run (init sampleConfig [])
            capabilityAdvanced).placeLocked (sampleRequest 2 1 [1])
              committed).1 p := by
  refine ⟨by decide +kernel, ?_⟩
  generalize hbefore : engine.run (init sampleConfig []) capabilityAdvanced = s
  have hall : (s.placeLocked (sampleRequest 2 1 [1]) committed).2.accepted =
        true ∧
      (s.placeLocked (sampleRequest 2 1 [1]) committed).2.duplicate = false ∧
      (∃ p ∈ (s.placeLocked (sampleRequest 2 1 [1]) committed).2.placements,
        p.accepted = true ∧ p.flow = ⟨1⟩ ∧ p.capabilityGeneration = ⟨2⟩) ∧
      ((lookup (s.placeLocked (sampleRequest 2 1 [1])
        committed).1.assignments ⟨1⟩).any fun a =>
          a.capabilityGeneration = ⟨1⟩) = true := by
    rw [← hbefore]
    decide +kernel
  obtain ⟨haccepted, hnew, ⟨p, hmem, hplaced, hflow, hcapability⟩, hkept⟩ :=
    hall
  refine ⟨haccepted, hnew, p, hmem, hplaced, fun h => ?_⟩
  obtain ⟨a, ha, -, -, -, hsame, -⟩ := h.assignment
  rw [hflow] at ha
  rw [ha, Option.any_some, decide_eq_true_eq] at hkept
  rw [hkept, hcapability] at hsame
  revert hsame
  decide

end Impl

end FlowOffload

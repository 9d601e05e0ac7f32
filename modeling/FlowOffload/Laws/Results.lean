import FlowOffload.Laws.Rebalancing
import FlowOffload.Service.Dispatch

/-!
# Results fit their readers

The limits of the readers of results, reports and explanations, against what
the engine puts into them: at most so many steps, views and counts, and texts
that are short and made of bytes.
-/

namespace FlowOffload

open Foundation
open Std (ExtTreeMap)

/-! ## Texts -/

instance (maxBytes : Nat) (text : String) :
    Decidable (TextValid maxBytes text) :=
  @instDecidableAnd _ _ (Nat.decLe _ _) (List.decidableBAll _ text.toList)

theorem TextValid.append {m n : Nat} {a b : String} (ha : TextValid m a)
    (hb : TextValid n b) : TextValid (m + n) (a ++ b) := by
  rw [TextValid, String.toList_append, List.length_append]
  refine ⟨Nat.add_le_add ha.1 hb.1, fun char hchar => ?_⟩
  rcases List.mem_append.mp hchar with hchar | hchar
  · exact ha.2 char hchar
  · exact hb.2 char hchar

theorem TextValid.mono {m n : Nat} {text : String} (h : TextValid m text)
    (hle : m ≤ n) : TextValid n text :=
  ⟨h.1.trans hle, h.2⟩

theorem textValid_word (value : UInt64) :
    TextValid 20 (toString value.toNat) := by
  have hlt := value.toNat_lt
  have htext : (toString value.toNat).toList = Nat.toDigits 10 value.toNat :=
    Nat.toList_repr
  rw [TextValid, htext]
  constructor
  · rw [Nat.length_toDigits_le_iff (by omega) (by omega)]
    omega
  · intro char hchar
    have hdigit := Nat.isDigit_of_mem_toDigits (by omega) (by omega) hchar
    simp only [Char.isDigit, Bool.and_eq_true, decide_eq_true_eq] at hdigit
    have hle : char.val.toNat ≤ 57 := UInt32.le_iff_toNat_le.mp hdigit.2
    exact Nat.lt_of_le_of_lt hle (by omega)

/-! ## Steps -/

theorem stepsValid_nil : StepsValid [] :=
  ⟨Nat.zero_le _, fun _ hstep => absurd hstep List.not_mem_nil⟩

theorem StepsValid.addStep {steps : List ExplanationStep} {code : ReasonCode}
    {a b : UInt64} {detail : String} (h : StepsValid steps)
    (hdetail : TextValid kMaxStringBytes detail) :
    StepsValid (FlowOffload.addStep steps code a b detail) := by
  unfold FlowOffload.addStep
  by_cases hfull : steps.length ≥ kMaxExplanationSteps
  · rw [if_pos hfull]
    exact h
  · rw [if_neg hfull]
    refine ⟨?_, fun step hstep => ?_⟩
    · rw [List.length_append, List.length_singleton]
      omega
    · rcases List.mem_append.mp hstep with hstep | hstep
      · exact h.2 step hstep
      · rw [List.mem_singleton.mp hstep]
        exact hdetail

theorem stepsValid_one {code : ReasonCode} {a b : UInt64} {detail : String}
    (hdetail : TextValid kMaxStringBytes detail) :
    StepsValid (FlowOffload.addStep [] code a b detail) :=
  stepsValid_nil.addStep hdetail

namespace Impl

variable {s : Impl}

theorem stepsValid_refusedSteps (refused : List CandidateView) :
    StepsValid (refusedSteps refused) := by
  unfold refusedSteps
  generalize refused.take kMaxExplanationSteps = views
  suffices h : ∀ steps, StepsValid steps → StepsValid (views.foldl
      (fun steps (view : CandidateView) =>
        addStep steps view.reason view.target.value
          view.utilisationPpm.toUInt64 "target refused") steps) by
    exact h [] stepsValid_nil
  induction views with
  | nil => exact fun steps hsteps => hsteps
  | cons view views ih =>
      intro steps hsteps
      refine ih _ (hsteps.addStep ?_)
      decide

theorem stepsValid_acceptedSteps (chosen : CandidateView) :
    StepsValid (acceptedSteps chosen) := by
  have hselected : TextValid kMaxStringBytes
      ("selected target " ++ toString chosen.target.value.toNat ++ " rank " ++
        toString chosen.rank.toNat) := by
    have htarget : TextValid 16 "selected target " := by decide
    have hrank : TextValid 6 " rank " := by decide
    have hnumber := textValid_word chosen.rank.toUInt64
    rw [UInt32.toNat_toUInt64] at hnumber
    exact (((htarget.append (textValid_word _)).append hrank).append
      hnumber).mono (by decide)
  refine ((stepsValid_one hselected).addStep ?_).addStep ?_
  · cases chosen.loadEvidenceFresh
    · change TextValid kMaxStringBytes "no fresh load evidence"
      decide
    · change TextValid kMaxStringBytes "fresh load evidence"
      decide
  · decide

theorem length_refusalSummary (refusals : ExtTreeMap ReasonCode UInt64) :
    (refusalSummary refusals).length ≤ ReasonCode.reasonCodeCount := by
  have hnodup := nodup_fst_toList refusals
  have hsubset : refusals.toList.map Prod.fst ⊆ ReasonCode.reasonTable :=
    fun code _ => ReasonCode.mem_reasonTable code
  have hle := (hnodup.subperm hsubset).length_le
  rw [List.length_map] at hle
  rw [refusalSummary, List.length_map]
  exact hle

/-! ## Planning -/

/-- The placement that a decision reports. -/
def Decision.placement : Decision → FlowPlacement
  | .refused placement _ => placement
  | .accepted _ _ _ _ placement => placement

theorem codecValid_bare (placement : FlowPlacement)
    (h : placement.ranked = [] ∧ placement.refused = [] ∧
      placement.explanation.accepted = [] ∧
      placement.explanation.refused = []) : placement.CodecValid := by
  obtain ⟨hranked, hrefused, haccepted, hexplained⟩ := h
  refine ⟨?_, ?_, ?_, ?_⟩
  · rw [hranked]
    exact Nat.zero_le _
  · rw [hrefused]
    exact Nat.zero_le _
  · rw [haccepted]
    exact stepsValid_nil
  · rw [hexplained]
    exact stepsValid_nil

/-- A survey keeps no more candidates than a reader admits. -/
theorem codecValid_surveyed {survey : Survey} {limit : Nat}
    {placement : FlowPlacement} {explanation : Explanation}
    (hranked : survey.ranked.length ≤ kMaxRankedCandidates)
    (h : explanation.CodecValid) :
    FlowPlacement.CodecValid
      { placement with
        ranked := ((rankCandidates survey.ranked).take limit).map
          RankedCandidate.view
        refused := survey.refused.take kMaxExplanationSteps
        alternatives := UInt32.ofNat (rankCandidates survey.ranked).length
        explanation := explanation } := by
  have hlength : (rankCandidates survey.ranked).length =
      survey.ranked.length := by
    rw [rankCandidates, List.length_mapIdx]
    exact (canonicalSort_perm _ survey.ranked).length_eq
  refine ⟨?_, List.length_take_le _ _, h⟩
  rw [List.length_map, List.length_take, hlength]
  omega

theorem codecValid_decideFlow {request : PlacementRequest} {plan : BatchPlan}
    {placement : FlowPlacement} {flow : FlowDescriptor}
    (h : placement.explanation.accepted = []) :
    (s.decideFlow request plan placement flow).placement.CodecValid := by
  have hranked : (s.surveyTargets plan flow (s.assignments[flow.flow]?)
      request.evaluationInstant).ranked.length ≤ kMaxRankedCandidates := by
    rw [ranked_surveyTargets, List.length_take]
    exact Nat.min_le_left _ _
  have hsteps : StepsValid (refusedSteps (s.surveyTargets plan flow
      (s.assignments[flow.flow]?) request.evaluationInstant).refused) :=
    stepsValid_refusedSteps _
  have haccepted : StepsValid placement.explanation.accepted := by
    rw [h]
    exact stepsValid_nil
  unfold decideFlow
  dsimp only
  cases chooseCandidate s.policy _ with
  | some chosen => exact codecValid_surveyed hranked ⟨haccepted, hsteps⟩
  | none =>
      refine codecValid_surveyed hranked ⟨haccepted, ?_⟩
      refine iteInduction (fun _ => hsteps.addStep ?_) fun _ => hsteps
      decide

theorem codecValid_decideItem (request : PlacementRequest) (plan : BatchPlan)
    (item : PlacementItem) :
    (s.decideItem request plan item).placement.CodecValid := by
  unfold decideItem
  cases s.flows[item.flow]? with
  | none => exact codecValid_bare _ ⟨rfl, rfl, rfl, rfl⟩
  | some flow =>
      dsimp only
      split
      · exact codecValid_bare _ ⟨rfl, rfl, rfl, rfl⟩
      · cases s.conflictingHolder flow with
        | none => exact codecValid_decideFlow rfl
        | some holder =>
            refine ⟨Nat.zero_le _, Nat.zero_le _, stepsValid_nil, ?_⟩
            refine stepsValid_one ?_
            decide

/-- What a reader admits of a list of placements, up to its length. -/
def AllReadable (placements : List FlowPlacement) : Prop :=
  ∀ placement ∈ placements, placement.CodecValid

theorem AllReadable.append {placements : List FlowPlacement}
    {placement : FlowPlacement} (h : AllReadable placements)
    (hplacement : placement.CodecValid) :
    AllReadable (placements ++ [placement]) := by
  intro other hother
  rcases List.mem_append.mp hother with hmem | hmem
  · exact h other hmem
  · rw [List.mem_singleton.mp hmem]
    exact hplacement

/-- Planning one item reports one placement more, which can be read. -/
theorem allReadable_planItem {request : PlacementRequest} {plan : BatchPlan}
    (h : AllReadable plan.placements) (item : PlacementItem) :
    AllReadable (s.planItem request plan item).placements ∧
      (s.planItem request plan item).placements.length =
        plan.placements.length + 1 := by
  have hdecided := codecValid_decideItem (s := s) request plan item
  unfold planItem
  cases hdecide : s.decideItem request plan item with
  | refused placement reason =>
      rw [hdecide] at hdecided
      refine ⟨h.append ⟨hdecided.ranked, hdecided.refused,
        hdecided.explanation⟩, ?_⟩
      exact List.length_append
  | accepted flow current chosen fallback placement =>
      rw [hdecide] at hdecided
      refine ⟨h.append ⟨hdecided.ranked, hdecided.refused, ?_⟩, ?_⟩
      · exact ⟨stepsValid_acceptedSteps chosen, hdecided.explanation.refused⟩
      · exact List.length_append

theorem allReadable_foldl_planItem {request : PlacementRequest}
    (items : List PlacementItem) {plan : BatchPlan}
    (h : AllReadable plan.placements) :
    AllReadable (items.foldl (s.planItem request) plan).placements ∧
      (items.foldl (s.planItem request) plan).placements.length =
        plan.placements.length + items.length := by
  induction items generalizing plan with
  | nil => exact ⟨h, rfl⟩
  | cons item items ih =>
      obtain ⟨hone, hcount⟩ :=
        @allReadable_planItem s request plan h item
      obtain ⟨hall, hlength⟩ := ih hone
      refine ⟨hall, ?_⟩
      rw [List.foldl_cons, hlength, hcount, List.length_cons]
      omega

/-- Committing adds identities to the placements. -/
theorem allReadable_commitBatch {request : PlacementRequest}
    {published : ScheduleGeneration} {plan : BatchPlan}
    (h : AllReadable plan.placements) :
    AllReadable (s.commitBatch request published plan).2 ∧
      (s.commitBatch request published plan).2.length =
        plan.placements.length := by
  constructor
  · intro placement hmem
    obtain ⟨old, hold, heq⟩ := mem_foldl_commitPending hmem
    have hvalid := h old hold
    rw [heq]
    exact ⟨hvalid.ranked, hvalid.refused, hvalid.explanation⟩
  · unfold commitBatch
    suffices hlength : ∀ (commits : List PendingCommit)
        (state : Impl × List FlowPlacement),
        (commits.foldl (commitPending request published) state).2.length =
          state.2.length by
      exact hlength _ _
    intro commits
    induction commits with
    | nil => exact fun _ => rfl
    | cons pending commits ih =>
        intro state
        rw [List.foldl_cons, ih, commitPending, List.length_modify]

/-! ## Results -/

theorem codecValid_executeRequest (request : PlacementRequest)
    (items : List PlacementItem) (hitems : items.length ≤ kMaxFlows)
    {result : PlacementResult} (hresult : result.refusalSummary = [])
    (answer : Status) :
    (s.executeRequest request items result answer).2.CodecValid := by
  obtain ⟨hplan, hlength⟩ := @allReadable_foldl_planItem s request items
    s.initialPlan (fun _ hmem => absurd hmem List.not_mem_nil)
  change AllReadable (s.planBatch request items).placements at hplan
  change (s.planBatch request items).placements.length = _ at hlength
  rw [initialPlan, List.length_nil, Nat.zero_add] at hlength
  have hsummary := length_refusalSummary
    (s.planBatch request items).batchRefusals
  unfold executeRequest
  dsimp only
  generalize ((s.planBatch request items).anyChange && !request.dryRun) =
    changes
  generalize (if changes then _ else _) = published
  split
  · refine ⟨⟨?_, hplan⟩, ?_⟩
    · exact hlength.trans_le hitems
    · rw [refuseRequest, hresult]
      exact Nat.zero_le _
  · split
    · exact ⟨⟨hlength.trans_le hitems, hplan⟩, hsummary⟩
    · generalize (if changes then _ else _) = scheduled
      obtain ⟨hcommitted, hcount⟩ :=
        @allReadable_commitBatch scheduled request published _ hplan
      refine ⟨⟨?_, hcommitted⟩, hsummary⟩
      exact (hcount.trans hlength).trans_le hitems

theorem codecValid_replayRequest (request : PlacementRequest)
    (hitems : request.items.length ≤ kMaxFlows) (record : RequestRecord)
    {result : PlacementResult} (hresult : result.refusalSummary = []) :
    (s.replayRequest request record result).2.CodecValid := by
  unfold replayRequest
  refine ⟨⟨?_, fun placement hmem => ?_⟩, ?_⟩
  · exact (List.length_filterMap_le _ _).trans hitems
  · obtain ⟨item, -, hplacement⟩ := List.mem_filterMap.mp hmem
    obtain ⟨flow, -, rfl⟩ := Option.map_eq_some_iff.mp hplacement
    apply codecValid_bare
    unfold replayedPlacement
    cases s.assignments[item.flow]? <;> exact ⟨rfl, rfl, rfl, rfl⟩
  · change result.refusalSummary.length ≤ _
    rw [hresult]
    exact Nat.zero_le _

/-- Every result of a request that a reader admits can be read. -/
theorem codecValid_placeLocked (s : Impl) {request : PlacementRequest}
    (hitems : request.items.length ≤ kMaxFlows) (answer : Status) :
    (s.placeLocked request answer).2.CodecValid := by
  have hempty : ∀ status : ReasonCode, PlacementResult.CodecValid
      { request := request.request, dryRun := request.dryRun,
        status := status } := by
    intro status
    refine ⟨⟨Nat.zero_le _, fun _ hmem => ?_⟩, Nat.zero_le _⟩
    exact absurd hmem List.not_mem_nil
  have hunique : (uniqueItems (sortItems request.items)).length ≤ kMaxFlows := by
    refine (uniqueItems_sublist _).length_le.trans ?_
    rw [sortItems, (canonicalSort_perm _ request.items).length_eq]
    exact hitems
  unfold placeLocked
  dsimp only
  split
  · exact hempty _
  · split
    · exact hempty _
    · split
      · split
        · exact hempty _
        · exact codecValid_replayRequest request hitems _ rfl
      · split
        · exact hempty _
        · exact codecValid_executeRequest request _ hunique rfl answer

/-- A report lists no more intents than the engine is configured for. -/
theorem codecValid_rebalanceLocked (s : Impl) (request : RebalanceRequest)
    (answer : Status)
    (hlimit : s.config.maxRebalanceMigrations ≤ kMaxRebalanceMigrations) :
    (s.rebalanceLocked request answer).2.CodecValid := by
  have hempty : ∀ status : ReasonCode, RebalanceReport.CodecValid
      { request := request.request, dryRun := request.dryRun,
        status := status } :=
    fun status => ⟨Nat.zero_le _, Nat.zero_le _, stepsValid_nil,
      stepsValid_nil⟩
  have hreport : ∀ plan, (s.rebalanceReport request plan).CodecValid := by
    intro plan
    refine ⟨?_, length_refusalSummary _, stepsValid_one ?_, stepsValid_one ?_⟩
    · have hle : (s.rebalanceReport request plan).intents.length ≤
          s.rebalanceLimit request := by
        rw [rebalanceReport, List.length_map, List.length_take]
        exact Nat.min_le_left _ _
      refine hle.trans ?_
      unfold rebalanceLimit
      dsimp only
      omega
    · decide
    · decide
  unfold rebalanceLocked
  dsimp only
  split
  · exact hempty _
  · split
    · exact hempty _
    · split
      · exact hempty _
      · split
        · exact hreport _
        · exact hreport _

/-! ## Explanations on record -/

theorem codecValid_explainTarget (s : Impl) (assignment : Assignment)
    {explanation : Explanation} (h : explanation.CodecValid) :
    (s.explainTarget assignment explanation).CodecValid := by
  unfold explainTarget
  cases s.targets[assignment.target]? with
  | none =>
      refine ⟨h.accepted, h.refused.addStep ?_⟩
      decide
  | some target =>
      dsimp only
      have hknown : StepsValid (addStep explanation.accepted
          .acceptedTargetRegistered
          target.descriptor.capabilityGeneration.value
          (if target.declared then 1 else 0)
          "declared capability generation and declaration state") := by
        refine h.accepted.addStep ?_
        decide
      refine iteInduction (fun _ => ⟨hknown, h.refused.addStep ?_⟩) fun _ =>
        ⟨hknown, h.refused⟩
      decide

theorem codecValid_explainEffect (assignment : Assignment)
    {explanation : Explanation} (h : explanation.CodecValid) :
    (explainEffect assignment explanation).CodecValid := by
  have hstated : StepsValid (addStep explanation.accepted
      .acceptedAppliedEffectRecorded
      (EnumTraits.wire assignment.effect).toUInt64 0
      ("effect state " ++ Named.name assignment.effect)) := by
    refine h.accepted.addStep ?_
    cases assignment.effect <;> decide
  unfold explainEffect
  dsimp only
  refine iteInduction (fun _ => ⟨hstated, h.refused.addStep ?_⟩) fun _ =>
    ⟨hstated, h.refused⟩
  decide

theorem codecValid_explainFlow (s : Impl) (flow : FlowId) {out : Explanation}
    (h : out.CodecValid) : (s.explainFlow flow out).2.CodecValid := by
  unfold explainFlow
  cases s.flows[flow]? with
  | none => exact h
  | some descriptor =>
      dsimp only
      cases s.assignments[flow]? with
      | none =>
          refine ⟨stepsValid_nil, stepsValid_one ?_⟩
          decide
      | some assignment =>
          refine codecValid_explainEffect _ (codecValid_explainTarget s _ ?_)
          refine ⟨(stepsValid_one ?_).addStep ?_, stepsValid_nil⟩
          · decide
          · decide

end Impl

end FlowOffload

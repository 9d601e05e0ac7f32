import FlowOffload.Engine.Decided
import FlowOffload.Laws.Exclusive

/-!
# Dry runs

A dry run and the real run share one plan: they report the same decisions, and
a dry run leaves everything but counters as it was.
-/

namespace FlowOffload

open Foundation
open Std (ExtTreeMap)

def PlacementRequest.asDryRun (request : PlacementRequest) :
    PlacementRequest :=
  { request with dryRun := true }

def PlacementRequest.asRealRun (request : PlacementRequest) :
    PlacementRequest :=
  { request with dryRun := false }

namespace Impl

variable {s : Impl} {request : PlacementRequest} {answer : Status}

/-! ## The shared plan -/

theorem decideItem_asDryRun (plan : BatchPlan) (item : PlacementItem) :
    s.decideItem request.asDryRun plan item =
      s.decideItem request.asRealRun plan item := rfl

theorem planOf_asDryRun :
    s.planOf request.asDryRun = s.planOf request.asRealRun := by
  have hstep : s.planItem request.asDryRun = s.planItem request.asRealRun := by
    funext plan item
    unfold planItem
    rw [decideItem_asDryRun]
  unfold planOf planBatch
  rw [hstep]
  rfl

theorem requestRefusal_asDryRun
    (h : (placementRequestDigest request.asDryRun).isZero =
      (placementRequestDigest request.asRealRun).isZero) :
    s.requestRefusal request.asDryRun = s.requestRefusal request.asRealRun := by
  unfold requestRefusal
  rw [h]
  rfl

/-! ## What is reported -/

/-- Planning reports the refusals; only a generation that has run out is
refused after it. -/
theorem refusalSummary_executeRequest (result : PlacementResult)
    (hroom : s.scheduleGeneration.value.toNat + 1 < 2 ^ 64) :
    (s.executeRequest request (itemsOf request) result
        answer).2.refusalSummary =
      refusalSummary (s.planOf request).batchRefusals := by
  unfold executeRequest
  dsimp only
  rw [← planOf]
  have hvalid : (⟨s.scheduleGeneration.value + 1⟩ :
      ScheduleGeneration).isValid = true := by
    simp only [TypedId.isValid, bne_iff_ne, ne_eq, ← UInt64.toNat_inj,
      UInt64.toNat_add]
    have hone : (1 : UInt64).toNat = 1 := rfl
    have hzero : (0 : UInt64).toNat = 0 := rfl
    omega
  cases (s.planOf request).anyChange && !request.dryRun with
  | false =>
      simp only [Bool.false_and, Bool.false_eq_true, if_false]
      split <;> rfl
  | true =>
      simp only [if_true, hvalid, Bool.not_true, Bool.and_false,
        Bool.false_eq_true, if_false]
      split <;> rfl

theorem counted_asDryRun (s : Impl) (request : PlacementRequest)
    (answer : Status) :
    s.Counted (s.placeLocked request.asDryRun answer).1 := by
  rcases placeLocked_cases s request.asDryRun answer with
    hcounted | ⟨hexecutes, -⟩
  · exact hcounted
  · simp [executes, PlacementRequest.asDryRun] at hexecutes

/-- A request that is not recorded and not planned reports nothing. -/
theorem placeLocked_of_not_plans
    (hfresh : lookup s.requests request.request = none)
    (h : s.plans request = false) :
    (s.placeLocked request answer).2.placements = [] ∧
      (s.placeLocked request answer).2.refusalSummary = [] := by
  have hnew : s.requests[request.request]? = none := hfresh
  unfold placeLocked
  dsimp only
  rw [hnew]
  cases hopen : s.isOpen with
  | false => exact ⟨rfl, rfl⟩
  | true =>
      cases hchecked : s.requestRefusal request with
      | some code => exact ⟨rfl, rfl⟩
      | none =>
          have hconflict : conflictingItems (sortItems request.items) =
              true := by
            simpa [plans, hopen, hchecked, hnew] using h
          simp only [hconflict, Bool.not_true, Bool.false_eq_true, if_false,
            if_true]
          exact ⟨rfl, rfl⟩

theorem plans_asDryRun
    (h : (placementRequestDigest request.asDryRun).isZero =
      (placementRequestDigest request.asRealRun).isZero) :
    s.plans request.asDryRun = s.plans request.asRealRun := by
  unfold plans
  rw [requestRefusal_asDryRun h]
  rfl

/--
The dry run of a request reports, item for item, what its real run decides,
and it changes nothing but counters.  The code takes an all-zero digest for a
request that could not be encoded.
-/
theorem dry_run_predicts_real_run (s : Impl) (request : PlacementRequest)
    (answer later : Status)
    (hroom : s.scheduleGeneration.value.toNat + 1 < 2 ^ 64)
    (hfresh : lookup s.requests request.request = none)
    (hdigests : (placementRequestDigest request.asDryRun).isZero =
      (placementRequestDigest request.asRealRun).isZero) :
    (s.placeLocked request.asDryRun answer).2.placements.map decision =
        (s.placeLocked request.asRealRun later).2.placements.map decision ∧
      (s.placeLocked request.asDryRun answer).2.refusalSummary =
        (s.placeLocked request.asRealRun later).2.refusalSummary ∧
      s.Counted (s.placeLocked request.asDryRun answer).1 := by
  have hplans := @plans_asDryRun s request hdigests
  rw [← and_assoc]
  refine ⟨?_, counted_asDryRun s request answer⟩
  cases hplanned : s.plans request.asRealRun with
  | false =>
      have hdry := @placeLocked_of_not_plans s request.asDryRun answer hfresh
        (hplans.trans hplanned)
      have hreal := @placeLocked_of_not_plans s request.asRealRun later hfresh
        hplanned
      rw [hdry.1, hdry.2, hreal.1, hreal.2]
      exact ⟨rfl, rfl⟩
  | true =>
      rw [placeLocked_of_plans (hplans.trans hplanned),
        placeLocked_of_plans hplanned, map_decision_executeRequest,
        map_decision_executeRequest, refusalSummary_executeRequest _ hroom,
        refusalSummary_executeRequest _ hroom, planOf_asDryRun]
      exact ⟨rfl, rfl⟩

/-- One batch whose two flows share a state, rehearsed and then run. -/
theorem twins_are_rehearsed :
    ((engine.run (init {} []) twinSetup).placeLocked
        (sampleRequest 1 1 [1, 2]).asDryRun committed).2.placements.map
          decision =
      ((engine.run (init {} []) twinSetup).placeLocked
        (sampleRequest 1 1 [1, 2]).asRealRun committed).2.placements.map
          decision :=
  (dry_run_predicts_real_run (engine.run (init {} []) twinSetup)
    (sampleRequest 1 1 [1, 2]) committed committed (by decide +kernel)
    (by decide +kernel) (by decide +kernel)).1

end Impl

end FlowOffload

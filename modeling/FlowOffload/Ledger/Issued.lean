import FlowOffload.Engine.Authority
import FlowOffload.Ledger.Numbers

/-!
# Recommendations that are issued

The recommendations with their counter are a register too: a batch gives out
one identity for each decision it commits, and a recovery starts anew with no
recommendation at all.
-/

namespace FlowOffload

open Foundation
open Std (ExtTreeMap)

namespace Impl

variable {s : Impl} {op : Op} {request : PlacementRequest}
  {published : ScheduleGeneration}

def recommendationNumber (recommendation : RecommendationId)
    (_ : Recommendation) : Nat :=
  recommendation.value.toNat

def recommendationRegister (s : Impl) : Register RecommendationId :=
  .of recommendationNumber s.recommendations s.nextRecommendation.toNat

/-! ## The commit loop -/

theorem nextRecommendation_commitPending (state : Impl × List FlowPlacement)
    (pending : PendingCommit) :
    (commitPending request published state pending).1.nextRecommendation =
      saturatingIncrement state.1.nextRecommendation := by
  unfold commitPending commitAssignment holdState
  dsimp only
  split
  · rfl
  · split
    · split <;> rfl
    · rfl

theorem gives_recommendations_commitPending
    (state : Impl × List FlowPlacement) (pending : PendingCommit) :
    Register.Gives counterLimit state.1.recommendationRegister
      (commitPending request published state
        pending).1.recommendationRegister := by
  unfold recommendationRegister
  rw [recommendations_commitPending, nextRecommendation_commitPending,
    toNat_increment_eq_succ]
  exact Register.gives_insertIfNew rfl

theorem gives_recommendations_foldl (commits : List PendingCommit)
    (state : Impl × List FlowPlacement) :
    Register.Gives counterLimit state.1.recommendationRegister
      (commits.foldl (commitPending request published)
        state).1.recommendationRegister := by
  induction commits generalizing state with
  | nil => exact .refl _
  | cons pending commits ih =>
      exact (gives_recommendations_commitPending state pending).trans (ih _)

/-! ## Operations -/

theorem gives_recommendations_place (s : Impl) (request : PlacementRequest)
    (answer : Status) :
    Register.Gives counterLimit s.recommendationRegister
      (s.placeLocked request answer).1.recommendationRegister := by
  rcases placeLocked_cases s request answer with
    ⟨counters, refusalCounts, heq⟩ | ⟨-, published, result, heq⟩
  · rw [heq]
    exact .refl _
  · have hscheduled : (s.scheduledFor request
        published).recommendationRegister = s.recommendationRegister := by
      unfold scheduledFor
      split <;> rfl
    rw [heq, ← hscheduled]
    refine (@gives_recommendations_foldl request published
      (s.planOf request).commits
      (s.scheduledFor request published, (s.planOf request).placements)).trans
        ?_
    obtain ⟨requests, counters, submitted, hrecorded⟩ := recordRequest_eq
      ((s.scheduledFor request published).commitBatch request published
        (s.planOf request)).1 request result answer
    rw [hrecorded]
    refine Register.gives_sub _ fun k v hv => ⟨v, ?_, rfl⟩
    exact lookup_of_evictOldest hv

theorem gives_recommendations_authorize (s : Impl)
    (recommendation : RecommendationId) (instant : Timestamp) :
    Register.Gives counterLimit s.recommendationRegister
      (s.authorize recommendation instant).1.recommendationRegister := by
  have hnext : (s.authorize recommendation instant).1.nextRecommendation =
      s.nextRecommendation := by
    unfold authorize
    repeat' split
    all_goals rfl
  unfold recommendationRegister
  rw [hnext]
  exact Register.gives_sub _ fun k v hv =>
    ⟨v, recommendations_authorize hv, rfl⟩

theorem gives_recommendations_revoke (s : Impl)
    (authorization : AuthorizationId) :
    Register.Gives counterLimit s.recommendationRegister
      (s.revokeAuthorization authorization).1.recommendationRegister := by
  have hnext : (s.revokeAuthorization authorization).1.nextRecommendation =
      s.nextRecommendation := by
    unfold revokeAuthorization
    repeat' split
    all_goals rfl
  unfold recommendationRegister
  rw [hnext, recommendations_revokeAuthorization]
  exact .refl _

theorem gives_recommendations_step (hkeyed : s.ledger.Keyed)
    (hanew : s.startsAnew op = false) :
    Register.Gives counterLimit s.recommendationRegister
      (s.step op).recommendationRegister := by
  cases op with
  | place request answer => exact gives_recommendations_place s request answer
  | authorize recommendation instant =>
      exact gives_recommendations_authorize s recommendation instant
  | revokeAuthorization authorization =>
      exact gives_recommendations_revoke s authorization
  | _ =>
      obtain ⟨hsame, -, hnext⟩ := authority_step hkeyed.attempt hanew rfl
      unfold recommendationRegister
      rw [hsame, hnext]
      exact .refl _

/-! ## Runs -/

/-- Every stored recommendation was issued before, as long as the counter has
not stopped. -/
def RecommendsBelow (s : Impl) : Prop :=
  s.nextRecommendation.toNat < counterLimit → s.recommendationRegister.Below

theorem recommendsBelow_of_empty (h : ∀ k, lookup s.recommendations k = none) :
    s.RecommendsBelow := by
  intro _ k n hk
  obtain ⟨r, hr, -⟩ := Option.map_eq_some_iff.mp hk
  rw [h k] at hr
  cases hr

theorem recommendsBelow_step (hkeyed : s.ledger.Keyed)
    (h : s.RecommendsBelow) (op : Op) : (s.step op).RecommendsBelow := by
  cases hanew : s.startsAnew op with
  | false =>
      intro hlimit
      have hgives := gives_recommendations_step hkeyed hanew
      exact hgives.keeps (h (Nat.lt_of_le_of_lt hgives.le hlimit)) hlimit
  | true =>
      cases op with
      | restart config =>
          refine recommendsBelow_of_empty fun k => ?_
          change lookup ∅ k = none
          simp
      | openEngine opening answer =>
          have hclosed : s.isOpen = false := by simpa [startsAnew] using hanew
          rcases enters_openEngine opening answer hclosed with
            hsame | hfound
          · obtain ⟨_, _, _, _, _, _, _, _, heq⟩ := hsame
            rw [step, heq]
            exact h
          · obtain ⟨_, _, _, _, _, _, _, _, heq⟩ := hfound
            rw [step, heq]
            change (s.found opening).1.RecommendsBelow
            unfold found
            split
            · exact h
            · split
              · exact h
              · refine recommendsBelow_of_empty fun k => ?_
                change lookup ∅ k = none
                simp
      | _ => cases hanew

/-- In every reachable state the recommendations were issued before. -/
theorem recommendsBelow_run {guard : Impl → Op → Prop} {config : EngineConfig}
    {inputs : List Op}
    (hkeyed : (init config []).ledger.Keyed)
    (h : engine.Admits guard (init config []) inputs) :
    (engine.run (init config []) inputs).RecommendsBelow := by
  have hboth := h.invariant
    (P := fun s => s.ledger.Keyed ∧ s.RecommendsBelow)
    (fun _ op hs _ _ => ⟨keyed_step hs.1 op, recommendsBelow_step hs.1 hs.2 op⟩)
    ⟨hkeyed, recommendsBelow_of_empty fun k => by
      change lookup ∅ k = none
      simp⟩
  exact hboth.2

end Impl

end FlowOffload

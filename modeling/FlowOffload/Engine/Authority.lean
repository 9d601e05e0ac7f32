import FlowOffload.Engine.History
import FlowOffload.Engine.Reports

/-!
# Where authority comes from

Whatever stands in the tables of recommendations and authorizations was handed
to a caller: a recommendation in the report of a placement, an authorization
as the answer of `authorize`.
-/

namespace FlowOffload

open Foundation
open Std (ExtTreeMap)

/-- The operation places, authorizes or revokes. -/
def Op.handlesAuthority : Op → Bool
  | .place _ _ | .authorize _ _ | .revokeAuthorization _ => true
  | _ => false

namespace Impl

variable {s : Impl}

/-- The recommendations that an operation hands out. -/
def recommended (s : Impl) : Op → List RecommendationId
  | .place request answer =>
      (s.placeLocked request answer).2.placements.map
        FlowPlacement.recommendation
  | _ => []

/-- The authorization that an operation hands out. -/
def granted (s : Impl) : Op → List AuthorizationId
  | .authorize recommendation instant =>
      if (s.authorize recommendation instant).2.1.ok then
        [(s.authorize recommendation instant).2.2.id]
      else []
  | _ => []

/-! ## The report of a batch -/

/-- Every commit has a placement of its own in the report. -/
structure Indexed (plan : BatchPlan) : Prop where
  below : ∀ pending ∈ plan.commits, pending.index < plan.placements.length
  nodup : (plan.commits.map PendingCommit.index).Nodup

theorem indexed_planItem {request : PlacementRequest} {plan : BatchPlan}
    (h : Indexed plan) (item : PlacementItem) :
    Indexed (s.planItem request plan item) := by
  have hbelow : ∀ pending ∈ plan.commits,
      pending.index < plan.placements.length + 1 :=
    fun pending hpending => Nat.lt_succ_of_lt (h.below pending hpending)
  unfold planItem
  cases s.decideItem request plan item with
  | refused placement reason =>
      refine ⟨?_, h.nodup⟩
      simpa [BatchPlan.refuse] using hbelow
  | accepted flow current chosen fallback placement =>
      constructor
      · intro pending hpending
        simp only [BatchPlan.accept, List.length_append, List.length_singleton,
          List.mem_append, List.mem_singleton] at hpending ⊢
        rcases hpending with hpending | rfl
        · exact hbelow pending hpending
        · exact Nat.lt_succ_self _
      · simp only [BatchPlan.accept, List.map_append, List.map_cons,
          List.map_nil]
        rw [List.nodup_append]
        refine ⟨h.nodup, List.nodup_singleton _, ?_⟩
        intro i hi j hj heq
        obtain ⟨pending, hpending, rfl⟩ := List.mem_map.mp hi
        rw [List.mem_singleton] at hj
        have hlt := h.below pending hpending
        omega

theorem indexed_foldl_planItem {request : PlacementRequest}
    (items : List PlacementItem) {plan : BatchPlan} (h : Indexed plan) :
    Indexed (items.foldl (s.planItem request) plan) := by
  induction items generalizing plan with
  | nil => exact h
  | cons item items ih => exact ih (indexed_planItem h item)

theorem indexed_planBatch (s : Impl) (request : PlacementRequest)
    (items : List PlacementItem) : Indexed (s.planBatch request items) :=
  indexed_foldl_planItem items ⟨by simp [initialPlan], by simp [initialPlan]⟩

section Commits

variable {request : PlacementRequest} {published : ScheduleGeneration}

theorem getElem?_foldl_commitPending (request : PlacementRequest)
    (published : ScheduleGeneration) {commits : List PendingCommit} {i : Nat}
    (h : i ∉ commits.map PendingCommit.index)
    (state : Impl × List FlowPlacement) :
    (commits.foldl (commitPending request published) state).2[i]? =
      state.2[i]? := by
  induction commits generalizing state with
  | nil => rfl
  | cons pending commits ih =>
      simp only [List.map_cons, List.mem_cons, not_or] at h
      rw [List.foldl_cons, ih h.2]
      simp [commitPending, Ne.symm h.1]

theorem recommendations_commitPending (state : Impl × List FlowPlacement)
    (pending : PendingCommit) :
    (commitPending request published state pending).1.recommendations =
      state.1.recommendations.insertIfNew ⟨state.1.nextRecommendation⟩
        (state.1.pendingRecommendation request published pending) := by
  unfold commitPending commitAssignment holdState
  dsimp only
  split
  · rfl
  · split
    · split <;> rfl
    · rfl

/-- A recommendation of the commit loop is written into the report. -/
theorem recommended_foldl_commitPending {commits : List PendingCommit}
    (state : Impl × List FlowPlacement)
    (hbelow : ∀ pending ∈ commits, pending.index < state.2.length)
    (hnodup : (commits.map PendingCommit.index).Nodup)
    {k : RecommendationId} {r : Recommendation}
    (h : lookup (commits.foldl (commitPending request published)
      state).1.recommendations k = some r) :
    (∃ old, lookup state.1.recommendations k = some old) ∨
      ∃ placement ∈ (commits.foldl (commitPending request published) state).2,
        placement.recommendation = k := by
  induction commits generalizing state with
  | nil => exact Or.inl ⟨r, h⟩
  | cons pending commits ih =>
      obtain ⟨hfresh, hrest⟩ := List.nodup_cons.mp hnodup
      have hlength : (commitPending request published state pending).2.length =
          state.2.length := by
        simp [commitPending]
      rcases ih _ (fun other hother => by
        rw [hlength]
        exact hbelow other (List.mem_cons_of_mem _ hother)) hrest h with
        ⟨old, hold⟩ | hreported
      · rw [recommendations_commitPending] at hold
        by_cases hk : k = ⟨state.1.nextRecommendation⟩
        · -- the placement keeps the identity that is written into it now
          refine Or.inr ?_
          have hindex := hbelow pending List.mem_cons_self
          have hkept := getElem?_foldl_commitPending request published hfresh
            (commitPending request published state pending)
          have hwritten : (commitPending request published state
              pending).2[pending.index]? =
                (state.2[pending.index]?).map fun placement =>
                  { placement with
                    recommendation := ⟨state.1.nextRecommendation⟩
                    assignment := ({ state.1 with
                      nextRecommendation := saturatingIncrement
                        state.1.nextRecommendation }.commitAssignment request
                          published pending).2 } := by
            simp [commitPending, pendingRecommendation]
          rw [hwritten, List.getElem?_eq_getElem hindex, Option.map_some]
            at hkept
          exact ⟨_, List.mem_of_getElem? hkept, hk.symm⟩
        · exact Or.inl ⟨old, lookup_of_insertIfNew hk hold⟩
      · exact Or.inr hreported

end Commits

/-! ## History -/

theorem recordRequest_eq (s : Impl) (request : PlacementRequest)
    (result : PlacementResult) (answer : Status) :
    ∃ requests counters submitted, s.recordRequest request result answer =
      { Impl.evictHistoryLocked { s with requests := requests } with
        counters := counters
        submitted := submitted } := by
  unfold recordRequest
  dsimp only
  obtain ⟨counters, submitted, heq⟩ := persistLocked_fst
    (Impl.evictHistoryLocked { s with requests := _ }) answer
  exact ⟨_, counters, submitted, heq⟩

theorem recommendations_recordRequest {request : PlacementRequest}
    {result : PlacementResult} {answer : Status} {k : RecommendationId}
    {r : Recommendation}
    (h : lookup (s.recordRequest request result answer).recommendations k =
      some r) : lookup s.recommendations k = some r := by
  obtain ⟨requests, counters, submitted, heq⟩ :=
    recordRequest_eq s request result answer
  rw [heq] at h
  exact lookup_of_evictOldest h

theorem authorizations_recordRequest {request : PlacementRequest}
    {result : PlacementResult} {answer : Status} {k : AuthorizationId}
    {a : Authorization}
    (h : lookup (s.recordRequest request result answer).authorizations k =
      some a) : lookup s.authorizations k = some a := by
  obtain ⟨requests, counters, submitted, heq⟩ :=
    recordRequest_eq s request result answer
  rw [heq] at h
  exact lookup_of_evictOldest h

/-! ## Operations -/

theorem recommended_executeRequest {request : PlacementRequest}
    {items : List PlacementItem} {result : PlacementResult} {answer : Status}
    {k : RecommendationId} {r : Recommendation}
    (h : lookup (s.executeRequest request items result
      answer).1.recommendations k = some r) :
    (∃ old, lookup s.recommendations k = some old) ∨
      ∃ placement ∈
          (s.executeRequest request items result answer).2.placements,
        placement.recommendation = k := by
  have hindexed := indexed_planBatch s request items
  generalize hexecuted : s.executeRequest request items result answer =
    executed at h ⊢
  unfold executeRequest at hexecuted
  dsimp only at hexecuted
  generalize ((s.planBatch request items).anyChange && !request.dryRun) =
    changes at hexecuted
  generalize (if changes then _ else _) = published at hexecuted
  generalize hscheduled : (if changes then _ else _) = scheduled at hexecuted
  have hsame : scheduled.recommendations = s.recommendations := by
    subst hscheduled
    cases changes <;> rfl
  split at hexecuted
  · subst hexecuted
    exact Or.inl ⟨r, h⟩
  · split at hexecuted
    · subst hexecuted
      rw [hsame] at h
      exact Or.inl ⟨r, h⟩
    · subst hexecuted
      have hloop := recommendations_recordRequest h
      rcases recommended_foldl_commitPending (scheduled, _) hindexed.below
        hindexed.nodup hloop with ⟨old, hold⟩ | hreported
      · rw [hsame] at hold
        exact Or.inl ⟨old, hold⟩
      · exact Or.inr hreported

theorem recommended_placeLocked {request : PlacementRequest} {answer : Status}
    {k : RecommendationId} {r : Recommendation}
    (h : lookup (s.placeLocked request answer).1.recommendations k =
      some r) :
    (∃ old, lookup s.recommendations k = some old) ∨
      ∃ placement ∈ (s.placeLocked request answer).2.placements,
        placement.recommendation = k := by
  generalize hplaced : s.placeLocked request answer = placed at h ⊢
  unfold placeLocked at hplaced
  dsimp only at hplaced
  split at hplaced
  · subst hplaced
    exact Or.inl ⟨r, h⟩
  · split at hplaced
    · subst hplaced
      exact Or.inl ⟨r, h⟩
    · split at hplaced
      · split at hplaced
        · subst hplaced
          exact Or.inl ⟨r, h⟩
        · subst hplaced
          exact Or.inl ⟨r, h⟩
      · split at hplaced
        · subst hplaced
          exact Or.inl ⟨r, h⟩
        · subst hplaced
          exact recommended_executeRequest h

theorem authorizations_placeLocked {request : PlacementRequest}
    {answer : Status} {k : AuthorizationId} {a : Authorization}
    (h : lookup (s.placeLocked request answer).1.authorizations k = some a) :
    lookup s.authorizations k = some a := by
  rcases placeLocked_cases s request answer with
    ⟨_, _, heq⟩ | ⟨-, published, result, heq⟩
  · rw [heq] at h
    exact h
  · rw [heq] at h
    have hloop := authorizations_recordRequest h
    obtain ⟨_, _, _, _, _, _, hsame⟩ := foldl_commitPending_eq request
      published (s.planOf request).commits
      (s.scheduledFor request published, (s.planOf request).placements)
    rw [commitBatch, hsame] at hloop
    have hscheduled : lookup (s.scheduledFor request
        published).authorizations k = some a := hloop
    unfold scheduledFor at hscheduled
    split at hscheduled <;> exact hscheduled

/-- An authorization is kept for the caller that was given its identity. -/
theorem granted_authorize {recommendation : RecommendationId}
    {instant : Timestamp} {k : AuthorizationId} {a : Authorization}
    (h : lookup (s.authorize recommendation instant).1.authorizations k =
      some a) :
    (∃ old, lookup s.authorizations k = some old) ∨
      k ∈ s.granted (.authorize recommendation instant) := by
  unfold granted
  dsimp only
  generalize hauthorized : s.authorize recommendation instant = authorized
    at h ⊢
  unfold authorize at hauthorized
  split at hauthorized
  · subst hauthorized
    exact Or.inl ⟨a, h⟩
  · split at hauthorized
    · subst hauthorized
      exact Or.inl ⟨a, h⟩
    · split at hauthorized
      · subst hauthorized
        exact Or.inl ⟨a, h⟩
      next rec hrec hnone =>
        subst hauthorized
        have hinserted := lookup_of_evictOldest h
        by_cases hk : k = ⟨s.nextAuthorization⟩
        · refine Or.inr ?_
          have hok :
              (Status.accepted .acceptedAuthorizationGranted).ok = true := rfl
          dsimp only
          rw [if_pos hok, List.mem_singleton]
          exact hk
        · refine Or.inl ⟨a, ?_⟩
          exact lookup_of_insertIfNew hk hinserted

theorem recommendations_authorize {recommendation : RecommendationId}
    {instant : Timestamp} {k : RecommendationId} {r : Recommendation}
    (h : lookup (s.authorize recommendation instant).1.recommendations k =
      some r) : lookup s.recommendations k = some r := by
  unfold authorize at h
  split at h
  · exact h
  · split at h
    · exact h
    · split at h
      · exact h
      · exact lookup_of_evictOldest h

theorem recommendations_revokeAuthorization (s : Impl)
    (authorization : AuthorizationId) :
    (s.revokeAuthorization authorization).1.recommendations =
      s.recommendations := by
  unfold revokeAuthorization
  split
  · rfl
  · split
    · rfl
    · split <;> rfl

theorem authorizations_revokeAuthorization {authorization k : AuthorizationId}
    {a : Authorization}
    (h : lookup (s.revokeAuthorization authorization).1.authorizations k =
      some a) : ∃ old, lookup s.authorizations k = some old := by
  unfold revokeAuthorization at h
  split at h
  · exact ⟨a, h⟩
  · split at h
    · exact ⟨a, h⟩
    next stored hstored =>
      split at h
      · exact ⟨a, h⟩
      · simp only [releaseFence, lookup_insert] at h
        by_cases hk : k = authorization
        · subst hk
          exact ⟨stored, hstored⟩
        · rw [Function.update_of_ne hk] at h
          exact ⟨a, h⟩

/-! ## One step -/

/-- A decision that places nothing leaves both tables alone, and the identities
of what is recommended. -/
theorem Ends.authority {op : Op} {answer : Status} {after : Impl}
    {accepted : Bool} (h : s.Ends op answer after accepted)
    (hop : op.handlesAuthority = false) :
    after.recommendations = s.recommendations ∧
      after.authorizations = s.authorizations ∧
      after.nextRecommendation = s.nextRecommendation := by
  cases h with
  | refused counted =>
      obtain ⟨_, _, rfl⟩ := counted
      exact ⟨rfl, rfl, rfl⟩
  | repeated counted known =>
      obtain ⟨_, _, rfl⟩ := counted
      exact ⟨rfl, rfl, rfl⟩
  | redeclared call found known => exact ⟨rfl, rfl, rfl⟩
  | placed call executed commit =>
      subst call
      cases hop
  | @committed t stays targets change =>
      obtain ⟨counters, submitted, heq⟩ := persistLocked_fst t answer
      rw [heq]
      exact ⟨stays.recommendations, stays.authorizations,
        stays.nextRecommendation⟩

/-- The operations that neither place nor authorize. -/
theorem authority_step (hkeyed : ∀ k record,
      lookup s.migrations k = some record → record.intent.attempt = k)
    {op : Op} (hanew : s.startsAnew op = false)
    (hop : op.handlesAuthority = false) :
    (s.step op).recommendations = s.recommendations ∧
      (s.step op).authorizations = s.authorizations ∧
      (s.step op).nextRecommendation = s.nextRecommendation := by
  cases op with
  | openEngine opening answer =>
      have hopen : s.isOpen = true := by simpa [startsAnew] using hanew
      simp [step, openEngine, hopen]
  | shutdown answer =>
      obtain ⟨counters, submitted, heq⟩ := persistLocked_fst s answer
      simp only [step, shutdown]
      split
      · rw [heq]
        exact ⟨rfl, rfl, rfl⟩
      · exact ⟨rfl, rfl, rfl⟩
  | restart config => cases hanew
  | ingestLoad evidence =>
      rcases ingestLoad_cases s evidence with
          ⟨_, _, heq⟩ | ⟨_, -, -, -, heq⟩
      · simp only [step, heq, and_self]
      · simp only [step, heq, recordEvidence, and_self]
  | rebalance request answer =>
      obtain ⟨counters, submitted, heq⟩ := rebalanceLocked_eq s request answer
      simp only [step, heq, and_self]
  | place request answer => cases hop
  | authorize recommendation instant => cases hop
  | revokeAuthorization authorization => cases hop
  | _ => exact (ends_step hkeyed rfl).authority hop

theorem recommended_step (hkeyed : ∀ k record,
      lookup s.migrations k = some record → record.intent.attempt = k)
    {op : Op} (hanew : s.startsAnew op = false) {k : RecommendationId}
    {r : Recommendation}
    (h : lookup (s.step op).recommendations k = some r) :
    (∃ old, lookup s.recommendations k = some old) ∨
      k ∈ s.recommended op := by
  have hsame : (s.step op).recommendations = s.recommendations →
      ∃ old, lookup s.recommendations k = some old := by
    intro heq
    rw [heq] at h
    exact ⟨r, h⟩
  cases op with
  | place request answer =>
      rcases recommended_placeLocked h with hold | ⟨placement, hmem, rfl⟩
      · exact Or.inl hold
      · exact Or.inr (List.mem_map_of_mem hmem)
  | authorize recommendation instant =>
      exact Or.inl ⟨r, recommendations_authorize h⟩
  | revokeAuthorization authorization =>
      exact Or.inl (hsame (recommendations_revokeAuthorization s
        authorization))
  | _ =>
      exact Or.inl (hsame (authority_step hkeyed hanew rfl).1)

theorem granted_step (hkeyed : ∀ k record,
      lookup s.migrations k = some record → record.intent.attempt = k)
    {op : Op} (hanew : s.startsAnew op = false) {k : AuthorizationId}
    {a : Authorization}
    (h : lookup (s.step op).authorizations k = some a) :
    (∃ old, lookup s.authorizations k = some old) ∨ k ∈ s.granted op := by
  have hsame : (s.step op).authorizations = s.authorizations →
      ∃ old, lookup s.authorizations k = some old := by
    intro heq
    rw [heq] at h
    exact ⟨a, h⟩
  cases op with
  | place request answer =>
      exact Or.inl ⟨a, authorizations_placeLocked h⟩
  | authorize recommendation instant => exact granted_authorize h
  | revokeAuthorization authorization =>
      exact Or.inl (authorizations_revokeAuthorization h)
  | _ =>
      exact Or.inl
        (hsame (authority_step hkeyed hanew rfl).2.1)

end Impl

end FlowOffload

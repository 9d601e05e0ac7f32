import FlowOffload.Engine.Decided
import FlowOffload.Ledger.Issued

/-!
# What the commit loop leaves of a commit

Each commit of a plan has a flow and a place in the report of its own, so what
it writes stays: the assignment of its flow, its recommendation, and their
identities in the report.
-/

namespace FlowOffload

open Foundation
open Std (ExtTreeMap)

namespace Impl

variable {s : Impl} {request : PlacementRequest} {plan : BatchPlan}
  {item : PlacementItem} {published : ScheduleGeneration}
  {pending : PendingCommit} {commits : List PendingCommit}

/-! ## Planned placements and their commits -/

/-- The placement that a commit was planned with. -/
structure Announces (p : FlowPlacement) (pending : PendingCommit) : Prop where
  flow : p.flow = pending.flow
  generation : p.flowGeneration = pending.generation
  target : p.target = pending.target
  incarnation : p.incarnation = pending.incarnation
  capability : p.capabilityGeneration = pending.capability
  retained : p.retained = pending.retained

/-- Every accepted placement of a plan has its commit. -/
def Paired (plan : BatchPlan) : Prop :=
  ∀ i p, plan.placements[i]? = some p → p.accepted = true →
    ∃ pending ∈ plan.commits, pending.index = i ∧ Announces p pending

theorem paired_planItem (hkeyed : s.ledger.Keyed) (h : Paired plan)
    (item : PlacementItem) : Paired (s.planItem request plan item) := by
  intro i p hp haccepted
  rw [placements_planItem] at hp
  rcases Nat.lt_or_ge i plan.placements.length with hold | hnew
  · rw [List.getElem?_append_left hold] at hp
    obtain ⟨pending, hpending, hindex, hannounces⟩ := h i p hp haccepted
    refine ⟨pending, ?_, hindex, hannounces⟩
    rcases commits_planItem s request plan item with hsame | ⟨other, -, hmore⟩
    · rw [hsame]
      exact hpending
    · rw [hmore]
      exact List.mem_append_left _ hpending
  · rw [List.getElem?_append_right hnew, List.getElem?_singleton] at hp
    split at hp
    next hlast =>
      have hindex : plan.placements.length = i := by omega
      have hplaced := Option.some.inj hp
      unfold placementFor at hplaced
      unfold planItem
      cases hdecide : s.decideItem request plan item with
      | refused placement reason =>
          simp only [hdecide] at hplaced
          rw [← hplaced] at haccepted
          have hrefused := accepted_of_refused hdecide
          exact absurd (hrefused.symm.trans haccepted) (by decide)
      | accepted flow current chosen fallback placement =>
          simp only [hdecide] at hplaced
          obtain ⟨hflow, hgeneration⟩ := placement_of_accepted hdecide
          have hid := hkeyed.flow _ _ (accepts_of_decideItem hdecide).registered
          subst hplaced
          refine ⟨_, List.mem_append_right _ (List.mem_singleton.mpr rfl),
            hindex, ?_⟩
          exact ⟨hflow.trans hid.symm, hgeneration, rfl, rfl, rfl, rfl⟩
    next => cases hp

theorem paired_planOf (hkeyed : s.ledger.Keyed) (request : PlacementRequest) :
    Paired (s.planOf request) := by
  suffices h : ∀ (items : List PlacementItem) (plan : BatchPlan),
      Paired plan → Paired (items.foldl (s.planItem request) plan) by
    refine h _ _ fun i p hp => ?_
    simp [initialPlan] at hp
  intro items
  induction items with
  | nil => exact fun _ h => h
  | cons item items ih =>
      exact fun plan h => ih _ (paired_planItem hkeyed h item)

/-- There are no more commits than items. -/
theorem length_commits_planOf (s : Impl) (request : PlacementRequest) :
    (s.planOf request).commits.length ≤ (itemsOf request).length := by
  obtain ⟨added, hcommits, hsub, -⟩ :=
    commits_foldl_planItem s request (itemsOf request) s.initialPlan
  have hall : (s.planOf request).commits = [] ++ added.map Prod.snd := hcommits
  have hlength := hsub.length_le
  rw [List.length_map] at hlength
  rw [hall, List.nil_append, List.length_map]
  exact hlength

/-! ## Assignments -/

theorem lookup_assignments_commitPending (state : Impl × List FlowPlacement)
    (pending : PendingCommit) :
    lookup (commitPending request published state pending).1.assignments =
      if pending.retained then lookup state.1.assignments
      else Function.update (lookup state.1.assignments) pending.flow
        (some (state.1.pendingAssignment request published pending)) := by
  unfold commitPending commitAssignment holdState
  dsimp only
  split
  · rfl
  · split
    · split <;> exact lookup_insert _ _ _
    · exact lookup_insert _ _ _

theorem lookup_assignments_foldl_commitPending {flow : FlowId}
    (h : flow ∉ commits.map PendingCommit.flow)
    (state : Impl × List FlowPlacement) :
    lookup (commits.foldl (commitPending request published)
        state).1.assignments flow = lookup state.1.assignments flow := by
  induction commits generalizing state with
  | nil => rfl
  | cons pending commits ih =>
      simp only [List.map_cons, List.mem_cons, not_or] at h
      rw [List.foldl_cons, ih h.2, lookup_assignments_commitPending]
      split
      · rfl
      · exact Function.update_of_ne h.1 _ _

/-- The assignment that a commit leaves its flow with. -/
theorem lookup_assignments_of_mem {state : Impl × List FlowPlacement}
    (hnodup : (commits.map PendingCommit.flow).Nodup)
    (hmem : pending ∈ commits) :
    (pending.retained = true →
      lookup (commits.foldl (commitPending request published)
          state).1.assignments pending.flow =
        lookup state.1.assignments pending.flow) ∧
    (pending.retained = false → ∃ a,
      lookup (commits.foldl (commitPending request published)
          state).1.assignments pending.flow = some a ∧
        Records a pending) := by
  obtain ⟨before, after, rfl⟩ := List.append_of_mem hmem
  rw [List.map_append, List.map_cons, List.nodup_append,
    List.nodup_cons] at hnodup
  obtain ⟨-, ⟨hafter, -⟩, hbefore⟩ := hnodup
  have hfirst := @lookup_assignments_foldl_commitPending request published
    before pending.flow
    (fun hin => hbefore _ hin _ List.mem_cons_self rfl) state
  rw [List.foldl_append, List.foldl_cons,
    lookup_assignments_foldl_commitPending hafter,
    lookup_assignments_commitPending]
  constructor
  · intro hretained
    rw [if_pos hretained, hfirst]
  · intro hreplaced
    rw [if_neg (by simp [hreplaced]), Function.update_self]
    exact ⟨_, rfl, rfl, rfl, rfl, rfl, rfl, rfl⟩

/-! ## Recommendations -/

theorem lookup_recommendations_foldl_commitPending {k : RecommendationId}
    {r : Recommendation} {state : Impl × List FlowPlacement}
    (h : lookup state.1.recommendations k = some r) :
    lookup (commits.foldl (commitPending request published)
      state).1.recommendations k = some r := by
  induction commits generalizing state with
  | nil => exact h
  | cons pending commits ih =>
      refine ih ?_
      rw [recommendations_commitPending]
      cases htaken : lookup state.1.recommendations
          ⟨state.1.nextRecommendation⟩ with
      | none =>
          rw [lookup_insertIfNew_of_none _ _ htaken, Function.update_of_ne]
          · exact h
          · rintro rfl
            rw [htaken] at h
            cases h
      | some old =>
          rw [lookup_insertIfNew_of_some _ htaken]
          exact h

theorem nextRecommendation_foldl_commitPending
    (state : Impl × List FlowPlacement)
    (hroom : state.1.nextRecommendation.toNat + commits.length ≤
      counterLimit) :
    (commits.foldl (commitPending request published)
        state).1.nextRecommendation.toNat =
      state.1.nextRecommendation.toNat + commits.length := by
  induction commits generalizing state with
  | nil => rfl
  | cons pending commits ih =>
      rw [List.length_cons] at hroom ⊢
      have hnext : (commitPending request published state
          pending).1.nextRecommendation.toNat =
            state.1.nextRecommendation.toNat + 1 := by
        rw [nextRecommendation_commitPending, toNat_increment_eq_succ,
          Register.succ, if_neg (by omega)]
      rw [List.foldl_cons, ih _ (by rw [hnext]; omega), hnext]
      omega

/-- The next identity is free while the counter has not stopped. -/
theorem nextRecommendation_free {t : Impl} (h : t.RecommendsBelow)
    (hlimit : t.nextRecommendation.toNat < counterLimit) :
    lookup t.recommendations ⟨t.nextRecommendation⟩ = none := by
  cases htaken : lookup t.recommendations ⟨t.nextRecommendation⟩ with
  | none => rfl
  | some r =>
      have hheld : t.recommendationRegister.held ⟨t.nextRecommendation⟩ =
          some t.nextRecommendation.toNat :=
        Option.map_eq_some_iff.mpr ⟨r, htaken, rfl⟩
      exact absurd (h hlimit _ _ hheld) (Nat.lt_irrefl _)

/-! ## One commit -/

/-- The recommendation that a commit of the plan gives rise to. -/
structure Recommends (r : Recommendation) (pending : PendingCommit) :
    Prop where
  flow : r.flow = pending.flow
  generation : r.flowGeneration = pending.generation
  target : r.target = pending.target
  incarnation : r.incarnation = pending.incarnation
  capability : r.capabilityGeneration = pending.capability

/-- What the loop leaves of a commit, and the identities that it writes into
the report. -/
structure Landed (pending : PendingCommit)
    (state final : Impl × List FlowPlacement) (id : RecommendationId)
    (assigned : AssignmentId) : Prop where
  report : final.2[pending.index]? =
    (state.2[pending.index]?).map fun placement =>
      { placement with recommendation := id, assignment := assigned }
  retained : pending.retained = true →
    lookup final.1.assignments pending.flow =
      lookup state.1.assignments pending.flow ∧
    ∀ a, lookup state.1.assignments pending.flow = some a →
      assigned = a.assignment
  replaced : pending.retained = false →
    ∃ a, lookup final.1.assignments pending.flow = some a ∧
      Records a pending ∧ assigned = a.assignment
  recommendation : ∃ r, lookup final.1.recommendations id = some r ∧
    Recommends r pending

theorem landed_commitPending (state : Impl × List FlowPlacement)
    (hfree : lookup state.1.recommendations
      ⟨state.1.nextRecommendation⟩ = none) (pending : PendingCommit) :
    Landed pending state (commitPending request published state pending)
      ⟨state.1.nextRecommendation⟩ ({ state.1 with
        nextRecommendation := saturatingIncrement state.1.nextRecommendation
        }.commitAssignment request published pending).2 := by
  refine ⟨?_, ?_, ?_, ?_⟩
  · simp [commitPending, pendingRecommendation]
  · intro hretained
    refine ⟨?_, ?_⟩
    · rw [lookup_assignments_commitPending, if_pos hretained]
    · intro a ha
      have hfound : state.1.assignments[pending.flow]? = some a := ha
      simp [commitAssignment, hretained, hfound]
  · intro hreplaced
    refine ⟨state.1.pendingAssignment request published pending, ?_,
      ⟨rfl, rfl, rfl, rfl, rfl, rfl⟩, ?_⟩
    · rw [lookup_assignments_commitPending, if_neg (by simp [hreplaced]),
        Function.update_self]
    · simp [commitAssignment, hreplaced, pendingAssignment]
  · refine ⟨state.1.pendingRecommendation request published pending, ?_,
      ⟨rfl, rfl, rfl, rfl, rfl⟩⟩
    rw [recommendations_commitPending, lookup_insertIfNew_of_none _ _ hfree,
      Function.update_self]

/-- What a commit writes is not touched by the commits around it. -/
theorem landed_foldl_commitPending {state : Impl × List FlowPlacement}
    (hissued : state.1.RecommendsBelow)
    (hroom : state.1.nextRecommendation.toNat + commits.length ≤
      counterLimit)
    (hflows : (commits.map PendingCommit.flow).Nodup)
    (hindices : (commits.map PendingCommit.index).Nodup)
    (hmem : pending ∈ commits) :
    ∃ id assigned, Landed pending state
      (commits.foldl (commitPending request published) state) id assigned := by
  obtain ⟨before, after, rfl⟩ := List.append_of_mem hmem
  rw [List.map_append, List.map_cons, List.nodup_append,
    List.nodup_cons] at hflows hindices
  obtain ⟨-, ⟨hflowAfter, -⟩, hflowBefore⟩ := hflows
  obtain ⟨-, ⟨hindexAfter, -⟩, hindexBefore⟩ := hindices
  have hflowBefore' : pending.flow ∉ before.map PendingCommit.flow :=
    fun hin => hflowBefore _ hin _ List.mem_cons_self rfl
  have hindexBefore' : pending.index ∉ before.map PendingCommit.index :=
    fun hin => hindexBefore _ hin _ List.mem_cons_self rfl
  rw [List.length_append, List.length_cons] at hroom
  rw [List.foldl_append, List.foldl_cons]
  have hassigned := @lookup_assignments_foldl_commitPending request published
    _ _ hflowBefore' state
  have hreport := getElem?_foldl_commitPending request published
    hindexBefore' state
  have hnext := @nextRecommendation_foldl_commitPending request published
    before state (by omega)
  have hbelow : (before.foldl (commitPending request published)
      state).1.RecommendsBelow := by
    intro hlimit
    have hgives := @gives_recommendations_foldl request published before state
    exact hgives.keeps (hissued (Nat.lt_of_le_of_lt hgives.le hlimit)) hlimit
  generalize before.foldl (commitPending request published) state = mid
    at hassigned hreport hnext hbelow ⊢
  obtain ⟨id, assigned, hone⟩ : ∃ id assigned, Landed pending mid
      (commitPending request published mid pending) id assigned :=
    ⟨_, _, landed_commitPending mid
      (nextRecommendation_free hbelow (by omega)) pending⟩
  have hkept := @lookup_assignments_foldl_commitPending request published
    _ _ hflowAfter (commitPending request published mid pending)
  have hwritten := getElem?_foldl_commitPending request published
    hindexAfter (commitPending request published mid pending)
  refine ⟨id, assigned, ⟨?_, ?_, ?_, ?_⟩⟩
  · rw [hwritten, hone.report, hreport]
  · intro hretained
    obtain ⟨hsame, hnumber⟩ := hone.retained hretained
    rw [hkept, hsame, hassigned]
    exact ⟨rfl, fun a ha => hnumber a (by rw [hassigned]; exact ha)⟩
  · intro hreplaced
    rw [hkept]
    exact hone.replaced hreplaced
  · obtain ⟨r, hr, hrecommends⟩ := hone.recommendation
    exact ⟨r, lookup_recommendations_foldl_commitPending hr, hrecommends⟩

end Impl

end FlowOffload

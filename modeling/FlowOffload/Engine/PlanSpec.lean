import FlowOffload.Engine.Run
import FlowOffload.Foundation.OrdMap

/-!
# What planning decides

Inversion lemmas for the planning half of a placement: what is known of a
candidate that was ranked, of an item that was accepted, and of the commits of
a whole batch.
-/

namespace FlowOffload

open Foundation
open Std (ExtTreeMap)

namespace Impl

/-! ## Views -/

/-- The identity fields of a view are those of the evaluated descriptor. -/
structure Describes (view : CandidateView) (descriptor : TargetDescriptor) :
    Prop where
  target : view.target = descriptor.target
  incarnation : view.incarnation = descriptor.incarnation
  capability : view.capabilityGeneration = descriptor.capabilityGeneration
  domain : view.domain = descriptor.domain

theorem describes_candidateView (flow : FlowDescriptor)
    (descriptor : TargetDescriptor) :
    Describes (candidateView flow descriptor) descriptor :=
  ⟨rfl, rfl, rfl, rfl⟩

theorem describes_evaluateCapacity {policy : Policy} {flow : FlowDescriptor}
    {descriptor : TargetDescriptor} {used : CapacityVector}
    {view : CandidateView} (h : Describes view descriptor) :
    Describes (evaluateCapacity policy flow descriptor used view).2
      descriptor := by
  unfold evaluateCapacity
  cases capacityVerdict policy flow descriptor used with
  | error reason =>
      exact ⟨h.target, h.incarnation, h.capability, h.domain⟩
  | ok utilisation =>
      exact ⟨h.target, h.incarnation, h.capability, h.domain⟩

theorem describes_evaluateTargetLocked (s : Impl) (flow : FlowDescriptor)
    (target : TargetState) (instant : Timestamp) :
    Describes (s.evaluateTargetLocked flow target instant).2
      target.descriptor := by
  unfold evaluateTargetLocked
  dsimp only
  split
  · exact describes_candidateView flow target.descriptor
  · split
    · exact ⟨rfl, rfl, rfl, rfl⟩
    · exact describes_evaluateCapacity ⟨rfl, rfl, rfl, rfl⟩

@[simp] theorem descriptor_plannedTarget (plan : BatchPlan) (id : TargetId)
    (state : TargetState) :
    (plannedTarget plan id state).descriptor = state.descriptor := rfl

/-! ## Eligible targets -/

theorem lifecycleRefusal_ne_ok (target : TargetState) :
    lifecycleRefusal target ≠ some .ok := by
  unfold lifecycleRefusal
  split
  · simp
  · cases target.descriptor.lifecycle <;> simp

theorem policyRefusal_ne_ok (policy : Policy) (flow : FlowDescriptor)
    (descriptor : TargetDescriptor) :
    policyRefusal policy flow descriptor ≠ some .ok := by
  unfold policyRefusal
  repeat' split
  all_goals simp

theorem localityRefusal_ne_ok (s : Impl) (flow : FlowDescriptor)
    (descriptor : TargetDescriptor) :
    s.localityRefusal flow descriptor ≠ some .ok := by
  unfold localityRefusal
  repeat' split
  all_goals simp

/-- A target that evaluates to `Ok` has passed every check before its load. -/
theorem admitted_of_evaluateTargetLocked {s : Impl} {flow : FlowDescriptor}
    {target : TargetState} {instant : Timestamp}
    (h : (s.evaluateTargetLocked flow target instant).1 = .ok) :
    lifecycleRefusal target = none ∧
      policyRefusal s.policy flow target.descriptor = none ∧
      s.localityRefusal flow target.descriptor = none := by
  have hne : s.admissionRefusal flow target ≠ some .ok := by
    rw [admissionRefusal, Ne, Option.or_eq_some_iff, Option.or_eq_some_iff]
    rintro (hcode | ⟨-, hcode | ⟨-, hcode⟩⟩)
    · exact lifecycleRefusal_ne_ok _ hcode
    · exact policyRefusal_ne_ok _ _ _ hcode
    · exact localityRefusal_ne_ok _ _ _ hcode
  cases hadmission : s.admissionRefusal flow target with
  | some code =>
      unfold evaluateTargetLocked at h
      rw [hadmission] at h hne
      have hcode : code = .ok := h
      exact absurd (congrArg some hcode) hne
  | none =>
      rw [admissionRefusal, Option.or_eq_none_iff,
        Option.or_eq_none_iff] at hadmission
      exact hadmission

/-! ## Candidates -/

/-- A ranked candidate comes from a target that evaluates to `Ok`. -/
structure Candidate (s : Impl) (plan : BatchPlan) (flow : FlowDescriptor)
    (current : Option Assignment) (instant : Timestamp)
    (entry : TargetId × TargetState) (candidate : RankedCandidate) :
    Prop where
  eligible : (s.evaluateTargetLocked flow
    (plannedTarget plan entry.1 entry.2) instant).1 = .ok
  describes : Describes candidate.view entry.2.descriptor
  key : keyFor candidate.view (stickyOn s.policy current candidate.view)
    (preferredDomain s.policy) = some candidate.key

theorem ranked_refuse (survey : Survey) (view : CandidateView) :
    (survey.refuse view).ranked = survey.ranked := by
  unfold Survey.refuse
  split <;> rfl

/-- One iteration adds at most the candidate of its own target. -/
theorem ranked_surveyTarget (s : Impl) (plan : BatchPlan)
    (flow : FlowDescriptor) (current : Option Assignment)
    (instant : Timestamp) (survey : Survey) (entry : TargetId × TargetState) :
    (s.surveyTarget plan flow current instant survey entry).ranked =
        survey.ranked ∨
      ∃ candidate, s.Candidate plan flow current instant entry candidate ∧
        (s.surveyTarget plan flow current instant survey entry).ranked =
          survey.ranked ++ [candidate] := by
  have hdescribes := describes_evaluateTargetLocked s flow
    (plannedTarget plan entry.1 entry.2) instant
  unfold surveyTarget
  dsimp only
  split
  next heligible =>
    have hok : (s.evaluateTargetLocked flow
        (plannedTarget plan entry.1 entry.2) instant).1 = .ok := by
      simpa using heligible
    split
    · exact Or.inl (ranked_refuse _ _)
    next key hkey =>
      split
      · refine Or.inr ⟨_, ⟨hok, ?_, hkey⟩, rfl⟩
        exact ⟨hdescribes.target, hdescribes.incarnation,
          hdescribes.capability, hdescribes.domain⟩
      · exact Or.inl rfl
  next => exact Or.inl (ranked_refuse _ _)

theorem candidate_of_mem_foldl_surveyTarget {s : Impl} {plan : BatchPlan}
    {flow : FlowDescriptor} {current : Option Assignment}
    {instant : Timestamp} {entries : List (TargetId × TargetState)}
    {survey : Survey} {candidate : RankedCandidate}
    (h : candidate ∈ (entries.foldl
      (s.surveyTarget plan flow current instant) survey).ranked) :
    candidate ∈ survey.ranked ∨
      ∃ entry ∈ entries, s.Candidate plan flow current instant entry
        candidate := by
  induction entries generalizing survey with
  | nil => exact Or.inl h
  | cons entry entries ih =>
      rcases ih h with hmem | ⟨other, hother, hcandidate⟩
      · rcases ranked_surveyTarget s plan flow current instant survey entry
          with heq | ⟨added, hadded, heq⟩
        · rw [heq] at hmem
          exact Or.inl hmem
        · rw [heq, List.mem_append, List.mem_singleton] at hmem
          rcases hmem with hmem | rfl
          · exact Or.inl hmem
          · exact Or.inr ⟨entry, by simp, hadded⟩
      · exact Or.inr ⟨other, by simp [hother], hcandidate⟩

theorem candidate_of_mem_surveyTargets {s : Impl} {plan : BatchPlan}
    {flow : FlowDescriptor} {current : Option Assignment}
    {instant : Timestamp} {candidate : RankedCandidate}
    (h : candidate ∈
      (s.surveyTargets plan flow current instant).ranked) :
    ∃ id state, lookup s.targets id = some state ∧
      s.Candidate plan flow current instant (id, state) candidate := by
  rcases candidate_of_mem_foldl_surveyTarget h with hmem | ⟨entry, hentry, hc⟩
  · cases hmem
  · exact ⟨entry.1, entry.2, lookup_eq_some_iff_mem_toList.mpr hentry, hc⟩

/-- The candidate is in the preferred domain or is a fallback that the policy
allows. -/
def Offered (policy : Policy) (candidate : RankedCandidate) : Prop :=
  candidate.key.domainRank = 0 ∨
    fallbackAllowed policy (preferredDomain policy) candidate.view.domain = true

instance (policy : Policy) (candidate : RankedCandidate) :
    Decidable (Offered policy candidate) :=
  inferInstanceAs (Decidable (_ ∨ _))

/-- The view of a chosen candidate, up to its recorded rank. -/
theorem exists_of_chooseCandidate {policy : Policy}
    {ranked : List RankedCandidate} {chosen : CandidateView} {fallback : Bool}
    (h : chooseCandidate policy (rankCandidates ranked) =
      some (chosen, fallback)) :
    ∃ candidate rest, sortRanked ranked = candidate :: rest ∧
      Offered policy candidate ∧
      chosen = { candidate.view with rank := 0 } := by
  unfold rankCandidates at h
  cases hsorted : sortRanked ranked with
  | nil =>
      rw [hsorted] at h
      cases h
  | cons candidate rest =>
      rw [hsorted, List.mapIdx_cons] at h
      simp only [chooseCandidate] at h
      split at h
      · cases h
      next hoffered =>
        simp only [Option.some.injEq, Prod.mk.injEq] at h
        refine ⟨candidate, rest, rfl, ?_, h.1.symm⟩
        by_cases hrank : candidate.key.domainRank = 0
        · exact Or.inl hrank
        · refine Or.inr ?_
          simpa [hrank] using hoffered

/-! ## Rank order -/

/-- The rank of a candidate as one number. -/
def rankWeight (key : RankKey) : Nat :=
  (((key.sticky.toNat * 2 ^ 8 + key.domainRank.toNat) * 2 ^ 8 +
    key.costRank.toNat) * 2 ^ 32 + key.utilisationPpm.toNat) * 2 ^ 64 +
    key.target.toNat

theorem compareRank_neg_iff {a b : RankKey} :
    compareRank a b < 0 ↔ rankWeight a < rankWeight b := by
  have hdomain := a.domainRank.toNat_lt
  have hdomain' := b.domainRank.toNat_lt
  have hcost := a.costRank.toNat_lt
  have hcost' := b.costRank.toNat_lt
  have hload := a.utilisationPpm.toNat_lt
  have hload' := b.utilisationPpm.toNat_lt
  have htarget := a.target.toNat_lt
  have htarget' := b.target.toNat_lt
  unfold compareRank rankWeight
  simp only [ne_eq, ← UInt8.toNat_inj, ← UInt32.toNat_inj, ← UInt64.toNat_inj,
    UInt8.lt_iff_toNat_lt, UInt32.lt_iff_toNat_lt, UInt64.lt_iff_toNat_lt]
  split
  · split <;> omega
  · split
    · split <;> omega
    · split
      · split <;> omega
      · split
        · split <;> omega
        · split
          · split <;> omega
          · omega

theorem isPreorder_rank :
    IsPreorder fun a b : RankedCandidate => compareRank b.key a.key < 0 := by
  have hweight : ∀ a b : RankedCandidate,
      decide (compareRank b.key a.key < 0) = true ↔
        rankWeight b.key < rankWeight a.key := by
    intro a b
    rw [decide_eq_true_eq, compareRank_neg_iff]
  exact IsPreorder.of_weight hweight

/-- No candidate of the list outranks this one. -/
def Best (ranked : List RankedCandidate) (candidate : RankedCandidate) :
    Prop :=
  ∀ other ∈ ranked, ¬ compareRank other.key candidate.key < 0

instance (ranked : List RankedCandidate) (candidate : RankedCandidate) :
    Decidable (Best ranked candidate) :=
  inferInstanceAs (Decidable (∀ other ∈ ranked, _))

theorem best_of_sortRanked {ranked rest : List RankedCandidate}
    {candidate : RankedCandidate}
    (h : sortRanked ranked = candidate :: rest) : Best ranked candidate := by
  intro other hother
  rcases not_greater_of_canonicalSort_eq_cons isPreorder_rank h hother with
    rfl | hrank
  · rw [compareRank_neg_iff]
    exact Nat.lt_irrefl _
  · simpa using hrank

/-! ## Decisions -/

/-- What is known of an accepted item. -/
structure Accepts (s : Impl) (request : PlacementRequest) (plan : BatchPlan)
    (item : PlacementItem) (flow : FlowDescriptor)
    (current : Option Assignment) (chosen : CandidateView) : Prop where
  registered : lookup s.flows item.flow = some flow
  generation : item.flowGeneration.isValid = true →
    item.flowGeneration = flow.generation
  holder : s.conflictingHolder flow = none
  current_eq : current = lookup s.assignments flow.flow
  candidate : ∃ candidate rest,
    sortRanked (s.surveyTargets plan flow current
      request.evaluationInstant).ranked = candidate :: rest ∧
      Offered s.policy candidate ∧
      chosen = { candidate.view with rank := 0 }

theorem accepts_of_decideItem {s : Impl} {request : PlacementRequest}
    {plan : BatchPlan} {item : PlacementItem} {flow : FlowDescriptor}
    {current : Option Assignment} {chosen : CandidateView} {fallback : Bool}
    {placement : FlowPlacement}
    (h : s.decideItem request plan item =
      .accepted flow current chosen fallback placement) :
    s.Accepts request plan item flow current chosen := by
  unfold decideItem at h
  split at h
  · cases h
  next descriptor hflow =>
    split at h
    · cases h
    next hgeneration =>
      dsimp only at h
      split at h
      · cases h
      next hholder =>
        unfold decideFlow at h
        dsimp only at h
        split at h
        next view chosenFallback hchoose =>
          injection h with h1 h2 h3 h4 h5
          subst h1 h2 h3
          refine ⟨hflow, ?_, hholder, rfl, exists_of_chooseCandidate hchoose⟩
          intro hvalid
          simpa [hvalid] using hgeneration
        · cases h

/-- The target of an accepted item is known and evaluates to `Ok`. -/
theorem Accepts.exists_target {s : Impl} {request : PlacementRequest}
    {plan : BatchPlan} {item : PlacementItem} {flow : FlowDescriptor}
    {current : Option Assignment} {chosen : CandidateView}
    (h : s.Accepts request plan item flow current chosen) :
    ∃ id state, lookup s.targets id = some state ∧
      (s.evaluateTargetLocked flow (plannedTarget plan id state)
        request.evaluationInstant).1 = .ok ∧
      Describes chosen state.descriptor := by
  obtain ⟨candidate, rest, hsorted, -, rfl⟩ := h.candidate
  have hmem : candidate ∈ (s.surveyTargets plan flow current
      request.evaluationInstant).ranked := by
    rw [← mem_canonicalSort, ← sortRanked, hsorted]
    exact List.mem_cons_self
  obtain ⟨id, state, hlookup, hcandidate⟩ := candidate_of_mem_surveyTargets hmem
  have hd := hcandidate.describes
  exact ⟨id, state, hlookup, hcandidate.eligible,
    ⟨hd.target, hd.incarnation, hd.capability, hd.domain⟩⟩

/-! ## Commits of a batch -/

/-- The commit that an accepted item adds. -/
theorem commits_accept (plan : BatchPlan) (policy : Policy)
    (flow : FlowDescriptor) (current : Option Assignment)
    (chosen : CandidateView) (fallback : Bool) (placement : FlowPlacement) :
    ∃ pending : PendingCommit,
      (plan.accept policy flow current chosen fallback placement).commits =
          plan.commits ++ [pending] ∧
        pending.flow = flow.flow ∧ pending.generation = flow.generation ∧
        pending.target = chosen.target ∧
        pending.incarnation = chosen.incarnation ∧
        pending.capability = chosen.capabilityGeneration ∧
        pending.retained = stickyOn policy current chosen :=
  ⟨_, rfl, rfl, rfl, rfl, rfl, rfl, rfl⟩

/-- What is known of a commit that an item adds to a plan. -/
structure Planned (s : Impl) (request : PlacementRequest) (plan : BatchPlan)
    (item : PlacementItem) (pending : PendingCommit) : Prop where
  accepted : ∃ flow current chosen,
    s.Accepts request plan item flow current chosen ∧
      pending.flow = flow.flow ∧ pending.generation = flow.generation ∧
      pending.target = chosen.target ∧
      pending.incarnation = chosen.incarnation ∧
      pending.capability = chosen.capabilityGeneration ∧
      pending.retained = stickyOn s.policy current chosen

theorem commits_planItem (s : Impl) (request : PlacementRequest)
    (plan : BatchPlan) (item : PlacementItem) :
    (s.planItem request plan item).commits = plan.commits ∨
      ∃ pending, s.Planned request plan item pending ∧
        (s.planItem request plan item).commits = plan.commits ++ [pending] := by
  unfold planItem
  cases hdecide : s.decideItem request plan item with
  | refused placement reason => exact Or.inl rfl
  | accepted flow current chosen fallback placement =>
      obtain ⟨pending, heq, hrest⟩ := commits_accept plan s.policy flow current
        chosen fallback placement
      exact Or.inr ⟨pending,
        ⟨flow, current, chosen, accepts_of_decideItem hdecide, hrest⟩, heq⟩

/--
The commits of a batch, in item order: each belongs to one item and was
planned against what the items before it had planned.
-/
theorem commits_foldl_planItem (s : Impl) (request : PlacementRequest)
    (items : List PlacementItem) (plan : BatchPlan) :
    ∃ added : List (PlacementItem × PendingCommit),
      (items.foldl (s.planItem request) plan).commits =
          plan.commits ++ added.map Prod.snd ∧
        (added.map Prod.fst).Sublist items ∧
        ∀ pair ∈ added, ∃ before after, items = before ++ pair.1 :: after ∧
          s.Planned request (before.foldl (s.planItem request) plan) pair.1
            pair.2 := by
  induction items generalizing plan with
  | nil => exact ⟨[], by simp, by simp, by simp⟩
  | cons item items ih =>
      obtain ⟨added, hcommits, hsub, hplanned⟩ :=
        ih (s.planItem request plan item)
      have hlater : ∀ pair ∈ added, ∃ before after,
          item :: items = before ++ pair.1 :: after ∧
            s.Planned request (before.foldl (s.planItem request) plan) pair.1
              pair.2 := by
        intro pair hpair
        obtain ⟨before, after, heq, hp⟩ := hplanned pair hpair
        exact ⟨item :: before, after, by rw [heq]; rfl, hp⟩
      rw [List.foldl_cons]
      rcases commits_planItem s request plan item with heq | ⟨pending, hp, heq⟩
      · exact ⟨added, by rw [hcommits, heq], hsub.cons item, hlater⟩
      · refine ⟨(item, pending) :: added, ?_, ?_, ?_⟩
        · rw [hcommits, heq]
          simp
        · exact hsub.cons_cons item
        · intro pair hpair
          rcases List.mem_cons.mp hpair with rfl | hpair
          · exact ⟨[], items, rfl, hp⟩
          · exact hlater pair hpair

/-! ## The items of a request -/

theorem lessThan_iff {a b : PlacementItem} :
    a.lessThan b = true ↔
      a.flow.value.toNat * 2 ^ 64 + a.flowGeneration.value.toNat <
        b.flow.value.toNat * 2 ^ 64 + b.flowGeneration.value.toNat := by
  have ha := a.flowGeneration.value.toNat_lt
  have hb := b.flowGeneration.value.toNat_lt
  unfold PlacementItem.lessThan
  by_cases heq : a.flow = b.flow
  · simp [heq, TypedId.lt_iff_toNat_lt]
  · have hne := mt TypedId.eq_iff_toNat_eq.mpr heq
    simp only [ne_eq, heq, not_false_eq_true, if_true, decide_eq_true_eq,
      TypedId.lt_iff_toNat_lt]
    omega

/-- The flows of the canonical item order never decrease. -/
theorem flow_sortItems (items : List PlacementItem) :
    (sortItems items).Pairwise fun a b => ¬ b.flow < a.flow := by
  have horder : IsPreorder fun a b : PlacementItem => b.lessThan a :=
    IsPreorder.of_weight fun a b => lessThan_iff
  refine (ascending_canonicalSort horder items).imp ?_
  intro a b hab hlt
  have hb := b.flowGeneration.value.toNat_lt
  rw [← Bool.not_eq_true, lessThan_iff] at hab
  rw [TypedId.lt_iff_toNat_lt] at hlt
  omega

theorem uniqueItems_sublist (items : List PlacementItem) :
    (uniqueItems items).Sublist items := by
  induction items with
  | nil => exact List.Sublist.refl _
  | cons item items ih =>
      rw [uniqueItems]
      split
      next next rest heq =>
        rw [heq] at ih
        split
        · exact ((List.sublist_cons_self next rest).trans ih).cons_cons item
        · exact ih.cons_cons item
      next => exact (List.nil_sublist items).cons_cons item

/-- Each flow is planned at most once. -/
theorem nodup_flow_uniqueItems {items : List PlacementItem}
    (h : items.Pairwise fun a b => ¬ b.flow < a.flow) :
    ((uniqueItems items).map PlacementItem.flow).Nodup := by
  suffices hlt : (uniqueItems items).Pairwise fun a b => a.flow < b.flow by
    rw [List.Nodup, List.pairwise_map]
    exact hlt.imp fun hab => TypedId.ne_of_lt hab
  induction items with
  | nil => exact List.Pairwise.nil
  | cons item items ih =>
      obtain ⟨hhead, htail⟩ := List.pairwise_cons.mp h
      have hrest := ih htail
      have hsub := uniqueItems_sublist items
      rw [uniqueItems]
      split
      next next rest heq =>
        rw [heq] at hrest hsub
        obtain ⟨hnext, hrest'⟩ := List.pairwise_cons.mp hrest
        have hle := hhead next (hsub.subset List.mem_cons_self)
        split
        next hflow =>
          refine List.pairwise_cons.mpr ⟨?_, hrest'⟩
          intro b hb
          rw [hflow]
          exact hnext b hb
        next hflow =>
          have hlt : item.flow < next.flow := by
            rw [TypedId.lt_iff_toNat_lt] at hle ⊢
            rw [TypedId.eq_iff_toNat_eq] at hflow
            omega
          refine List.pairwise_cons.mpr ⟨?_, hrest⟩
          intro b hb
          rcases List.mem_cons.mp hb with rfl | hb
          · exact hlt
          · have := hnext b hb
            rw [TypedId.lt_iff_toNat_lt] at this hlt ⊢
            omega
      next => exact List.pairwise_singleton _ _

/-- The items of a request in the order they are planned. -/
def itemsOf (request : PlacementRequest) : List PlacementItem :=
  uniqueItems (sortItems request.items)

theorem mem_items_of_mem_itemsOf {request : PlacementRequest}
    {item : PlacementItem} (h : item ∈ itemsOf request) :
    item ∈ request.items := by
  have hmem := (uniqueItems_sublist _).subset h
  rw [sortItems, mem_canonicalSort] at hmem
  exact hmem

theorem nodup_flow_itemsOf (request : PlacementRequest) :
    ((itemsOf request).map PlacementItem.flow).Nodup :=
  nodup_flow_uniqueItems (flow_sortItems request.items)

/-- The plan of a request that passed every check. -/
def planOf (s : Impl) (request : PlacementRequest) : BatchPlan :=
  s.planBatch request (itemsOf request)

/-- The commits of a plan that change a placement. -/
def replacements (s : Impl) (request : PlacementRequest) :
    List PendingCommit :=
  (s.planOf request).commits.filter fun pending => !pending.retained

/-! ## What a request does to the engine -/

/-- The state the commit loop of a request starts from. -/
def scheduledFor (s : Impl) (request : PlacementRequest)
    (published : ScheduleGeneration) : Impl :=
  if (s.planOf request).anyChange then
    (s.withPlan (s.planOf request)).publishSchedule published
  else s.withPlan (s.planOf request)

/-- Only counters have changed. -/
def Counted (s after : Impl) : Prop :=
  ∃ counters refusalCounts, after =
    { s with counters := counters, refusalCounts := refusalCounts }

/-- The state after a request that committed its plan. -/
def Committed (s : Impl) (request : PlacementRequest) (answer : Status)
    (after : Impl) : Prop :=
  ∃ published result, after =
    ((s.scheduledFor request published).commitBatch request published
      (s.planOf request)).1.recordRequest request result answer

/-- What the commit loop may change. -/
theorem foldl_commitPending_eq (request : PlacementRequest)
    (published : ScheduleGeneration) (commits : List PendingCommit)
    (state : Impl × List FlowPlacement) :
    ∃ assignments holders nextAssignment nextRecommendation recommendations
        counters,
      (commits.foldl (commitPending request published) state).1 =
        { state.1 with
          assignments := assignments
          holders := holders
          nextAssignment := nextAssignment
          nextRecommendation := nextRecommendation
          recommendations := recommendations
          counters := counters } := by
  induction commits generalizing state with
  | nil => exact ⟨_, _, _, _, _, _, rfl⟩
  | cons pending commits ih =>
      obtain ⟨a, b, c, d, e, f, hrest⟩ :=
        ih (commitPending request published state pending)
      rw [List.foldl_cons, hrest]
      unfold commitPending commitAssignment holdState
      dsimp only
      split
      · exact ⟨a, b, c, d, e, f, rfl⟩
      · split
        · split <;> exact ⟨a, b, c, d, e, f, rfl⟩
        · exact ⟨a, b, c, d, e, f, rfl⟩

theorem executeRequest_cases (s : Impl) (request : PlacementRequest)
    (result : PlacementResult) (answer : Status) :
    s.Counted
        (s.executeRequest request (itemsOf request) result answer).1 ∨
      request.dryRun = false ∧ s.Committed request answer
        (s.executeRequest request (itemsOf request) result answer).1 := by
  unfold executeRequest
  dsimp only
  rw [← planOf]
  cases hdry : request.dryRun with
  | true =>
      simp only [Bool.not_true, Bool.and_false, Bool.false_and,
        Bool.false_eq_true, if_false, if_true]
      exact Or.inl ⟨_, _, rfl⟩
  | false =>
      simp only [Bool.not_false, Bool.and_true, Bool.false_eq_true, if_false]
      cases hchange : (s.planOf request).anyChange with
      | true =>
          simp only [Bool.true_and, if_true]
          split
          · exact Or.inl ⟨_, _, rfl⟩
          · simp only [Committed, scheduledFor, hchange, if_true]
            exact Or.inr ⟨trivial, _, _, rfl⟩
      | false =>
          simp only [Bool.false_and, Bool.false_eq_true, if_false]
          simp only [Committed, scheduledFor, hchange, Bool.false_eq_true,
            if_false]
          exact Or.inr ⟨trivial, _, _, rfl⟩

theorem placeLocked_cases (s : Impl) (request : PlacementRequest)
    (answer : Status) :
    s.Counted (s.placeLocked request answer).1 ∨
      s.executes request = true ∧
        s.Committed request answer (s.placeLocked request answer).1 := by
  unfold placeLocked
  dsimp only
  split
  · exact Or.inl ⟨_, _, rfl⟩
  next hopen =>
    split
    · exact Or.inl ⟨_, _, rfl⟩
    next hrefusal =>
      split
      · split <;> exact Or.inl ⟨_, _, rfl⟩
      next hrecord =>
        split
        · exact Or.inl ⟨_, _, rfl⟩
        next hconflict =>
          rcases executeRequest_cases s request
            { request := request.request, dryRun := request.dryRun } answer
            with hcounted | ⟨hdry, hcommitted⟩
          · exact Or.inl hcounted
          · refine Or.inr ⟨?_, hcommitted⟩
            simp_all [executes]

end Impl

end FlowOffload

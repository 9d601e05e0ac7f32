import FlowOffload.Engine.Authority
import FlowOffload.Laws.Attempts

/-!
# Submitting a request

The order of the items does not matter, and a request that was executed is
recognised when it is submitted again.  The second part has two exceptions: the
expected schedule generation is checked before the request is looked up, and
the record of a request may be the oldest one of a full table.
-/

namespace FlowOffload

open Foundation
open Std (ExtTreeMap)

namespace Impl

variable {s : Impl} {request : PlacementRequest}

/-! ## The order of the items -/

theorem sortItems_eq_of_perm {items other : List PlacementItem}
    (h : items.Perm other) : sortItems items = sortItems other := by
  have horder : IsPreorder fun a b : PlacementItem => b.lessThan a :=
    IsPreorder.of_weight fun a b => lessThan_iff
  refine canonicalSort_eq_of_perm horder ?_ h
  intro a b hab hba
  have ha := a.flowGeneration.value.toNat_lt
  have hb := b.flowGeneration.value.toNat_lt
  rw [← Bool.not_eq_true, lessThan_iff] at hab hba
  have hflow : a.flow = b.flow := TypedId.eq_iff_toNat_eq.mpr (by omega)
  have hgeneration : a.flowGeneration = b.flowGeneration :=
    TypedId.eq_iff_toNat_eq.mpr (by omega)
  cases a
  cases b
  simp_all

theorem placementRequestDigest_eq_of_perm {items : List PlacementItem}
    (h : request.items.Perm items) :
    placementRequestDigest { request with items := items } =
      placementRequestDigest request := by
  unfold placementRequestDigest
  rw [← sortItems_eq_of_perm h]

theorem requestRefusal_eq_of_perm {items : List PlacementItem}
    (h : request.items.Perm items) :
    s.requestRefusal { request with items := items } =
      s.requestRefusal request := by
  have hempty : items.isEmpty = request.items.isEmpty := by
    rw [Bool.eq_iff_iff, List.isEmpty_iff, List.isEmpty_iff]
    exact ⟨fun hnil => (hnil ▸ h).eq_nil, fun hnil => (hnil ▸ h).nil_eq.symm⟩
  unfold requestRefusal
  rw [placementRequestDigest_eq_of_perm h]
  simp only [hempty, h.length_eq]

/-- Planning and commit read the items as they are handed over. -/
theorem executeRequest_eq_of_perm {items : List PlacementItem}
    (h : request.items.Perm items) (planned : List PlacementItem)
    (result : PlacementResult) (answer : Status) :
    s.executeRequest { request with items := items } planned result answer =
      s.executeRequest request planned result answer := by
  have hrecord : ∀ (t : Impl) (reported : PlacementResult),
      t.recordRequest { request with items := items } reported answer =
        t.recordRequest request reported answer := by
    intro t reported
    unfold recordRequest
    rw [placementRequestDigest_eq_of_perm h]
  unfold executeRequest
  simp only [hrecord]
  rfl

/--
Two requests that differ in the order of their items are decided alike: the
same report, down to its digest, and the same state.
-/
theorem placement_ignores_item_order (request : PlacementRequest)
    (items : List PlacementItem) (answer : Status)
    (hperm : request.items.Perm items)
    (hnew : lookup s.requests request.request = none) :
    s.placeLocked { request with items := items } answer =
      s.placeLocked request answer := by
  have hnew' : s.requests[request.request]? = none := hnew
  unfold placeLocked
  dsimp only
  rw [requestRefusal_eq_of_perm hperm, hnew']
  dsimp only
  rw [← sortItems_eq_of_perm hperm]
  split
  · rfl
  · split
    · rfl
    · split
      · rfl
      · exact executeRequest_eq_of_perm hperm _ _ _

/-- Two flows in one request, the other way round. -/
theorem reversed_items_are_placed_alike :
    (engine.run (init sampleConfig []) twinSetup).placeLocked
        { sampleRequest 1 1 [1, 2] with items := [⟨⟨2⟩, {}⟩, ⟨⟨1⟩, {}⟩] }
        committed =
      (engine.run (init sampleConfig []) twinSetup).placeLocked
        (sampleRequest 1 1 [1, 2]) committed := by
  refine placement_ignores_item_order _ _ _ ?_ ?_
  · exact List.Perm.swap _ _ _
  · decide +kernel

/-! ## The record of an executed request -/

/-- The generation that an executed request publishes. -/
def publishedBy (s : Impl) (request : PlacementRequest) :
    ScheduleGeneration :=
  if (s.planOf request).anyChange then ⟨s.scheduleGeneration.value + 1⟩
  else s.scheduleGeneration

/-- What an accepted request that is no duplicate has gone through. -/
structure Executed (s : Impl) (request : PlacementRequest) (answer : Status) :
    Prop where
  isOpen : s.isOpen = true
  checked : s.requestRefusal request = none
  fresh : lookup s.requests request.request = none
  published : (s.placeLocked request answer).2.scheduleGeneration =
    s.publishedBy request
  state : (s.placeLocked request answer).1 =
    ((s.scheduledFor request (s.publishedBy request)).commitBatch request
      (s.publishedBy request) (s.planOf request)).1.recordRequest request
        (s.placeLocked request answer).2 answer

/-- Only a request that passed every check is accepted and no duplicate. -/
theorem placeLocked_eq_of_accepted {answer : Status}
    (haccepted : (s.placeLocked request answer).2.accepted = true)
    (hnew : (s.placeLocked request answer).2.duplicate = false) :
    s.isOpen = true ∧ s.requestRefusal request = none ∧
      lookup s.requests request.request = none ∧
      s.placeLocked request answer = s.executeRequest request
        (itemsOf request)
        { request := request.request, dryRun := request.dryRun } answer := by
  generalize hplaced : s.placeLocked request answer = placed
    at haccepted hnew ⊢
  unfold placeLocked at hplaced
  dsimp only at hplaced
  split at hplaced
  · subst hplaced
    cases haccepted
  next hopen =>
    split at hplaced
    · subst hplaced
      cases haccepted
    next hchecked =>
      split at hplaced
      · split at hplaced
        · subst hplaced
          cases haccepted
        · subst hplaced
          cases hnew
      next hfresh =>
        split at hplaced
        · subst hplaced
          cases haccepted
        · exact ⟨by simpa using hopen, hchecked, hfresh, hplaced.symm⟩

theorem executed_of_accepted {answer : Status}
    (hwet : request.dryRun = false)
    (haccepted : (s.placeLocked request answer).2.accepted = true)
    (hnew : (s.placeLocked request answer).2.duplicate = false) :
    s.Executed request answer := by
  obtain ⟨hopen, hchecked, hfresh, heq⟩ :=
    placeLocked_eq_of_accepted haccepted hnew
  rw [heq] at haccepted
  have hboth : (s.executeRequest request (itemsOf request)
      { request := request.request, dryRun := request.dryRun }
        answer).2.scheduleGeneration = s.publishedBy request ∧
      (s.executeRequest request (itemsOf request)
        { request := request.request, dryRun := request.dryRun } answer).1 =
        ((s.scheduledFor request (s.publishedBy request)).commitBatch request
          (s.publishedBy request) (s.planOf request)).1.recordRequest request
            (s.executeRequest request (itemsOf request)
              { request := request.request, dryRun := request.dryRun }
                answer).2 answer := by
    revert haccepted
    unfold executeRequest
    dsimp only
    rw [← planOf]
    unfold publishedBy scheduledFor
    cases hchange : (s.planOf request).anyChange with
    | false =>
        simp only [Bool.false_and, Bool.false_eq_true, if_false, hwet]
        exact fun _ => ⟨rfl, trivial⟩
    | true =>
        simp only [hwet, Bool.not_false, Bool.and_self, Bool.true_and,
          if_true, Bool.false_eq_true, if_false]
        split
        · intro haccepted
          cases haccepted
        · exact fun _ => ⟨rfl, rfl⟩
  exact ⟨hopen, hchecked, hfresh, by rw [heq]; exact hboth.1,
    by rw [heq]; exact hboth.2⟩

/-- The record that an executed request leaves. -/
def recordOf (request : PlacementRequest) (result : PlacementResult) :
    RequestRecord :=
  { request := request.request
    requestDigest := placementRequestDigest request
    resultDigest := result.digest
    scheduleGeneration := result.scheduleGeneration
    outcome := result.status }

/-- The number of recorded requests with a higher identity. -/
def newerRequests (s : Impl) (request : PlacementRequest) : Nat :=
  s.requests.toList.countP fun entry =>
    compare request.request entry.1 = .lt

theorem requests_recordRequest (s : Impl) (request : PlacementRequest)
    (result : PlacementResult) (answer : Status) :
    ∃ evictions, (s.recordRequest request result answer).requests =
      (evictOldest s.config.maxRequests
        (s.requests.insert request.request (recordOf request result)).size
        (s.requests.insert request.request (recordOf request result))
        evictions).1 := by
  unfold recordRequest
  dsimp only
  obtain ⟨counters, submitted, heq⟩ := persistLocked_fst
    (Impl.evictHistoryLocked { s with requests := _ }) answer
  rw [heq]
  exact ⟨_, rfl⟩

/-- The record is there afterwards unless too many others are newer. -/
theorem lookup_recordRequest {result : PlacementResult} {answer : Status}
    (hfresh : lookup s.requests request.request = none) :
    lookup (s.recordRequest request result answer).requests request.request =
      if s.newerRequests request < s.config.maxRequests then
        some (recordOf request result)
      else none := by
  obtain ⟨evictions, heq⟩ := requests_recordRequest s request result answer
  have hinserted : lookup (s.requests.insert request.request
      (recordOf request result)) request.request =
        some (recordOf request result) := by simp
  have hcount : (s.requests.insert request.request
      (recordOf request result)).toList.countP
        (fun entry => compare request.request entry.1 = .lt) =
          s.newerRequests request := by
    rw [(perm_toList_insert _ hfresh).countP_eq, List.countP_cons,
      newerRequests]
    simp [Std.ReflOrd.compare_self]
  have hkept : lookup (evictOldest s.config.maxRequests _ _ evictions).1
      request.request = some (recordOf request result) ↔ _ :=
    lookup_evictOldest_iff hinserted
  rw [hcount] at hkept
  rw [heq]
  split
  next hfew => exact hkept.mpr hfew
  next hmany =>
    cases hfound : lookup (evictOldest s.config.maxRequests _ _
      evictions).1 request.request with
    | none => rfl
    | some record =>
        have hsame := lookup_of_evictOldest hfound
        rw [hinserted, Option.some.injEq] at hsame
        subst hsame
        exact absurd (hkept.mp hfound) hmany

/-! ## Requests that move nothing -/

/-- The item, decided with nothing else planned, gets a new assignment. -/
def movesAlone (s : Impl) (request : PlacementRequest)
    (item : PlacementItem) : Bool :=
  match s.decideItem request {} item with
  | .refused _ _ => false
  | .accepted _ current chosen _ _ => !stickyOn s.policy current chosen

/-- A plan is read through its planned additions and releases only. -/
theorem decideItem_congr {plan : BatchPlan} (hadd : plan.plannedAdd = ∅)
    (hrelease : plan.plannedRelease = ∅) (item : PlacementItem) :
    s.decideItem request plan item = s.decideItem request {} item := by
  have htarget : ∀ id state,
      plannedTarget plan id state = plannedTarget {} id state := by
    intro id state
    unfold plannedTarget
    rw [hadd, hrelease]
  unfold decideItem decideFlow surveyTargets
  have hsurvey : ∀ flow current instant,
      s.surveyTarget plan flow current instant =
        s.surveyTarget {} flow current instant := by
    intro flow current instant
    funext survey entry
    unfold surveyTarget
    rw [htarget]
  simp only [hsurvey]

theorem anyChange_planItem (plan : BatchPlan) (item : PlacementItem)
    (h : plan.anyChange = true) :
    (s.planItem request plan item).anyChange = true := by
  unfold planItem
  cases s.decideItem request plan item with
  | refused placement reason => exact h
  | accepted flow current chosen fallback placement =>
      simp [BatchPlan.accept, h]

theorem anyChange_foldl_planItem (items : List PlacementItem)
    {plan : BatchPlan} (h : plan.anyChange = true) :
    (items.foldl (s.planItem request) plan).anyChange = true := by
  induction items generalizing plan with
  | nil => exact h
  | cons item items ih => exact ih (anyChange_planItem plan item h)

/-- As long as nothing moves, every item is decided as if it were alone. -/
theorem anyChange_foldl_planItem_iff (items : List PlacementItem)
    {plan : BatchPlan} (hadd : plan.plannedAdd = ∅)
    (hrelease : plan.plannedRelease = ∅) (hchange : plan.anyChange = false) :
    (items.foldl (s.planItem request) plan).anyChange = false ↔
      ∀ item ∈ items, s.movesAlone request item = false := by
  induction items generalizing plan with
  | nil => simp [hchange]
  | cons item items ih =>
      rw [List.foldl_cons, List.forall_mem_cons]
      have hdecide : s.decideItem request plan item =
          s.decideItem request {} item := decideItem_congr hadd hrelease item
      cases hdecision : s.decideItem request plan item with
      | refused placement reason =>
          have hstep : s.planItem request plan item =
              plan.refuse placement reason := by
            simp only [planItem, hdecision]
          have halone : s.movesAlone request item = false := by
            simp only [movesAlone, ← hdecide, hdecision]
          rw [hstep, halone, ih (by exact hadd) (by exact hrelease)
            (by exact hchange)]
          simp
      | accepted flow current chosen fallback placement =>
          have hstep : s.planItem request plan item =
              plan.accept s.policy flow current chosen fallback placement := by
            simp only [planItem, hdecision]
          have halone : s.movesAlone request item =
              !stickyOn s.policy current chosen := by
            simp only [movesAlone, ← hdecide, hdecision]
          rw [hstep, halone]
          cases hsticky : stickyOn s.policy current chosen with
          | true =>
              rw [ih]
              · simp
              · simp [BatchPlan.accept, hsticky, hadd]
              · cases current <;> simp [BatchPlan.accept, hsticky, hrelease]
              · simp [BatchPlan.accept, hsticky, hchange]
          | false =>
              rw [anyChange_foldl_planItem items (by
                simp [BatchPlan.accept, hsticky])]
              simp

theorem anyChange_planOf_iff :
    (s.planOf request).anyChange = false ↔
      ∀ item ∈ itemsOf request, s.movesAlone request item = false :=
  anyChange_foldl_planItem_iff _ rfl rfl rfl

/-! ## Submitting again -/

/-- What the checks of a request read, after one that published. -/
structure Continues (s t : Impl) (published : ScheduleGeneration) : Prop where
  isOpen : t.isOpen = s.isOpen
  config : t.config = s.config
  policyPresent : t.policyPresent = s.policyPresent
  policyGeneration : t.policyGeneration = s.policyGeneration
  schedule : t.scheduleGeneration = published

theorem continues_commitBatch (s : Impl) (request : PlacementRequest) :
    s.Continues ((s.scheduledFor request (s.publishedBy request)).commitBatch
      request (s.publishedBy request) (s.planOf request)).1
        (s.publishedBy request) ∧
    ((s.scheduledFor request (s.publishedBy request)).commitBatch
      request (s.publishedBy request) (s.planOf request)).1.requests =
        s.requests := by
  unfold commitBatch
  obtain ⟨assignments, holders, nextAssignment, nextRecommendation,
    recommendations, counters, heq⟩ := foldl_commitPending_eq request
      (s.publishedBy request) (s.planOf request).commits
      (s.scheduledFor request (s.publishedBy request),
        (s.planOf request).placements)
  rw [heq]
  unfold scheduledFor publishedBy
  cases (s.planOf request).anyChange with
  | true => exact ⟨⟨rfl, rfl, rfl, rfl, rfl⟩, rfl⟩
  | false => exact ⟨⟨rfl, rfl, rfl, rfl, rfl⟩, rfl⟩

theorem Continues.recordRequest {t : Impl} {published : ScheduleGeneration}
    (h : s.Continues t published) (request : PlacementRequest)
    (result : PlacementResult) (answer : Status) :
    s.Continues (t.recordRequest request result answer) published := by
  obtain ⟨requests, counters, submitted, heq⟩ :=
    recordRequest_eq t request result answer
  rw [heq]
  exact ⟨h.isOpen, h.config, h.policyPresent, h.policyGeneration, h.schedule⟩

/-- Of the checks that were passed only one can fail the second time. -/
theorem Continues.requestRefusal_eq_none_iff {t : Impl}
    {published : ScheduleGeneration} (h : s.Continues t published)
    (hpassed : s.requestRefusal request = none) :
    t.requestRefusal request = none ↔
      (request.baseScheduleGeneration.isValid = true →
        published = s.scheduleGeneration) := by
  have hcheck : ∀ (c : Prop) [Decidable c] (code : ReasonCode)
      (rest : Option ReasonCode),
      (if c then some code else rest) = none ↔ ¬ c ∧ rest = none := by
    intro c _ code rest
    split <;> simp_all
  unfold requestRefusal at hpassed ⊢
  rw [h.config, h.policyPresent, h.policyGeneration, h.schedule]
  simp only [hcheck] at hpassed ⊢
  obtain ⟨hvalid, hitems, hsize, hinstant, hpolicy, hgeneration, hbase,
    hdigest, -⟩ := hpassed
  have hpassed : request.baseScheduleGeneration.isValid = true →
      request.baseScheduleGeneration = s.scheduleGeneration := by
    simpa using hbase
  constructor
  · rintro ⟨-, -, -, -, -, -, hbase', -⟩ hnamed
    have hpublished : request.baseScheduleGeneration.isValid = true →
        request.baseScheduleGeneration = published := by
      simpa using hbase'
    rw [← hpublished hnamed, hpassed hnamed]
  · intro hsame
    refine ⟨hvalid, hitems, hsize, hinstant, hpolicy, hgeneration, ?_,
      hdigest, trivial⟩
    simp only [Bool.and_eq_true, decide_eq_true_eq, not_and, not_not]
    intro hnamed
    rw [hpassed hnamed, hsame hnamed]

theorem duplicate_executeRequest (s : Impl) (request : PlacementRequest)
    (items : List PlacementItem) (result : PlacementResult)
    (answer : Status) :
    (s.executeRequest request items result answer).2.duplicate =
      result.duplicate := by
  unfold executeRequest
  dsimp only
  generalize ((s.planBatch request items).anyChange && !request.dryRun) =
    changes
  cases changes with
  | false =>
      simp only [Bool.false_and, Bool.false_eq_true, if_false]
      split <;> rfl
  | true =>
      simp only [Bool.true_and, if_true]
      split
      · rfl
      · split <;> rfl

/-- A request is reported as a duplicate only where a record was found. -/
theorem recorded_of_duplicate {answer : Status}
    (h : (s.placeLocked request answer).2.duplicate = true) :
    s.requestRefusal request = none ∧
      lookup s.requests request.request ≠ none := by
  generalize hplaced : s.placeLocked request answer = placed at h
  unfold placeLocked at hplaced
  dsimp only at hplaced
  split at hplaced
  · subst hplaced
    cases h
  · split at hplaced
    · subst hplaced
      cases h
    next hchecked =>
      split at hplaced
      next record hrecord =>
        refine ⟨hchecked, ?_⟩
        rw [lookup, hrecord]
        simp
      · split at hplaced
        · subst hplaced
          cases h
        · rw [← hplaced, duplicate_executeRequest] at h
          cases h

/-- An executed request leaves its record, if the table has room for it. -/
theorem lookup_requests_of_executed {answer : Status}
    (hwet : request.dryRun = false)
    (haccepted : (s.placeLocked request answer).2.accepted = true)
    (hnew : (s.placeLocked request answer).2.duplicate = false) :
    lookup (s.placeLocked request answer).1.requests request.request =
      if s.newerRequests request < s.config.maxRequests then
        some (recordOf request (s.placeLocked request answer).2)
      else none := by
  obtain ⟨-, -, hfresh, -, hstate⟩ := executed_of_accepted hwet haccepted hnew
  obtain ⟨hcontinues, hrequests⟩ := continues_commitBatch s request
  rw [hstate, lookup_recordRequest (by rw [hrequests]; exact hfresh),
    hcontinues.config, newerRequests, hrequests]
  rfl

theorem placeLocked_of_recorded {record : RequestRecord} (answer : Status)
    (hopen : s.isOpen = true) (hchecked : s.requestRefusal request = none)
    (hrecord : lookup s.requests request.request = some record)
    (hdigest : record.requestDigest = placementRequestDigest request) :
    s.placeLocked request answer = s.replayRequest request record
      { request := request.request, dryRun := request.dryRun } := by
  have hfound : s.requests[request.request]? = some record := hrecord
  unfold placeLocked
  rw [hchecked, hfound]
  simp [hopen, hdigest]

/-- The second answer repeats the first, and nothing but the count changes. -/
structure Recognised (first second : Impl × PlacementResult) : Prop where
  accepted : second.2.accepted = true
  duplicate : second.2.duplicate = true
  schedule : second.2.scheduleGeneration = first.2.scheduleGeneration
  state : second.1 = { first.1 with
    counters.requestsDeduplicated :=
      saturatingIncrement first.1.counters.requestsDeduplicated }

/--
An executed request that is submitted again at once is recognised exactly when
it expects no schedule generation or moves no flow, and the table of requests
has room for its record below the newer ones.
-/
theorem resubmission_recognised_iff (s : Impl) (request : PlacementRequest)
    (answer again : Status) (hwet : request.dryRun = false)
    (haccepted : (s.placeLocked request answer).2.accepted = true)
    (hnew : (s.placeLocked request answer).2.duplicate = false) :
    Recognised (s.placeLocked request answer)
        ((s.placeLocked request answer).1.placeLocked request again) ↔
      (request.baseScheduleGeneration.isValid = true →
        ∀ item ∈ itemsOf request, s.movesAlone request item = false) ∧
      s.newerRequests request < s.config.maxRequests := by
  obtain ⟨hopen, hchecked, hfresh, hpublished, hstate⟩ :=
    executed_of_accepted hwet haccepted hnew
  obtain ⟨hcontinues, hrequests⟩ := continues_commitBatch s request
  have hafter := hcontinues.recordRequest request
    (s.placeLocked request answer).2 answer
  rw [← hstate] at hafter
  have hrefusal := hafter.requestRefusal_eq_none_iff hchecked
  have hpublishes : s.publishedBy request = s.scheduleGeneration ↔
      ∀ item ∈ itemsOf request, s.movesAlone request item = false := by
    rw [← anyChange_planOf_iff, publishedBy]
    cases (s.planOf request).anyChange with
    | false => simp
    | true =>
        simp only [if_true, Bool.true_eq_false, iff_false]
        intro heq
        have hvalue : s.scheduleGeneration.value + 1 =
            s.scheduleGeneration.value := congrArg TypedId.value heq
        simp at hvalue
  have hrecord := lookup_requests_of_executed hwet haccepted hnew
  rw [hpublishes] at hrefusal
  constructor
  · intro h
    obtain ⟨hpasses, hfound⟩ := recorded_of_duplicate h.duplicate
    refine ⟨hrefusal.mp hpasses, ?_⟩
    by_contra hmany
    rw [hrecord, if_neg hmany] at hfound
    exact hfound rfl
  · rintro ⟨hbase, hfew⟩
    rw [if_pos hfew] at hrecord
    have hreplayed := placeLocked_of_recorded again
      (hafter.isOpen.trans hopen) (hrefusal.mpr hbase) hrecord
      (by rw [recordOf])
    rw [hreplayed]
    exact ⟨rfl, rfl, rfl, rfl⟩

/-- A request that moves its flow and expects no schedule generation. -/
theorem plain_request_recognised :
    Recognised
      ((engine.run (init sampleConfig []) twinSetup).placeLocked
        (sampleRequest 1 1 [1]) committed)
      (((engine.run (init sampleConfig []) twinSetup).placeLocked
        (sampleRequest 1 1 [1]) committed).1.placeLocked
          (sampleRequest 1 1 [1]) committed) := by
  refine (resubmission_recognised_iff _ _ _ _ ?_ ?_ ?_).mpr ⟨?_, ?_⟩
  all_goals decide +kernel

/-- An engine at schedule generation 1, with a flow that is not placed. -/
def publishedOnce : Impl :=
  engine.run (init sampleConfig []) (twinSetup ++
    [.registerFlow (plainFlow 3 10) committed,
      .place (sampleRequest 1 1 [1]) committed])

/-- Its request expects the generation that it finds. -/
def expectingRequest : PlacementRequest :=
  { sampleRequest 2 1 [3] with baseScheduleGeneration := ⟨1⟩ }

/-- The generation that the first execution publishes refuses the second. -/
theorem expected_generation_not_recognised :
    expectingRequest.dryRun = false ∧
      (publishedOnce.placeLocked expectingRequest committed).2.accepted =
        true ∧
      (publishedOnce.placeLocked expectingRequest committed).2.duplicate =
        false ∧
      ¬ Recognised (publishedOnce.placeLocked expectingRequest committed)
        ((publishedOnce.placeLocked expectingRequest committed).1.placeLocked
          expectingRequest committed) := by
  refine ⟨rfl, by decide +kernel, by decide +kernel, ?_⟩
  intro h
  have hrefused : ((publishedOnce.placeLocked expectingRequest
      committed).1.placeLocked expectingRequest committed).2.accepted =
        false := by
    decide +kernel
  rw [h.accepted] at hrefused
  cases hrefused

end Impl

end FlowOffload

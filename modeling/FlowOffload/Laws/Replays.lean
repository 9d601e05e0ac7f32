import FlowOffload.Laws.Submission

/-!
# Replays

A request that was executed is answered from the committed schedule.  The
digest by which it is recognised is over its items in canonical order, but the
answer lists them as they were handed over.
-/

namespace FlowOffload

open Foundation
open Std (ExtTreeMap)

namespace Impl

variable {s : Impl} {request : PlacementRequest}

/-- The answer of a request that is not looked up. -/
def turnedAway (s : Impl) (request : PlacementRequest) : Option ReasonCode :=
  if s.isOpen then s.requestRefusal request
  else some .rejectedShuttingDown

/-- The flows of a request that are registered, in the order of its items. -/
def knownFlows (s : Impl) (request : PlacementRequest) : List FlowId :=
  (request.items.map PlacementItem.flow).filter fun flow =>
    (lookup s.flows flow).isSome

/-! ## The answer of a replay -/

/-- What a replay reports of a flow. -/
def replayOf (s : Impl) (flow : FlowId) : Option FlowPlacement :=
  (lookup s.flows flow).map (s.replayedPlacement { flow := flow })

theorem flow_replayedPlacement (item : PlacementItem)
    (flow : FlowDescriptor) :
    (s.replayedPlacement item flow).flow = item.flow := by
  unfold replayedPlacement
  dsimp only
  split <;> rfl

theorem replays_eq (items : List PlacementItem) :
    items.filterMap (fun item =>
        (s.flows[item.flow]?).map (s.replayedPlacement item)) =
      ((items.map PlacementItem.flow).filter fun flow =>
        (lookup s.flows flow).isSome).filterMap s.replayOf := by
  induction items with
  | nil => rfl
  | cons item items ih =>
      rw [List.map_cons, List.filterMap_cons, ih]
      cases hflow : lookup s.flows item.flow with
      | none =>
          have hfound : s.flows[item.flow]? = none := hflow
          simp [hfound, hflow]
      | some flow =>
          have hfound : s.flows[item.flow]? = some flow := hflow
          have hreplay : s.replayOf item.flow =
              some (s.replayedPlacement item flow) := by
            unfold replayOf
            rw [hflow]
            rfl
          simp [hfound, hflow, hreplay]

/-- A replay lists the registered flows as they were handed over. -/
theorem placements_replayRequest (record : RequestRecord)
    (result : PlacementResult) :
    (s.replayRequest request record result).2.placements =
      (s.knownFlows request).filterMap s.replayOf :=
  replays_eq request.items

theorem map_flow_filterMap_replayOf {flows : List FlowId}
    (h : ∀ flow ∈ flows, (lookup s.flows flow).isSome = true) :
    (flows.filterMap s.replayOf).map FlowPlacement.flow = flows := by
  induction flows with
  | nil => rfl
  | cons flow flows ih =>
      obtain ⟨hflow, hrest⟩ := List.forall_mem_cons.mp h
      obtain ⟨descriptor, hfound⟩ := Option.isSome_iff_exists.mp hflow
      have hreplay : s.replayOf flow =
          some (s.replayedPlacement { flow := flow } descriptor) := by
        unfold replayOf
        rw [hfound]
        rfl
      rw [List.filterMap_cons, hreplay, List.map_cons, ih hrest,
        flow_replayedPlacement]

theorem map_flow_replayRequest (record : RequestRecord)
    (result : PlacementResult) :
    (s.replayRequest request record result).2.placements.map
        FlowPlacement.flow = s.knownFlows request := by
  rw [placements_replayRequest]
  refine map_flow_filterMap_replayOf fun flow hflow => ?_
  exact (List.mem_filter.mp hflow).2

/-! ## Two submissions of one request -/

theorem placeLocked_of_turnedAway {code : ReasonCode} (answer : Status)
    (h : s.turnedAway request = some code) :
    (s.placeLocked request answer).2 =
      { request := request.request, dryRun := request.dryRun
        status := code } := by
  unfold turnedAway at h
  unfold placeLocked
  cases hopen : s.isOpen with
  | false =>
      rw [hopen] at h
      cases h
      rfl
  | true =>
      rw [hopen] at h
      have hchecked : s.requestRefusal request = some code := h
      rw [hchecked]
      rfl

theorem placeLocked_of_answered {record : RequestRecord} (answer : Status)
    (h : s.turnedAway request = none)
    (hrecord : lookup s.requests request.request = some record)
    (hdigest : record.requestDigest = placementRequestDigest request) :
    s.placeLocked request answer = s.replayRequest request record
      { request := request.request, dryRun := request.dryRun } := by
  unfold turnedAway at h
  cases hopen : s.isOpen with
  | false =>
      rw [hopen] at h
      cases h
  | true =>
      rw [hopen] at h
      exact placeLocked_of_recorded answer hopen h hrecord hdigest

/-- Both answers are the same, with each flow once and in canonical order. -/
structure AnsweredAlike (first second : PlacementResult) : Prop where
  same : first = second
  canonical : (first.placements.map FlowPlacement.flow).Pairwise (· < ·)

theorem replayRequest_eq_iff {a b : PlacementRequest}
    {record : RequestRecord} (hid : b.request = a.request) :
    (s.replayRequest a record
        { request := a.request, dryRun := a.dryRun }).2 =
      (s.replayRequest b record
        { request := b.request, dryRun := b.dryRun }).2 ↔
      a.dryRun = b.dryRun ∧ s.knownFlows a = s.knownFlows b := by
  constructor
  · intro h
    refine ⟨?_, ?_⟩
    · exact congrArg PlacementResult.dryRun h
    · rw [← map_flow_replayRequest record _, h, map_flow_replayRequest]
  · rintro ⟨hdry, hflows⟩
    have hplacements : a.items.filterMap (fun item =>
          (s.flows[item.flow]?).map (s.replayedPlacement item)) =
        b.items.filterMap (fun item =>
          (s.flows[item.flow]?).map (s.replayedPlacement item)) := by
      rw [replays_eq, replays_eq]
      exact congrArg (List.filterMap s.replayOf) hflows
    unfold replayRequest
    dsimp only
    rw [hplacements, hid, hdry]

/--
Two submissions of a recorded request are answered alike exactly when neither
or both are turned away, and their registered flows come in the same order,
which is the canonical one, without repetition.
-/
theorem replays_alike_iff (s : Impl) (a b : PlacementRequest)
    (answer again : Status) (record : RequestRecord)
    (hid : b.request = a.request)
    (hrecord : lookup s.requests a.request = some record)
    (hdigest : record.requestDigest = placementRequestDigest a)
    (hsame : placementRequestDigest a = placementRequestDigest b) :
    AnsweredAlike (s.placeLocked a answer).2 (s.placeLocked b again).2 ↔
      a.dryRun = b.dryRun ∧ s.turnedAway a = s.turnedAway b ∧
        (s.turnedAway a = none → s.knownFlows a = s.knownFlows b ∧
          (s.knownFlows a).Pairwise (· < ·)) := by
  have hrecord' : lookup s.requests b.request = some record := by
    rw [hid]
    exact hrecord
  have hdigest' := hdigest.trans hsame
  cases ha : s.turnedAway a with
  | some code =>
      have hfirst := placeLocked_of_turnedAway answer ha
      cases hb : s.turnedAway b with
      | some other =>
          have hsecond := placeLocked_of_turnedAway again hb
          rw [hfirst, hsecond, hid]
          constructor
          · intro h
            have hcode := congrArg PlacementResult.status h.same
            have hdry := congrArg PlacementResult.dryRun h.same
            exact ⟨hdry, congrArg some hcode, nofun⟩
          · rintro ⟨hdry, hcode, -⟩
            cases hcode
            exact ⟨by rw [hdry], List.Pairwise.nil⟩
      | none =>
          have hsecond := placeLocked_of_answered again hb hrecord' hdigest'
          rw [hfirst, hsecond]
          constructor
          · intro h
            have hduplicate := congrArg PlacementResult.duplicate h.same
            cases hduplicate
          · rintro ⟨-, hcode, -⟩
            cases hcode
  | none =>
      have hfirst := placeLocked_of_answered answer ha hrecord hdigest
      cases hb : s.turnedAway b with
      | some other =>
          have hsecond := placeLocked_of_turnedAway again hb
          rw [hfirst, hsecond]
          constructor
          · intro h
            have hduplicate := congrArg PlacementResult.duplicate h.same
            cases hduplicate
          · rintro ⟨-, hcode, -⟩
            cases hcode
      | none =>
          have hsecond := placeLocked_of_answered again hb hrecord' hdigest'
          rw [hfirst, hsecond]
          constructor
          · intro h
            obtain ⟨hdry, hflows⟩ := (replayRequest_eq_iff hid).mp h.same
            have hcanonical := h.canonical
            rw [map_flow_replayRequest] at hcanonical
            exact ⟨hdry, rfl, fun _ => ⟨hflows, hcanonical⟩⟩
          · rintro ⟨hdry, -, hlisted⟩
            obtain ⟨hflows, hcanonical⟩ := hlisted rfl
            refine ⟨(replayRequest_eq_iff hid).mpr ⟨hdry, hflows⟩, ?_⟩
            rw [map_flow_replayRequest]
            exact hcanonical

/-- An engine that has executed a request for two flows. -/
def placedTwins : Impl :=
  engine.run (init sampleConfig [])
    (twinSetup ++ [.place (sampleRequest 1 1 [1, 2]) committed])

/-- The request as it was, submitted twice more. -/
theorem ordered_replays_alike :
    AnsweredAlike
      (placedTwins.placeLocked (sampleRequest 1 1 [1, 2]) committed).2
      (placedTwins.placeLocked (sampleRequest 1 1 [1, 2]) committed).2 := by
  obtain ⟨haccepted, hnew, hroom⟩ :
      ((engine.run (init sampleConfig []) twinSetup).placeLocked
          (sampleRequest 1 1 [1, 2]) committed).2.accepted = true ∧
        ((engine.run (init sampleConfig []) twinSetup).placeLocked
          (sampleRequest 1 1 [1, 2]) committed).2.duplicate = false ∧
        (engine.run (init sampleConfig []) twinSetup).newerRequests
          (sampleRequest 1 1 [1, 2]) <
            (engine.run (init sampleConfig []) twinSetup).config.maxRequests := by
    decide +kernel
  have hrecord := lookup_requests_of_executed rfl haccepted hnew
  have hplaced : placedTwins = ((engine.run (init sampleConfig [])
      twinSetup).placeLocked (sampleRequest 1 1 [1, 2]) committed).1 := by
    unfold placedTwins
    rw [Machine.run_append, Machine.run_cons, Machine.run_nil]
    generalize engine.run (init sampleConfig []) twinSetup = ready
    rfl
  rw [if_pos hroom, ← hplaced] at hrecord
  generalize (engine.run (init sampleConfig []) twinSetup).placeLocked
    (sampleRequest 1 1 [1, 2]) committed = executed at hrecord
  refine (replays_alike_iff placedTwins (sampleRequest 1 1 [1, 2])
    (sampleRequest 1 1 [1, 2]) committed committed
    (recordOf (sampleRequest 1 1 [1, 2]) executed.2) rfl hrecord rfl
      rfl).mpr ⟨rfl, rfl, fun _ => ⟨rfl, ?_⟩⟩
  decide +kernel

/-- The request with its items the other way round has the same digest, and
lists them the other way round. -/
theorem reversed_replay_differs :
    (placedTwins.requests[(⟨1⟩ : RequestId)]?.any fun record =>
        record.requestDigest =
          placementRequestDigest (sampleRequest 1 1 [1, 2])) = true ∧
      placementRequestDigest (sampleRequest 1 1 [1, 2]) =
        placementRequestDigest (sampleRequest 1 1 [2, 1]) ∧
      ¬ AnsweredAlike
        (placedTwins.placeLocked (sampleRequest 1 1 [1, 2]) committed).2
        (placedTwins.placeLocked (sampleRequest 1 1 [2, 1]) committed).2 := by
  obtain ⟨hrecord, hdigest, hdiffer⟩ :
      (placedTwins.requests[(⟨1⟩ : RequestId)]?.any fun record =>
          record.requestDigest =
            placementRequestDigest (sampleRequest 1 1 [1, 2])) = true ∧
        placementRequestDigest (sampleRequest 1 1 [1, 2]) =
          placementRequestDigest (sampleRequest 1 1 [2, 1]) ∧
        (placedTwins.placeLocked (sampleRequest 1 1 [1, 2])
            committed).2.placements.map FlowPlacement.flow ≠
          (placedTwins.placeLocked (sampleRequest 1 1 [2, 1])
            committed).2.placements.map FlowPlacement.flow := by
    decide +kernel
  refine ⟨hrecord, hdigest, ?_⟩
  intro h
  exact hdiffer (congrArg (fun result : PlacementResult =>
    result.placements.map FlowPlacement.flow) h.same)

end Impl

end FlowOffload

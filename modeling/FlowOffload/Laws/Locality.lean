import FlowOffload.Laws.Batches
import FlowOffload.Laws.Reported

/-!
# Locality

A flow is placed next to where its anchor is assigned before the batch.  The
schedule that the batch publishes has them together as long as the batch does
not take the anchor elsewhere, and a device that both are on is a device.
-/

namespace FlowOffload

open Foundation
open Std (ExtTreeMap)

namespace Impl

variable {s t : Impl} {request : PlacementRequest} {p : FlowPlacement}
  {answer : Status} {flow : FlowDescriptor}

/-- The target that a flow is assigned to. -/
def homeOf (s : Impl) (flow : FlowId) : Option TargetDescriptor :=
  (s.assignments[flow]?).bind fun a =>
    (s.targets[a.target]?).map TargetState.descriptor

/-- What the locality of a flow asks of its target and its anchor's. -/
structure Near (flow : FlowDescriptor) (own anchor : TargetDescriptor) :
    Prop where
  host : flow.locality = .sameHostAsFlow → own.host = anchor.host
  device : flow.locality = .sameDeviceAsFlow →
    own.device.isValid = true ∧ own.device = anchor.device

/-- The schedule has the flow where its locality asks for it. -/
def HasLocality (s : Impl) (flow : FlowDescriptor) : Prop :=
  ∃ own anchor, s.homeOf flow.flow = some own ∧
    s.homeOf flow.localityAnchor = some anchor ∧ Near flow own anchor

/-- The anchor is on a device, if a device is asked for, and the batch takes
it to no other host or device. -/
def AnchorHolds (s : Impl) (request : PlacementRequest)
    (flow : FlowDescriptor) : Prop :=
  ∀ old ∈ s.homeOf flow.localityAnchor,
    (flow.locality = .sameDeviceAsFlow → old.device.isValid = true) ∧
    ∀ pending ∈ s.replacements request,
      pending.flow = flow.localityAnchor →
      ∀ new ∈ s.targets[pending.target]?,
        (flow.locality = .sameHostAsFlow →
          new.descriptor.host = old.host) ∧
        (flow.locality = .sameDeviceAsFlow →
          new.descriptor.device = old.device)

theorem hasLocality_iff_near {own anchor : TargetDescriptor}
    (hown : s.homeOf flow.flow = some own)
    (hanchor : s.homeOf flow.localityAnchor = some anchor) :
    s.HasLocality flow ↔ Near flow own anchor := by
  constructor
  · rintro ⟨own', anchor', hown', hanchor', hnear⟩
    rw [hown, Option.some.injEq] at hown'
    rw [hanchor, Option.some.injEq] at hanchor'
    subst hown' hanchor'
    exact hnear
  · exact fun hnear => ⟨own, anchor, hown, hanchor, hnear⟩

/-! ## What was checked -/

theorem near_of_localityRefusal {descriptor : TargetDescriptor}
    (hlocal : flow.locality ≠ .none)
    (h : s.localityRefusal flow descriptor = none) :
    flow.localityAnchor ≠ flow.flow ∧
      ∃ old, s.homeOf flow.localityAnchor = some old ∧
        (flow.locality = .sameHostAsFlow → old.host = descriptor.host) ∧
        (flow.locality = .sameDeviceAsFlow →
          old.device = descriptor.device) := by
  unfold localityRefusal at h
  rw [if_neg hlocal, passes_iff] at h
  refine ⟨h.1, ?_⟩
  have hrest := h.2
  unfold homeOf
  cases hanchor : s.assignments[flow.localityAnchor]? with
  | none =>
      rw [hanchor] at hrest
      cases hrest
  | some anchor =>
      rw [hanchor] at hrest
      dsimp only at hrest
      cases htarget : s.targets[anchor.target]? with
      | none =>
          rw [htarget] at hrest
          cases hrest
      | some state =>
          rw [htarget] at hrest
          simp only [passes_iff, and_true] at hrest
          refine ⟨state.descriptor, ?_, ?_, ?_⟩
          · rw [Option.bind_some, htarget, Option.map_some]
          · intro hhost
            simpa [hhost] using hrest.1
          · intro hdevice
            simpa [hdevice] using hrest.2

/-! ## Seats -/

theorem homeOf_eq (s : Impl) (flow : FlowId) :
    s.homeOf flow = (lookup (seats s.assignments) flow).bind fun id =>
      s.ledger.target id := by
  unfold homeOf seats
  rw [lookup_map, Option.bind_map]
  rfl

theorem target_of_sameTargets (h : s.SameTargets t) (id : TargetId) :
    t.ledger.target id = s.ledger.target id := by
  have hdescriptor := congrArg (Option.map TargetState.descriptor) (h id)
  rw [Option.map_map, Option.map_map] at hdescriptor
  exact hdescriptor

/-- The seat of a flow that the batch places anew. -/
theorem lookup_seatsAfter_of_mem {commits : List PendingCommit}
    {pending : PendingCommit}
    (hnodup : (commits.map PendingCommit.flow).Nodup)
    (hmem : pending ∈ commits) :
    lookup (s.seatsAfter commits) pending.flow =
      if pending.retained then lookup (seats s.assignments) pending.flow
      else some pending.target := by
  obtain ⟨before, after, rfl⟩ := List.append_of_mem hmem
  rw [List.map_append, List.map_cons, List.nodup_append,
    List.nodup_cons] at hnodup
  obtain ⟨-, ⟨hafter, -⟩, hbefore⟩ := hnodup
  have hkept : ∀ (commits : List PendingCommit)
      (taken : ExtTreeMap FlowId TargetId),
      pending.flow ∉ commits.map PendingCommit.flow →
        lookup (commits.foldl takeSeat taken) pending.flow =
          lookup taken pending.flow := by
    intro commits
    induction commits with
    | nil => exact fun _ _ => rfl
    | cons other commits ih =>
        intro taken hother
        simp only [List.map_cons, List.mem_cons, not_or] at hother
        rw [List.foldl_cons, ih _ hother.2, takeSeat]
        split
        · rfl
        · rw [lookup_insert, Function.update_of_ne hother.1]
  have hfirst := hkept before (seats s.assignments) fun hin =>
    hbefore _ hin _ List.mem_cons_self rfl
  unfold seatsAfter
  rw [List.foldl_append, List.foldl_cons, hkept after _ hafter, takeSeat]
  split
  · exact hfirst
  · rw [lookup_insert, Function.update_self]

/-- The targets of a plan are known. -/
theorem target_of_mem_commits (hkeyed : s.ledger.Keyed)
    {pending : PendingCommit} (h : pending ∈ (s.planOf request).commits) :
    ∃ state, lookup s.targets pending.target = some state := by
  obtain ⟨before, item, after, -, hplanned⟩ := planned_of_mem_commits h
  obtain ⟨flow, current, chosen, haccepts, -, -, htarget, -⟩ :=
    hplanned.accepted
  obtain ⟨id, state, hfound, -, hdescribes⟩ := haccepts.exists_target
  have hid := targets_of_keyed hkeyed id state hfound
  rw [htarget, hdescribes.target, hid]
  exact ⟨state, hfound⟩

/-- Where a flow is once the batch is committed. -/
theorem homeOf_of_committed (hkeyed : s.ledger.Keyed)
    (h : s.Committed request answer t) (k : FlowId) :
    (t.homeOf k = s.homeOf k ∧
      ∀ pending ∈ s.replacements request, pending.flow ≠ k) ∨
    ∃ pending ∈ s.replacements request, pending.flow = k ∧
      ∃ state, lookup s.targets pending.target = some state ∧
        t.homeOf k = some state.descriptor := by
  have hnodup := nodup_flow_commits hkeyed request
  have hsame := target_of_sameTargets h.sameTargets
  rw [homeOf_eq, homeOf_eq, h.seats.2]
  simp only [hsame]
  by_cases hin : ∃ pending ∈ (s.planOf request).commits, pending.flow = k
  · obtain ⟨pending, hpending, rfl⟩ := hin
    rw [lookup_seatsAfter_of_mem hnodup hpending]
    cases hretained : pending.retained with
    | true =>
        refine Or.inl ⟨by simp, ?_⟩
        intro other hother hflow
        obtain ⟨hmem, hreplaces⟩ := List.mem_filter.mp hother
        have hsame := List.inj_on_of_nodup_map hnodup hmem hpending hflow
        rw [hsame, hretained] at hreplaces
        cases hreplaces
    | false =>
        obtain ⟨state, hfound⟩ := target_of_mem_commits hkeyed hpending
        refine Or.inr ⟨pending, ?_, rfl, state, hfound, ?_⟩
        · exact List.mem_filter.mpr ⟨hpending, by simp [hretained]⟩
        · exact ledger_target_of_lookup hfound
  · simp only [not_exists, not_and] at hin
    rw [lookup_seatsAfter s hin]
    exact Or.inl ⟨rfl, fun pending hpending =>
      hin pending (List.mem_of_mem_filter hpending)⟩

/-- An accepted flow is on the target that is reported. -/
theorem homeOf_of_accepted (hkeyed : s.ledger.Keyed)
    (hwet : request.dryRun = false)
    (haccepted : (s.placeLocked request answer).2.accepted = true)
    (hnew : (s.placeLocked request answer).2.duplicate = false)
    (hmem : p ∈ (s.placeLocked request answer).2.placements)
    (hplaced : p.accepted = true)
    (hcommitted : s.Committed request answer
      (s.placeLocked request answer).1)
    {chosen : CandidateView} (hchosen : s.Chosen request p flow chosen)
    {state : TargetState} (hfound : lookup s.targets p.target = some state) :
    (s.placeLocked request answer).1.homeOf p.flow =
      some state.descriptor := by
  obtain ⟨pending, hpending, hannounces, -⟩ :=
    announced_of_placeLocked hkeyed hwet haccepted hnew hmem hplaced
  rcases homeOf_of_committed hkeyed hcommitted p.flow with
    ⟨hsame, hnone⟩ | ⟨other, hother, hflow, new, hnew, hhome⟩
  · have hretained : p.retained = true := by
      rw [hannounces.retained]
      by_contra hreplaced
      refine hnone pending ?_ hannounces.flow.symm
      exact List.mem_filter.mpr ⟨hpending, by simpa using hreplaced⟩
    have hsticky := hchosen.retained.symm.trans hretained
    rw [hkeyed.flow _ _ hchosen.registered] at hsticky
    rw [hsame]
    cases ha : lookup s.assignments p.flow with
    | none =>
        rw [ha] at hsticky
        cases hsticky
    | some a =>
        rw [ha] at hsticky
        simp only [stickyOn, Bool.and_eq_true, decide_eq_true_eq] at hsticky
        have hassigned : s.assignments[p.flow]? = some a := ha
        have hget : s.targets[a.target]? = some state := by
          rw [hsticky.1.2, ← hchosen.target]
          exact hfound
        rw [homeOf, hassigned, Option.bind_some, hget, Option.map_some]
  · have hpair : other = pending :=
      List.inj_on_of_nodup_map (nodup_flow_commits hkeyed request)
        (List.mem_of_mem_filter hother) hpending
        (hflow.trans hannounces.flow)
    rw [hpair, ← hannounces.target, hfound, Option.some.injEq] at hnew
    rw [hhome, hnew]

theorem hasLocality_iff (hkeyed : s.ledger.Keyed)
    (hwet : request.dryRun = false)
    (haccepted : (s.placeLocked request answer).2.accepted = true)
    (hnew : (s.placeLocked request answer).2.duplicate = false)
    (hmem : p ∈ (s.placeLocked request answer).2.placements)
    (hplaced : p.accepted = true)
    (hflow : lookup s.flows p.flow = some flow)
    (hlocal : flow.locality ≠ .none) :
    (s.placeLocked request answer).1.HasLocality flow ↔
      s.AnchorHolds request flow := by
  have hexecuted := executed_of_accepted hwet haccepted hnew
  have hcommitted : s.Committed request answer
      (s.placeLocked request answer).1 := ⟨_, _, hexecuted.state⟩
  obtain ⟨registered, chosen, hchosen⟩ :=
    chosen_of_placeLocked hmem hnew hplaced
  have hsame : registered = flow :=
    Option.some.inj (hchosen.registered.symm.trans hflow)
  subst hsame
  obtain ⟨state, own, hfound, hcandidate, -⟩ :=
    hchosen.evaluated (targets_of_keyed hkeyed)
  have hhome := homeOf_of_accepted hkeyed hwet haccepted hnew hmem hplaced
    hcommitted hchosen hfound
  have hchecked : s.localityRefusal registered state.descriptor = none :=
    (admitted_of_evaluateTargetLocked
      (candidate_of_candidateOf hcandidate).eligible).2.2
  obtain ⟨-, old, hold, hhost, hdevice⟩ :=
    near_of_localityRefusal hlocal hchecked
  have hanchor := homeOf_of_committed hkeyed hcommitted
    registered.localityAnchor
  rw [← hkeyed.flow _ _ hchosen.registered] at hhome
  generalize (s.placeLocked request answer).1 = t at hhome hanchor ⊢
  unfold AnchorHolds
  rw [hold]
  simp only [Option.mem_def, Option.some.injEq, forall_eq']
  rcases hanchor with ⟨hstays, hnone⟩ | ⟨pending, hpending, hmoves, new,
    hknown, hafter⟩
  · rw [hasLocality_iff_near hhome (hstays.trans hold)]
    constructor
    · intro hnear
      refine ⟨fun hkind => ?_, fun pending hpending hmoves => ?_⟩
      · rw [hdevice hkind]
        exact (hnear.device hkind).1
      · exact absurd hmoves (hnone pending hpending)
    · rintro ⟨hvalid, -⟩
      refine ⟨fun hkind => (hhost hkind).symm, fun hkind => ?_⟩
      rw [← hdevice hkind]
      exact ⟨hvalid hkind, rfl⟩
  · rw [hasLocality_iff_near hhome hafter]
    constructor
    · intro hnear
      refine ⟨fun hkind => ?_, fun other hother hflow target htarget => ?_⟩
      · rw [hdevice hkind]
        exact (hnear.device hkind).1
      · have hpair : other = pending :=
          List.inj_on_of_nodup_map (nodup_flow_commits hkeyed request)
            (List.mem_of_mem_filter hother)
            (List.mem_of_mem_filter hpending) (hflow.trans hmoves.symm)
        have htarget : lookup s.targets other.target = some target := htarget
        rw [hpair, hknown, Option.some.injEq] at htarget
        subst htarget
        refine ⟨fun hkind => ?_, fun hkind => ?_⟩
        · rw [hhost hkind]
          exact (hnear.host hkind).symm
        · rw [hdevice hkind]
          exact (hnear.device hkind).2.symm
    · rintro ⟨hvalid, hmoved⟩
      obtain ⟨hsameHost, hsameDevice⟩ :=
        hmoved pending hpending hmoves new hknown
      refine ⟨fun hkind => ?_, fun hkind => ?_⟩
      · rw [hsameHost hkind, hhost hkind]
      · rw [hsameDevice hkind, ← hdevice hkind]
        exact ⟨hvalid hkind, rfl⟩

/--
A flow that a batch accepts has, in the schedule that the batch publishes, the
place that its locality asks for, exactly when its anchor stays on its host or
device, and that device is one.
-/
theorem locality_holds_iff (config : EngineConfig) (inputs : List Op)
    (h : engine.Admits (fun _ _ => True) (init config []) inputs)
    (request : PlacementRequest) (answer : Status) (p : FlowPlacement)
    (flow : FlowDescriptor)
    (hwet : request.dryRun = false)
    (haccepted : ((engine.run (init config []) inputs).placeLocked request
      answer).2.accepted = true)
    (hnew : ((engine.run (init config []) inputs).placeLocked request
      answer).2.duplicate = false)
    (hmem : p ∈ ((engine.run (init config []) inputs).placeLocked request
      answer).2.placements)
    (hplaced : p.accepted = true)
    (hflow : lookup (engine.run (init config []) inputs).flows p.flow =
      some flow)
    (hlocal : flow.locality ≠ .none) :
    ((engine.run (init config []) inputs).placeLocked request
        answer).1.HasLocality flow ↔
      (engine.run (init config []) inputs).AnchorHolds request flow :=
  hasLocality_iff (keyed_of_run h) hwet haccepted hnew hmem hplaced hflow
    hlocal

/-! ## Runs -/

/-- A flow that wants to be on the host of flow 1. -/
def anchoredFlow : FlowDescriptor :=
  { plainFlow 2 10 with
    locality := .sameHostAsFlow
    localityAnchor := ⟨1⟩ }

/-- Flow 1 is on an expensive host when another one is declared. -/
def anchorPlaced : List Op :=
  [.openEngine {} committed, .setPolicy (samplePolicy false) committed,
    .declareTarget { sampleHost 1 with costClass := .premium } committed,
    .registerFlow (plainFlow 1 10) committed,
    .place (sampleRequest 1 1 [1]) committed,
    .declareTarget (sampleHost 2) committed,
    .registerFlow anchoredFlow committed]

example : (engine.run (init sampleConfig [])
    anchorPlaced).counters.placementsAccepted = 1 := by
  decide +kernel

/-- The flow is placed alone, next to its anchor. -/
theorem anchored_flow_is_near :
    ((engine.run (init sampleConfig []) anchorPlaced).placeLocked
      (sampleRequest 2 1 [2]) committed).1.HasLocality anchoredFlow := by
  have hadmits : engine.Admits (fun _ _ => True) (init sampleConfig [])
      anchorPlaced := by decide +kernel
  have hiff := locality_holds_iff sampleConfig anchorPlaced hadmits
    (sampleRequest 2 1 [2]) committed
  generalize hbefore : engine.run (init sampleConfig []) anchorPlaced = s
    at hiff ⊢
  have hall : (∃ p ∈ (s.placeLocked (sampleRequest 2 1 [2])
        committed).2.placements, p.accepted = true ∧ p.flow = ⟨2⟩) ∧
      ((s.replacements (sampleRequest 2 1 [2])).all fun pending =>
        pending.flow ≠ anchoredFlow.localityAnchor) = true ∧
      (s.placeLocked (sampleRequest 2 1 [2]) committed).2.accepted = true ∧
      (s.placeLocked (sampleRequest 2 1 [2]) committed).2.duplicate = false ∧
      lookup s.flows ⟨2⟩ = some anchoredFlow := by
    rw [← hbefore]
    decide +kernel
  obtain ⟨⟨p, hmem, hplaced, hid⟩, hnone, haccepted, hnew, hflow⟩ := hall
  rw [List.all_eq_true] at hnone
  rw [← hid] at hflow
  refine (hiff p anchoredFlow rfl haccepted hnew hmem hplaced hflow
    (by decide)).mpr ?_
  · intro old _
    refine ⟨nofun, fun pending hpending hflow => ?_⟩
    exact absurd hflow (by simpa using hnone pending hpending)

/-- One batch takes the anchor to the cheaper host and the flow to the host
that the anchor has left. -/
theorem anchor_moves_away :
    engine.Admits (fun _ _ => True) (init sampleConfig []) anchorPlaced ∧
      ((engine.run (init sampleConfig []) anchorPlaced).placeLocked
        (sampleRequest 2 1 [1, 2]) committed).2.accepted = true ∧
      (((engine.run (init sampleConfig []) anchorPlaced).placeLocked
        (sampleRequest 2 1 [1, 2]) committed).2.placements.all fun p =>
          p.accepted) = true ∧
      ¬ ((engine.run (init sampleConfig []) anchorPlaced).placeLocked
        (sampleRequest 2 1 [1, 2]) committed).1.HasLocality anchoredFlow := by
  refine ⟨by decide +kernel, ?_⟩
  generalize hbefore : engine.run (init sampleConfig []) anchorPlaced = s
  have hall : (s.placeLocked (sampleRequest 2 1 [1, 2]) committed).2.accepted =
        true ∧
      ((s.placeLocked (sampleRequest 2 1 [1, 2]) committed).2.placements.all
        fun p => p.accepted) = true ∧
      (((s.placeLocked (sampleRequest 2 1 [1, 2]) committed).1.homeOf ⟨2⟩).map
          TargetDescriptor.host,
        ((s.placeLocked (sampleRequest 2 1 [1, 2]) committed).1.homeOf ⟨1⟩).map
          TargetDescriptor.host) = (some ⟨1⟩, some ⟨2⟩) := by
    rw [← hbefore]
    decide +kernel
  obtain ⟨haccepted, heach, hhosts⟩ := hall
  refine ⟨haccepted, heach, ?_⟩
  rintro ⟨own, anchor, hown, hanchor, hnear⟩
  have hown' : (s.placeLocked (sampleRequest 2 1 [1, 2]) committed).1.homeOf
      ⟨2⟩ = some own := hown
  have hanchor' : (s.placeLocked (sampleRequest 2 1 [1, 2])
      committed).1.homeOf ⟨1⟩ = some anchor := hanchor
  rw [hown', hanchor'] at hhosts
  simp only [Option.map_some, Prod.mk.injEq, Option.some.injEq] at hhosts
  have hsame := hnear.host rfl
  rw [hhosts.1, hhosts.2] at hsame
  revert hsame
  decide

end Impl

end FlowOffload

import FlowOffload.Laws.Attempts

/-!
# Moves of stateful processing

A stateful flow changes its target when a migration completes, and then under
a contract that was found safe.  Placement does not ask for one: the condition
below keeps every stateful flow of a batch where it is, and makes the state
that an opening recovers agree with the one in memory.
-/

namespace FlowOffload

open Foundation

namespace Impl

/-- The contract that covers an attempt, and what it was checked for. -/
structure MovesUnder (s : Impl) (intent : MigrationIntent)
    (flow : FlowId) (before after : Assignment)
    (contract : MigrationContract) : Prop where
  registered : lookup s.contracts intent.contract = some contract
  safe : contractIsSafeForStateful contract = true
  statefulness : contract.statefulness = .stateful
  flow : contract.flow = flow
  generation : contract.flowGeneration = before.flowGeneration
  target : contract.destinationTarget = after.target
  incarnation : contract.destinationIncarnation = after.incarnation
  capability : contract.destinationCapabilityGeneration =
    after.capabilityGeneration

/-- The observation completes an attempt that moves the flow. -/
def CompletesMove (s : Impl) (op : Op) (flow : FlowId)
    (before after : Assignment) : Prop :=
  ∃ observation answer, op = .observe observation answer ∧
    ∃ k record ended contract, lookup s.migrations k = some record ∧
      record.inFlight = true ∧
      lookup (s.step op).migrations k = some ended ∧
      ended.intent.phase = .completed ∧ record.intent.flow = flow ∧
      s.MovesUnder record.intent flow before after contract

/-- The operation moves stateful flows only by completing a migration. -/
def MovesOnlyUnderContract (s : Impl) (op : Op) : Prop :=
  ∀ k flow before after, lookup s.flows k = some flow →
    flow.statefulness = .stateful → lookup s.assignments k = some before →
    lookup (s.step op).assignments k = some after →
    after.flowGeneration = before.flowGeneration →
    after.target ≠ before.target → s.CompletesMove op k before after

/-! ## What keeps a flow in place -/

/-- The best candidate of the flow is on its current target, or it is a
fallback that the policy does not allow. -/
def KeepsTarget (s : Impl) (request : PlacementRequest) (plan : BatchPlan)
    (flow : FlowDescriptor) (a : Assignment) : Prop :=
  ∀ candidate ∈ (s.surveyTargets plan flow (some a)
      request.evaluationInstant).ranked,
    Best (s.surveyTargets plan flow (some a) request.evaluationInstant).ranked
      candidate →
    Offered s.policy candidate → candidate.view.target = a.target

instance (s : Impl) (request : PlacementRequest) (plan : BatchPlan)
    (flow : FlowDescriptor) (a : Assignment) :
    Decidable (s.KeepsTarget request plan flow a) :=
  inferInstanceAs (Decidable (∀ candidate ∈ (s.surveyTargets plan flow
    (some a) request.evaluationInstant).ranked, _))

/-- A stateful flow that is placed is refused by name or keeps its target. -/
def ItemStays (s : Impl) (request : PlacementRequest) (plan : BatchPlan)
    (item : PlacementItem) : Prop :=
  ∀ flow ∈ s.flows[item.flow]?, flow.statefulness = .stateful →
    ∀ a ∈ s.assignments[item.flow]?,
      (item.flowGeneration.isValid = true ∧
        item.flowGeneration ≠ flow.generation) ∨
      s.conflictingHolder flow ≠ none ∨ s.KeepsTarget request plan flow a

instance (s : Impl) (request : PlacementRequest) (plan : BatchPlan)
    (item : PlacementItem) : Decidable (s.ItemStays request plan item) :=
  inferInstanceAs (Decidable (∀ flow ∈ s.flows[item.flow]?, _))

/-- Each item of a batch, against what the items before it have planned. -/
def BatchStays (s : Impl) (request : PlacementRequest) :
    BatchPlan → List PlacementItem → Prop
  | _, [] => True
  | plan, item :: items =>
      s.ItemStays request plan item ∧
        s.BatchStays request (s.planItem request plan item) items

instance instDecidableBatchStays (s : Impl) (request : PlacementRequest) :
    ∀ plan items, Decidable (s.BatchStays request plan items)
  | _, [] => isTrue trivial
  | plan, item :: items =>
      have := instDecidableBatchStays s request
        (s.planItem request plan item) items
      inferInstanceAs (Decidable (_ ∧ _))

/-- The recovered state has every stateful flow where it is in memory. -/
def AgreesOnTargets (s : Impl) (state : DurableState) : Prop :=
  ∀ a ∈ state.assignments, ∀ flow ∈ s.flows[a.flow]?,
    flow.statefulness = .stateful → ∀ old ∈ s.assignments[a.flow]?,
      old.flowGeneration = a.flowGeneration → a.target = old.target

instance (s : Impl) (state : DurableState) :
    Decidable (s.AgreesOnTargets state) :=
  inferInstanceAs (Decidable (∀ a ∈ state.assignments, _))

/-- Placement and recovery leave stateful flows on their targets. -/
def LeavesStateful (s : Impl) (op : Op) : Prop :=
  (∀ request ∈ s.wetRequest op,
      s.BatchStays request s.initialPlan (itemsOf request)) ∧
    (s.isOpen = false → ∀ state ∈ op.recovered, s.AgreesOnTargets state)

instance (s : Impl) (op : Op) : Decidable (s.LeavesStateful op) :=
  inferInstanceAs (Decidable (_ ∧ _))

variable {s : Impl}

theorem BatchStays.item {request : PlacementRequest} {plan : BatchPlan}
    {items before after : List PlacementItem} {item : PlacementItem}
    (h : s.BatchStays request plan items)
    (hitems : items = before ++ item :: after) :
    s.ItemStays request (before.foldl (s.planItem request) plan) item := by
  subst hitems
  induction before generalizing plan with
  | nil => exact h.1
  | cons first before ih => exact ih h.2

/-- A planned commit of a flow that stays is on the target it had. -/
theorem ItemStays.target_eq (hkeyed : s.ledger.Keyed)
    {request : PlacementRequest} {plan : BatchPlan} {item : PlacementItem}
    {pending : PendingCommit} (h : s.ItemStays request plan item)
    (hplanned : s.Planned request plan item pending) {flow : FlowDescriptor}
    {a : Assignment} (hflow : lookup s.flows item.flow = some flow)
    (hstateful : flow.statefulness = .stateful)
    (ha : lookup s.assignments item.flow = some a) :
    pending.target = a.target := by
  obtain ⟨found, current, chosen, haccepts, -, -, htarget, -⟩ :=
    hplanned.accepted
  have hsame : some found = some flow := haccepts.registered.symm.trans hflow
  cases hsame
  have hid : flow.flow = item.flow := hkeyed.flow _ _ hflow
  have hcurrent := haccepts.current_eq
  rw [hid, ha] at hcurrent
  subst hcurrent
  rcases h flow hflow hstateful a ha with ⟨hvalid, hne⟩ | hheld | hkeeps
  · exact absurd (haccepts.generation hvalid) hne
  · exact absurd haccepts.holder hheld
  · obtain ⟨candidate, rest, hsorted, hoffered, rfl⟩ := haccepts.candidate
    have hmem : candidate ∈ (s.surveyTargets plan flow (some a)
        request.evaluationInstant).ranked := by
      rw [← mem_canonicalSort, ← sortRanked, hsorted]
      exact List.mem_cons_self
    rw [htarget]
    exact hkeeps candidate hmem (best_of_sortRanked hsorted) hoffered

theorem target_eq_of_replacement (hkeyed : s.ledger.Keyed)
    {request : PlacementRequest}
    (hguard : s.BatchStays request s.initialPlan (itemsOf request))
    {pending : PendingCommit} (hpending : pending ∈ s.replacements request)
    {flow : FlowDescriptor} {a : Assignment}
    (hflow : lookup s.flows pending.flow = some flow)
    (hstateful : flow.statefulness = .stateful)
    (ha : lookup s.assignments pending.flow = some a) :
    pending.target = a.target := by
  obtain ⟨before, item, after, hitems, hplanned⟩ :=
    planned_of_mem_commits (List.mem_of_mem_filter hpending)
  have hid := hplanned.flow_eq hkeyed
  rw [hid] at hflow ha
  exact (hguard.item hitems).target_eq hkeyed hplanned hflow hstateful ha

theorem restored_assignment_mem {state : DurableState} {k : FlowId}
    {a : Assignment} (h : (restoredLedger state).assignment k = some a) :
    ∃ stored ∈ state.assignments, stored.flow = k ∧
      a = durableAssignment stored := by
  have hmap : lookup (indexBy Assignment.flow
      (state.assignments.map durableAssignment)) k = some a := h
  obtain ⟨hmem, hkey⟩ := mem_of_lookup_indexBy hmap
  obtain ⟨stored, hstored, rfl⟩ := List.mem_map.mp hmem
  exact ⟨stored, hstored, by rw [← hkey, flow_durableAssignment], rfl⟩

/-! ## One operation -/

theorem completesMove_of_complete (hwf : s.ledger.WellFormed)
    {observation : EffectObservation} {answer : Status}
    {record : MigrationRecord} {next : UInt64}
    (henabled : (Ledger.Event.complete record observation next).enabled
      s.ledger)
    (hledger : (s.step (.observe observation answer)).ledger =
      (Ledger.Event.complete record observation next).apply s.ledger)
    {flow : FlowDescriptor} {before : Assignment}
    (hflow : lookup s.flows record.intent.flow = some flow)
    (hstateful : flow.statefulness = .stateful)
    (hbefore : lookup s.assignments record.intent.flow = some before) :
    s.CompletesMove (.observe observation answer) record.intent.flow before
      (completedAssignment record.intent observation next before) := by
  obtain ⟨descriptor, hdescriptor, hgeneration, hcovered⟩ :=
    (hwf.backed _ record henabled.1 henabled.2.1).flow
  have hsame : some descriptor = some flow := hdescriptor.symm.trans hflow
  cases hsame
  obtain ⟨⟨placed, hplaced, hbeforeGeneration⟩, -⟩ := hwf.placed _ _ hbefore
  have hsame : some placed = some flow := hplaced.symm.trans hflow
  cases hsame
  obtain ⟨contract, hcontract, hsafe, hkind, hcflow, hcgeneration, htarget,
    hincarnation, hcapability⟩ := hcovered hstateful
  refine ⟨observation, answer, rfl, record.intent.attempt, record,
    completedRecord record observation, contract, henabled.1, henabled.2.1,
    ?_, rfl, rfl, ⟨hcontract, hsafe, hkind, hcflow, ?_, htarget, hincarnation,
      hcapability⟩⟩
  · have hattempt := Ledger.attempt_complete hwf.toKeyed henabled.1
      observation next
    rw [← hledger] at hattempt
    exact hattempt
  · rw [hcgeneration, hgeneration, hbeforeGeneration]

theorem movesOnlyUnderContract (hwf : s.ledger.WellFormed) {op : Op}
    (hguard : s.LeavesStateful op) : s.MovesOnlyUnderContract op := by
  intro k flow before after hflow hstateful hbefore hafter hgeneration hmoved
  have hafter' : (s.step op).ledger.assignment k = some after := hafter
  rcases step_ledger hwf.toKeyed op with
    (heq | ⟨event, hproduces, henabled, heq⟩) | ⟨config, -, heq⟩ |
      ⟨state, hstate, heq⟩
  · rw [heq] at hafter'
    have hsame : some after = some before := hafter'.symm.trans hbefore
    cases hsame
    exact absurd rfl hmoved
  · rw [heq] at hafter'
    rcases Ledger.assignment_apply hafter' with
      ⟨old, effect, hold, rfl⟩ | ⟨batch, rfl, hmem, rfl⟩ |
        ⟨record, observation, next, old, rfl, rfl, hold, rfl⟩
    · have hsame : some old = some before := hold.symm.trans hbefore
      cases hsame
      exact absurd rfl hmoved
    · cases hproduces with
      | @place request answer _ hexecutes hplanned =>
          obtain ⟨pending, hpending, hpflow, hptarget⟩ := hplanned after hmem
          rw [hpflow] at hflow hbefore
          refine absurd ?_ hmoved
          rw [hptarget]
          exact target_eq_of_replacement hwf.toKeyed
            (hguard.1 request (by simp [wetRequest, hexecutes])) hpending
            hflow hstateful hbefore
    · have hsame : some old = some before := hold.symm.trans hbefore
      cases hsame
      cases hproduces
      exact completesMove_of_complete hwf henabled heq hflow hstateful hbefore
  · rw [heq] at hafter'
    cases hafter'
  · cases hopen : s.isOpen with
    | true =>
        -- an engine that is open returns before it reads the store
        cases op with
        | openEngine opening answer =>
            have hstep : s.step (.openEngine opening answer) = s := by
              simp [step, openEngine, hopen]
            rw [hstep] at hafter
            have hsame : some after = some before := hafter.symm.trans hbefore
            cases hsame
            exact absurd rfl hmoved
        | _ => cases hstate
    | false =>
        rw [heq] at hafter'
        obtain ⟨stored, hstored, rfl, rfl⟩ := restored_assignment_mem hafter'
        rw [target_durableAssignment] at hmoved
        rw [generation_durableAssignment] at hgeneration
        exact absurd (hguard.2 hopen state hstate stored hstored flow hflow
          hstateful before hbefore hgeneration.symm) hmoved

theorem stateful_moves_only_under_contract (config : EngineConfig)
    (inputs : List Op) (op : Op)
    (h : engine.Admits LeavesStateful (init config []) (inputs ++ [op])) :
    (engine.run (init config []) inputs).MovesOnlyUnderContract op := by
  obtain ⟨hrun, -, hguard, -⟩ := Machine.admits_append.mp h
  exact movesOnlyUnderContract (wellFormed_run hrun) hguard

/-- A stateful flow on the second host, and a first host declared later. -/
def statefulPlaced : List Op :=
  [.openEngine {} committed, .setPolicy (samplePolicy false) committed,
    .declareTarget (sampleHost 2) committed,
    .registerFlow (sampleFlow 1 7 10) committed,
    .place (sampleRequest 1 1 [1]) committed,
    .declareTarget (sampleHost 1) committed]

/-- The next request moves the flow, with no contract registered at all. -/
theorem placement_moves_a_stateful_flow :
    engine.Admits (fun _ _ => True) (init sampleConfig []) (statefulPlaced ++
        [.place (sampleRequest 2 2 [1]) committed]) ∧
      ¬ (engine.run (init sampleConfig [])
        statefulPlaced).MovesOnlyUnderContract
          (.place (sampleRequest 2 2 [1]) committed) := by
  refine ⟨by decide +kernel, ?_⟩
  generalize hrun : engine.run (init sampleConfig []) statefulPlaced = s
  have hall : s.flows[(⟨1⟩ : FlowId)]? = some (sampleFlow 1 7 10) ∧
      (s.assignments[(⟨1⟩ : FlowId)]?).map
        (fun a => (a.flowGeneration, a.target)) = some (⟨1⟩, ⟨2⟩) ∧
      ((s.step (.place (sampleRequest 2 2 [1]) committed)).assignments[
        (⟨1⟩ : FlowId)]?).map
        (fun a => (a.flowGeneration, a.target)) = some (⟨1⟩, ⟨1⟩) := by
    rw [← hrun]
    decide +kernel
  obtain ⟨hflow, hbefore, hafter⟩ := hall
  intro h
  obtain ⟨before, hbefore, hfields⟩ := Option.map_eq_some_iff.mp hbefore
  obtain ⟨after, hafter, hfields'⟩ := Option.map_eq_some_iff.mp hafter
  rw [Prod.mk.injEq] at hfields hfields'
  have hmoved : after.target ≠ before.target := by
    rw [hfields.2, hfields'.2]
    decide
  obtain ⟨observation, answer, hop, -⟩ := h ⟨1⟩ _ before after hflow rfl
    hbefore hafter (hfields'.1.trans hfields.1.symm) hmoved
  cases hop

def sampleContract : MigrationContract :=
  { id := ⟨1⟩
    flow := ⟨1⟩
    flowGeneration := ⟨1⟩
    statefulness := .stateful
    stateTransferDefined := true
    orderingPreserved := true
    rollbackDefined := true
    exclusiveHandoff := true
    destinationTarget := ⟨2⟩
    destinationIncarnation := ⟨1⟩
    destinationCapabilityGeneration := ⟨1⟩
    policyGeneration := ⟨1⟩ }

/-- A stateful flow on the first host, moved to the second by a contract. -/
def statefulHandoff : List Op :=
  [.openEngine {} committed, .setPolicy (samplePolicy true) committed,
    .declareTarget (sampleHost 1) committed,
    .declareTarget (sampleHost 2) committed,
    .registerFlow (sampleFlow 1 7 10) committed,
    .registerMigrationContract sampleContract committed,
    .place (sampleRequest 1 1 [1]) committed, .authorize ⟨1⟩ ⟨1⟩,
    .issueIntent ⟨1⟩ { sampleIntent 2 with contract := ⟨1⟩ } committed] ++
    plainHandoff

/-- The observation that completes the migration is the one that moves it. -/
theorem completion_moves_a_stateful_flow :
    engine.Admits LeavesStateful (init sampleConfig []) (statefulHandoff ++
        [.observe (sampleObservation 1 2) committed]) ∧
      (engine.run (init sampleConfig [])
        statefulHandoff).MovesOnlyUnderContract
          (.observe (sampleObservation 1 2) committed) ∧
      (((engine.run (init sampleConfig []) statefulHandoff).step
        (.observe (sampleObservation 1 2) committed)).assignments[
          (⟨1⟩ : FlowId)]?).map Assignment.target = some ⟨2⟩ := by
  have hall : engine.Admits LeavesStateful (init sampleConfig [])
        (statefulHandoff ++ [.observe (sampleObservation 1 2) committed]) ∧
      (((engine.run (init sampleConfig []) statefulHandoff).step
        (.observe (sampleObservation 1 2) committed)).assignments[
          (⟨1⟩ : FlowId)]?).map Assignment.target = some ⟨2⟩ := by
    decide +kernel
  exact ⟨hall.1, stateful_moves_only_under_contract sampleConfig _ _ hall.1,
    hall.2⟩

end Impl

end FlowOffload

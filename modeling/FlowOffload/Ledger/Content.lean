import FlowOffload.Engine.Liveness
import FlowOffload.Ledger.WellFormed

/-!
# What decisions are about

The content of a durable state is what decisions write: flows, targets,
placements, contracts, attempts, the policy and the generations.  An operation
of an open engine leaves it alone, repeats a declaration, or ends with one
commit.
-/

namespace FlowOffload

open Foundation
open Std (ExtTreeMap)

/-- What decisions are about: the incarnation, accounting and history apart. -/
def DurableState.content (state : DurableState) : DurableState :=
  { state with
    epoch := {}
    boot := {}
    counters := {}
    fences := []
    watermarks := []
    requests := []
    refusalCounts := [] }

/-- The answer that the store gives to the commit of an operation. -/
def Op.answer : Op → Status
  | .openEngine _ answer => answer
  | .shutdown answer => answer
  | .registerFlow _ answer => answer
  | .removeFlow _ _ answer => answer
  | .declareTarget _ answer => answer
  | .removeTarget _ _ _ answer => answer
  | .setPolicy _ answer => answer
  | .setTopologyGeneration _ answer => answer
  | .registerMigrationContract _ answer => answer
  | .place _ answer => answer
  | .rebalance _ answer => answer
  | .issueIntent _ _ answer => answer
  | .acknowledge _ answer => answer
  | .reportApplied _ answer => answer
  | .observe _ answer => answer
  | .abortMigration _ _ answer => answer
  | .restart _ | .ingestLoad _ | .authorize _ _ | .revokeAuthorization _ => {}

/-- The engine stays in its incarnation and open. -/
def Op.within : Op → Bool
  | .openEngine _ _ | .shutdown _ | .restart _ => false
  | _ => true

namespace Impl

variable {s t : Impl} {answer : Status}

/-- The durable image of the engine, as far as decisions go. -/
def content (s : Impl) : DurableState := s.buildDurableLocked.content

/-! ## What leaves the content alone -/

structure Keeps (s t : Impl) : Prop where
  ledger : t.ledger = s.ledger
  policy : t.policy = s.policy
  policyPresent : t.policyPresent = s.policyPresent
  scheduleGeneration : t.scheduleGeneration = s.scheduleGeneration
  topologyGeneration : t.topologyGeneration = s.topologyGeneration

theorem Keeps.content_eq (h : s.Keeps t) : t.content = s.content := by
  have hflows : t.flows = s.flows :=
    ext_lookup (congrFun (congrArg Ledger.flow h.ledger))
  have htargets : (t.targets.toList.map fun entry => durableTarget entry.2) =
      s.targets.toList.map fun entry => durableTarget entry.2 := by
    refine map_values_congr fun id => ?_
    have htarget := congrFun (congrArg Ledger.target h.ledger) id
    have hmap := congrArg (Option.map fun descriptor : TargetDescriptor =>
      { descriptor with lifecycle := .unknown }) htarget
    change Option.map _ (Option.map _ _) = Option.map _ (Option.map _ _) at hmap
    rw [Option.map_map, Option.map_map] at hmap
    exact hmap
  have hassignments : t.assignments = s.assignments :=
    ext_lookup (congrFun (congrArg Ledger.assignment h.ledger))
  have hcontracts : t.contracts = s.contracts :=
    ext_lookup (congrFun (congrArg Ledger.contract h.ledger))
  have hmigrations : t.migrations = s.migrations :=
    ext_lookup (congrFun (congrArg Ledger.attempt h.ledger))
  simp only [content, buildDurableLocked, DurableState.canonicalizeOrder,
    DurableState.content, hflows, htargets, hassignments, hcontracts,
    hmigrations, h.policy, h.policyPresent, h.scheduleGeneration,
    h.topologyGeneration]

theorem Counted.keeps (h : s.Counted t) : s.Keeps t := by
  obtain ⟨counters, refusals, rfl⟩ := h
  exact ⟨rfl, rfl, rfl, rfl, rfl⟩

theorem Counted.stays (h : s.Counted t) : s.Stays t := by
  obtain ⟨counters, refusals, rfl⟩ := h
  exact ⟨rfl, rfl, rfl, rfl, rfl, id⟩

theorem content_persistLocked (t : Impl) (answer : Status) :
    (t.persistLocked answer).1.content = t.content := by
  obtain ⟨counters, submitted, heq⟩ := persistLocked_fst t answer
  rw [heq]
  rfl

/-! ## Operations of an open engine -/

/-- What an operation does to memory and to the store. -/
inductive Passes (s : Impl) (op : Op) : Prop where
  | quiet (stays : s.Stays (s.step op)) (keeps : s.Keeps (s.step op))
  | redeclared {target : TargetDescriptor} {existing : TargetState}
      (call : op = .declareTarget target op.answer)
      (found : lookup s.targets target.target = some existing)
      (known : s.repeats op = true)
      (step : s.step op = s.setTarget target.target
        { existing with descriptor := target, declared := true })
  | commits {t : Impl} (stays : s.Stays t)
      (step : s.step op = (t.persistLocked op.answer).1)

theorem answer_of_decision {op : Op} (h : op.decision = some answer) :
    op.answer = answer := by
  cases op with
  | place request committed =>
      cases hdry : request.dryRun with
      | true => simp [Op.decision, hdry] at h
      | false => simpa [Op.decision, Op.answer, hdry] using h
  | _ => simp_all [Op.decision, Op.answer]

/-- The commit loop touches no part of the incarnation. -/
theorem stays_foldl_commitPending (request : PlacementRequest)
    (published : ScheduleGeneration) (commits : List PendingCommit)
    (state : Impl × List FlowPlacement) :
    state.1.Stays
      (commits.foldl (commitPending request published) state).1 := by
  obtain ⟨_, _, _, _, _, _, heq⟩ :=
    foldl_commitPending_eq request published commits state
  rw [heq]
  exact ⟨rfl, rfl, rfl, rfl, rfl, id⟩

theorem stays_scheduledFor (s : Impl) (request : PlacementRequest)
    (published : ScheduleGeneration) :
    s.Stays (s.scheduledFor request published) := by
  unfold scheduledFor
  split <;> exact ⟨rfl, rfl, rfl, rfl, rfl, id⟩

theorem Committed.exists_persisted {request : PlacementRequest}
    {after : Impl} (h : s.Committed request answer after) :
    ∃ t, s.Stays t ∧ after = (t.persistLocked answer).1 := by
  obtain ⟨published, result, rfl⟩ := h
  refine ⟨_, ?_, rfl⟩
  have hscheduled := stays_scheduledFor s request published
  have hbatch := stays_foldl_commitPending request published
    (s.planOf request).commits
    (s.scheduledFor request published, (s.planOf request).placements)
  exact ⟨hbatch.config.trans hscheduled.config,
    hbatch.isOpen.trans hscheduled.isOpen,
    hbatch.epoch.trans hscheduled.epoch, hbatch.boot.trans hscheduled.boot,
    hbatch.submitted.trans hscheduled.submitted,
    fun hstamp => hbatch.stamp (hscheduled.stamp hstamp)⟩

theorem passes_of_decision (hkeyed : s.ledger.Keyed) {op : Op}
    (h : op.decision = some answer) : s.Passes op := by
  have hends := ends_step hkeyed.attempt h
  rw [← answer_of_decision h] at hends
  generalize hafter : s.step op = after at hends
  generalize s.accepted op = accepted at hends
  cases hends with
  | refused counted =>
      exact .quiet (hafter ▸ counted.stays) (hafter ▸ counted.keeps)
  | repeated counted known =>
      exact .quiet (hafter ▸ counted.stays) (hafter ▸ counted.keeps)
  | redeclared call found known => exact .redeclared call found known hafter
  | placed call executed commit =>
      obtain ⟨t, hstays, rfl⟩ := commit.exists_persisted
      exact .commits hstays hafter
  | committed stays targets change => exact .commits stays.toStays hafter

/-- Nothing but the ledger and what is not durable may differ. -/
structure Frame (s t : Impl) : Prop extends s.Stays t where
  policy : t.policy = s.policy
  policyPresent : t.policyPresent = s.policyPresent
  scheduleGeneration : t.scheduleGeneration = s.scheduleGeneration
  topologyGeneration : t.topologyGeneration = s.topologyGeneration

theorem Frame.keeps (h : s.Frame t) (hledger : t.ledger = s.ledger) :
    s.Keeps t :=
  ⟨hledger, h.policy, h.policyPresent, h.scheduleGeneration,
    h.topologyGeneration⟩

theorem Frame.refl (s : Impl) : s.Frame s :=
  ⟨⟨rfl, rfl, rfl, rfl, rfl, id⟩, rfl, rfl, rfl, rfl⟩

theorem frame_ingestLoad (s : Impl) (evidence : LoadEvidence) :
    s.Frame (s.ingestLoad evidence).1 := by
  rcases ingestLoad_cases s evidence with
    ⟨_, _, heq⟩ | ⟨_, -, -, -, heq⟩
  · rw [heq]
    exact ⟨⟨rfl, rfl, rfl, rfl, rfl, id⟩, rfl, rfl, rfl, rfl⟩
  · rw [heq]
    exact ⟨⟨rfl, rfl, rfl, rfl, rfl, id⟩, rfl, rfl, rfl, rfl⟩

theorem frame_authorize (s : Impl) (recommendation : RecommendationId)
    (instant : Timestamp) :
    s.Frame (s.authorize recommendation instant).1 := by
  unfold authorize
  repeat' split
  all_goals exact ⟨⟨rfl, rfl, rfl, rfl, rfl, id⟩, rfl, rfl, rfl, rfl⟩

theorem frame_revokeAuthorization (s : Impl)
    (authorization : AuthorizationId) :
    s.Frame (s.revokeAuthorization authorization).1 := by
  unfold revokeAuthorization
  repeat' split
  all_goals exact ⟨⟨rfl, rfl, rfl, rfl, rfl, id⟩, rfl, rfl, rfl, rfl⟩

theorem passes_rebalanceLocked (s : Impl) (request : RebalanceRequest)
    (answer : Status) : s.Passes (.rebalance request answer) := by
  have hcases : s.Counted (s.rebalanceLocked request answer).1 ∨
      ∃ t, s.Stays t ∧
        (s.rebalanceLocked request answer).1 = (t.persistLocked answer).1 := by
    unfold rebalanceLocked
    dsimp only
    split
    · exact Or.inl (.refl s)
    · split
      · exact Or.inl (.refl s)
      · split
        · exact Or.inl (.refl s)
        · split
          · exact Or.inl ⟨_, _, rfl⟩
          · refine Or.inr ⟨s.countRebalance _, ?_, rfl⟩
            exact ⟨rfl, rfl, rfl, rfl, rfl, id⟩
  rcases hcases with hcounted | ⟨t, hstays, heq⟩
  · exact .quiet hcounted.stays hcounted.keeps
  · exact .commits hstays heq

theorem passes (hkeyed : s.ledger.Keyed) {op : Op} (h : op.within = true) :
    s.Passes op := by
  cases hdecision : op.decision with
  | some answer => exact passes_of_decision hkeyed hdecision
  | none =>
      cases op with
      | ingestLoad evidence =>
          have hframe := frame_ingestLoad s evidence
          exact .quiet hframe.toStays
            (hframe.keeps (ledger_ingestLoad s evidence))
      | authorize recommendation instant =>
          have hframe := frame_authorize s recommendation instant
          exact .quiet hframe.toStays
            (hframe.keeps (ledger_authorize s recommendation instant))
      | revokeAuthorization authorization =>
          have hframe := frame_revokeAuthorization s authorization
          exact .quiet hframe.toStays
            (hframe.keeps (ledger_revokeAuthorization s authorization))
      | rebalance request answer =>
          exact passes_rebalanceLocked s request answer
      | place request answer =>
          rcases placeLocked_cases s request answer with
            hcounted | ⟨hexecutes, -⟩
          · exact .quiet hcounted.stays hcounted.keeps
          · have hwet : request.dryRun = false := by
              simp_all [executes]
            simp [Op.decision, hwet] at hdecision
      | openEngine opening answer => cases h
      | shutdown answer => cases h
      | restart config => cases h
      | _ => cases hdecision

/-! ## A request that changes nothing -/

/-- A plan without changes has only retained commits. -/
theorem retained_planItem {request : PlacementRequest} {plan : BatchPlan}
    {item : PlacementItem}
    (h : plan.anyChange = false →
      ∀ pending ∈ plan.commits, pending.retained = true)
    (hchange : (s.planItem request plan item).anyChange = false) :
    ∀ pending ∈ (s.planItem request plan item).commits,
      pending.retained = true := by
  unfold planItem at hchange ⊢
  split at hchange
  next placement reason heq => exact h hchange
  next flow current chosen fallback placement heq =>
    simp only [BatchPlan.accept, Bool.or_eq_false_iff,
      Bool.not_eq_false'] at hchange
    obtain ⟨pending, hcommits, -, -, -, -, -, hretained⟩ := commits_accept plan
      s.policy flow current chosen fallback placement
    intro other hother
    rw [hcommits, List.mem_append, List.mem_singleton] at hother
    rcases hother with hother | rfl
    · exact h hchange.1 other hother
    · rw [hretained]
      exact hchange.2

theorem retained_foldl_planItem {request : PlacementRequest}
    (items : List PlacementItem) {plan : BatchPlan}
    (h : plan.anyChange = false →
      ∀ pending ∈ plan.commits, pending.retained = true) :
    (items.foldl (s.planItem request) plan).anyChange = false →
      ∀ pending ∈ (items.foldl (s.planItem request) plan).commits,
        pending.retained = true := by
  induction items generalizing plan with
  | nil => exact h
  | cons item items ih => exact ih fun hchange => retained_planItem h hchange

theorem keeps_foldl_commitPending (request : PlacementRequest)
    (published : ScheduleGeneration) {commits : List PendingCommit}
    (h : ∀ pending ∈ commits, pending.retained = true)
    (state : Impl × List FlowPlacement) :
    state.1.Keeps
      (commits.foldl (commitPending request published) state).1 := by
  induction commits generalizing state with
  | nil => exact ⟨rfl, rfl, rfl, rfl, rfl⟩
  | cons pending commits ih =>
      have hone : state.1.Keeps
          (commitPending request published state pending).1 := by
        simp only [commitPending, commitAssignment,
          h pending List.mem_cons_self, if_true]
        exact ⟨rfl, rfl, rfl, rfl, rfl⟩
      have hrest := ih (fun other hother => h other
        (List.mem_cons_of_mem _ hother))
        (commitPending request published state pending)
      rw [List.foldl_cons]
      exact ⟨hrest.ledger.trans hone.ledger, hrest.policy.trans hone.policy,
        hrest.policyPresent.trans hone.policyPresent,
        hrest.scheduleGeneration.trans hone.scheduleGeneration,
        hrest.topologyGeneration.trans hone.topologyGeneration⟩

theorem Committed.content_eq {request : PlacementRequest} {after : Impl}
    (h : s.Committed request answer after)
    (hchange : (s.planOf request).anyChange = false) :
    after.content = s.content := by
  obtain ⟨published, result, rfl⟩ := h
  have hscheduled : s.scheduledFor request published =
      s.withPlan (s.planOf request) := by
    simp [scheduledFor, hchange]
  have hretained : ∀ pending ∈ (s.planOf request).commits,
      pending.retained = true :=
    retained_foldl_planItem (itemsOf request)
      (fun _ pending hpending => by cases hpending) hchange
  have hbatch := keeps_foldl_commitPending request published hretained
    (s.scheduledFor request published, (s.planOf request).placements)
  rw [hscheduled] at hbatch
  unfold recordRequest
  dsimp only
  rw [content_persistLocked, hscheduled]
  exact Keeps.content_eq ⟨hbatch.ledger, hbatch.policy, hbatch.policyPresent,
    hbatch.scheduleGeneration, hbatch.topologyGeneration⟩

/-! ## What a commit hands over -/

theorem submitted_persistLocked (t : Impl) (answer : Status) :
    (t.config.persistenceEnabled = false ∧
        (t.persistLocked answer).1.submitted = t.submitted) ∨
      t.config.persistenceEnabled = true ∧
        ∃ image, (t.persistLocked answer).1.submitted = image :: t.submitted ∧
          image.content = t.content ∧ image.epoch = t.epoch ∧
          (t.persistLocked answer).2 = answer := by
  unfold persistLocked
  cases hpersist : t.config.persistenceEnabled with
  | false => exact Or.inl ⟨rfl, by simp⟩
  | true =>
      rw [if_neg (by simp)]
      dsimp only
      split
      · exact Or.inr ⟨rfl, _, rfl, rfl, rfl, rfl⟩
      · exact Or.inr ⟨rfl, _, rfl, rfl, rfl, rfl⟩

/-- Two states that differ in what a commit accounts for. -/
def Mirrors (u t : Impl) : Prop :=
  ∃ isOpen submitted commits failures, u =
    { t with
      isOpen := isOpen
      submitted := submitted
      counters.persistCommits := commits
      counters.persistFailures := failures }

/-- What a step adds to the store is the image of the state it leaves. -/
def Images (s after : Impl) : Prop :=
  ∀ state ∈ after.submitted, state ∈ s.submitted ∨
    ∃ u : Impl, u.Mirrors after ∧ state = u.buildDurableLocked

theorem Images.same {after : Impl} (h : after.submitted = s.submitted) :
    s.Images after := by
  intro state hstate
  rw [h] at hstate
  exact Or.inl hstate

theorem Images.persistLocked (h : t.submitted = s.submitted)
    (answer : Status) : s.Images (t.persistLocked answer).1 := by
  unfold Impl.persistLocked
  split
  · exact .same h
  · dsimp only
    split
    · intro state hstate
      rcases List.mem_cons.mp hstate with rfl | hold
      · exact Or.inr ⟨_, ⟨_, _, _, _, rfl⟩, rfl⟩
      · exact Or.inl (h ▸ hold)
    · intro state hstate
      rcases List.mem_cons.mp hstate with rfl | hold
      · exact Or.inr ⟨_, ⟨_, _, _, _, rfl⟩, rfl⟩
      · exact Or.inl (h ▸ hold)

theorem images_startIncarnation (h : t.submitted = s.submitted)
    (epoch : CoordinatorEpoch) (boot : BootId) (answer : Status) :
    s.Images (t.startIncarnation epoch boot answer).1 := by
  unfold startIncarnation
  split
  · exact .same h
  · dsimp only
    generalize hopened : ({ Impl.fencePrevious (t.enterIncarnation _ boot) boot
      with isOpen := true } : Impl) = opened
    have hsubmitted : opened.submitted = s.submitted := by
      subst hopened
      exact (submitted_fencePrevious _ boot).trans h
    have himages := Images.persistLocked hsubmitted answer
    split
    · intro state hstate
      rcases himages state hstate with hold | ⟨u, hmirrors, rfl⟩
      · exact Or.inl hold
      · obtain ⟨_, _, _, _, rfl⟩ := hmirrors
        exact Or.inr ⟨_, ⟨_, _, _, _, rfl⟩, rfl⟩
    · exact himages

theorem images_openEngine (opening : StoreOpening) (answer : Status) :
    s.Images (s.openEngine opening answer).1 := by
  unfold openEngine
  split
  · exact .same rfl
  · split
    · exact images_startIncarnation rfl _ _ _
    · dsimp only
      split
      · exact .same rfl
      · split
        · exact images_startIncarnation rfl _ _ _
        next state hstate =>
          have hsubmitted := submitted_restoreLocked
            { s with recovery := opening.report } state
          exact images_startIncarnation (hsubmitted.trans rfl) _ _ _

theorem images_shutdown (s : Impl) (answer : Status) :
    s.Images (s.shutdown answer) := by
  unfold shutdown
  split
  · have himages : s.Images (s.persistLocked answer).1 :=
      .persistLocked rfl answer
    intro state hstate
    rcases List.mem_cons.mp hstate with rfl | hstate
    · exact Or.inr ⟨_, ⟨_, _, _, _, rfl⟩, rfl⟩
    · rcases himages state hstate with hold | ⟨u, hmirrors, rfl⟩
      · exact Or.inl hold
      · obtain ⟨_, _, _, _, rfl⟩ := hmirrors
        exact Or.inr ⟨_, ⟨_, _, _, _, rfl⟩, rfl⟩
  · exact .same rfl

theorem images_step (hkeyed : s.ledger.Keyed) (op : Op) :
    s.Images (s.step op) := by
  have hwithin : op.within = true → s.Images (s.step op) := by
    intro h
    cases passes hkeyed h with
    | quiet stays keeps => exact .same stays.submitted
    | redeclared call found known step =>
        rw [step]
        exact .same rfl
    | commits stays step =>
        rw [step]
        exact .persistLocked stays.submitted _
  cases op with
  | openEngine opening answer => exact images_openEngine opening answer
  | shutdown answer => exact images_shutdown s answer
  | restart config => exact .same rfl
  | _ => exact hwithin rfl

end Impl

end FlowOffload

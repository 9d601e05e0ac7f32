import FlowOffload.Engine.History
import FlowOffload.Engine.Reports
import FlowOffload.Laws.Phases

/-!
# Conservative restart

What was in flight when a state was committed is fenced when that state is
recovered, nothing of it is live, and nothing that happens later in the
incarnation brings it back.  A request that was executed before the restart
still reports the assignments it led to.
-/

namespace FlowOffload

open Foundation
open Std (ExtTreeMap)

namespace Impl

variable {s : Impl}

/-! ## Fences -/

/-- A fence that is inactive stays so when a new one is issued. -/
theorem inactive_fencePrevious {boot : BootId} {k : FenceId}
    {old fence : FenceRecord} (hold : lookup s.fences k = some old)
    (hinactive : old.active = false)
    (h : lookup (s.fencePrevious boot).fences k = some fence) :
    fence.active = false := by
  have hretired : lookup (s.fences.map fun _ f => retireFence f) k =
      some old := by
    simp [hold, retireFence, hinactive]
  have hkept : ∀ record : FenceRecord, lookup ((s.fences.map fun _ f =>
      retireFence f).insertIfNew ⟨s.nextFence⟩ record) k = some old := by
    intro record
    cases hnew : lookup (s.fences.map fun _ f => retireFence f)
        ⟨s.nextFence⟩ with
    | none =>
        rw [lookup_insertIfNew_of_none _ _ hnew]
        have hk : k ≠ ⟨s.nextFence⟩ := by
          rintro rfl
          rw [hnew] at hretired
          cases hretired
        rw [Function.update_of_ne hk, hretired]
    | some taken => rw [lookup_insertIfNew_of_some _ hnew, hretired]
  have hfence : lookup s.fences k = some fence ∨ some old = some fence := by
    unfold fencePrevious at h
    split at h
    · refine Or.inr ?_
      dsimp only at h
      split at h
      · exact (hkept _).symm.trans (lookup_of_evictFences h)
      · exact (hkept _).symm.trans (lookup_of_evictFences h)
    · exact Or.inl h
  rcases hfence with hsame | hsame
  · rw [hold] at hsame
    cases hsame
    exact hinactive
  · cases hsame
    exact hinactive

/-! ## What is restored -/

/-- The engine has nothing but history of the state that it recovered. -/
structure Conservative (s : Impl) (state : DurableState) : Prop where
  epoch : s.epoch.value.toNat = state.epoch.value.toNat + 1
  attempts : ∀ k record, lookup s.migrations k = some record →
    record.intent.phase = .completed ∨ record.intent.phase = .aborted ∨
      record.intent.phase = .fenced
  -- so an attempt that was fenced when it was committed is restored as it was
  history : ∀ k record, lookup s.migrations k = some record →
    ∃ stored ∈ state.migrations, stored.intent.attempt = k ∧
      (record = stored ∨
        stored.inFlight = true ∧ record.intent.phase = .fenced)
  fences : ∀ fence ∈ state.fences, ∀ kept,
    lookup s.fences fence.id = some kept → kept.active = false
  targets : ∀ id target, lookup s.targets id = some target →
    target.declared = false ∧ target.hasLoad = false
  effects : ∀ flow a, lookup s.assignments flow = some a →
    a.effect = .verified ∨ a.effect = .unknown
  recommendations : s.recommendations = ∅
  authorizations : s.authorizations = ∅

theorem exists_lookup_indexBy {κ ν : Type} [Ord κ] [Std.TransOrd κ]
    [Std.LawfulEqOrd κ] [DecidableEq κ] {key : ν → κ} {values : List ν}
    {v : ν} {k : κ} (h : v ∈ values) (hkey : key v = k) :
    ∃ w, lookup (indexBy key values) k = some w := by
  have hfold : ∀ (values : List ν) (m : ExtTreeMap κ ν),
      (v ∈ values ∨ ∃ w, lookup m k = some w) →
      ∃ w, lookup (values.foldl (fun entries x => entries.insert (key x) x)
        m) k = some w := by
    intro values
    induction values with
    | nil =>
        rintro m (hmem | hfound)
        · cases hmem
        · exact hfound
    | cons value values ih =>
        intro m hfound
        refine ih _ ?_
        by_cases hk : k = key value
        · exact Or.inr ⟨value, by simp [hk]⟩
        · rcases hfound with hmem | ⟨w, hw⟩
          · rcases List.mem_cons.mp hmem with rfl | hmem
            · exact absurd hkey.symm hk
            · exact Or.inl hmem
          · exact Or.inr ⟨w, by simp [hk, hw]⟩
  exact hfold values ∅ (Or.inl h)

section Opening

variable {opening : StoreOpening} {answer : Status} {state : DurableState}

/-- The state that an opening recovers. -/
def recovered (s : Impl) (opening : StoreOpening) (state : DurableState) :
    Impl :=
  { s with recovery := opening.report }.restoreLocked state

theorem restored_fence (s : Impl) (opening : StoreOpening)
    {fence : FenceRecord} (hfence : fence ∈ state.fences) :
    ∃ old, lookup (s.recovered opening state).fences fence.id = some old ∧
      old.active = false := by
  have hmem : ({ fence with active := false } : FenceRecord) ∈
      state.fences.map fun fence => { fence with active := false } :=
    List.mem_map_of_mem hfence
  obtain ⟨old, hold⟩ : ∃ old, lookup (indexBy FenceRecord.id
      (state.fences.map fun fence => { fence with active := false }))
        fence.id = some old :=
    exists_lookup_indexBy hmem rfl
  obtain ⟨hold', -⟩ := mem_of_lookup_indexBy hold
  obtain ⟨stored, -, rfl⟩ := List.mem_map.mp hold'
  exact ⟨_, hold, rfl⟩

theorem restored_undeclared (s : Impl) (opening : StoreOpening)
    {id : TargetId} {target : TargetState}
    (h : lookup (s.recovered opening state).targets id = some target) :
    target.declared = false ∧ target.hasLoad = false := by
  have hsame := unscheduled_recomputeScheduledLocked
    (Impl.loadState { s with recovery := opening.report }
      state).resumeCounters.rebuildHoldersLocked id
  have htarget : lookup (Impl.recomputeScheduledLocked
      (Impl.loadState { s with recovery := opening.report }
        state).resumeCounters.rebuildHoldersLocked).targets id =
          some target := h
  rw [htarget, Option.map_some, eq_comm, Option.map_eq_some_iff] at hsame
  obtain ⟨loaded, hloaded, heq⟩ := hsame
  obtain ⟨hmem, -⟩ := mem_of_lookup_indexBy hloaded
  obtain ⟨descriptor, -, rfl⟩ := List.mem_map.mp hmem
  have hfields := TargetState.mk.inj heq
  exact ⟨hfields.2.1.symm, hfields.2.2.1.symm⟩

theorem restored_effect (s : Impl) (opening : StoreOpening)
    {flow : FlowId} {a : Assignment}
    (h : lookup (s.recovered opening state).assignments flow = some a) :
    a.effect = .verified ∨ a.effect = .unknown := by
  obtain ⟨hmem, -⟩ := mem_of_lookup_indexBy h
  obtain ⟨stored, -, rfl⟩ := List.mem_map.mp hmem
  unfold durableAssignment
  split
  · exact Or.inr rfl
  next hkept =>
    refine Or.inl ?_
    simpa using hkept

theorem ended_phase {record : MigrationRecord} (h : record.inFlight = false) :
    record.intent.phase = .completed ∨ record.intent.phase = .aborted ∨
      record.intent.phase = .fenced := by
  unfold MigrationRecord.inFlight at h
  cases hphase : record.intent.phase <;>
    simp_all [MigrationPhase.isTerminal]

theorem restored_ended (s : Impl) (opening : StoreOpening)
    {k : MigrationAttemptId} {record : MigrationRecord}
    (h : lookup (s.recovered opening state).migrations k = some record) :
    record.inFlight = false := by
  have hmap : lookup (ExtTreeMap.map (fun _ record =>
      endAttempt (fun _ => true) .fenced .rejectedFencedByRestart record)
      (indexBy (fun record => record.intent.attempt) state.migrations)) k =
        some record := h
  rw [lookup_map, Option.map_eq_some_iff] at hmap
  obtain ⟨stored, -, rfl⟩ := hmap
  exact Ledger.inFlight_endAttempt_restart stored

theorem toNat_succ_of_ne {n : UInt64} (h : n ≠ 0xFFFFFFFFFFFFFFFF) :
    (n + 1).toNat = n.toNat + 1 := by
  have hlt := n.toNat_lt
  have hne : n.toNat ≠ 2 ^ 64 - 1 := fun heq => h (UInt64.toNat_inj.mp heq)
  rw [UInt64.toNat_add, UInt64.toNat_one]
  omega

/-- The recovered state, in the next incarnation. -/
theorem openEngine_eq_recovered (hclosed : s.isOpen = false)
    (hpersist : s.config.persistenceEnabled = true)
    (hstate : opening.state = some state)
    (hopen : (s.openEngine opening answer).1.isOpen = true) :
    ∃ boot nextFence counters recovery submitted,
      (s.openEngine opening answer).1 =
        { s.recovered opening state with
          isOpen := true
          epoch := ⟨state.epoch.value + 1⟩
          boot := boot
          fences := (((s.recovered opening state).enterIncarnation
            ⟨state.epoch.value + 1⟩ state.boot).fencePrevious
              state.boot).fences
          nextFence := nextFence
          counters := counters
          recovery := recovery
          submitted := submitted } := by
  have hfound : s.found opening =
      (s.recovered opening state, state.epoch, state.boot) :=
    found_some hpersist hstate
  obtain ⟨fences, nextFence, counters, recovery, hentering⟩ :=
    entering_eq s opening
  obtain ⟨counters', submitted, hpersisted⟩ :=
    persistLocked_fst (s.entering opening) answer
  have hfences := congrArg Impl.fences hentering
  rw [entering, hfound] at hfences
  refine ⟨(s.entering opening).boot, nextFence, counters', recovery,
    submitted, ?_⟩
  rw [(opensWith hclosed hopen).result, hpersisted, hentering, hfound,
    hfences]

theorem conservative_openEngine (hclosed : s.isOpen = false)
    (hpersist : s.config.persistenceEnabled = true)
    (hstate : opening.state = some state)
    (hopen : (s.openEngine opening answer).1.isOpen = true) :
    (s.openEngine opening answer).1.Conservative state := by
  have hroom := (opensWith hclosed hopen).room
  rw [found_some hpersist hstate] at hroom
  obtain ⟨boot, nextFence, counters, recovery, submitted, heq⟩ :=
    openEngine_eq_recovered hclosed hpersist hstate hopen
  rw [heq]
  constructor
  · exact toNat_succ_of_ne hroom
  · exact fun k record hrecord => ended_phase
      (restored_ended s opening hrecord)
  · exact fun k record hrecord => restored_attempt_mem hrecord
  · intro fence hfence kept hkept
    obtain ⟨old, hold, hinactive⟩ := restored_fence s opening hfence
    have hentered : lookup ((s.recovered opening state).enterIncarnation
        ⟨state.epoch.value + 1⟩ state.boot).fences fence.id = some old := hold
    exact inactive_fencePrevious hentered hinactive hkept
  · exact fun id target htarget => restored_undeclared s opening htarget
  · exact fun flow a ha => restored_effect s opening ha
  · rfl
  · rfl

theorem keyed_openEngine (hclosed : s.isOpen = false)
    (hpersist : s.config.persistenceEnabled = true)
    (hstate : opening.state = some state)
    (hopen : (s.openEngine opening answer).1.isOpen = true) :
    (s.openEngine opening answer).1.ledger.Keyed := by
  obtain ⟨boot, nextFence, counters, recovery, submitted, heq⟩ :=
    openEngine_eq_recovered hclosed hpersist hstate hopen
  rw [heq]
  exact keyed_restoredLedger state

end Opening

/-! ## The rest of the incarnation -/

/-- The operation that gave a flow another placement: a request that planned
it, or the observation that completed an attempt still in flight. -/
def MovedBy (s : Impl) (op : Op) (flow : FlowId) : Prop :=
  (∃ request answer, op = .place request answer ∧
    s.executes request = true) ∨
  ∃ observation answer k record ended, op = .observe observation answer ∧
    lookup s.migrations k = some record ∧ record.inFlight = true ∧
    record.intent.flow = flow ∧
    lookup (s.step op).migrations k = some ended ∧
    ended.intent.phase = .completed

/-- The operation changes no fenced attempt and moves no flow for one. -/
structure SparesFenced (s : Impl) (op : Op) : Prop where
  attempts : ∀ k record, lookup s.migrations k = some record →
    record.intent.phase = .fenced →
    lookup (s.step op).migrations k = some record
  moves : ∀ flow before after, lookup s.assignments flow = some before →
    lookup (s.step op).assignments flow = some after →
    after ≠ { before with effect := after.effect } → s.MovedBy op flow

theorem openEngine_of_not_startsAnew {opening : StoreOpening}
    {answer : Status} (h : s.startsAnew (.openEngine opening answer) = false) :
    s.step (.openEngine opening answer) = s := by
  have hopen : s.isOpen = true := by simpa [startsAnew] using h
  simp [step, openEngine, hopen]

theorem steps_of_not_startsAnew (hkeyed : s.ledger.Keyed) {op : Op}
    (hop : s.startsAnew op = false) : s.Steps op (s.step op).ledger := by
  rcases step_ledger hkeyed op with
    hsteps | ⟨config, rfl, -⟩ | ⟨state, hstate, -⟩
  · exact hsteps
  · cases hop
  · cases op with
    | openEngine opening answer =>
        rw [openEngine_of_not_startsAnew hop]
        exact .stay rfl
    | _ => cases hstate

theorem sparesFenced (hkeyed : s.ledger.Keyed) {op : Op}
    (hop : s.startsAnew op = false) : s.SparesFenced op where
  attempts := by
    intro k record hrecord hphase
    have hended : record.inFlight = false := by
      simp [MigrationRecord.inFlight, hphase, MigrationPhase.isTerminal]
    have hattempt : (s.step op).ledger.attempt k = some record := by
      rcases steps_of_not_startsAnew hkeyed hop with
        heq | ⟨event, -, henabled, heq⟩
      · rw [heq]
        exact hrecord
      · rw [heq]
        exact Ledger.attempt_apply_of_ended henabled hrecord hended
    exact hattempt
  moves := by
    intro flow before after hbefore hafter hmoved
    have hafter' : (s.step op).ledger.assignment flow = some after := hafter
    rcases steps_of_not_startsAnew hkeyed hop with
      heq | ⟨event, hproduces, henabled, heq⟩
    · rw [heq] at hafter'
      have hsame : some after = some before := hafter'.symm.trans hbefore
      cases hsame
      exact absurd rfl hmoved
    · rw [heq] at hafter'
      rcases Ledger.assignment_apply hafter' with
        ⟨old, effect, hold, rfl⟩ | ⟨batch, rfl, -, -⟩ |
          ⟨record, observation, next, old, rfl, rfl, -, -⟩
      · have hsame : some old = some before := hold.symm.trans hbefore
        cases hsame
        exact absurd rfl hmoved
      · cases hproduces with
        | @place request answer _ hexecutes hplanned =>
            exact Or.inl ⟨request, answer, rfl, hexecutes⟩
      · cases hproduces with
        | @complete _ answer _ _ =>
            have hended := Ledger.attempt_complete hkeyed henabled.1
              observation next
            rw [← heq] at hended
            exact Or.inr ⟨observation, answer, _, record, _, rfl, henabled.1,
              henabled.2.1, rfl, hended, rfl⟩

theorem keyed_run {guard : Impl → Op → Prop} {inputs : List Op}
    (hkeyed : s.ledger.Keyed) (h : engine.Admits guard s inputs) :
    (engine.run s inputs).ledger.Keyed :=
  h.invariant (P := fun s => s.ledger.Keyed)
    (fun _ op hs _ _ => keyed_step hs op) hkeyed

theorem targets_of_keyed (h : s.ledger.Keyed) (k : TargetId)
    (target : TargetState) (htarget : lookup s.targets k = some target) :
    target.descriptor.target = k := by
  refine h.target k target.descriptor ?_
  exact Option.map_eq_some_iff.mpr ⟨target, htarget, rfl⟩

/-- What became live in a run was declared in it. -/
theorem live_run {inputs : List Op} {id : TargetId}
    (hkeyed : s.ledger.Keyed)
    (h : engine.Admits (fun s op => s.startsAnew op = false) s inputs)
    (hlive : (engine.run s inputs).Live id) :
    s.Live id ∨ ∃ before op after, inputs = before ++ op :: after ∧
      (engine.run s before).Declares op id := by
  induction inputs generalizing s with
  | nil => exact Or.inl hlive
  | cons op inputs ih =>
      obtain ⟨-, hop, hrest⟩ := h
      rcases ih (keyed_step hkeyed op) hrest hlive with
        hstep | ⟨before, later, after, rfl, hdeclares⟩
      · rcases live_step hkeyed.attempt hop hstep with hs | hdeclares
        · exact Or.inl hs
        · exact Or.inr ⟨[], op, inputs, rfl, hdeclares⟩
      · exact Or.inr ⟨op :: before, later, after, rfl, hdeclares⟩

theorem Conservative.not_live {state : DurableState}
    (h : s.Conservative state) (id : TargetId) : ¬ s.Live id := by
  rintro ⟨target, htarget, hdeclared, -⟩
  rw [(h.targets id target htarget).1] at hdeclared
  cases hdeclared

/-- A placement is accepted on a target that was declared in the run, or it
was accepted before the restart. -/
def Redeclared (s : Impl) (inputs : List Op) (request : PlacementRequest)
    (answer : Status) (placement : FlowPlacement) : Prop :=
  (engine.run s inputs).Replays request answer placement ∨
    ∃ before op after, inputs = before ++ op :: after ∧
      (engine.run s before).Declares op placement.target

/--
After an opening that recovers a state, nothing of that state is live or in
flight, and the rest of the incarnation keeps it so.  A later opening is one
more instance of the same statement.
-/
theorem restart_is_conservative (opening : StoreOpening) (answer : Status)
    (state : DurableState) (hclosed : s.isOpen = false)
    (hpersist : s.config.persistenceEnabled = true)
    (hstate : opening.state = some state)
    (hopen : (s.openEngine opening answer).1.isOpen = true) :
    (s.openEngine opening answer).1.Conservative state ∧
      ∀ inputs, engine.Admits (fun s op => s.startsAnew op = false)
          (s.openEngine opening answer).1 inputs →
        (∀ op, (engine.run (s.openEngine opening answer).1
            inputs).startsAnew op = false →
          (engine.run (s.openEngine opening answer).1
            inputs).SparesFenced op) ∧
        ∀ request answer' placement, placement ∈ ((engine.run
            (s.openEngine opening answer).1 inputs).placeLocked request
              answer').2.placements →
          placement.accepted = true →
          (s.openEngine opening answer).1.Redeclared inputs request answer'
            placement := by
  have hconservative := conservative_openEngine hclosed hpersist hstate hopen
  have hkeyed := keyed_openEngine hclosed hpersist hstate hopen
  refine ⟨hconservative, ?_⟩
  intro inputs hrun
  have hkeyed' := keyed_run hkeyed hrun
  refine ⟨fun op hop => sparesFenced hkeyed' hop, ?_⟩
  intro request answer' placement hmem haccepted
  rcases live_or_replays (targets_of_keyed hkeyed') hmem haccepted with hlive | hreplays
  · rcases live_run hkeyed hrun hlive with hbefore | hdeclared
    · exact absurd hbefore (hconservative.not_live _)
    · exact Or.inr hdeclared
  · exact Or.inl hreplays

/-- A flow is placed on the only host, and the process ends. -/
def placedBefore : List Op :=
  [.openEngine { report := { usable := true } } committed,
    .setPolicy (samplePolicy false) committed,
    .declareTarget (sampleHost 1) committed,
    .registerFlow (sampleFlow 1 7 10) committed,
    .place (sampleRequest 1 1 [1]) committed, .restart durableConfig]

def interrupted : Impl := engine.run (init durableConfig []) placedBefore

def lastCommit : StoreOpening :=
  { report := { usable := true }, state := interrupted.submitted.head? }

/-- The process starts again and the host is declared once more. -/
theorem interrupted_restart_is_conservative :
    interrupted.isOpen = false ∧
      interrupted.config.persistenceEnabled = true ∧
      ∃ state, lastCommit.state = some state ∧
        (interrupted.openEngine lastCommit committed).1.Conservative state ∧
        ∀ op, (engine.run (interrupted.openEngine lastCommit committed).1
            [.declareTarget (sampleHost 1) committed]).startsAnew op = false →
          (engine.run (interrupted.openEngine lastCommit committed).1
            [.declareTarget (sampleHost 1) committed]).SparesFenced op := by
  have hall : interrupted.isOpen = false ∧
      interrupted.config.persistenceEnabled = true ∧
      lastCommit.state.isSome = true ∧
      (interrupted.openEngine lastCommit committed).1.isOpen = true := by
    decide +kernel
  obtain ⟨hclosed, hpersist, hfound, hopened⟩ := hall
  obtain ⟨state, hstate⟩ := Option.isSome_iff_exists.mp hfound
  obtain ⟨hconservative, hrest⟩ := restart_is_conservative lastCommit
    committed state hclosed hpersist hstate hopened
  exact ⟨hclosed, hpersist, state, hstate, hconservative,
    (hrest [.declareTarget (sampleHost 1) committed] (by decide +kernel)).1⟩

/-- The old request is reported as accepted on a host that nobody declared. -/
theorem replay_reports_a_restored_target :
    engine.Admits (fun _ _ => True) (init durableConfig []) (placedBefore ++
        [.openEngine lastCommit committed]) ∧
      (interrupted.openEngine lastCommit committed).1.isOpen = true ∧
      ¬ ∀ placement ∈ ((engine.run (interrupted.openEngine lastCommit
          committed).1 []).placeLocked (sampleRequest 1 1 [1])
            committed).2.placements,
        placement.accepted = true →
        ∃ before target answer after, [] = before ++
            Op.declareTarget target answer :: after ∧
          target.target = placement.target ∧
          (engine.run (interrupted.openEngine lastCommit committed).1
            before).accepted (.declareTarget target answer) = true := by
  have hall : engine.Admits (fun _ _ => True) (init durableConfig [])
        (placedBefore ++ [.openEngine lastCommit committed]) ∧
      (interrupted.openEngine lastCommit committed).1.isOpen = true ∧
      (((engine.run (interrupted.openEngine lastCommit
        committed).1 []).placeLocked (sampleRequest 1 1 [1])
          committed).2.placements.any fun placement => placement.accepted) =
            true := by
    decide +kernel
  obtain ⟨hadmits, hopened, hplaced⟩ := hall
  refine ⟨hadmits, hopened, ?_⟩
  intro h
  obtain ⟨placement, hmem, haccepted⟩ := List.any_eq_true.mp hplaced
  obtain ⟨before, target, answer, after, hnil, -⟩ :=
    h placement hmem haccepted
  simp at hnil

end Impl

end FlowOffload

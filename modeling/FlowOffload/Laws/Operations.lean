import FlowOffload.Engine.Tracking

/-!
# Submissions, cancellations and their results

What a cancellation promises, what a poll may rely on and how often a request
is placed, over every order of the critical sections.  All of it holds as long
as each submission gets an id that no operation in the table has; the counter
of the ids stops at its largest value, and the table then keeps the old entry
while the queue's refusal is written to it.
-/

namespace FlowOffload.AsyncEngine

open Std (ExtTreeMap)
open Foundation

variable {s t : AsyncEngine} {ref : Nat} {stage : Stage}
  {operation : AsyncOperation} {ran published : Nat → Nat}

/-! ## Steps and runs -/

/-- The step places the request of the operation. -/
def executes (s : AsyncEngine) (ref : Nat) : AsyncStep → Bool
  | .place job _ => job == ref && s.stageAt ref == some .placing
  | _ => false

/-- The step ends the job of the operation after it was placed. -/
def publishes (s : AsyncEngine) (ref : Nat) : AsyncStep → Bool
  | .finish job => job == ref && (match s.stageAt ref with
      | some (.placed _) => true
      | _ => false)
  | _ => false

/-- Either no operation is touched, or one of them is taken on. -/
def TakesOn (s : AsyncEngine) (step : AsyncStep) : Prop :=
  Idle s (s.step step) ∧
      (∀ ref, s.executes ref step = false ∧ s.publishes ref step = false) ∨
    ∃ ref stage operation r d, Turns s (s.step step) ref stage operation r d ∧
      ∀ other, s.executes other step = (other == ref && r) ∧
        s.publishes other step = (other == ref && d)

theorem takesOn_of_quiet {step : AsyncStep}
    (hquiet : ∀ ref, s.executes ref step = false ∧
      s.publishes ref step = false)
    (h : Idle s (s.step step) ∨ ∃ ref stage operation,
      Turns s (s.step step) ref stage operation false false) :
    s.TakesOn step := by
  rcases h with hidle | ⟨ref, stage, operation, hturns⟩
  · exact Or.inl ⟨hidle, hquiet⟩
  · refine Or.inr ⟨ref, stage, operation, false, false, hturns, ?_⟩
    intro other
    rw [Bool.and_false]
    exact hquiet other

theorem createNext_step (h : Tracked s ran published) {caller : Nat}
    (hfree : s.overlays (.create caller) = false) :
    Idle s (s.createNext caller) ∨
      ∃ ref stage operation, Turns s (s.createNext caller) ref stage operation
        false false := by
  unfold createNext
  split
  · exact Or.inl (idle_refl s)
  next request hcaller =>
    have hlt := (List.getElem?_eq_some_iff.mp hcaller).1
    have htracked : Tracked
        { s with callers := s.callers.eraseIdx caller } ran published :=
      ⟨h.stage, h.heap, h.fresh, h.fits, h.held, h.queued, h.nodup⟩
    have hempty : s.makeRoom.size < s.impl.config.maxRequests →
        lookup s.makeRoom ⟨s.nextOperation⟩ = none := by
      intro hroom
      simpa [overlays, hlt, hroom] using hfree
    rw [← makeRoom_callers s (s.callers.eraseIdx caller)] at hempty
    rcases create_step htracked request hempty with
      hidle | ⟨stage, operation, hturns⟩
    · exact Or.inl ⟨hidle.calls, hidle.heap, hidle.allocated,
        hidle.operations, hidle.queue⟩
    · exact Or.inr ⟨s.allocated, stage, operation, hturns.stageAt,
        hturns.heap, hturns.next, hturns.known, hturns.operations,
        hturns.queue, hturns.nodup⟩

theorem step_takesOn (h : Tracked s ran published) {step : AsyncStep}
    (hallowed : s.allowed step) (hfree : s.overlays step = false) :
    s.TakesOn step := by
  have hsame : ∀ {t : AsyncEngine}, t.calls = s.calls → t.heap = s.heap →
      t.allocated = s.allocated → t.operations = s.operations →
      t.pool.queue = s.pool.queue → Idle s t := by
    intro t hcalls hheap hallocated hoperations hqueue
    refine ⟨hcalls, hheap, hallocated, ?_, hqueue⟩
    rw [KeepsLive, hoperations]
    exact fun _ _ hlookup _ => hlookup
  cases step with
  | enter request =>
      refine takesOn_of_quiet (fun _ => ⟨rfl, rfl⟩) (Or.inl ?_)
      rw [AsyncEngine.step, enter]
      split
      · exact hsame rfl rfl rfl rfl rfl
      · exact idle_refl s
  | create caller =>
      exact takesOn_of_quiet (fun _ => ⟨rfl, rfl⟩) (createNext_step h hfree)
  | trySubmit ref =>
      refine takesOn_of_quiet (fun _ => ⟨rfl, rfl⟩) ?_
      exact (trySubmit_step h ref).imp_right fun hturns => ⟨ref, hturns⟩
  | reject ref =>
      refine takesOn_of_quiet (fun _ => ⟨rfl, rfl⟩) ?_
      exact (reject_step h ref).imp_right fun hturns => ⟨ref, hturns⟩
  | pick => exact takesOn_of_quiet (fun _ => ⟨rfl, rfl⟩) (pick_step h)
  | start ref =>
      refine takesOn_of_quiet (fun _ => ⟨rfl, rfl⟩) ?_
      exact (start_step h ref).imp_right fun hturns => ⟨ref, hturns⟩
  | place ref answer =>
      rcases placeJob_step h ref answer with
        ⟨hstage, hidle⟩ | ⟨hstage, stage, operation, hturns⟩
      · refine Or.inl ⟨hidle, fun other => ⟨?_, rfl⟩⟩
        by_cases hother : ref = other
        · subst hother
          simpa [executes] using hstage
        · simp [executes, hother]
      · refine Or.inr ⟨ref, stage, operation, true, false, hturns, ?_⟩
        intro other
        refine ⟨?_, (Bool.and_false _).symm⟩
        by_cases hother : ref = other
        · subst hother
          simp [executes, hstage]
        · rw [executes, beq_false_of_ne hother,
            beq_false_of_ne (Ne.symm hother), Bool.false_and, Bool.false_and]
  | finish ref =>
      rcases finish_step h ref with
        ⟨hstage, hidle⟩ | ⟨⟨result, hstage⟩, stage, operation, hturns⟩
      · refine Or.inl ⟨hidle, fun other => ⟨rfl, ?_⟩⟩
        by_cases hother : ref = other
        · subst hother
          rw [publishes]
          split
          next result hplaced => exact absurd hplaced (hstage result)
          · simp
        · simp [publishes, hother]
      · refine Or.inr ⟨ref, stage, operation, false, true, hturns, ?_⟩
        intro other
        refine ⟨(Bool.and_false _).symm, ?_⟩
        by_cases hother : ref = other
        · subst hother
          simp [publishes, hstage]
        · rw [publishes, beq_false_of_ne hother,
            beq_false_of_ne (Ne.symm hother), Bool.false_and, Bool.false_and]
  | cancel id => exact takesOn_of_quiet (fun _ => ⟨rfl, rfl⟩) (cancel_step h id)
  | poll | stopPool | closePool | engine =>
      exact takesOn_of_quiet (fun _ => ⟨rfl, rfl⟩)
        (Or.inl (hsame rfl rfl rfl rfl rfl))
  | startPool config =>
      have hqueue : s.pool.queue = [] := hallowed
      exact takesOn_of_quiet (fun _ => ⟨rfl, rfl⟩)
        (Or.inl (hsame rfl rfl rfl rfl hqueue.symm))

/-- How often a run places the request of an operation. -/
def executions (ref : Nat) : AsyncEngine → List AsyncStep → Nat
  | _, [] => 0
  | s, step :: steps =>
      (s.executes ref step).toNat + executions ref (s.step step) steps

/-- How often a run ends the job of an operation after it was placed. -/
def completions (ref : Nat) : AsyncEngine → List AsyncStep → Nat
  | _, [] => 0
  | s, step :: steps =>
      (s.publishes ref step).toNat + completions ref (s.step step) steps

theorem executions_append (ref : Nat) (steps more : List AsyncStep) :
    executions ref s (steps ++ more) = executions ref s steps +
      executions ref (asyncEngine.run s steps) more := by
  induction steps generalizing s with
  | nil => simp [executions]
  | cons step steps ih =>
      rw [List.cons_append, executions, executions, ih, Nat.add_assoc]
      rfl

theorem tracked_step (h : Tracked s ran published) {step : AsyncStep}
    (hallowed : s.allowed step) (hfree : s.overlays step = false) :
    Tracked (s.step step)
      (fun ref => ran ref + (s.executes ref step).toNat)
      (fun ref => published ref + (s.publishes ref step).toNat) := by
  rcases step_takesOn h hallowed hfree with
    ⟨hidle, hquiet⟩ | ⟨ref, stage, operation, r, d, hturns, hcounts⟩
  · have htracked := h.idle hidle
    simpa only [(hquiet _).1, (hquiet _).2, Bool.toNat_false, Nat.add_zero]
      using htracked
  · have htracked := h.turns hturns
    have hbump : ∀ (counts : Nat → Nat) (more : Bool),
        bump counts ref more =
          fun other => counts other + (other == ref && more).toNat := by
      intro counts more
      funext other
      by_cases hother : other = ref
      · subst hother
        simp [bump]
      · simp [bump, hother]
    simpa only [hbump, (hcounts _).1, (hcounts _).2] using htracked

/-- An ended operation is left alone. -/
theorem returned_step (h : Tracked s ran published) {step : AsyncStep}
    (hallowed : s.allowed step) (hfree : s.overlays step = false)
    (hover : s.track ref = some (.returned, operation)) :
    (s.step step).track ref = some (.returned, operation) := by
  rcases step_takesOn h hallowed hfree with
    ⟨hidle, -⟩ | ⟨other, stage, _, r, d, hturns, -⟩
  · rw [hidle.track, hover]
  · rw [hturns.track]
    by_cases hother : ref = other
    · subst hother
      have hnext := hturns.next
      have hfits := h.fits ref
      rw [hover] at hnext hfits
      exact (hnext.returned hfits).elim
    · rw [Function.update_of_ne hother, hover]

/-- In each state it takes an id that is free. -/
def TakesFreeIds (s : AsyncEngine) (step : AsyncStep) : Prop :=
  s.overlays step = false

instance (s : AsyncEngine) (step : AsyncStep) :
    Decidable (s.TakesFreeIds step) :=
  inferInstanceAs (Decidable (_ = _))

theorem tracked_run {steps : List AsyncStep} (h : Tracked s ran published)
    (hrun : asyncEngine.Admits TakesFreeIds s steps) :
    Tracked (asyncEngine.run s steps)
      (fun ref => ran ref + executions ref s steps)
      (fun ref => published ref + completions ref s steps) := by
  induction steps generalizing s ran published with
  | nil => exact h
  | cons step steps ih =>
      obtain ⟨hallowed, hfree, hrest⟩ := hrun
      have htracked := ih (tracked_step h hallowed hfree) hrest
      simp only [Nat.add_assoc] at htracked
      exact htracked

theorem returned_run {steps : List AsyncStep} (h : Tracked s ran published)
    (hrun : asyncEngine.Admits TakesFreeIds s steps)
    (hover : s.track ref = some (.returned, operation)) :
    (asyncEngine.run s steps).track ref = some (.returned, operation) := by
  induction steps generalizing s ran published with
  | nil => exact hover
  | cons step steps ih =>
      obtain ⟨hallowed, hfree, hrest⟩ := hrun
      exact ih (tracked_step h hallowed hfree) hrest
        (returned_step h hallowed hfree hover)


theorem asked_run {steps : List AsyncStep} (h : Tracked s ran published)
    (hrun : asyncEngine.Admits TakesFreeIds s steps)
    (hasked : ∃ stage operation, s.track ref = some (stage, operation) ∧
      operation.cancelRequested = true) :
    ∃ stage operation,
      (asyncEngine.run s steps).track ref = some (stage, operation) ∧
        operation.cancelRequested = true := by
  induction steps generalizing s ran published with
  | nil => exact hasked
  | cons step steps ih =>
      obtain ⟨hallowed, hfree, hrest⟩ := hrun
      refine ih (tracked_step h hallowed hfree) hrest ?_
      obtain ⟨stage, operation, hold, hasked⟩ := hasked
      rcases step_takesOn h hallowed hfree with
        ⟨hidle, -⟩ | ⟨other, after, later, r, d, hturns, -⟩
      · exact ⟨stage, operation, by
          change (s.step step).track ref = _
          rw [hidle.track, hold], hasked⟩
      · by_cases hother : ref = other
        · subst hother
          have hnext := hturns.next
          rw [hold] at hnext
          refine ⟨after, later, ?_, hnext.cancelRequested hasked⟩
          change (s.step step).track ref = _
          rw [hturns.track, Function.update_self]
        · refine ⟨stage, operation, ?_, hasked⟩
          change (s.step step).track ref = _
          rw [hturns.track, Function.update_of_ne hother, hold]

theorem tracked_init (impl : Impl) (config : PoolConfig) :
    Tracked (init impl config) (fun _ => 0) fun _ => 0 where
  stage ref := by simp [stageAt, track, init]
  heap ref := by simp [stageAt, track, init]
  fresh ref _ := by simp [stageAt, track, init]
  fits ref := by simp [stageAt, track, init, Fits]
  held ref stage operation htrack := by
    simp [stageAt, track, init] at htrack
  queued ref hmem := by
    simp [init, ThreadPool.start] at hmem
  nodup := List.nodup_nil

/-! ## What the caller is promised -/

/-- What a run of critical sections owes to every operation. -/
structure Honest (s : AsyncEngine) (steps : List AsyncStep) : Prop where
  cancelled : ∀ before id after ref, steps = before ++ .cancel id :: after →
    lookup (asyncEngine.run s before).operations id = some ref →
    ((asyncEngine.run s before).cancel id).2 = .accepted .acceptedCancelled →
      executions ref s steps = 0
  ended : ∀ before after ref operation, steps = before ++ after →
    lookup (asyncEngine.run s before).heap ref = some operation →
    operation.state.isTerminal = true →
      (lookup (asyncEngine.run s steps).heap ref).map AsyncOperation.state =
        some operation.state
  once : ∀ ref, executions ref s steps ≤ 1
  result : ∀ ref operation,
    lookup (asyncEngine.run s steps).heap ref = some operation →
      (operation.hasResult = true ↔ completions ref s steps = 1)
  placed : ∀ ref, completions ref s steps ≤ executions ref s steps

theorem Tracked.of_heap (h : Tracked s ran published)
    (hheap : lookup s.heap ref = some operation) :
    ∃ stage, s.track ref = some (stage, operation) := by
  rw [h.heap, Option.map_eq_some_iff] at hheap
  obtain ⟨⟨stage, _⟩, htrack, rfl⟩ := hheap
  exact ⟨stage, htrack⟩

theorem pending_of_cancelled {id : OperationId}
    (hlookup : lookup s.operations id = some ref)
    (hanswer : (s.cancel id).2 = .accepted .acceptedCancelled) :
    (lookup s.heap ref).map AsyncOperation.state = some .pending := by
  unfold cancel at hanswer
  rw [hlookup] at hanswer
  dsimp only at hanswer
  split at hanswer
  next hpending => exact hpending
  · cases hanswer
  · cases hanswer

theorem asked_cancel (h : Tracked s ran published) {id : OperationId}
    (hlookup : lookup s.operations id = some ref)
    (hanswer : (s.cancel id).2 = .accepted .acceptedCancelled) :
    ∃ stage operation, (s.cancel id).1.track ref = some (stage, operation) ∧
      operation.cancelRequested = true := by
  have hpending := pending_of_cancelled hlookup hanswer
  unfold cancel
  rw [hlookup]
  dsimp only
  rw [hpending]
  rw [Option.map_eq_some_iff] at hpending
  obtain ⟨operation, hheap, -⟩ := hpending
  obtain ⟨stage, htrack⟩ := h.of_heap hheap
  refine ⟨stage, { operation with cancelRequested := true }, ?_, rfl⟩
  rw [track_eq_some_iff] at htrack ⊢
  refine ⟨htrack.1, ?_⟩
  simp [update, htrack.2]

/--
When every submission takes an id that is free in the table, a cancellation
that is accepted means that the request is never placed, an operation that has
ended stays as it is, no request is placed twice, and there is a result exactly
when the job was carried to its end.
-/
theorem operations_are_honest (impl : Impl) (config : PoolConfig)
    {steps : List AsyncStep}
    (h : asyncEngine.Admits TakesFreeIds (init impl config) steps) :
    Honest (init impl config) steps := by
  have hinit := tracked_init impl config
  have hend := tracked_run hinit h
  simp only [Nat.zero_add] at hend
  constructor
  case cancelled =>
    intro before id after ref hsteps hlookup hanswer
    subst hsteps
    obtain ⟨hbefore, hallowed, hfree, hafter⟩ := Machine.admits_append.mp h
    have hthen := tracked_run hinit hbefore
    have hstep := @tracked_step _ _ _ hthen (.cancel id) hallowed hfree
    obtain ⟨stage, operation, htrack, hasked⟩ :=
      asked_run hstep hafter (asked_cancel hthen hlookup hanswer)
    have hlast : (asyncEngine.run (init impl config)
        (before ++ .cancel id :: after)).track ref =
          some (stage, operation) := by
      rw [Machine.run_append, Machine.run_cons]
      exact htrack
    have hfits := hend.fits ref
    rw [hlast] at hfits
    exact hfits.cancelled hasked
  case ended =>
    intro before after ref operation hsteps hheap hended
    subst hsteps
    obtain ⟨hbefore, hafter⟩ := Machine.admits_append.mp h
    have hthen := tracked_run hinit hbefore
    obtain ⟨stage, htrack⟩ := hthen.of_heap hheap
    have hfits := hthen.fits ref
    rw [htrack] at hfits
    rw [hfits.ended hended] at htrack
    have hstays := returned_run hthen hafter htrack
    rw [track_eq_some_iff] at hstays
    rw [Machine.run_append, hstays.2]
    rfl
  case once => exact fun ref => (hend.fits ref).ran_le.2
  case result =>
    intro ref operation hheap
    obtain ⟨stage, htrack⟩ := hend.of_heap hheap
    have hfits := hend.fits ref
    rw [htrack] at hfits
    exact hfits.hasResult
  case placed => exact fun ref => (hend.fits ref).ran_le.1

/-- Two submissions to one worker; the first is cancelled in time, the second
too late. -/
def raced : List AsyncStep :=
  [.enter {}, .create 0, .enter {}, .create 0, .trySubmit 1, .trySubmit 0,
    .pick, .start 1, .cancel ⟨1⟩, .cancel ⟨2⟩, .place 1 ⟨.ok⟩, .pick, .start 0,
    .finish 1]

theorem race_is_honest :
    Honest (init (Impl.step (Impl.init {} []) (.openEngine {} ⟨.ok⟩))
        { workers := 1 }) raced ∧
      ([(⟨1⟩ : OperationId), ⟨2⟩].map fun id =>
          let status := (asyncEngine.run (init (Impl.step (Impl.init {} [])
            (.openEngine {} ⟨.ok⟩)) { workers := 1 }) raced).poll id
          (status.state, status.hasResult)) =
        [(.cancelled, false), (.rejected, true)] :=
  ⟨operations_are_honest _ _ (by decide +kernel), by decide +kernel⟩

/-! ## When the ids run out -/

theorem lookup_of_evictEnded (terminal : Nat) {id : OperationId}
    {operations : ExtTreeMap OperationId Nat}
    (h : lookup (s.evictEnded terminal operations) id = some ref) :
    lookup operations id = some ref := by
  induction terminal generalizing operations with
  | zero => exact h
  | succ terminal ih =>
      rw [evictEnded] at h
      split at h
      · split at h
        next ended _ =>
          have hkept := ih h
          rw [lookup_erase] at hkept
          by_cases hid : id = ended
          · subst hid
            rw [Function.update_self] at hkept
            cases hkept
          · rwa [Function.update_of_ne hid] at hkept
        · exact h
      · exact h

theorem evictEnded_of_lt {operations : ExtTreeMap OperationId Nat}
    (h : operations.size < s.impl.config.maxRequests) (terminal : Nat) :
    s.evictEnded terminal operations = operations := by
  cases terminal with
  | zero => rfl
  | succ terminal => rw [evictEnded, if_neg (Nat.not_le.mpr h)]

/-- One operation that has ended is room enough. -/
theorem size_makeRoom_lt
    (hsize : s.operations.size ≤ s.impl.config.maxRequests)
    (hended : s.impl.config.maxRequests ≤ s.operations.size →
      ∃ id ref, lookup s.operations id = some ref ∧ s.endedAt ref = true) :
    s.makeRoom.size < s.impl.config.maxRequests := by
  by_cases hfull : s.impl.config.maxRequests ≤ s.operations.size
  · obtain ⟨id, ref, hlookup, hover⟩ := hended hfull
    have hmem := lookup_eq_some_iff_mem_toList.mp hlookup
    have hcount : 0 < s.operations.toList.countP fun entry =>
        s.endedAt entry.2 := List.countP_pos_iff.mpr ⟨_, hmem, hover⟩
    rw [makeRoom]
    obtain ⟨terminal, hterminal⟩ := Nat.exists_eq_succ_of_ne_zero
      (Nat.ne_of_gt hcount)
    rw [hterminal, evictEnded, if_pos hfull]
    cases hfirst : s.firstEnded s.operations with
    | none =>
        rw [firstEnded, Option.map_eq_none_iff, List.find?_eq_none] at hfirst
        exact absurd hover (hfirst _ hmem)
    | some first =>
        dsimp only
        rw [firstEnded, Option.map_eq_some_iff] at hfirst
        obtain ⟨entry, hentry, rfl⟩ := hfirst
        have hfound := lookup_eq_some_iff_mem_toList.mpr
          (List.mem_of_find?_eq_some hentry)
        have hcontains : s.operations.contains entry.1 = true := by
          rw [ExtTreeMap.contains_eq_isSome_getElem?]
          change (lookup s.operations entry.1).isSome = true
          rw [hfound]
          rfl
        have herased : (s.operations.erase entry.1).size =
            s.operations.size - 1 := by
          rw [ExtTreeMap.size_erase, if_pos hcontains]
        have hpositive : s.operations.size ≠ 0 := by
          intro hzero
          have hnil : s.operations.toList.length = 0 := by
            rw [ExtTreeMap.length_toList, hzero]
          rw [List.length_eq_zero_iff] at hnil
          rw [hnil] at hmem
          cases hmem
        rw [evictEnded_of_lt] <;> omega
  · rw [makeRoom, evictEnded_of_lt (by omega)]
    omega

/-- A pool with one worker and room for one job. -/
def narrowPool (queue : List Nat) : ThreadPool :=
  { queue := queue, maxQueueDepth := 1, running := true }

/-- A table for two operations in front of a pool with room for one job, after
`n` operations that all have ended. -/
structure Spent (s : AsyncEngine) (n : Nat) : Prop where
  isOpen : s.impl.isOpen = true
  config : s.impl.config.maxRequests = 2
  pool : s.pool = narrowPool []
  callers : s.callers = []
  allocated : s.allocated = n
  next : s.nextOperation = UInt64.ofNat (n + 1)
  size : s.operations.size ≤ 2
  ended : ∀ id ref, lookup s.operations id = some ref →
    s.endedAt ref = true ∧ ref < n ∧ id.value.toNat ≤ n

/-- An operation that is cancelled before its job begins. -/
def wasted (n : Nat) : List AsyncStep :=
  [.enter {}, .create 0, .cancel ⟨UInt64.ofNat (n + 1)⟩, .trySubmit n, .pick,
    .start n]

def wastes : Nat → List AsyncStep
  | 0 => []
  | n + 1 => wastes n ++ wasted n

/-- The state after a submission of which the queue took the job. -/
def submittedTo (s : AsyncEngine) (n : Nat) : AsyncEngine :=
  { s with
    impl := countSubmitted s.impl
    operations := s.makeRoom.insertIfNew ⟨s.nextOperation⟩ n
    heap := s.heap.insert n { id := ⟨s.nextOperation⟩ }
    calls := s.calls.insert n {}
    allocated := n + 1
    nextOperation := saturatingIncrement s.nextOperation }

theorem run_submit (n : Nat) (hopen : s.impl.isOpen = true)
    (hcallers : s.callers = []) (hallocated : s.allocated = n)
    (hroom : s.makeRoom.size < s.impl.config.maxRequests) :
    asyncEngine.run s [.enter {}, .create 0] = s.submittedTo n := by
  have henter : s.step (.enter {}) = { s with callers := [{}] } := by
    simp [step, enter, hopen, hcallers]
  have hcreate : ({ s with callers := [{}] } : AsyncEngine).createNext 0 =
      s.create {} := by
    rw [createNext]
    change ({ s with callers := [] } : AsyncEngine).create {} = s.create {}
    rw [← hcallers]
  change (s.step (.enter {})).step (.create 0) = _
  rw [henter]
  change ({ s with callers := [{}] } : AsyncEngine).createNext 0 = _
  rw [hcreate, create]
  dsimp only
  rw [if_neg (Nat.not_le.mpr hroom), submittedTo, hallocated]

/-- The room that is made keeps only operations that were in the table. -/
theorem Spent.room {n : Nat} (h : Spent s n) (hn : n + 1 < 2 ^ 64) :
    s.makeRoom.size < s.impl.config.maxRequests ∧
      lookup s.makeRoom ⟨s.nextOperation⟩ = none := by
  constructor
  · refine size_makeRoom_lt ?_ ?_
    · rw [h.config]
      exact h.size
    · intro hfull
      rw [h.config] at hfull
      cases hentries : s.operations.toList with
      | nil =>
          have hsize := ExtTreeMap.length_toList (t := s.operations)
          rw [hentries, List.length_nil] at hsize
          omega
      | cons entry rest =>
          have hlookup : lookup s.operations entry.1 = some entry.2 := by
            rw [lookup_eq_some_iff_mem_toList, hentries]
            exact List.mem_cons_self
          exact ⟨entry.1, entry.2, hlookup, (h.ended _ _ hlookup).1⟩
  · cases hfound : lookup s.makeRoom ⟨s.nextOperation⟩ with
    | none => rfl
    | some ref =>
        have hbelow := (h.ended _ _ (lookup_of_evictEnded _ hfound)).2.2
        rw [h.next, UInt64.toNat_ofNat'] at hbelow
        omega

theorem run_wasted {n : Nat} {id : OperationId}
    (hpool : s.pool = narrowPool [])
    (htable : lookup s.operations id = some n)
    (hheap : lookup s.heap n = some { id := id })
    (hstage : s.stageAt n = some .submitted) :
    ∃ heap calls, lookup heap = Function.update (lookup s.heap) n
        (some
          { id := id
            state := .cancelled
            reason := .rejectedCancelled
            cancelRequested := true }) ∧
      asyncEngine.run s [.cancel id, .trySubmit n, .pick, .start n] =
        { s with
          impl := countCancelled s.impl
          heap := heap
          calls := calls } := by
  obtain ⟨call, hcall, hsubmitted⟩ := Option.map_eq_some_iff.mp hstage
  let moved (stage : Stage) (call : Call) : Call := { call with stage := stage }
  refine ⟨(s.heap.modify n fun operation =>
      { operation with cancelRequested := true }).modify n fun operation =>
      { operation with
        state := .cancelled
        reason := .rejectedCancelled },
    ((s.calls.modify n (moved .queued)).modify n (moved .picked)).modify n
      (moved .returned), ?_, ?_⟩
  · simp [hheap]
  · simp [asyncEngine, step, Machine.run, cancel, htable, hheap, trySubmit,
      update, stageAt, hcall, hsubmitted, ThreadPool.trySubmit, hpool,
      narrowPool, setStage, pick, start, moved]

/-- The table after a submission that found room and a free id. -/
theorem Spent.lookup_submittedTo {n : Nat} (h : Spent s n)
    (hn : n + 1 < 2 ^ 64) :
    lookup (s.submittedTo n).operations =
      Function.update (lookup s.makeRoom) ⟨s.nextOperation⟩ (some n) :=
  lookup_insertIfNew_of_none _ _ (h.room hn).2

theorem Spent.size_submittedTo {n : Nat} (h : Spent s n) (hn : n + 1 < 2 ^ 64) :
    (s.submittedTo n).operations.size ≤ 2 := by
  have hroom := (h.room hn).1
  rw [h.config] at hroom
  have hle := ExtTreeMap.size_insertIfNew_le (t := s.makeRoom)
    (k := ⟨s.nextOperation⟩) (v := n)
  change (s.makeRoom.insertIfNew _ _).size ≤ 2
  omega

theorem saturatingIncrement_of_lt {value : UInt64} {n : Nat}
    (h : value.toNat = n + 1) (hn : n + 2 < 2 ^ 64) :
    saturatingIncrement value = UInt64.ofNat (n + 2) := by
  have hne : value ≠ 0xFFFFFFFFFFFFFFFF := by
    rintro rfl
    change 18446744073709551615 = n + 1 at h
    omega
  rw [saturatingIncrement, if_neg hne, ← UInt64.toNat_inj, UInt64.toNat_add, h,
    UInt64.toNat_ofNat']
  rfl

theorem spent_wasted {n : Nat} (h : Spent s n) (hn : n + 2 < 2 ^ 64) :
    Spent (asyncEngine.run s (wasted n)) (n + 1) := by
  have hid : s.nextOperation.toNat = n + 1 := by
    rw [h.next, UInt64.toNat_ofNat']
    omega
  have hsubmit := run_submit n h.isOpen h.callers h.allocated
    (h.room (by omega)).1
  have htable := h.lookup_submittedTo (by omega)
  have hself := congrFun htable ⟨s.nextOperation⟩
  rw [Function.update_self] at hself
  obtain ⟨heap, calls, hheap, hrun⟩ := @run_wasted (s.submittedTo n) n _
    h.pool hself (by simp [submittedTo]) (by simp [submittedTo, stageAt])
  have heq : asyncEngine.run s (wasted n) =
      { s.submittedTo n with
        impl := countCancelled (countSubmitted s.impl)
        heap := heap
        calls := calls } := by
    change asyncEngine.run s ([.enter {}, .create 0] ++ [.cancel
      ⟨UInt64.ofNat (n + 1)⟩, .trySubmit n, .pick, .start n]) = _
    rw [Machine.run_append, hsubmit, ← h.next]
    exact hrun
  rw [heq]
  constructor
  case isOpen => exact h.isOpen
  case config => exact h.config
  case pool => exact h.pool
  case callers => exact h.callers
  case allocated => rfl
  case next =>
    change saturatingIncrement s.nextOperation = _
    exact saturatingIncrement_of_lt hid hn
  case size => exact h.size_submittedTo (by omega)
  case ended =>
    intro id ref hlookup
    change lookup (s.submittedTo n).operations id = some ref at hlookup
    rw [htable] at hlookup
    change ((lookup heap ref).any fun operation =>
      operation.state.isTerminal) = true ∧ _
    rw [hheap]
    by_cases hnew : id = ⟨s.nextOperation⟩
    · subst hnew
      rw [Function.update_self] at hlookup
      cases hlookup
      rw [Function.update_self]
      exact ⟨rfl, Nat.lt_succ_self n, Nat.le_of_eq hid⟩
    · rw [Function.update_of_ne hnew] at hlookup
      obtain ⟨hover, hlt, hbelow⟩ :=
        h.ended _ _ (lookup_of_evictEnded _ hlookup)
      rw [Function.update_of_ne (by omega)]
      refine ⟨?_, by omega, by omega⟩
      change ((lookup (s.heap.insert n _) ref).any _) = true
      rw [lookup_insert, Function.update_of_ne (by omega)]
      exact hover

theorem spent_wastes (h : Spent s 0) {n : Nat} (hn : n + 1 < 2 ^ 64) :
    Spent (asyncEngine.run s (wastes n)) n := by
  induction n with
  | zero => exact h
  | succ n ih =>
      rw [wastes, Machine.run_append]
      exact spent_wasted (ih (by omega)) (by omega)

/-- A second submission gets the id of the first, and the queue is full. -/
def collision (n : Nat) : List AsyncStep :=
  [.enter {}, .create 0, .trySubmit n, .enter {}, .create 0,
    .trySubmit (n + 1), .reject (n + 1)]

theorem run_collision {n : Nat} {id : OperationId}
    (hpool : s.pool = narrowPool [n])
    (htable : lookup s.operations id = some n)
    (hheap : lookup s.heap n = some { id := id })
    (hstage : s.stageAt n = some .queued)
    (hheap' : lookup s.heap (n + 1) = some { id := id })
    (hstage' : s.stageAt (n + 1) = some .submitted) :
    (lookup (asyncEngine.run s [.trySubmit (n + 1), .reject (n + 1)]).heap
        n).map AsyncOperation.state = some .rejected ∧
      (lookup (asyncEngine.run s [.trySubmit (n + 1), .reject (n + 1), .pick,
        .start n]).heap n).map AsyncOperation.state = some .running := by
  obtain ⟨call, hcall, hqueued⟩ := Option.map_eq_some_iff.mp hstage
  obtain ⟨call', hcall', hsubmitted⟩ := Option.map_eq_some_iff.mp hstage'
  constructor
  · simp [asyncEngine, step, Machine.run, trySubmit, stageAt, hcall',
      hsubmitted, ThreadPool.trySubmit, hpool, narrowPool, setStage, reject,
      hheap', htable, update, hheap]
  · simp [asyncEngine, step, Machine.run, trySubmit, stageAt, hcall, hcall',
      hsubmitted, ThreadPool.trySubmit, hpool, narrowPool, setStage, reject,
      hheap', htable, update, hheap, pick, start]

/-- The state after the queue took the job of a submission. -/
def queuedIn (s : AsyncEngine) (n : Nat) : AsyncEngine :=
  ({ s.submittedTo n with pool := narrowPool [n] }).setStage n .queued

theorem run_queued {n : Nat} (h : Spent s n) (hn : n + 1 < 2 ^ 64) :
    asyncEngine.run s [.enter {}, .create 0, .trySubmit n] = s.queuedIn n := by
  have hsubmit := run_submit n h.isOpen h.callers h.allocated (h.room hn).1
  change asyncEngine.run s ([.enter {}, .create 0] ++ [.trySubmit n]) = _
  rw [Machine.run_append, hsubmit]
  have hpool : (s.submittedTo n).pool = narrowPool [] := h.pool
  have hstage : (s.submittedTo n).stageAt n = some .submitted := by
    simp [submittedTo, stageAt]
  change (s.submittedTo n).trySubmit n = _
  rw [trySubmit, hstage, hpool]
  rfl

/-- While the newest operation waits, an older one makes room. -/
theorem Spent.room_queuedIn {n : Nat} (h : Spent s n) (hn : n + 1 < 2 ^ 64) :
    (s.queuedIn n).makeRoom.size < 2 ∧
      lookup (s.queuedIn n).makeRoom ⟨s.nextOperation⟩ = some n := by
  have htable : lookup (s.queuedIn n).operations =
      Function.update (lookup s.makeRoom) ⟨s.nextOperation⟩ (some n) :=
    h.lookup_submittedTo hn
  have hheap : lookup (s.queuedIn n).heap =
      Function.update (lookup s.heap) n (some { id := ⟨s.nextOperation⟩ }) :=
    lookup_insert _ _ _
  have hconfig : (s.queuedIn n).impl.config.maxRequests = 2 := h.config
  constructor
  · rw [← hconfig]
    refine size_makeRoom_lt ?_ ?_
    · rw [hconfig]
      exact h.size_submittedTo hn
    · intro hfull
      rw [hconfig] at hfull
      have hlength := ExtTreeMap.length_toList (t := (s.queuedIn n).operations)
      have hnodup := nodup_fst_toList (s.queuedIn n).operations
      -- of two operations in the table at most one is the newest
      obtain ⟨entry, hmem, hne⟩ : ∃ entry ∈ (s.queuedIn n).operations.toList,
          entry.1 ≠ ⟨s.nextOperation⟩ := by
        match hentries : (s.queuedIn n).operations.toList with
        | [] | [_] =>
            rw [hentries] at hlength
            simp at hlength
            omega
        | first :: second :: rest =>
            rw [hentries] at hnodup
            by_cases hfirst : first.1 = ⟨s.nextOperation⟩
            · refine ⟨second, by simp, ?_⟩
              intro hsecond
              simp [hfirst, hsecond] at hnodup
            · exact ⟨first, by simp, hfirst⟩
      have hlookup := lookup_eq_some_iff_mem_toList.mpr hmem
      refine ⟨entry.1, entry.2, hlookup, ?_⟩
      rw [htable, Function.update_of_ne hne] at hlookup
      obtain ⟨hover, hlt, -⟩ := h.ended _ _ (lookup_of_evictEnded _ hlookup)
      rw [endedAt, hheap, Function.update_of_ne (by omega)]
      exact hover
  · refine lookup_evictEnded _ ?_ ?_
    · rw [htable, Function.update_self]
    · rw [endedAt, hheap, Function.update_self]
      rfl

theorem Spent.collides {n : Nat} (h : Spent s n) (hn : n + 2 = 2 ^ 64) :
    (lookup (asyncEngine.run s (collision n)).heap n).map
        AsyncOperation.state = some .rejected ∧
      (lookup (asyncEngine.run s (collision n ++ [.pick, .start n])).heap
        n).map AsyncOperation.state = some .running := by
  have hqueued := run_queued h (by omega)
  obtain ⟨hroom, htaken⟩ := h.room_queuedIn (by omega)
  have hlast : s.nextOperation = 0xFFFFFFFFFFFFFFFF := by
    rw [h.next, ← UInt64.toNat_inj, UInt64.toNat_ofNat']
    change (n + 1) % 2 ^ 64 = 18446744073709551615
    omega
  have hnext : (s.queuedIn n).nextOperation = s.nextOperation := by
    change saturatingIncrement s.nextOperation = s.nextOperation
    rw [hlast]
    rfl
  have hagain : asyncEngine.run (s.queuedIn n) [.enter {}, .create 0] =
      (s.queuedIn n).submittedTo (n + 1) := by
    refine run_submit (n + 1) h.isOpen h.callers rfl ?_
    change _ < s.impl.config.maxRequests
    rw [h.config]
    exact hroom
  have htable : lookup ((s.queuedIn n).submittedTo (n + 1)).operations
      ⟨s.nextOperation⟩ = some n := by
    change lookup ((s.queuedIn n).makeRoom.insertIfNew _ _) _ = some n
    rw [hnext, lookup_insertIfNew_of_some _ htaken, htaken]
  have hcollision := @run_collision ((s.queuedIn n).submittedTo (n + 1)) n
    ⟨s.nextOperation⟩ rfl htable (by simp [submittedTo, queuedIn, setStage])
    (by simp [submittedTo, queuedIn, setStage, stageAt])
    (by simp [submittedTo, hnext]) (by simp [submittedTo, stageAt])
  have hrun : ∀ steps, asyncEngine.run s ([.enter {}, .create 0, .trySubmit n,
      .enter {}, .create 0] ++ steps) =
        asyncEngine.run ((s.queuedIn n).submittedTo (n + 1)) steps := by
    intro steps
    rw [← hagain, ← hqueued, ← Machine.run_append, ← Machine.run_append]
    rfl
  rw [collision]
  exact ⟨hrun [.trySubmit (n + 1), .reject (n + 1)] ▸ hcollision.1,
    hrun [.trySubmit (n + 1), .reject (n + 1), .pick, .start n] ▸ hcollision.2⟩

/-- An open engine whose table and whose queue are as narrow as can be. -/
def narrowEngine : AsyncEngine :=
  init (Impl.step (Impl.init { maxRequests := 2 } []) (.openEngine {} ⟨.ok⟩))
    { workers := 1, maxQueueDepth := 1 }

theorem spent_narrowEngine : Spent narrowEngine 0 where
  isOpen := by decide +kernel
  config := by decide +kernel
  pool := by decide +kernel
  callers := rfl
  allocated := rfl
  next := by decide +kernel
  size := by decide +kernel
  ended id ref hlookup := by
    change lookup ∅ id = some ref at hlookup
    simp at hlookup

theorem admits_of_allowed {steps : List AsyncStep}
    (h : ∀ step ∈ steps, ∀ s : AsyncEngine, s.allowed step) (s : AsyncEngine) :
    asyncEngine.Admits (fun _ _ => True) s steps := by
  induction steps generalizing s with
  | nil => trivial
  | cons step steps ih =>
      refine ⟨h step List.mem_cons_self s, trivial, ?_⟩
      exact ih (fun other hother => h other (List.mem_cons_of_mem _ hother)) _

theorem allowed_wastes (n : Nat) :
    ∀ step ∈ wastes n, ∀ s : AsyncEngine, s.allowed step := by
  induction n with
  | zero =>
      intro step hstep
      cases hstep
  | succ n ih =>
      intro step hstep
      rcases List.mem_append.mp hstep with hold | hnew
      · exact ih step hold
      · simp only [wasted, List.mem_cons, List.not_mem_nil, or_false] at hnew
        rcases hnew with rfl | rfl | rfl | rfl | rfl | rfl <;>
          exact fun _ => trivial

theorem allowed_collision (n : Nat) :
    ∀ step ∈ collision n ++ [.pick, .start n], ∀ s : AsyncEngine,
      s.allowed step := by
  intro step hstep
  simp only [collision, List.cons_append, List.nil_append, List.mem_cons,
    List.not_mem_nil, or_false] at hstep
  rcases hstep with rfl | rfl | rfl | rfl | rfl | rfl | rfl | rfl | rfl <;>
    exact fun _ => trivial

/--
The last id is given out twice.  The queue refuses the second job, and the
refusal is written to the operation that has the id: it waits in the queue, is
reported as rejected, and then it runs.
-/
theorem refused_operation_runs :
    asyncEngine.Admits (fun _ _ => True) narrowEngine
        (wastes (2 ^ 64 - 2) ++
          (collision (2 ^ 64 - 2) ++ [.pick, .start (2 ^ 64 - 2)])) ∧
      ¬ Honest narrowEngine (wastes (2 ^ 64 - 2) ++
        (collision (2 ^ 64 - 2) ++ [.pick, .start (2 ^ 64 - 2)])) := by
  obtain ⟨n, hn⟩ : ∃ n, n = 2 ^ 64 - 2 := ⟨_, rfl⟩
  rw [← hn]
  have hspent := @spent_wastes _ spent_narrowEngine n (by omega)
  obtain ⟨hrejected, hrunning⟩ := hspent.collides (by omega)
  constructor
  · refine admits_of_allowed (fun step hstep => ?_) _
    rcases List.mem_append.mp hstep with hwaste | hlast
    · exact allowed_wastes n step hwaste
    · exact allowed_collision n step hlast
  · intro h
    rw [← Machine.run_append, Option.map_eq_some_iff] at hrejected
    obtain ⟨operation, hheap, hstate⟩ := hrejected
    have hended := h.ended (wastes n ++ collision n) [.pick, .start n] n
      operation (List.append_assoc _ _ _).symm hheap (by
        rw [hstate]
        rfl)
    rw [Machine.run_append, hrunning, hstate] at hended
    cases hended

end FlowOffload.AsyncEngine

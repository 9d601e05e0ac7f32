import FlowOffload.Service.Pool
import Mathlib.Data.List.Basic
import Mathlib.Tactic.Common

/-!
# Jobs of the worker pool

An accepted job waits, runs or has returned, and each counts once: the queue is
the end of the list of accepted jobs, so that jobs begin in the order in which
they were accepted.  A shutdown runs every job that was accepted before it.
-/

namespace FlowOffload

open Foundation

namespace WorkerPool

variable {α : Type} {p : WorkerPool α}

/-- Every accepted job is in one place, and the queue is in order. -/
def Accounted (p : WorkerPool α) : Prop :=
  ∃ begun, p.accepted = begun ++ p.queue ∧
    begun.Perm (p.finished ++ p.begun)

/-- The phases of the pool and its bounds. -/
structure Phased (p : WorkerPool α) : Prop where
  bounded : p.queue.length ≤ p.maxQueueDepth
  threads : p.idle + p.active.length ≤ p.workers
  rest : p.running = false → p.workers = 0 ∧ p.queue = [] ∧
    p.draining = none ∧ p.inlineMode = false
  inline : p.inlineMode = true → p.workers = 0 ∧ p.queue = []
  drains : p.draining ≠ none → p.stop = true

theorem Phased.idle_eq_zero (h : p.Phased) (hworkers : p.workers = 0) :
    p.idle = 0 ∧ p.active = [] := by
  have hthreads := h.threads
  rw [hworkers] at hthreads
  exact ⟨by omega, List.eq_nil_of_length_eq_zero (by omega)⟩

/-- A submission runs at once, is refused, or waits at the end. -/
theorem trySubmit_cases (p : WorkerPool α) (job : α) :
    (p.inlineMode = true ∧ p.trySubmit job =
      ({ p with
          inlined := p.inlined ++ [job], accepted := p.accepted ++ [job] },
        true)) ∨
    p.trySubmit job = (p, false) ∨
    (p.inlineMode = false ∧ (p.running = true ∧ p.stop = false) ∧
      p.queue.length < p.maxQueueDepth ∧ p.trySubmit job =
        ({ p with
            queue := p.queue ++ [job], accepted := p.accepted ++ [job] },
          true)) := by
  unfold trySubmit
  by_cases hmode : p.inlineMode = true
  · rw [if_pos hmode]
    exact Or.inl ⟨hmode, rfl⟩
  · rw [if_neg hmode]
    by_cases hclosed : (!p.running || p.stop) = true
    · rw [if_pos hclosed]
      exact Or.inr (Or.inl rfl)
    · rw [if_neg hclosed]
      by_cases hfull : p.queue.length ≥ p.maxQueueDepth
      · rw [if_pos hfull]
        exact Or.inr (Or.inl rfl)
      · rw [if_neg hfull]
        simp only [Bool.or_eq_true, Bool.not_eq_true', not_or,
          Bool.not_eq_false, Bool.not_eq_true] at hclosed
        exact Or.inr (Or.inr ⟨Bool.eq_false_iff.mpr hmode, hclosed,
          Nat.lt_of_not_le hfull, rfl⟩)

variable [DecidableEq α]

/-! ## Steps -/

theorem phased_step (hp : p.Phased) (event : Event α)
    (hallowed : p.allowed event) : (p.step event).Phased := by
  obtain ⟨hbounded, hthreads, hrest, hinline, hdrains⟩ := hp
  cases event with
  | start workers maxQueueDepth =>
      obtain ⟨hrunning, hstop⟩ := hallowed
      obtain ⟨hworkers, hqueue, hdraining, -⟩ := hrest hrunning
      have hactive : p.active.length = 0 := by omega
      refine ⟨Nat.zero_le _, ?_, fun h => ?_, fun h => ?_, fun h => ?_⟩
      · change workers + p.active.length ≤ workers
        omega
      · cases h
      · exact ⟨of_decide_eq_true h, rfl⟩
      · exact absurd hdraining h
  | trySubmit job =>
      change (p.trySubmit job).1.Phased
      rcases trySubmit_cases p job with ⟨-, heq⟩ | heq |
        ⟨hmode, ⟨hrunning, -⟩, hroom, heq⟩
      · rw [heq]
        exact ⟨hbounded, hthreads, hrest, hinline, hdrains⟩
      · rw [heq]
        exact ⟨hbounded, hthreads, hrest, hinline, hdrains⟩
      · rw [heq]
        refine ⟨?_, hthreads, fun h => ?_, fun h => ?_, hdrains⟩
        · change (p.queue ++ [job]).length ≤ p.maxQueueDepth
          rw [List.length_append, List.length_singleton]
          omega
        · exact absurd (hrunning.symm.trans h) (by decide)
        · exact absurd (hmode.symm.trans h) (by decide)
  | take =>
      obtain ⟨hidle, hqueue⟩ := hallowed
      change p.take.Phased
      unfold take
      cases hjobs : p.queue with
      | nil => exact absurd hjobs hqueue
      | cons job queue =>
          rw [hjobs] at hbounded hrest hinline
          rw [List.length_cons] at hbounded
          refine ⟨?_, ?_, fun h => ?_, fun h => ?_, hdrains⟩
          · change queue.length ≤ p.maxQueueDepth
            omega
          · change p.idle - 1 + (p.active ++ [job]).length ≤ p.workers
            rw [List.length_append, List.length_singleton]
            omega
          · exact absurd (hrest h).2.1 (List.cons_ne_nil _ _)
          · exact absurd (hinline h).2 (List.cons_ne_nil _ _)
  | finish job =>
      have hlength := List.length_erase_of_mem hallowed
      have hpos := List.length_pos_of_mem hallowed
      refine ⟨hbounded, ?_, hrest, hinline, hdrains⟩
      change p.idle + 1 + (p.active.erase job).length ≤ p.workers
      omega
  | finishInline job => exact ⟨hbounded, hthreads, hrest, hinline, hdrains⟩
  | leave =>
      refine ⟨hbounded, ?_, hrest, hinline, hdrains⟩
      change p.idle - 1 + p.active.length ≤ p.workers
      omega
  | shutdown => exact ⟨hbounded, hthreads, hrest, hinline, fun _ => rfl⟩
  | drain =>
      obtain ⟨⟨hstop, -⟩, hqueue, -⟩ := hallowed
      change p.drain.Phased
      unfold drain
      cases hjobs : p.queue with
      | nil => exact absurd hjobs hqueue
      | cons job queue =>
          rw [hjobs] at hbounded hrest hinline
          rw [List.length_cons] at hbounded
          refine ⟨?_, hthreads, fun h => ?_, fun h => ?_, fun _ => hstop⟩
          · change queue.length ≤ p.maxQueueDepth
            omega
          · exact absurd (hrest h).2.1 (List.cons_ne_nil _ _)
          · exact absurd (hinline h).2 (List.cons_ne_nil _ _)
  | drained =>
      change p.drained.Phased
      unfold drained
      cases hjob : p.draining with
      | none => exact absurd hjob hallowed
      | some job =>
          refine ⟨hbounded, hthreads, fun h => ?_, hinline, fun h => ?_⟩
          · obtain ⟨hworkers, hqueue, -, hmode⟩ := hrest h
            exact ⟨hworkers, hqueue, rfl, hmode⟩
          · exact absurd rfl h
  | reset =>
      obtain ⟨⟨-, hidle, hactive⟩, -, hdraining⟩ := hallowed
      refine ⟨Nat.zero_le _, ?_, fun _ => ⟨rfl, rfl, hdraining, rfl⟩,
        fun h => ?_, fun h => ?_⟩
      · change p.idle + p.active.length ≤ 0
        rw [hidle, hactive]
        exact Nat.le_refl _
      · cases h
      · exact absurd hdraining h

theorem accounted_step (hphased : p.Phased) (hp : p.Accounted)
    (event : Event α) (hallowed : p.allowed event) :
    (p.step event).Accounted := by
  obtain ⟨first, haccepted, hfirst⟩ := hp
  cases event with
  | start workers maxQueueDepth =>
      obtain ⟨-, hqueue, -⟩ := hphased.rest hallowed.1
      rw [hqueue] at haccepted
      exact ⟨first, haccepted, hfirst⟩
  | trySubmit job =>
      change (p.trySubmit job).1.Accounted
      rcases trySubmit_cases p job with ⟨hmode, heq⟩ | heq | ⟨-, -, -, heq⟩
      · obtain ⟨-, hqueue⟩ := hphased.inline hmode
        rw [hqueue, List.append_nil] at haccepted
        rw [heq]
        refine ⟨first ++ [job], ?_, ?_⟩
        · change p.accepted ++ [job] = first ++ [job] ++ p.queue
          rw [haccepted, hqueue, List.append_nil]
        · change (first ++ [job]).Perm (p.finished ++
            (p.active ++ (p.inlined ++ [job] ++ p.draining.toList)))
          refine (hfirst.append_right [job]).trans ?_
          unfold begun
          simp only [List.append_assoc]
          refine List.Perm.append_left _ (List.Perm.append_left _
            (List.Perm.append_left _ ?_))
          exact List.perm_append_comm
      · rw [heq]
        exact ⟨first, haccepted, hfirst⟩
      · rw [heq]
        refine ⟨first, ?_, hfirst⟩
        change p.accepted ++ [job] = first ++ (p.queue ++ [job])
        rw [haccepted, List.append_assoc]
  | take =>
      change p.take.Accounted
      unfold take
      cases hjobs : p.queue with
      | nil => exact absurd hjobs hallowed.2
      | cons job queue =>
          rw [hjobs] at haccepted
          refine ⟨first ++ [job], ?_, ?_⟩
          · change p.accepted = first ++ [job] ++ queue
            rw [haccepted, List.append_assoc, List.singleton_append]
          · change (first ++ [job]).Perm (p.finished ++ (p.active ++ [job] ++
              (p.inlined ++ p.draining.toList)))
            refine (hfirst.append_right [job]).trans ?_
            unfold begun
            simp only [List.append_assoc]
            refine List.Perm.append_left _ (List.Perm.append_left _ ?_)
            rw [← List.append_assoc]
            exact List.perm_append_comm
  | finish job =>
      refine ⟨first, haccepted, hfirst.trans ?_⟩
      change (p.finished ++ (p.active ++ (p.inlined ++ p.draining.toList))).Perm
        (p.finished ++ [job] ++ (p.active.erase job ++
          (p.inlined ++ p.draining.toList)))
      rw [List.append_assoc]
      refine List.Perm.append_left _ ?_
      exact (List.perm_cons_erase hallowed).append_right _
  | finishInline job =>
      refine ⟨first, haccepted, hfirst.trans ?_⟩
      change (p.finished ++ (p.active ++ (p.inlined ++ p.draining.toList))).Perm
        (p.finished ++ [job] ++ (p.active ++ (p.inlined.erase job ++
          p.draining.toList)))
      rw [List.append_assoc]
      refine List.Perm.append_left _ ?_
      refine (List.Perm.append_left _
        ((List.perm_cons_erase hallowed).append_right _)).trans ?_
      exact List.perm_middle
  | leave => exact ⟨first, haccepted, hfirst⟩
  | shutdown => exact ⟨first, haccepted, hfirst⟩
  | drain =>
      obtain ⟨-, hqueue, hdraining⟩ := hallowed
      change p.drain.Accounted
      unfold drain
      cases hjobs : p.queue with
      | nil => exact absurd hjobs hqueue
      | cons job queue =>
          rw [hjobs] at haccepted
          refine ⟨first ++ [job], ?_, ?_⟩
          · change p.accepted = first ++ [job] ++ queue
            rw [haccepted, List.append_assoc, List.singleton_append]
          · change (first ++ [job]).Perm
              (p.finished ++ (p.active ++ (p.inlined ++ [job])))
            refine (hfirst.append_right [job]).trans (List.Perm.of_eq ?_)
            unfold begun
            rw [hdraining]
            simp only [Option.toList_none, List.append_nil, List.append_assoc]
  | drained =>
      change p.drained.Accounted
      unfold drained
      cases hjob : p.draining with
      | none => exact absurd hjob hallowed
      | some job =>
          refine ⟨first, haccepted, hfirst.trans ?_⟩
          change (p.finished ++ (p.active ++
            (p.inlined ++ p.draining.toList))).Perm
              (p.finished ++ [job] ++ (p.active ++ (p.inlined ++ [])))
          rw [hjob, List.append_assoc]
          refine List.Perm.append_left _ ?_
          simp only [Option.toList_some, List.append_nil, ← List.append_assoc]
          exact List.perm_append_comm
  | reset =>
      obtain ⟨-, hqueue, -⟩ := hallowed
      rw [hqueue] at haccepted
      exact ⟨first, haccepted, hfirst⟩

/-! ## Shutdown -/

/-- The steps that a pool takes on its own while it is shut down. -/
def Event.winds : Event α → Bool
  | .take | .finish _ | .leave | .drain | .drained => true
  | _ => false

/-- What is left to do before a shutdown returns. -/
def work (p : WorkerPool α) : Nat :=
  4 * p.queue.length + 3 * p.active.length + p.idle + p.draining.toList.length

theorem stop_step (hstop : p.stop = true) {event : Event α}
    (hwinds : event.winds = true) :
    (p.step event).stop = true ∧
      (p.step event).inlined = p.inlined ∧
      (p.step event).accepted = p.accepted := by
  cases event with
  | take =>
      change p.take.stop = true ∧ p.take.inlined = p.inlined ∧
        p.take.accepted = p.accepted
      unfold take
      cases p.queue <;> exact ⟨hstop, rfl, rfl⟩
  | finish job => exact ⟨hstop, rfl, rfl⟩
  | leave => exact ⟨hstop, rfl, rfl⟩
  | drain =>
      change p.drain.stop = true ∧ p.drain.inlined = p.inlined ∧
        p.drain.accepted = p.accepted
      unfold drain
      cases p.queue <;> exact ⟨hstop, rfl, rfl⟩
  | drained =>
      change p.drained.stop = true ∧ p.drained.inlined = p.inlined ∧
        p.drained.accepted = p.accepted
      unfold drained
      cases p.draining <;> exact ⟨hstop, rfl, rfl⟩
  | start | trySubmit | finishInline | shutdown | reset => cases hwinds

/-- Every step of a shutdown leaves less to do. -/
theorem work_step_lt {event : Event α} (hallowed : p.allowed event)
    (hwinds : event.winds = true) : (p.step event).work < p.work := by
  cases event with
  | take =>
      change p.take.work < p.work
      obtain ⟨hidle, hqueue⟩ := hallowed
      unfold take
      cases hjobs : p.queue with
      | nil => exact absurd hjobs hqueue
      | cons job queue =>
          simp only [work, hjobs, List.length_append, List.length_cons,
            List.length_nil]
          omega
  | finish job =>
      change (p.finish job).work < p.work
      have hlength := List.length_erase_of_mem hallowed
      have hpos := List.length_pos_of_mem hallowed
      simp only [work, finish]
      omega
  | leave =>
      change work { p with idle := p.idle - 1 } < p.work
      have hidle := hallowed.1
      simp only [work]
      omega
  | drain =>
      change p.drain.work < p.work
      obtain ⟨-, hqueue, hdraining⟩ := hallowed
      unfold drain
      cases hjobs : p.queue with
      | nil => exact absurd hjobs hqueue
      | cons job queue =>
          simp only [work, hjobs, hdraining, List.length_cons,
            Option.toList_some, Option.toList_none, List.length_nil]
          omega
  | drained =>
      change p.drained.work < p.work
      unfold drained
      cases hjob : p.draining with
      | none => exact absurd hjob hallowed
      | some job =>
          simp only [work, hjob, Option.toList_some, Option.toList_none,
            List.length_cons, List.length_nil]
          omega
  | start | trySubmit | finishInline | shutdown | reset => cases hwinds

omit [DecidableEq α] in
/-- While a shutdown cannot return, some step of it can be taken. -/
theorem exists_winds (hstop : p.stop = true) :
    p.allowed .reset ∨ ∃ event, p.allowed event ∧ event.winds = true := by
  by_cases hactive : p.active = []
  · by_cases hidle : p.idle = 0
    · have hjoined : p.Joined := ⟨hstop, hidle, hactive⟩
      by_cases hdraining : p.draining = none
      · by_cases hqueue : p.queue = []
        · exact Or.inl ⟨hjoined, hqueue, hdraining⟩
        · exact Or.inr ⟨.drain, ⟨hjoined, hqueue, hdraining⟩, rfl⟩
      · exact Or.inr ⟨.drained, hdraining, rfl⟩
    · have hpos : 0 < p.idle := Nat.pos_of_ne_zero hidle
      by_cases hqueue : p.queue = []
      · exact Or.inr ⟨.leave, ⟨hpos, hstop, hqueue⟩, rfl⟩
      · exact Or.inr ⟨.take, ⟨hpos, hqueue⟩, rfl⟩
  · obtain ⟨job, hjob⟩ := List.exists_mem_of_ne_nil _ hactive
    exact Or.inr ⟨.finish job, hjob, rfl⟩

end WorkerPool

/-! ## Runs -/

section Runs

variable {α : Type} [DecidableEq α]

/-- A run of the pool that takes only steps that can happen. -/
abbrev PoolRun (p : WorkerPool α) (events : List (WorkerPool.Event α)) : Prop :=
  (workerPool α).Admits (fun _ _ => True) p events

theorem phased_run {events : List (WorkerPool.Event α)}
    (h : PoolRun {} events) :
    ((workerPool α).run {} events).Phased ∧
      ((workerPool α).run {} events).Accounted := by
  have hinit : ({} : WorkerPool α).Phased ∧ ({} : WorkerPool α).Accounted := by
    refine ⟨⟨Nat.le_refl _, Nat.le_refl _, fun _ => ⟨rfl, rfl, rfl, rfl⟩,
      fun h => ?_, fun h => ?_⟩, [], rfl, List.Perm.refl _⟩
    · cases h
    · exact absurd rfl h
  exact Machine.Admits.invariant (P := fun p => p.Phased ∧ p.Accounted)
    (fun p event hp hallowed _ =>
      ⟨WorkerPool.phased_step hp.1 event hallowed,
        WorkerPool.accounted_step hp.1 hp.2 event hallowed⟩) hinit h

/-- The steps of a shutdown, one after the other, are at most the work left. -/
theorem length_le_work {p : WorkerPool α}
    {events : List (WorkerPool.Event α)} (h : PoolRun p events)
    (hwinds : ∀ event ∈ events, event.winds = true) :
    events.length + ((workerPool α).run p events).work ≤ p.work := by
  induction events generalizing p with
  | nil => simp
  | cons event events ih =>
      obtain ⟨hallowed, -, hrest⟩ := h
      have hstep := WorkerPool.work_step_lt hallowed
        (hwinds event List.mem_cons_self)
      have hlater := ih hrest fun other hother =>
        hwinds other (List.mem_cons_of_mem _ hother)
      change events.length + ((workerPool α).run (p.step event) events).work ≤
        (p.step event).work at hlater
      change events.length + 1 + ((workerPool α).run (p.step event)
        events).work ≤ p.work
      omega

/-- A shutdown accepts no job and leaves the inlined ones to their threads. -/
theorem stop_run {p : WorkerPool α} {events : List (WorkerPool.Event α)}
    (hwinds : ∀ event ∈ events, event.winds = true) (hstop : p.stop = true) :
    ((workerPool α).run p events).stop = true ∧
      ((workerPool α).run p events).inlined = p.inlined ∧
      ((workerPool α).run p events).accepted = p.accepted := by
  induction events generalizing p with
  | nil => exact ⟨hstop, rfl, rfl⟩
  | cons event events ih =>
      obtain ⟨hnext, hinlined, haccepted⟩ :=
        WorkerPool.stop_step hstop (hwinds event List.mem_cons_self)
      obtain ⟨hlast, hinlined', haccepted'⟩ := ih (fun other hother =>
        hwinds other (List.mem_cons_of_mem _ hother)) hnext
      exact ⟨hlast, hinlined'.trans hinlined, haccepted'.trans haccepted⟩

/--
No accepted job is lost or run twice, jobs begin in the order in which they
were accepted, the queue and the workers stay within their bounds, and a pool
at rest has run every job that it accepted.
-/
theorem every_job_runs_once (events : List (WorkerPool.Event α))
    (hrun : PoolRun {} events) :
    let p := (workerPool α).run {} events
    (∃ begun, p.accepted = begun ++ p.queue ∧
      begun.Perm (p.finished ++ p.begun)) ∧
      p.queue.length ≤ p.maxQueueDepth ∧
      p.idle + p.active.length ≤ p.workers ∧
      (p.running = false → p.accepted.Perm (p.finished ++ p.inlined)) := by
  obtain ⟨hphased, haccounted⟩ := phased_run hrun
  refine ⟨haccounted, hphased.bounded, hphased.threads, fun hrest => ?_⟩
  obtain ⟨begun, haccepted, hbegun⟩ := haccounted
  obtain ⟨hworkers, hqueue, hdraining, -⟩ := hphased.rest hrest
  obtain ⟨-, hactive⟩ := hphased.idle_eq_zero hworkers
  rw [hqueue, List.append_nil] at haccepted
  rw [WorkerPool.begun, hactive, hdraining, Option.toList_none,
    List.append_nil, List.nil_append] at hbegun
  rw [haccepted]
  exact hbegun

/--
Once `shutdown` has set its flag, the pool takes at most so many steps on its
own, it is never stuck before `shutdown` can return, and by then every accepted
job has returned, except for those that run on the threads that submitted them.
-/
theorem shutdown_runs_every_job (events more : List (WorkerPool.Event α))
    (hrun : PoolRun {} events)
    (hstop : ((workerPool α).run {} events).stop = true)
    (hmore : PoolRun ((workerPool α).run {} events) more)
    (hwinds : ∀ event ∈ more, event.winds = true) :
    let p := (workerPool α).run {} events
    let q := (workerPool α).run p more
    more.length ≤ p.work ∧
      (q.allowed .reset ∨ ∃ event, q.allowed event ∧ event.winds = true) ∧
      (q.allowed .reset → p.accepted.Perm (q.finished ++ p.inlined)) := by
  have hall : PoolRun {} (events ++ more) :=
    Machine.admits_append.mpr ⟨hrun, hmore⟩
  have hboth := phased_run hall
  rw [Machine.run_append] at hboth
  obtain ⟨-, begun, haccepted, hbegun⟩ := hboth
  obtain ⟨hlast, hinlined, hsame⟩ := stop_run hwinds hstop
  have hlength := length_le_work hmore hwinds
  refine ⟨by omega, WorkerPool.exists_winds hlast, fun hreset => ?_⟩
  obtain ⟨⟨-, -, hactive⟩, hqueue, hdraining⟩ := hreset
  rw [hqueue, List.append_nil] at haccepted
  rw [WorkerPool.begun, hactive, hdraining, Option.toList_none,
    List.append_nil, List.nil_append, hinlined] at hbegun
  rw [← hsame, haccepted]
  exact hbegun

end Runs

/-- One worker, a queue of two, and a job refused for want of room. -/
def samplePoolRun : List (WorkerPool.Event Nat) :=
  [.start 1 2, .trySubmit 1, .take, .trySubmit 2, .trySubmit 3, .trySubmit 4,
    .finish 1, .shutdown]

theorem sample_jobs_run_once :
    let p := (workerPool Nat).run {} samplePoolRun
    PoolRun {} samplePoolRun ∧ p.accepted = [1, 2, 3] ∧
      p.queue = [2, 3] ∧ p.queue.length ≤ p.maxQueueDepth := by
  have hrun : PoolRun {} samplePoolRun := by decide
  exact ⟨hrun, by decide, by decide, (every_job_runs_once _ hrun).2.1⟩

theorem sample_shutdown_runs_jobs :
    let p := (workerPool Nat).run {} samplePoolRun
    let more : List (WorkerPool.Event Nat) :=
      [.take, .finish 2, .take, .finish 3, .leave]
    p.accepted.Perm (((workerPool Nat).run p more).finished ++ p.inlined) := by
  have hrun : PoolRun {} samplePoolRun := by decide
  exact (shutdown_runs_every_job samplePoolRun _ hrun (by decide) (by decide)
    (by decide)).2.2 (by decide)

end FlowOffload

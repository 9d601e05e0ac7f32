import FlowOffload.Laws.Pool
import FlowOffload.Laws.Streams

/-!
# Connections and their handlers

Every registered connection has exactly one job of the pool, which waits or
runs, and the registry, the queue and the handlers that run stay within the
configured bounds.  Stopping the service ends every handler.
-/

namespace FlowOffload

open Foundation

/-! ## Jobs of the pool -/

namespace WorkerPool

variable {p : WorkerPool Nat}

/-- The jobs that wait or run. -/
def jobs (p : WorkerPool Nat) : List Nat := p.queue ++ p.begun

theorem jobs_take (p : WorkerPool Nat) : p.take.jobs.Perm p.jobs := by
  unfold take
  cases hqueue : p.queue with
  | nil => exact List.Perm.refl _
  | cons job queue =>
      change (queue ++ (p.active ++ [job] ++ _)).Perm p.jobs
      unfold jobs begun
      rw [hqueue]
      simp only [List.append_assoc, List.cons_append]
      refine (List.Perm.append_left queue List.perm_middle).trans ?_
      exact List.perm_middle

theorem jobs_drain (p : WorkerPool Nat) (hdraining : p.draining = none) :
    p.drain.jobs.Perm p.jobs := by
  unfold drain
  cases hqueue : p.queue with
  | nil => exact List.Perm.refl _
  | cons job queue =>
      change (queue ++ (p.active ++ (p.inlined ++ [job]))).Perm p.jobs
      unfold jobs begun
      rw [hqueue, hdraining]
      simp only [Option.toList_none, List.append_nil, ← List.append_assoc]
      exact List.perm_append_singleton job _

theorem jobs_trySubmit (p : WorkerPool Nat) (job : Nat) :
    ((p.trySubmit job).2 = true ∧
      (p.trySubmit job).1.jobs.Perm (job :: p.jobs)) ∨
    p.trySubmit job = (p, false) := by
  rcases trySubmit_cases p job with ⟨-, heq⟩ | heq | ⟨-, -, -, heq⟩
  · refine Or.inl ?_
    rw [heq]
    refine ⟨rfl, ?_⟩
    change (p.queue ++ (p.active ++ (p.inlined ++ [job] ++ _))).Perm _
    unfold jobs begun
    simp only [List.append_assoc, List.singleton_append]
    refine (List.Perm.append_left _ (List.Perm.append_left _
      List.perm_middle)).trans ?_
    refine (List.Perm.append_left _ List.perm_middle).trans ?_
    exact List.perm_middle
  · exact Or.inr heq
  · refine Or.inl ?_
    rw [heq]
    refine ⟨rfl, ?_⟩
    change (p.queue ++ [job] ++ p.begun).Perm (job :: (p.queue ++ p.begun))
    rw [List.append_assoc, List.singleton_append]
    exact List.perm_middle

end WorkerPool

namespace Service

/-- The step of the pool that a handler ends with. -/
theorem exists_releaseJob {pool : WorkerPool Nat} {id : Nat}
    (hid : id ∈ pool.begun) :
    ∃ event, pool.allowed event ∧ releaseJob pool id = pool.step event ∧
      pool.begun.Perm (id :: (releaseJob pool id).begun) ∧
      (releaseJob pool id).queue = pool.queue ∧
      (releaseJob pool id).maxQueueDepth = pool.maxQueueDepth ∧
      (releaseJob pool id).workers = pool.workers ∧
      (releaseJob pool id).stop = pool.stop := by
  unfold releaseJob
  by_cases hactive : id ∈ pool.active
  · rw [if_pos hactive]
    refine ⟨.finish id, hactive, rfl, ?_, rfl, rfl, rfl, rfl⟩
    exact (List.perm_cons_erase hactive).append_right _
  · rw [if_neg hactive]
    by_cases hdraining : pool.draining = some id
    · rw [if_pos hdraining]
      refine ⟨.drained, ?_, rfl, ?_⟩
      · change pool.draining ≠ none
        rw [hdraining]
        exact Option.some_ne_none id
      · unfold WorkerPool.drained
        rw [hdraining]
        refine ⟨?_, rfl, rfl, rfl, rfl⟩
        change pool.begun.Perm (id :: (pool.active ++ (pool.inlined ++ [])))
        unfold WorkerPool.begun
        rw [hdraining, List.append_nil]
        simp only [Option.toList_some, ← List.append_assoc]
        exact List.perm_append_singleton id _
    · rw [if_neg hdraining]
      have hinlined : id ∈ pool.inlined := by
        unfold WorkerPool.begun at hid
        rcases List.mem_append.mp hid with hmem | hmem
        · exact absurd hmem hactive
        · rcases List.mem_append.mp hmem with hmem | hmem
          · exact hmem
          · exact absurd (Option.mem_toList.mp hmem) hdraining
      refine ⟨.finishInline id, hinlined, rfl, ?_, rfl, rfl, rfl, rfl⟩
      refine (List.Perm.append_left _
        ((List.perm_cons_erase hinlined).append_right _)).trans ?_
      exact List.perm_middle

end Service

/-! ## Handlers -/

namespace Service

variable {s t : Service} {id : Nat} {c : Connection}

/-- Where the handlers are. -/
def stages (s : Service) : List HandlerStage := s.connections.map Connection.stage

theorem stages_get (hc : s.connections[id]? = some c) :
    s.stages[id]? = some c.stage := by
  rw [stages, List.getElem?_map, hc]
  rfl

theorem stages_set {d : Connection} {stage : HandlerStage}
    (h : t.connections = s.connections.set id d) (hstage : d.stage = stage) :
    t.stages = s.stages.set id stage := by
  rw [stages, h, List.map_set, hstage]
  rfl

theorem stages_closeAll (s : Service) : s.closeAll.stages = s.stages := by
  change (s.connections.map _).map Connection.stage = s.stages
  rw [List.map_map]
  refine List.map_congr_left fun e _ => ?_
  change Connection.stage (if e.stage = .finished then e else _) = e.stage
  split <;> rfl

theorem stages_finish {d : Connection} (s : Service) :
    (s.finish id d).stages = s.stages.set id .finished :=
  stages_set rfl rfl

/-- What is left of the loop of a handler once its socket is closed. -/
def rounds : HandlerStage → Nat
  | .idle | .reading | .stopping => 1
  | .dispatching _ => 3
  | .writing _ _ => 2
  | .finished => 0

/-- A handler returns, and its job with it. -/
structure Ends (s t : Service) (id : Nat) : Prop where
  pool : t.pool = releaseJob s.pool id
  stages : t.stages = s.stages.set id .finished

/-- A handler goes on to another point of its loop. -/
structure Stays (s t : Service) (id : Nat) (c : Connection)
    (stage : HandlerStage) : Prop where
  pool : t.pool = s.pool
  stages : t.stages = s.stages.set id stage
  running : stage ≠ .finished
  winds : s.stopRequested = true → c.closed = true →
    rounds stage < rounds c.stage

theorem ends_finish {d : Connection} (s : Service) :
    Ends s (s.finish id d) id :=
  ⟨rfl, stages_finish s⟩

theorem stages_self (hc : s.connections[id]? = some c) :
    s.stages = s.stages.set id c.stage := by
  have hget := stages_get hc
  obtain ⟨hlt, hstage⟩ := List.getElem?_eq_some_iff.mp hget
  rw [← hstage, List.set_getElem_self]

/-- A handler that runs returns, goes on, or waits for its peer. -/
theorem ends_or_stays_read (hc : s.connections[id]? = some c)
    (hstage : c.stage = .reading) :
    Ends s (s.read id c) id ∨
      ∃ stage, Stays s (s.read id c) id c stage := by
  unfold read
  by_cases hclosed : c.closed = true
  · rw [if_pos hclosed]
    exact Or.inl (ends_finish s)
  · rw [if_neg hclosed]
    have hstays : ∀ {t : Service} {d : Connection},
        t.pool = s.pool → t.connections = s.connections.set id d →
        d.stage ≠ .finished → ∃ stage, Stays s t id c stage :=
      fun hpool hconnections hrunning => ⟨_, hpool, stages_set hconnections rfl,
        hrunning, fun _ h => absurd h hclosed⟩
    cases nextFrame s.config.maxFrameBytes c.unread with
    | none =>
        dsimp only
        split
        · exact Or.inl (ends_finish s)
        · refine Or.inr ⟨c.stage, rfl, stages_self hc, ?_,
            fun _ h => absurd h hclosed⟩
          rw [hstage]
          exact fun h => by cases h
    | some found =>
        obtain ⟨received, rest⟩ := found
        cases received with
        | oversized operation correlation =>
            dsimp only
            split
            · exact Or.inl ⟨rfl, stages_set rfl rfl⟩
            · exact Or.inr (hstays rfl rfl (fun h => by cases h))
        | broken status =>
            dsimp only
            split
            · exact Or.inr (hstays rfl rfl (fun h => by cases h))
            · exact Or.inr (hstays rfl rfl (fun h => by cases h))
        | frame request =>
            exact Or.inr (hstays rfl rfl (fun h => by cases h))

theorem ends_or_stays_write {bytes : Bytes} {after : After} (room : Nat)
    (hstage : c.stage = .writing bytes after) :
    Ends s (s.write id c bytes after room) id ∨
      ∃ stage, Stays s (s.write id c bytes after room) id c stage := by
  unfold write
  cases after with
  | leave => exact Or.inl ⟨rfl, stages_set rfl rfl⟩
  | resume =>
      refine Or.inr ⟨.idle, rfl, stages_set rfl rfl, (fun h => by cases h),
        fun _ _ => ?_⟩
      rw [hstage]
      exact Nat.lt_succ_self 1
  | respond operation =>
      dsimp only
      split
      · exact Or.inl ⟨rfl, stages_set rfl rfl⟩
      next hthrough =>
        have hopen : c.closed = false := by
          cases hclosed : c.closed with
          | false => rfl
          | true => simp [hclosed] at hthrough
        have hnever : c.closed = true → False := by
          rw [hopen]
          exact Bool.false_ne_true
        split
        · exact Or.inr ⟨.stopping, rfl, stages_set rfl rfl, (fun h => by cases h),
            fun _ h => (hnever h).elim⟩
        · exact Or.inr ⟨.idle, rfl, stages_set rfl rfl, (fun h => by cases h),
            fun _ h => (hnever h).elim⟩

theorem ends_or_stays (hc : s.connections[id]? = some c)
    (hrunning : c.stage ≠ .finished) (answer : Status) (room : Nat) :
    Ends s (s.handle id c answer room) id ∨
      ∃ stage, Stays s (s.handle id c answer room) id c stage := by
  unfold handle
  cases hstage : c.stage with
  | idle =>
      dsimp only
      split
      · exact Or.inl (ends_finish s)
      next hstop =>
        exact Or.inr ⟨.reading, rfl, stages_set rfl rfl, (fun h => by cases h),
          fun h => absurd h hstop⟩
  | reading => exact ends_or_stays_read hc hstage
  | dispatching request =>
      dsimp only
      unfold serve
      dsimp only
      split
      · exact Or.inl ⟨rfl, stages_set rfl rfl⟩
      · refine Or.inr ⟨_, rfl, stages_set rfl rfl, (fun h => by cases h),
          fun _ _ => ?_⟩
        rw [hstage]
        exact Nat.lt_succ_self 2
  | writing bytes after => exact ends_or_stays_write room hstage
  | stopping =>
      refine Or.inl ⟨rfl, ?_⟩
      rw [stages_finish, stages_closeAll]
  | finished => exact absurd hstage hrunning

/-! ## One job for every handler -/

/-- The connection is registered. -/
def Live (s : Service) (id : Nat) : Prop :=
  ∃ stage, s.stages[id]? = some stage ∧ stage ≠ .finished

/-- The pool as it was started, with the workers that are left. -/
def Sized (s : Service) (pool : WorkerPool Nat) : Prop :=
  pool.workers ≤ s.config.workers ∧ pool.maxQueueDepth =
    if s.config.maxQueueDepth = 0 then 1 else s.config.maxQueueDepth

structure Manned (s : Service) : Prop where
  phased : s.pool.Phased
  sized : s.Sized s.pool
  nodup : s.pool.jobs.Nodup
  jobs : ∀ id, id ∈ s.pool.jobs ↔ s.Live id
  registry : s.registered ≤ s.config.maxConnections

theorem registered_eq (s : Service) :
    s.registered = s.stages.countP fun stage => stage ≠ .finished := by
  rw [stages, List.countP_map]
  rfl

theorem exists_connection (h : s.Live id) :
    ∃ c, s.connections[id]? = some c ∧ c.stage ≠ .finished := by
  obtain ⟨stage, hstage, hrunning⟩ := h
  rw [stages, List.getElem?_map] at hstage
  obtain ⟨c, hc, rfl⟩ := Option.map_eq_some_iff.mp hstage
  exact ⟨c, hc, hrunning⟩

/-- A step that only changes the pool keeps the jobs that it holds. -/
theorem Manned.move (h : s.Manned) (hphased : t.pool.Phased)
    (hsized : s.Sized t.pool) (hjobs : t.pool.jobs.Perm s.pool.jobs)
    (hstages : t.stages = s.stages) (hconfig : t.config = s.config) :
    t.Manned := by
  refine ⟨hphased, ?_, hjobs.nodup_iff.mpr h.nodup, fun other => ?_, ?_⟩
  · rw [Sized, hconfig]
    exact hsized
  · rw [hjobs.mem_iff, h.jobs, Live, Live, hstages]
  · rw [registered_eq, hstages, hconfig, ← registered_eq]
    exact h.registry

theorem live_set {stage : HandlerStage} (hlength : id < s.stages.length)
    (hstages : t.stages = s.stages.set id stage) (other : Nat) :
    t.Live other ↔ if other = id then stage ≠ .finished else s.Live other := by
  unfold Live
  rw [hstages]
  by_cases hsame : other = id
  · subst hsame
    rw [if_pos rfl, List.getElem?_set_self hlength]
    simp
  · rw [if_neg hsame, List.getElem?_set_ne (Ne.symm hsame)]

theorem Manned.stays (h : s.Manned) {stage : HandlerStage}
    (hc : s.connections[id]? = some c) (hrunning : c.stage ≠ .finished)
    (hstays : Stays s t id c stage) (hconfig : t.config = s.config) :
    t.Manned := by
  obtain ⟨hlength, hget⟩ := List.getElem?_eq_some_iff.mp (stages_get hc)
  refine ⟨?_, ?_, ?_, fun other => ?_, ?_⟩
  · rw [hstays.pool]
    exact h.phased
  · rw [Sized, hstays.pool, hconfig]
    exact h.sized
  · rw [hstays.pool]
    exact h.nodup
  · rw [live_set hlength hstays.stages, hstays.pool, h.jobs]
    by_cases hsame : other = id
    · subst hsame
      rw [if_pos rfl]
      exact iff_of_true ⟨c.stage, stages_get hc, hrunning⟩ hstays.running
    · rw [if_neg hsame]
  · have hreg := h.registry
    rw [registered_eq] at hreg
    have hpos : 0 < s.stages.countP fun stage => stage ≠ .finished := by
      refine List.countP_pos_iff.mpr ⟨c.stage, ?_, decide_eq_true hrunning⟩
      rw [← hget]
      exact List.getElem_mem hlength
    rw [registered_eq, hstays.stages, hconfig, List.countP_set hlength, hget,
      decide_eq_true hrunning, decide_eq_true hstays.running]
    simp only [if_true]
    omega

theorem Manned.ends (h : s.Manned) (hc : s.connections[id]? = some c)
    (hrunning : c.stage ≠ .finished) (hid : id ∈ s.pool.begun)
    (hends : Ends s t id) (hconfig : t.config = s.config) : t.Manned := by
  obtain ⟨hlength, hget⟩ := List.getElem?_eq_some_iff.mp (stages_get hc)
  obtain ⟨event, hallowed, hstep, hbegun, hqueue, hdepth, hworkers, -⟩ :=
    exists_releaseJob hid
  have hperm : s.pool.jobs.Perm (id :: t.pool.jobs) := by
    rw [hends.pool]
    unfold WorkerPool.jobs
    rw [hqueue]
    exact (List.Perm.append_left _ hbegun).trans List.perm_middle
  have hnodup := hperm.nodup_iff.mp h.nodup
  rw [List.nodup_cons] at hnodup
  refine ⟨?_, ?_, hnodup.2, fun other => ?_, ?_⟩
  · rw [hends.pool, hstep]
    exact WorkerPool.phased_step h.phased event hallowed
  · rw [Sized, hends.pool, hdepth, hworkers, hconfig]
    exact h.sized
  · rw [live_set hlength hends.stages]
    have hmem := hperm.mem_iff (a := other)
    rw [h.jobs, List.mem_cons] at hmem
    by_cases hsame : other = id
    · subst hsame
      rw [if_pos rfl]
      exact iff_of_false hnodup.1 (fun hne => hne rfl)
    · rw [if_neg hsame, hmem]
      exact (or_iff_right hsame).symm
  · have hreg := h.registry
    rw [registered_eq] at hreg
    rw [registered_eq, hends.stages, hconfig, List.countP_set hlength, hget,
      decide_eq_true hrunning, decide_eq_false (fun hne => hne rfl)]
    simp only [if_true, Bool.false_eq_true, if_false]
    omega

theorem Manned.connect (h : s.Manned) : s.connect.Manned := by
  unfold Service.connect
  by_cases hfull : s.registered ≥ s.config.maxConnections
  · rw [if_pos hfull]
    exact ⟨h.phased, h.sized, h.nodup, h.jobs, h.registry⟩
  · rw [if_neg hfull]
    dsimp only
    have hsized : s.Sized (s.pool.trySubmit s.connections.length).1 := by
      rcases WorkerPool.trySubmit_cases s.pool s.connections.length with
        ⟨-, heq⟩ | heq | ⟨-, -, -, heq⟩ <;> rw [heq] <;> exact h.sized
    have hphased : (s.pool.trySubmit s.connections.length).1.Phased :=
      WorkerPool.phased_step h.phased (.trySubmit s.connections.length)
        trivial
    have hlive : ∀ {t : Service} {stage : HandlerStage},
        t.stages = s.stages ++ [stage] → ∀ other, t.Live other ↔
          s.Live other ∨ other = s.connections.length ∧
            stage ≠ .finished := by
      intro t stage hstages other
      have hlength : s.stages.length = s.connections.length :=
        List.length_map _
      unfold Live
      rw [hstages]
      rcases Nat.lt_trichotomy other s.stages.length with hlt | heq | hgt
      · rw [List.getElem?_append_left hlt]
        refine ⟨Or.inl, fun hor => hor.resolve_right fun hnew => ?_⟩
        omega
      · subst heq
        rw [List.getElem?_concat_length, List.getElem?_eq_none (Nat.le_refl _)]
        simp [hlength]
      · rw [List.getElem?_eq_none (by
            rw [List.length_append, List.length_singleton]; omega),
          List.getElem?_eq_none (by omega)]
        simp only [reduceCtorEq, false_and, exists_false, false_or]
        refine iff_of_false id fun hnew => ?_
        omega
    have hunused : s.connections.length ∉ s.pool.jobs := by
      rw [h.jobs]
      rintro ⟨stage, hstage, -⟩
      rw [stages, List.getElem?_eq_none (by rw [List.length_map])] at hstage
      cases hstage
    rcases WorkerPool.jobs_trySubmit s.pool s.connections.length with
      ⟨haccepted, hperm⟩ | hrefused
    · rw [if_pos haccepted]
      refine ⟨hphased, hsized, ?_, fun other => ?_, ?_⟩
      · exact hperm.nodup_iff.mpr (List.nodup_cons.mpr ⟨hunused, h.nodup⟩)
      · rw [hlive (by simp [stages]; rfl), hperm.mem_iff, List.mem_cons,
          h.jobs]
        simp [or_comm]
      · rw [registered]
        change List.countP _ (s.connections ++ [_]) ≤ _
        rw [List.countP_append]
        have hone : List.countP (fun connection : Connection =>
            decide (connection.stage ≠ .finished)) [({} : Connection)] = 1 := by
          decide
        change s.registered + _ ≤ s.config.maxConnections
        rw [hone]
        omega
    · have hanswer : ¬ (s.pool.trySubmit s.connections.length).2 = true := by
        rw [hrefused]
        exact Bool.false_ne_true
      rw [if_neg hanswer]
      refine ⟨hphased, hsized, ?_, fun other => ?_, ?_⟩
      · rw [hrefused]
        exact h.nodup
      · rw [hlive (by simp [stages]; rfl), ← h.jobs, hrefused]
        simp
      · rw [registered]
        change List.countP _ (s.connections ++ [_]) ≤ _
        rw [List.countP_append]
        have hnone : List.countP (fun connection : Connection =>
            decide (connection.stage ≠ .finished))
              [({ stage := .finished, closed := true } : Connection)] = 0 := by
          decide
        change s.registered + _ ≤ s.config.maxConnections
        rw [hnone]
        exact h.registry

theorem stages_update {f : Connection → Connection}
    (h : ∀ c, (f c).stage = c.stage) :
    (s.updateConnection id f).stages = s.stages := by
  change (s.connections.modify id f).map Connection.stage = _
  refine List.ext_getElem? fun other => ?_
  rw [List.getElem?_map, List.getElem?_modify, stages, List.getElem?_map]
  cases s.connections[other]? with
  | none => rfl
  | some e =>
      simp only [Option.map_some]
      split
      · exact congrArg some (h e)
      · rfl

theorem Manned.step (h : s.Manned) (event : Event)
    (hallowed : s.allowed event) : (s.step event).Manned := by
  have hpool : ∀ inner : WorkerPool.Event Nat, s.pool.allowed inner →
      s.Sized (s.pool.step inner) →
      (s.pool.step inner).jobs.Perm s.pool.jobs →
      Manned { s with pool := s.pool.step inner } :=
    fun inner hinner hsized hperm =>
      h.move (WorkerPool.phased_step h.phased inner hinner) hsized hperm rfl
        rfl
  cases event with
  | connect => exact h.connect
  | advance id answer room =>
      have hlive : s.Live id :=
        (h.jobs id).mp (List.mem_append_right _ hallowed)
      obtain ⟨c, hc, hrunning⟩ := exists_connection hlive
      have hconfig := config_step s (.advance id answer room)
      change (s.advance id answer room).config = _ at hconfig
      change (s.advance id answer room).Manned
      unfold advance at hconfig ⊢
      rw [hc] at hconfig ⊢
      rcases ends_or_stays hc hrunning answer room with hends | ⟨_, hstays⟩
      · exact h.ends hc hrunning hallowed hends hconfig
      · exact h.stays hc hrunning hstays hconfig
  | arrive id bytes =>
      exact h.move h.phased h.sized (List.Perm.refl _)
        (stages_update fun _ => rfl) rfl
  | hangUp id =>
      exact h.move h.phased h.sized (List.Perm.refl _)
        (stages_update fun _ => rfl) rfl
  | closeAll =>
      exact h.move h.phased h.sized (List.Perm.refl _) (stages_closeAll s) rfl
  | call | requestStop =>
      exact h.move h.phased h.sized (List.Perm.refl _) rfl rfl
  | take =>
      refine hpool .take hallowed ?_ (WorkerPool.jobs_take s.pool)
      change s.Sized s.pool.take
      unfold WorkerPool.take
      cases s.pool.queue <;> exact h.sized
  | leave => exact hpool .leave hallowed h.sized (List.Perm.refl _)
  | shutdownPool => exact hpool .shutdown trivial h.sized (List.Perm.refl _)
  | drain =>
      refine hpool .drain hallowed ?_
        (WorkerPool.jobs_drain s.pool hallowed.2.2)
      change s.Sized s.pool.drain
      unfold WorkerPool.drain
      cases s.pool.queue <;> exact h.sized
  | reset =>
      refine hpool .reset hallowed ⟨Nat.zero_le _, h.sized.2⟩
        (List.Perm.of_eq ?_)
      change [] ++ s.pool.begun = s.pool.jobs
      rw [WorkerPool.jobs, hallowed.2.1]

/-- What a service has after it was started. -/
theorem manned_start (engine : Impl) (config : ServiceConfig) :
    (start engine config).Manned := by
  have hphased := WorkerPool.phased_step (p := ({} : WorkerPool Nat))
    ⟨Nat.le_refl _, Nat.le_refl _, fun _ => ⟨rfl, rfl, rfl, rfl⟩,
      (fun h => by cases h), fun h => absurd rfl h⟩
    (.start config.workers config.maxQueueDepth) ⟨rfl, rfl⟩
  refine ⟨hphased, ⟨Nat.le_refl _, rfl⟩, List.nodup_nil, fun id => ?_,
    Nat.zero_le _⟩
  refine iff_of_false List.not_mem_nil ?_
  rintro ⟨stage, hstage, -⟩
  change ([] : List HandlerStage)[id]? = some stage at hstage
  rw [List.getElem?_nil] at hstage
  cases hstage

end Service

theorem manned_run (first : Impl) (config : ServiceConfig)
    {events : List Service.Event}
    (hrun : ServiceRun (.start first config) events) :
    (service.run (.start first config) events).Manned :=
  Machine.Admits.invariant (P := Service.Manned)
    (fun _ event hs hallowed _ => hs.step event hallowed)
    (Service.manned_start first config) hrun

end FlowOffload

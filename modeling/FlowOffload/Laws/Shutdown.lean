import FlowOffload.Laws.Connections

/-!
# The service shuts down

Once the service is told to stop and its sockets are closed, every step of a
handler brings its loop nearer to the end: the handlers return after a bounded
number of steps, in any order, and nothing that was not read before is served.
-/

namespace FlowOffload

open Foundation

/-! ## Sums -/

theorem sum_set_lt {values : List Nat} {i a b : Nat} (h : values[i]? = some b)
    (hlt : a < b) : (values.set i a).sum < values.sum := by
  induction values generalizing i with
  | nil => simp at h
  | cons value values ih =>
      cases i with
      | zero =>
          rw [List.getElem?_cons_zero, Option.some.injEq] at h
          simp only [List.set_cons_zero, List.sum_cons]
          omega
      | succ i =>
          rw [List.getElem?_cons_succ] at h
          have hrest := ih h
          simp only [List.set_cons_succ, List.sum_cons]
          omega

theorem sum_set_add {values : List Nat} {i a b : Nat}
    (h : values[i]? = some b) :
    (values.set i a).sum + b = values.sum + a := by
  induction values generalizing i with
  | nil => simp at h
  | cons value values ih =>
      cases i with
      | zero =>
          rw [List.getElem?_cons_zero, Option.some.injEq] at h
          simp only [List.set_cons_zero, List.sum_cons]
          omega
      | succ i =>
          rw [List.getElem?_cons_succ] at h
          have hrest := ih h
          simp only [List.set_cons_succ, List.sum_cons]
          omega

namespace Service

variable {s t : Service} {id : Nat} {c : Connection}

/-! ## Handlers of a stopped service -/

/-- `request_stop` has returned: the flag is set and the sockets are closed. -/
structure Shut (s : Service) : Prop where
  stop : s.stopRequested = true
  closed : ∀ c ∈ s.connections, c.stage ≠ .finished → c.closed = true

/-- The request that a handler is about to hand to the engine. -/
def serving : HandlerStage → Nat
  | .dispatching _ => 1
  | _ => 0

/-- A step of a handler reads nothing more. -/
structure Winds (s t : Service) (id : Nat) (c : Connection) : Prop where
  stop : t.stopRequested = true
  connection : ∃ d, t.connections = s.connections.set id d ∧
    d.closed = true ∧ serving d.stage = 0
  log : t.log.length ≤ s.log.length + serving c.stage

theorem closeAll_connections (h : s.Shut) :
    s.closeAll.connections = s.connections := by
  change s.connections.map _ = s.connections
  refine (List.map_congr_left fun e he => ?_).trans (List.map_id _)
  split
  · rfl
  next hrunning =>
    have hclosed := h.closed e he hrunning
    cases e
    simp_all

theorem winds_write (h : s.Shut) (hclosed : c.closed = true) {bytes : Bytes}
    {after : After} (room : Nat) :
    Winds s (s.write id c bytes after room) id c := by
  unfold write
  cases after with
  | leave => exact ⟨h.stop, ⟨_, rfl, rfl, rfl⟩, Nat.le_add_right _ _⟩
  | resume => exact ⟨h.stop, ⟨_, rfl, hclosed, rfl⟩, Nat.le_add_right _ _⟩
  | respond operation =>
      dsimp only
      rw [if_pos (by simp [hclosed])]
      exact ⟨h.stop, ⟨_, rfl, rfl, rfl⟩, Nat.le_add_right _ _⟩

theorem winds_handle (h : s.Shut) (hc : s.connections[id]? = some c)
    (hrunning : c.stage ≠ .finished) (answer : Status) (room : Nat) :
    Winds s (s.handle id c answer room) id c := by
  have hclosed := h.closed c (List.mem_of_getElem? hc) hrunning
  have hfinish : Winds s (s.finish id c) id c :=
    ⟨h.stop, ⟨_, rfl, rfl, rfl⟩, Nat.le_add_right _ _⟩
  unfold handle
  cases hstage : c.stage with
  | idle =>
      dsimp only
      rw [if_pos h.stop]
      exact hfinish
  | reading =>
      dsimp only
      unfold read
      rw [if_pos hclosed]
      exact hfinish
  | dispatching request =>
      dsimp only
      unfold serve
      dsimp only
      have hlog : ∀ entry : Entry, (s.log ++ [entry]).length ≤
          s.log.length + serving c.stage := by
        intro entry
        rw [hstage, List.length_append]
        exact Nat.le_refl _
      split
      · exact ⟨h.stop, ⟨_, rfl, rfl, rfl⟩, hlog _⟩
      next bytes _ =>
        have hserving : serving
            (.writing bytes (.respond request.operation)) = 0 := rfl
        exact ⟨h.stop, ⟨_, rfl, hclosed, hserving⟩, hlog _⟩
  | writing bytes after => exact winds_write h hclosed room
  | stopping =>
      have hconnections : (s.closeAll.finish id
          { c with closed := true }).connections = s.connections.set id
            { c with stage := .finished, closed := true } := by
        change s.closeAll.connections.set id _ = _
        rw [closeAll_connections h]
      exact ⟨h.stop, ⟨_, hconnections, rfl, rfl⟩, Nat.le_add_right _ _⟩
  | finished => exact absurd hstage hrunning

/-! ## What is left to do -/

/-- The steps that a stopped service takes on its own. -/
def Event.winds : Event → Bool
  | .advance _ _ _ | .take | .leave | .drain => true
  | _ => false

/-- What is left to do before `shutdown` returns. -/
def work (s : Service) : Nat := (s.stages.map rounds).sum + s.pool.work

/-- The requests that have been read and not served. -/
def inFlight (s : Service) : Nat := (s.stages.map serving).sum

theorem work_releaseJob_le (pool : WorkerPool Nat) (id : Nat) :
    (releaseJob pool id).work ≤ pool.work := by
  unfold releaseJob
  by_cases hactive : id ∈ pool.active
  · rw [if_pos hactive]
    have hallowed : pool.allowed (.finish id) := hactive
    have hless := WorkerPool.work_step_lt hallowed rfl
    exact Nat.le_of_lt hless
  · rw [if_neg hactive]
    by_cases hdraining : pool.draining = some id
    · rw [if_pos hdraining]
      have hallowed : pool.allowed .drained := by
        change pool.draining ≠ none
        rw [hdraining]
        exact Option.some_ne_none id
      have hless := WorkerPool.work_step_lt hallowed rfl
      exact Nat.le_of_lt hless
    · rw [if_neg hdraining]
      exact Nat.le_refl _

theorem rounds_pos {stage : HandlerStage} (h : stage ≠ .finished) :
    0 < rounds stage := by
  cases stage <;> first | exact Nat.succ_pos _ | exact absurd rfl h

theorem stages_map_get (f : HandlerStage → Nat)
    (hc : s.connections[id]? = some c) :
    (s.stages.map f)[id]? = some (f c.stage) := by
  rw [List.getElem?_map, stages_get hc]
  rfl

theorem pool_stop_releaseJob (pool : WorkerPool Nat) (id : Nat) :
    (releaseJob pool id).stop = pool.stop := by
  unfold releaseJob
  split
  · rfl
  · split
    · unfold WorkerPool.drained
      cases pool.draining <;> rfl
    · rfl

/-- What a step of a stopped service leaves. -/
structure Wound (s t : Service) : Prop where
  shut : t.Shut
  pool : t.pool.stop = s.pool.stop
  work : t.work < s.work
  served : t.log.length + t.inFlight ≤ s.log.length + s.inFlight

theorem wound_handle (h : s.Shut) (hc : s.connections[id]? = some c)
    (hrunning : c.stage ≠ .finished) (answer : Status) (room : Nat) :
    Wound s (s.handle id c answer room) := by
  obtain ⟨hstop, ⟨d, hconnections, hclosed, hserving⟩, hlog⟩ :=
    winds_handle h hc hrunning answer room
  have hcase := ends_or_stays hc hrunning answer room
  generalize s.handle id c answer room = t at *
  have hstages := stages_set hconnections rfl
  have hinFlight : t.inFlight + serving c.stage = s.inFlight := by
    unfold inFlight
    rw [hstages, List.map_set, hserving,
      sum_set_add (stages_map_get serving hc), Nat.add_zero]
  have hshut : t.Shut := by
    refine ⟨hstop, fun e he hopen => ?_⟩
    rw [hconnections] at he
    rcases List.mem_or_eq_of_mem_set he with hold | rfl
    · exact h.closed e hold hopen
    · exact hclosed
  have hclosed' := h.closed c (List.mem_of_getElem? hc) hrunning
  refine ⟨hshut, ?_, ?_, by omega⟩
  · rcases hcase with hends | ⟨_, hstays⟩
    · rw [hends.pool, pool_stop_releaseJob]
    · rw [hstays.pool]
  · unfold work
    rcases hcase with hends | ⟨stage, hstays⟩
    · have hless := sum_set_lt (stages_map_get rounds hc)
        (rounds_pos hrunning)
      have hpool := work_releaseJob_le s.pool id
      rw [hends.stages, hends.pool, List.map_set]
      change ((s.stages.map rounds).set id 0).sum + _ < _
      omega
    · have hless := sum_set_lt (stages_map_get rounds hc)
        (hstays.winds h.stop hclosed')
      rw [hstays.stages, hstays.pool, List.map_set]
      omega

theorem wound_pool (h : s.Shut) (inner : WorkerPool.Event Nat)
    (hstop : s.pool.stop = true) (hallowed : s.pool.allowed inner)
    (hwinds : inner.winds = true) :
    Wound s { s with pool := s.pool.step inner } := by
  refine ⟨⟨h.stop, h.closed⟩, ?_, ?_, Nat.le_refl _⟩
  · exact (WorkerPool.stop_step hstop hwinds).1.trans hstop.symm
  · exact Nat.add_lt_add_left (WorkerPool.work_step_lt hallowed hwinds) _

/-- Every step of a stopped service leaves less to do. -/
theorem wound_step (hmanned : s.Manned) (h : s.Shut)
    (hstop : s.pool.stop = true) {event : Event} (hallowed : s.allowed event)
    (hwinds : event.winds = true) : Wound s (s.step event) := by
  cases event with
  | advance id answer room =>
      obtain ⟨c, hc, hrunning⟩ := exists_connection
        ((hmanned.jobs id).mp (List.mem_append_right _ hallowed))
      change Wound s (s.advance id answer room)
      unfold advance
      rw [hc]
      exact wound_handle h hc hrunning answer room
  | take => exact wound_pool h .take hstop hallowed rfl
  | leave => exact wound_pool h .leave hstop hallowed rfl
  | drain => exact wound_pool h .drain hstop hallowed rfl
  | connect | arrive | hangUp | call | requestStop | closeAll | shutdownPool
  | reset => cases hwinds

/-- A stopped service is never stuck before its handlers have returned. -/
theorem exists_winds (hmanned : s.Manned) (hstop : s.pool.stop = true) :
    (s.allowed .reset ∧ ∀ c ∈ s.connections, c.stage = .finished) ∨
      ∃ event, s.allowed event ∧ event.winds = true := by
  by_cases hbegun : s.pool.begun = []
  · have hactive : s.pool.active = [] := (List.append_eq_nil_iff.mp hbegun).1
    have hothers := (List.append_eq_nil_iff.mp hbegun).2
    have hdraining : s.pool.draining = none := by
      cases hdraining : s.pool.draining with
      | none => rfl
      | some job => simp [hdraining] at hothers
    by_cases hqueue : s.pool.queue = []
    · by_cases hidle : s.pool.idle = 0
      · refine Or.inl ⟨⟨⟨hstop, hidle, hactive⟩, hqueue, hdraining⟩, ?_⟩
        intro c hc
        by_contra hrunning
        obtain ⟨id, hid⟩ := List.mem_iff_getElem?.mp hc
        have hjob := (hmanned.jobs id).mpr ⟨_, stages_get hid, hrunning⟩
        rw [WorkerPool.jobs, hqueue, hbegun] at hjob
        exact absurd hjob List.not_mem_nil
      · exact Or.inr ⟨.leave, ⟨Nat.pos_of_ne_zero hidle, hstop, hqueue⟩, rfl⟩
    · by_cases hidle : s.pool.idle = 0
      · exact Or.inr ⟨.drain, ⟨⟨hstop, hidle, hactive⟩, hqueue, hdraining⟩,
          rfl⟩
      · exact Or.inr ⟨.take, ⟨Nat.pos_of_ne_zero hidle, hqueue⟩, rfl⟩
  · obtain ⟨id, hid⟩ := List.exists_mem_of_ne_nil _ hbegun
    exact Or.inr ⟨.advance id {} 0, hid, rfl⟩

end Service

/-! ## Runs -/

theorem wound_run {s : Service} {events : List Service.Event}
    (hmanned : s.Manned) (h : s.Shut) (hstop : s.pool.stop = true)
    (hrun : ServiceRun s events)
    (hwinds : ∀ event ∈ events, event.winds = true) :
    (service.run s events).Manned ∧
      (service.run s events).pool.stop = true ∧
      events.length + (service.run s events).work ≤ s.work ∧
      (service.run s events).log.length ≤ s.log.length + s.inFlight := by
  induction events generalizing s with
  | nil => exact ⟨hmanned, hstop, by simp, Nat.le_add_right _ _⟩
  | cons event events ih =>
      obtain ⟨hallowed, -, hrest⟩ := hrun
      have hwound := Service.wound_step hmanned h hstop hallowed
        (hwinds event List.mem_cons_self)
      obtain ⟨hlast, hstopped, hlength, hserved⟩ := ih
        (hmanned.step event hallowed) hwound.shut
        (hwound.pool.trans hstop) hrest fun other hother =>
          hwinds other (List.mem_cons_of_mem _ hother)
      have hless := hwound.work
      have hnext := hwound.served
      change events.length + (service.run (s.step event) events).work ≤
        (s.step event).work at hlength
      change (service.run (s.step event) events).log.length ≤
        (s.step event).log.length + (s.step event).inFlight at hserved
      refine ⟨hlast, hstopped, ?_, ?_⟩
      · change events.length + 1 +
          (service.run (s.step event) events).work ≤ s.work
        omega
      · change (service.run (s.step event) events).log.length ≤ _
        omega

/-- Two handlers, one of which reads when the service is stopped. -/
def sampleStop : List Service.Event :=
  [.connect, .take, .connect, .take, .advance 0 {} 0, .requestStop, .closeAll,
    .shutdownPool]

def sampleWind : List Service.Event :=
  [.advance 1 {} 0, .leave, .advance 0 {} 0, .leave]

end FlowOffload

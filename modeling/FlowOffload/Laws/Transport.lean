import FlowOffload.Service.Calls
import FlowOffload.Service.Session

/-!
# The service at the engine

Whatever its threads and its peers do, the service drives the engine through
one sequence of operations: each frame that is served takes the step of the
call that it carries, at one point between its arrival and its response, and
the response is the outcome of the call at that point.
-/

namespace FlowOffload

open Foundation

/-! ## The history of the engine -/

/-- The operation of the engine that an entry stands for. -/
def Entry.op? : Entry → Option Op
  | .served _ request answer _ => request.call?.bind (ServiceCall.op answer)
  | .called op => some op

/-- A response is what the engine answers to its request. -/
def Entry.Answers (s : Impl) : Entry → Prop
  | .served _ request answer response =>
      response = request.call?.elim
        (request.reply .protocolMalformedFrame []) fun call =>
          request.respond call (s.perform answer call).1
            (s.perform answer call).2
  | .called _ => True

/-- The engine after the operations of a history. -/
def replay (s : Impl) (log : List Entry) : Impl :=
  FlowOffload.engine.run s (log.filterMap Entry.op?)

/-- Every response is right at its place in the history. -/
def Consistent : Impl → List Entry → Prop
  | _, [] => True
  | s, entry :: log =>
      entry.Answers s ∧ Consistent (replay s [entry]) log

theorem replay_append (s : Impl) (log more : List Entry) :
    replay s (log ++ more) = replay (replay s log) more := by
  rw [replay, List.filterMap_append, Machine.run_append]
  rfl

theorem replay_singleton (s : Impl) (entry : Entry) :
    replay s [entry] = entry.op?.elim s s.step := by
  unfold replay
  cases h : entry.op? with
  | none => rw [List.filterMap_cons_none h]; rfl
  | some op => rw [List.filterMap_cons_some h]; rfl

theorem consistent_append {s : Impl} {log more : List Entry} :
    Consistent s (log ++ more) ↔
      Consistent s log ∧ Consistent (replay s log) more := by
  induction log generalizing s with
  | nil => simp [Consistent, replay]
  | cons entry log ih =>
      rw [List.cons_append, Consistent, Consistent, ih, and_assoc,
        ← replay_append, List.singleton_append]

/-! ## What a step does to the engine -/

namespace Service

variable {s : Service} {id : Nat} {connection : Connection}

/-- A step that the engine does not see. -/
def Silent (s t : Service) : Prop := t.engine = s.engine ∧ t.log = s.log

theorem silent_refl (s : Service) : Silent s s := ⟨rfl, rfl⟩

theorem silent_connect (s : Service) : Silent s s.connect := by
  unfold connect
  split
  · exact ⟨rfl, rfl⟩
  · dsimp only
    split <;> exact ⟨rfl, rfl⟩

theorem silent_finish (s : Service) (id : Nat) (connection : Connection) :
    Silent s (s.finish id connection) :=
  ⟨rfl, rfl⟩

theorem silent_read (s : Service) (id : Nat) (connection : Connection) :
    Silent s (s.read id connection) := by
  unfold read
  split
  · exact silent_finish s id connection
  · split
    · split
      · exact silent_finish s id connection
      · exact silent_refl s
    · dsimp only
      split
      · split <;> exact ⟨rfl, rfl⟩
      · split <;> exact ⟨rfl, rfl⟩
      · exact ⟨rfl, rfl⟩

theorem silent_write (s : Service) (id : Nat) (connection : Connection)
    (bytes : Bytes) (after : After) (room : Nat) :
    Silent s (s.write id connection bytes after room) := by
  unfold write
  cases after with
  | leave => exact ⟨rfl, rfl⟩
  | resume => exact ⟨rfl, rfl⟩
  | respond operation =>
      dsimp only
      split
      · exact ⟨rfl, rfl⟩
      · split <;> exact ⟨rfl, rfl⟩

/-- A step adds this entry to the history of the engine. -/
structure Adds (s t : Service) (entry : Entry) : Prop where
  log : t.log = s.log ++ [entry]
  engine : t.engine = replay s.engine [entry]
  answers : entry.Answers s.engine
  allowed : ∀ op ∈ entry.op?, FlowOffload.engine.allowed s.engine op

/-- The calls of the service recover no state. -/
theorem allowed_op (s : Impl) {call : ServiceCall} {answer : Status} {op : Op}
    (h : op ∈ call.op answer) : FlowOffload.engine.allowed s op := by
  cases call <;> cases h <;>
    exact fun _ hstate => absurd hstate (by simp [Op.recovered])

theorem adds_serve (s : Service) (id : Nat) (connection : Connection)
    (request : Frame) (answer : Status) :
    Adds s (s.serve id connection request answer)
      (.served id request answer (dispatch s.engine request answer).2) := by
  have hdispatch := dispatch_eq s.engine request answer
  have hshape : (s.serve id connection request answer).log =
        s.log ++ [Entry.served id request answer
          (dispatch s.engine request answer).2] ∧
      (s.serve id connection request answer).engine =
        (dispatch s.engine request answer).1 := by
    unfold serve
    dsimp only
    split <;> exact ⟨rfl, rfl⟩
  refine ⟨hshape.1, ?_, ?_, ?_⟩
  · rw [hshape.2, replay_singleton, hdispatch]
    cases hcall : request.call? with
    | none => simp [Entry.op?, hcall]
    | some call => simp [Entry.op?, hcall]
  · rw [hdispatch]
    cases hcall : request.call? <;> simp [Entry.Answers, hcall]
  · intro op hop
    obtain ⟨call, -, hcall⟩ := Option.bind_eq_some_iff.mp hop
    exact allowed_op s.engine hcall

theorem silent_or_adds_handle (s : Service) (id : Nat)
    (connection : Connection) (answer : Status) (room : Nat) :
    Silent s (s.handle id connection answer room) ∨
      ∃ entry, Adds s (s.handle id connection answer room) entry := by
  unfold handle
  cases connection.stage with
  | idle =>
      exact Or.inl (iteInduction (fun _ => silent_finish s id _)
        fun _ => ⟨rfl, rfl⟩)
  | reading => exact Or.inl (silent_read s id connection)
  | dispatching request =>
      exact Or.inr ⟨_, adds_serve s id connection request answer⟩
  | writing bytes after =>
      exact Or.inl (silent_write s id connection bytes after room)
  | stopping => exact Or.inl ⟨rfl, rfl⟩
  | finished => exact Or.inl (silent_refl s)

/-- A step of the service is at most one step of the engine. -/
theorem silent_or_adds (s : Service) (event : Event)
    (hallowed : s.allowed event) :
    Silent s (s.step event) ∨ ∃ entry, Adds s (s.step event) entry := by
  cases event with
  | connect => exact Or.inl (silent_connect s)
  | advance id answer room =>
      change Silent s (s.advance id answer room) ∨
        ∃ entry, Adds s (s.advance id answer room) entry
      unfold advance
      cases s.connections[id]? with
      | none => exact Or.inl (silent_refl s)
      | some connection =>
          exact silent_or_adds_handle s id connection answer room
  | call op =>
      refine Or.inr ⟨.called op, rfl, ?_, trivial, ?_⟩
      · exact (replay_singleton s.engine (.called op)).symm
      · intro other hother
        cases hother
        exact hallowed
  | arrive | hangUp | requestStop | closeAll | take | leave | shutdownPool
  | drain | reset => exact Or.inl ⟨rfl, rfl⟩

end Service

/-! ## Runs -/

/-- A run of the service in which every step can happen. -/
abbrev ServiceRun (s : Service) (events : List Service.Event) : Prop :=
  service.Admits (fun _ _ => True) s events

/-- What is known of the engine behind the service. -/
structure Service.Linear (first : Impl) (s : Service) : Prop where
  engine : s.engine = replay first s.log
  admits : FlowOffload.engine.Admits (fun _ _ => True) first
    (s.log.filterMap Entry.op?)
  consistent : Consistent first s.log

theorem Service.Linear.step {first : Impl} {s : Service}
    (h : s.Linear first) (event : Service.Event)
    (hallowed : s.allowed event) : (s.step event).Linear first := by
  rcases Service.silent_or_adds s event hallowed with
    ⟨hengine, hlog⟩ | ⟨entry, hlog, hengine, hanswers, hentry⟩
  · refine ⟨?_, ?_, ?_⟩
    · rw [hengine, hlog]
      exact h.engine
    · rw [hlog]
      exact h.admits
    · rw [hlog]
      exact h.consistent
  · rw [h.engine] at hanswers hengine hentry
    refine ⟨?_, ?_, ?_⟩
    · rw [hengine, hlog, replay_append]
    · rw [hlog, List.filterMap_append, Machine.admits_append]
      refine ⟨h.admits, ?_⟩
      change FlowOffload.engine.Admits _ (replay first s.log) _
      cases hop : entry.op? with
      | none =>
          rw [List.filterMap_cons_none hop]
          exact trivial
      | some op =>
          rw [List.filterMap_cons_some hop]
          exact ⟨hentry op hop, trivial, trivial⟩
    · rw [hlog, consistent_append]
      exact ⟨h.consistent, hanswers, trivial⟩

theorem linear_run (first : Impl) (config : ServiceConfig)
    {events : List Service.Event}
    (hrun : ServiceRun (.start first config) events) :
    (service.run (.start first config) events).Linear first :=
  Machine.Admits.invariant
    (fun _ event hs hallowed _ => hs.step event hallowed)
    ⟨rfl, trivial, trivial⟩ hrun

/--
However its threads and its peers are interleaved, the service is the engine
taking the operations of the frames it served and of the other calls, one after
the other; every response is the outcome of its call in that order, and what
has been answered is never taken back.
-/
theorem service_is_linear (first : Impl) (config : ServiceConfig)
    (events more : List Service.Event)
    (hrun : ServiceRun (.start first config) (events ++ more)) :
    let s := service.run (.start first config) events
    let t := service.run s more
    (s.engine = FlowOffload.engine.run first (s.log.filterMap Entry.op?) ∧
      FlowOffload.engine.Admits (fun _ _ => True) first
        (s.log.filterMap Entry.op?) ∧
      Consistent first s.log) ∧
      s.log <+: t.log := by
  obtain ⟨hbefore, hafter⟩ := Machine.admits_append.mp hrun
  have hlinear := linear_run first config hbefore
  refine ⟨⟨hlinear.engine, hlinear.admits, hlinear.consistent⟩, ?_⟩
  refine Machine.Admits.invariant
    (P := fun t => (service.run (.start first config) events).log <+: t.log)
    ?_ (List.prefix_refl _) hafter
  intro t event hprefix hallowed _
  rcases Service.silent_or_adds t event hallowed with
    ⟨-, hlog⟩ | ⟨entry, hlog, -⟩
  · change _ <+: (t.step event).log
    rw [hlog]
    exact hprefix
  · change _ <+: (t.step event).log
    rw [hlog]
    exact hprefix.trans (List.prefix_append _ _)

def sampleShutdownFrame : Frame := { operation := .shutdown, correlation := 7 }

def sampleShutdownBytes : Bytes :=
  (encodeFrame sampleShutdownFrame kMaxFrameBytes).getD []

/-- A request in two pieces, and a call from elsewhere in between. -/
def sampleServiceRun : List Service.Event :=
  [.connect, .take, .advance 0 {} 0, .arrive 0 (sampleShutdownBytes.take 30),
    .advance 0 {} 0, .call (.setTopologyGeneration ⟨3⟩ {}),
    .arrive 0 (sampleShutdownBytes.drop 30), .advance 0 {} 0, .advance 0 {} 0,
    .advance 0 {} 100]

theorem sample_service_is_linear :
    (service.run (.start {} {}) sampleServiceRun).engine =
        FlowOffload.engine.run {} ((service.run (.start {} {})
          sampleServiceRun).log.filterMap Entry.op?) ∧
      (service.run (.start {} {}) sampleServiceRun).log.length = 2 := by
  have hrun : ServiceRun (.start {} {}) (sampleServiceRun ++ [.hangUp 0]) := by
    decide +kernel
  refine ⟨?_, by decide +kernel⟩
  exact (service_is_linear {} {} sampleServiceRun [.hangUp 0] hrun).1.1

example : (service.run (.start {} {}) sampleServiceRun).framesHandled = 1 := by
  decide +kernel

end FlowOffload

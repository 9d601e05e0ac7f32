import FlowOffload.Laws.Transport

/-!
# Connections are answered in order

What a connection is sent are the replies to the frames that it sent, one reply
for each and in the same order, however its bytes were cut into pieces and
whatever the other connections did meanwhile.
-/

namespace FlowOffload

open Foundation

/-! ## Exchanges -/

/-- A frame of a connection together with what became of it. -/
inductive Exchange where
  | oversized (operation : Operation) (correlation : UInt64)
  | broken (status : ReasonCode)
  | served (request response : Frame)
  deriving DecidableEq, Repr

namespace Exchange

def received : Exchange → Received
  | .oversized operation correlation => .oversized operation correlation
  | .broken status => .broken status
  | .served request _ => .frame request

/-- The request and the response, when the engine was asked. -/
def served? : Exchange → Option (Frame × Frame)
  | .served request response => some (request, response)
  | _ => none

/-- The bytes that the peer is sent. -/
def reply (maxFrameBytes : Nat) : Exchange → Bytes
  | .oversized operation correlation =>
      (encodeFrame (Service.oversizedRefusal operation correlation)
        maxFrameBytes).getD []
  | .broken status =>
      (encodeFrame (Service.brokenRefusal status) maxFrameBytes).getD []
  | .served request response =>
      (Service.encodeResponse maxFrameBytes request response).getD []

end Exchange

/-- The exchanges of one connection with the engine, in order. -/
def exchangesOf (id : Nat) (log : List Entry) : List (Frame × Frame) :=
  log.filterMap fun
    | .served connection request _ response =>
        if connection = id then some (request, response) else none
    | .called _ => none

theorem exchangesOf_append (id : Nat) (log more : List Entry) :
    exchangesOf id (log ++ more) =
      exchangesOf id log ++ exchangesOf id more :=
  List.filterMap_append

@[simp] theorem exchangesOf_self (id : Nat) (request : Frame)
    (answer : Status) (response : Frame) :
    exchangesOf id [.served id request answer response] =
      [(request, response)] := by
  simp [exchangesOf]

theorem exchangesOf_other {id other : Nat} (h : other ≠ id) (request : Frame)
    (answer : Status) (response : Frame) :
    exchangesOf id [.served other request answer response] = [] := by
  simp [exchangesOf, h]

/-- The request that a handler has read and not served yet. -/
def HandlerStage.pending : HandlerStage → List Received
  | .dispatching request => [.frame request]
  | _ => []

/-- The bytes that a handler has still to write. -/
def HandlerStage.unsent : HandlerStage → Bytes
  | .writing bytes _ => bytes
  | _ => []

/-- The frames of the peer and the replies to them agree. -/
structure Connection.Answered (c : Connection) (maxFrameBytes : Nat)
    (history : List Exchange) : Prop where
  reads : (frames maxFrameBytes).Splits
    (history.map Exchange.received ++ c.stage.pending) c.arrived c.unread
  writes : c.broken = false → c.written ++ c.stage.unsent =
    history.flatMap (Exchange.reply maxFrameBytes)
  sends : c.written <+: history.flatMap (Exchange.reply maxFrameBytes)

namespace Connection

variable {c : Connection} {maxFrameBytes : Nat} {history : List Exchange}

theorem answered_new : Answered {} maxFrameBytes [] :=
  ⟨rfl, fun _ => rfl, List.prefix_refl _⟩

/-- A handler with nothing to serve and nothing to write moves on. -/
theorem Answered.move (h : c.Answered maxFrameBytes history)
    {stage : HandlerStage}
    (hpending : stage.pending = c.stage.pending)
    (hunsent : stage.unsent = c.stage.unsent) (hungUp closed : Bool) :
    Answered { c with stage := stage, hungUp := hungUp, closed := closed }
      maxFrameBytes history := by
  refine ⟨?_, fun hbroken => ?_, h.sends⟩
  · change (frames maxFrameBytes).Splits (_ ++ stage.pending) _ _
    rw [hpending]
    exact h.reads
  · change c.written ++ stage.unsent = _
    rw [hunsent]
    exact h.writes hbroken

theorem Answered.arrive (h : c.Answered maxFrameBytes history)
    (bytes : Bytes) :
    Answered { c with
      arrived := c.arrived ++ bytes, unread := c.unread ++ bytes }
      maxFrameBytes history :=
  ⟨h.reads.arrive bytes, h.writes, h.sends⟩

/-- A request is read. -/
theorem Answered.read (h : c.Answered maxFrameBytes history)
    (hpending : c.stage.pending = []) (hunsent : c.stage.unsent = [])
    {request : Frame} {rest : Bytes}
    (hnext : nextFrame maxFrameBytes c.unread = some (.frame request, rest)) :
    Answered { c with unread := rest, stage := .dispatching request }
      maxFrameBytes history := by
  have hreads := h.reads
  have hwrites := h.writes
  rw [hpending, List.append_nil] at hreads
  rw [hunsent] at hwrites
  exact ⟨hreads.snoc hnext, hwrites, h.sends⟩

/-- A frame is refused, and the refusal is to be written. -/
theorem Answered.refuse (h : c.Answered maxFrameBytes history)
    (hpending : c.stage.pending = []) (hunsent : c.stage.unsent = [])
    {exchange : Exchange} {rest : Bytes} {stage : HandlerStage}
    (hnext : nextFrame maxFrameBytes c.unread =
      some (exchange.received, rest)) (closed : Bool)
    (hstage : stage.pending = [])
    (hreply : stage.unsent = exchange.reply maxFrameBytes) :
    Answered { c with unread := rest, stage := stage, closed := closed }
      maxFrameBytes (history ++ [exchange]) := by
  have hreads := h.reads
  have hwrites := h.writes
  rw [hpending, List.append_nil] at hreads
  rw [hunsent, List.append_nil] at hwrites
  refine ⟨?_, fun hbroken => ?_, ?_⟩
  · change (frames maxFrameBytes).Splits (_ ++ stage.pending) _ _
    rw [hstage, List.append_nil, List.map_append]
    exact hreads.snoc hnext
  · change c.written ++ stage.unsent = _
    rw [hreply, hwrites hbroken, List.flatMap_append, List.flatMap_singleton]
  · rw [List.flatMap_append]
    exact h.sends.trans (List.prefix_append _ _)

/-- The engine answers a request, and the response is to be written. -/
theorem Answered.serve (h : c.Answered maxFrameBytes history)
    {request response : Frame} (hserving : c.stage = .dispatching request)
    {stage : HandlerStage} (closed : Bool) (hstage : stage.pending = [])
    (hreply : stage.unsent =
      (Exchange.served request response).reply maxFrameBytes) :
    Answered { c with stage := stage, closed := closed } maxFrameBytes
      (history ++ [.served request response]) := by
  have hreads := h.reads
  have hwrites := h.writes
  rw [hserving] at hreads hwrites
  change c.broken = false → c.written ++ [] = _ at hwrites
  rw [List.append_nil] at hwrites
  refine ⟨?_, fun hbroken => ?_, ?_⟩
  · change (frames maxFrameBytes).Splits (_ ++ stage.pending) _ _
    rw [hstage, List.append_nil, List.map_append]
    exact hreads
  · change c.written ++ stage.unsent = _
    rw [hreply, hwrites hbroken, List.flatMap_append, List.flatMap_singleton]
  · rw [List.flatMap_append]
    exact h.sends.trans (List.prefix_append _ _)

/-- Bytes are written, all of them or the write fails. -/
theorem Answered.write (h : c.Answered maxFrameBytes history) {bytes : Bytes}
    {after : After} (hwriting : c.stage = .writing bytes after) {room : Nat}
    {stage : HandlerStage} (closed : Bool) (hpending : stage.pending = [])
    (hunsent : stage.unsent = []) :
    Answered { c with
      stage := stage
      closed := closed
      written := c.written ++
        if c.closed || c.broken then [] else bytes.take room
      broken := c.broken ||
        !(!(c.closed || c.broken) && decide (bytes.length ≤ room)) }
      maxFrameBytes history := by
  have hreads := h.reads
  have hwrites := h.writes
  rw [hwriting] at hreads hwrites
  change c.broken = false → c.written ++ bytes = _ at hwrites
  refine ⟨?_, fun hbroken => ?_, ?_⟩
  · change (frames maxFrameBytes).Splits (_ ++ stage.pending) _ _
    rw [hpending]
    exact hreads
  · change (c.written ++ _) ++ stage.unsent = _
    simp only [Bool.or_eq_false_iff, Bool.not_eq_false', Bool.and_eq_true,
      Bool.not_eq_true', decide_eq_true_eq] at hbroken
    obtain ⟨hsound, ⟨hclosed, -⟩, hroom⟩ := hbroken
    rw [hunsent, List.append_nil, hclosed, hsound, if_neg (by decide),
      List.take_of_length_le hroom]
    exact hwrites hsound
  · change c.written ++ _ <+: _
    cases hbroken : c.closed || c.broken with
    | true =>
        rw [if_pos rfl, List.append_nil]
        exact h.sends
    | false =>
        rw [if_neg (by decide)]
        rw [Bool.or_eq_false_iff] at hbroken
        rw [← hwrites hbroken.2]
        exact List.prefix_append_right_inj _ |>.mpr (List.take_prefix _ _)

end Connection

/-! ## Steps -/

namespace Service

/-- A connection whose replies are those of the history of the engine. -/
def Keeps (maxFrameBytes : Nat) (served : List (Frame × Frame))
    (c : Connection) : Prop :=
  ∃ history, c.Answered maxFrameBytes history ∧
    history.filterMap Exchange.served? = served

/-- Every connection is answered in order. -/
structure InOrder (s : Service) : Prop where
  keeps : ∀ id c, s.connections[id]? = some c →
    Keeps s.config.maxFrameBytes (exchangesOf id s.log) c
  fresh : ∀ id, s.connections.length ≤ id → exchangesOf id s.log = []

variable {s t : Service} {id : Nat} {c d : Connection}

/-- A step that changes one connection and adds only to its exchanges. -/
theorem InOrder.set (h : s.InOrder) (hc : s.connections[id]? = some c)
    (hconfig : t.config = s.config)
    (hconnections : t.connections = s.connections.set id d)
    {entries : List Entry} (hlog : t.log = s.log ++ entries)
    (hothers : ∀ other, other ≠ id → exchangesOf other entries = [])
    (hkeeps : Keeps s.config.maxFrameBytes
      (exchangesOf id s.log ++ exchangesOf id entries) d) : t.InOrder := by
  have hid : id < s.connections.length :=
    (List.getElem?_eq_some_iff.mp hc).choose
  constructor
  · intro other e he
    rw [hconnections] at he
    rw [hconfig, hlog, exchangesOf_append]
    by_cases hsame : id = other
    · subst hsame
      rw [List.getElem?_set_self hid] at he
      cases he
      exact hkeeps
    · rw [List.getElem?_set_ne hsame] at he
      rw [hothers other (Ne.symm hsame), List.append_nil]
      exact h.keeps other e he
  · intro other hother
    rw [hconnections, List.length_set] at hother
    rw [hlog, exchangesOf_append, h.fresh other hother,
      hothers other (by omega)]
    rfl

/-- A step of a handler that the engine does not see. -/
theorem InOrder.quiet (h : s.InOrder) (hc : s.connections[id]? = some c)
    (hconfig : t.config = s.config)
    (hconnections : t.connections = s.connections.set id d)
    (hlog : t.log = s.log)
    (hkeeps : Keeps s.config.maxFrameBytes (exchangesOf id s.log) d) :
    t.InOrder := by
  refine h.set hc hconfig hconnections (hlog.trans (List.append_nil _).symm)
    (fun _ _ => rfl) ?_
  rw [show exchangesOf id [] = [] from rfl, List.append_nil]
  exact hkeeps

/-- A step that keeps every connection in its place and its replies. -/
theorem InOrder.map (h : s.InOrder) {f : Connection → Connection}
    (hconnections : t.connections = s.connections.map f)
    (hconfig : t.config = s.config) (hlog : t.log = s.log)
    (hkeeps : ∀ c served, Keeps s.config.maxFrameBytes served c →
      Keeps s.config.maxFrameBytes served (f c)) : t.InOrder := by
  constructor
  · intro other e he
    rw [hconnections, List.getElem?_map] at he
    obtain ⟨e, heq, rfl⟩ := Option.map_eq_some_iff.mp he
    rw [hconfig, hlog]
    exact hkeeps e _ (h.keeps other e heq)
  · intro other hother
    rw [hconnections, List.length_map] at hother
    rw [hlog]
    exact h.fresh other hother

theorem Keeps.move {maxFrameBytes : Nat} {served : List (Frame × Frame)}
    (h : Keeps maxFrameBytes served c) {stage : HandlerStage}
    (hpending : stage.pending = c.stage.pending)
    (hunsent : stage.unsent = c.stage.unsent) (hungUp closed : Bool) :
    Keeps maxFrameBytes served
      { c with stage := stage, hungUp := hungUp, closed := closed } := by
  obtain ⟨history, hanswered, hserved⟩ := h
  exact ⟨history, hanswered.move hpending hunsent hungUp closed, hserved⟩

theorem inOrder_closeAll (h : s.InOrder) : s.closeAll.InOrder := by
  refine h.map rfl rfl rfl fun e served hkeeps => ?_
  refine iteInduction (fun _ => hkeeps) fun _ => ?_
  exact hkeeps.move rfl rfl e.hungUp true

theorem inOrder_connect (h : s.InOrder) : s.connect.InOrder := by
  have hadd : ∀ (pool : WorkerPool Nat) (stage : HandlerStage) (closed : Bool)
      (accepted refused : UInt64), stage.pending = [] → stage.unsent = [] →
      InOrder { s with
        pool := pool
        connections := s.connections ++
          [{ stage := stage, closed := closed }]
        connectionsAccepted := accepted
        connectionsRefused := refused } := by
    intro pool stage closed accepted refused hpending hunsent
    constructor
    · intro other e he
      change (s.connections ++ [_])[other]? = some e at he
      rcases Nat.lt_trichotomy other s.connections.length with
        hlt | heq | hgt
      · rw [List.getElem?_append_left hlt] at he
        exact h.keeps other e he
      · subst heq
        rw [List.getElem?_concat_length] at he
        cases he
        change Keeps _ (exchangesOf s.connections.length s.log) _
        rw [h.fresh _ (Nat.le_refl _)]
        exact ⟨[], Connection.answered_new.move hpending hunsent false closed,
          rfl⟩
      · rw [List.getElem?_eq_none (by
          rw [List.length_append, List.length_singleton]; omega)] at he
        cases he
    · intro other hother
      change (s.connections ++ [_]).length ≤ other at hother
      rw [List.length_append, List.length_singleton] at hother
      exact h.fresh other (by omega)
  unfold connect
  split
  · exact ⟨h.keeps, h.fresh⟩
  · dsimp only
    split
    · exact hadd _ .idle false _ _ rfl rfl
    · exact hadd _ .finished true _ _ rfl rfl

theorem inOrder_read (h : s.InOrder) (hc : s.connections[id]? = some c)
    (hstage : c.stage = .reading) : (s.read id c).InOrder := by
  obtain ⟨history, hanswered, hserved⟩ := h.keeps id c hc
  have hkeeps : Keeps s.config.maxFrameBytes (exchangesOf id s.log) c :=
    ⟨history, hanswered, hserved⟩
  have hpending : c.stage.pending = [] := by
    rw [hstage]
    rfl
  have hunsent : c.stage.unsent = [] := by
    rw [hstage]
    rfl
  have hfinish : (s.finish id c).InOrder := by
    refine h.quiet hc rfl rfl rfl (hkeeps.move ?_ ?_ c.hungUp true)
    · exact hpending.symm
    · exact hunsent.symm
  have hrefuse : ∀ (exchange : Exchange) (rest : Bytes) (stage : HandlerStage)
      (closed : Bool), exchange.served? = none →
      nextFrame s.config.maxFrameBytes c.unread =
        some (exchange.received, rest) → stage.pending = [] →
      stage.unsent = exchange.reply s.config.maxFrameBytes →
      Keeps s.config.maxFrameBytes (exchangesOf id s.log)
        { c with unread := rest, stage := stage, closed := closed } := by
    intro exchange rest stage closed hnone hnext hquiet hreply
    refine ⟨history ++ [exchange], hanswered.refuse hpending hunsent hnext
      closed hquiet hreply, ?_⟩
    rw [List.filterMap_append, hserved, List.filterMap_cons_none hnone,
      List.filterMap_nil, List.append_nil]
  unfold read
  by_cases hclosed : c.closed = true
  · rw [if_pos hclosed]
    exact hfinish
  · rw [if_neg hclosed]
    cases hnext : nextFrame s.config.maxFrameBytes c.unread with
    | none => exact iteInduction (fun _ => hfinish) fun _ => h
    | some found =>
        obtain ⟨received, rest⟩ := found
        cases received with
        | oversized operation correlation =>
            dsimp only
            cases hbytes : encodeFrame (oversizedRefusal operation correlation)
              s.config.maxFrameBytes with
            | none =>
                refine h.quiet hc rfl rfl rfl ?_
                refine hrefuse (.oversized operation correlation) rest
                  .finished true rfl hnext rfl ?_
                rw [Exchange.reply, hbytes]
                rfl
            | some bytes =>
                refine h.quiet hc rfl rfl rfl ?_
                refine hrefuse (.oversized operation correlation) rest
                  (.writing bytes .leave) c.closed rfl hnext rfl ?_
                rw [Exchange.reply, hbytes]
                rfl
        | broken status =>
            dsimp only
            cases hbytes : encodeFrame (brokenRefusal status)
              s.config.maxFrameBytes with
            | none =>
                refine h.quiet hc rfl rfl rfl ?_
                refine hrefuse (.broken status) rest .idle c.closed rfl
                  hnext rfl ?_
                rw [Exchange.reply, hbytes]
                rfl
            | some bytes =>
                refine h.quiet hc rfl rfl rfl ?_
                refine hrefuse (.broken status) rest
                  (.writing bytes .resume) c.closed rfl hnext rfl ?_
                rw [Exchange.reply, hbytes]
                rfl
        | frame request =>
            refine h.quiet hc rfl rfl rfl ⟨history, ?_, hserved⟩
            exact hanswered.read hpending hunsent hnext

theorem inOrder_serve (h : s.InOrder) (hc : s.connections[id]? = some c)
    {request : Frame} (hstage : c.stage = .dispatching request)
    (answer : Status) : (s.serve id c request answer).InOrder := by
  obtain ⟨history, hanswered, hserved⟩ := h.keeps id c hc
  have hkeeps : ∀ (stage : HandlerStage) (closed : Bool), stage.pending = [] →
      stage.unsent = (Exchange.served request
        (dispatch s.engine request answer).2).reply s.config.maxFrameBytes →
      Keeps s.config.maxFrameBytes (exchangesOf id s.log ++
        exchangesOf id [.served id request answer
          (dispatch s.engine request answer).2])
        { c with stage := stage, closed := closed } := by
    intro stage closed hpending hunsent
    refine ⟨_, hanswered.serve hstage closed hpending hunsent, ?_⟩
    rw [exchangesOf_self, List.filterMap_append, hserved]
    rfl
  unfold serve
  dsimp only
  cases hbytes : encodeResponse s.config.maxFrameBytes request
    (dispatch s.engine request answer).2 with
  | none =>
      refine h.set hc rfl rfl rfl
        (fun other hother => exchangesOf_other hother.symm _ _ _) ?_
      refine hkeeps .finished true rfl ?_
      rw [Exchange.reply, hbytes]
      rfl
  | some bytes =>
      refine h.set hc rfl rfl rfl
        (fun other hother => exchangesOf_other hother.symm _ _ _) ?_
      refine hkeeps (.writing bytes (.respond request.operation)) c.closed
        rfl ?_
      rw [Exchange.reply, hbytes]
      rfl

theorem inOrder_write (h : s.InOrder) (hc : s.connections[id]? = some c)
    {bytes : Bytes} {after : After} (hstage : c.stage = .writing bytes after)
    (room : Nat) : (s.write id c bytes after room).InOrder := by
  obtain ⟨history, hanswered, hserved⟩ := h.keeps id c hc
  have hwrite : ∀ (stage : HandlerStage) (closed : Bool), stage.pending = [] →
      stage.unsent = [] → Keeps s.config.maxFrameBytes (exchangesOf id s.log)
        { c with
          stage := stage
          closed := closed
          written := c.written ++
            if c.closed || c.broken then [] else bytes.take room
          broken := c.broken ||
            !(!(c.closed || c.broken) && decide (bytes.length ≤ room)) } :=
    fun stage closed hpending hunsent => ⟨history,
      hanswered.write hstage closed hpending hunsent, hserved⟩
  unfold write
  cases after with
  | leave => exact h.quiet hc rfl rfl rfl (hwrite .finished true rfl rfl)
  | resume => exact h.quiet hc rfl rfl rfl (hwrite .idle c.closed rfl rfl)
  | respond operation =>
      refine iteInduction (fun _ => ?_) fun _ => iteInduction (fun _ => ?_)
        fun _ => ?_
      · exact h.quiet hc rfl rfl rfl (hwrite .finished true rfl rfl)
      · exact h.quiet hc rfl rfl rfl (hwrite .stopping c.closed rfl rfl)
      · exact h.quiet hc rfl rfl rfl (hwrite .idle c.closed rfl rfl)

theorem inOrder_handle (h : s.InOrder) (hc : s.connections[id]? = some c)
    (answer : Status) (room : Nat) : (s.handle id c answer room).InOrder := by
  have hkeeps := h.keeps id c hc
  unfold handle
  cases hstage : c.stage with
  | idle =>
      refine iteInduction (fun _ => ?_) fun _ => ?_
      · exact h.quiet hc rfl rfl rfl
          (hkeeps.move (by rw [hstage]; rfl) (by rw [hstage]; rfl) _ true)
      · exact h.quiet hc rfl rfl rfl
          (hkeeps.move (by rw [hstage]; rfl) (by rw [hstage]; rfl) _ _)
  | reading => exact inOrder_read h hc hstage
  | dispatching request => exact inOrder_serve h hc hstage answer
  | writing bytes after => exact inOrder_write h hc hstage room
  | stopping =>
      have hclosed : s.closeAll.connections[id]? =
          some { c with closed := true } := by
        change (s.connections.map _)[id]? = _
        rw [List.getElem?_map, hc, Option.map_some, hstage]
        rfl
      refine (inOrder_closeAll h).quiet hclosed rfl rfl rfl ?_
      exact hkeeps.move (by rw [hstage]; rfl) (by rw [hstage]; rfl) _ true
  | finished => exact h

theorem InOrder.update (h : s.InOrder) {f : Connection → Connection}
    (hkeeps : ∀ c served, Keeps s.config.maxFrameBytes served c →
      Keeps s.config.maxFrameBytes served (f c)) :
    (s.updateConnection id f).InOrder := by
  constructor
  · intro other e he
    change (s.connections.modify id f)[other]? = some e at he
    rw [List.getElem?_modify] at he
    obtain ⟨e, heq, rfl⟩ := Option.map_eq_some_iff.mp he
    refine iteInduction (fun _ => ?_) fun _ => h.keeps other e heq
    exact hkeeps e _ (h.keeps other e heq)
  · intro other hother
    change (s.connections.modify id f).length ≤ other at hother
    rw [List.length_modify] at hother
    exact h.fresh other hother

theorem InOrder.step (h : s.InOrder) (event : Event) :
    (s.step event).InOrder := by
  cases event with
  | connect => exact inOrder_connect h
  | arrive id bytes =>
      refine h.update fun e served hkeeps => ?_
      obtain ⟨history, hanswered, hserved⟩ := hkeeps
      exact ⟨history, hanswered.arrive bytes, hserved⟩
  | hangUp id =>
      exact h.update fun e served hkeeps => hkeeps.move rfl rfl true e.closed
  | advance id answer room =>
      change (s.advance id answer room).InOrder
      unfold advance
      cases hc : s.connections[id]? with
      | none => exact h
      | some c => exact inOrder_handle h hc answer room
  | call op =>
      refine ⟨fun other e he => ?_, fun other hother => ?_⟩
      · change Keeps _ (exchangesOf other (s.log ++ [Entry.called op])) _
        rw [exchangesOf_append, show exchangesOf other [.called op] = [] from
          rfl, List.append_nil]
        exact h.keeps other e he
      · change exchangesOf other (s.log ++ [Entry.called op]) = []
        rw [exchangesOf_append, h.fresh other hother]
        rfl
  | closeAll => exact inOrder_closeAll h
  | requestStop | take | leave | shutdownPool | drain | reset =>
      exact ⟨h.keeps, h.fresh⟩

end Service

/-! ## Runs -/

theorem inOrder_run (first : Impl) (config : ServiceConfig)
    {events : List Service.Event}
    (hrun : ServiceRun (.start first config) events) :
    (service.run (.start first config) events).InOrder := by
  refine Machine.Admits.invariant (P := Service.InOrder)
    (fun s event hs _ _ => hs.step event) ?_ hrun
  refine ⟨fun id c hc => ?_, fun _ _ => rfl⟩
  change ([] : List Connection)[id]? = some c at hc
  rw [List.getElem?_nil] at hc
  cases hc

theorem config_step (s : Service) (event : Service.Event) :
    (s.step event).config = s.config := by
  cases event with
  | connect =>
      change s.connect.config = s.config
      unfold Service.connect
      dsimp only
      split
      · rfl
      · split <;> rfl
  | advance id answer room =>
      change (s.advance id answer room).config = s.config
      unfold Service.advance
      cases s.connections[id]? with
      | none => rfl
      | some c =>
          change (s.handle id c answer room).config = s.config
          unfold Service.handle
          cases c.stage with
          | idle =>
              dsimp only
              split <;> rfl
          | reading =>
              dsimp only
              unfold Service.read
              split
              · rfl
              · split
                · split <;> rfl
                · dsimp only
                  split
                  · split <;> rfl
                  · split <;> rfl
                  · rfl
          | dispatching request =>
              dsimp only
              unfold Service.serve
              dsimp only
              split <;> rfl
          | writing bytes after =>
              dsimp only
              unfold Service.write
              cases after with
              | leave => rfl
              | resume => rfl
              | respond operation =>
                  dsimp only
                  split
                  · rfl
                  · split <;> rfl
          | stopping => rfl
          | finished => rfl
  | arrive | hangUp | call | requestStop | closeAll | take | leave
  | shutdownPool | drain | reset => rfl

theorem config_run (s : Service) (events : List Service.Event) :
    (service.run s events).config = s.config := by
  induction events generalizing s with
  | nil => rfl
  | cons event events ih => exact (ih (s.step event)).trans (config_step s event)

/--
On every connection the frames that the peer sent are taken off its bytes one
after the other; those that reach the engine are, in order, the ones that the
history of the engine holds for this connection, each once; and the peer is
sent the replies in the same order, as far as its writes succeed.
-/
theorem connections_are_answered_in_order (first : Impl)
    (config : ServiceConfig) (events : List Service.Event)
    (hrun : ServiceRun (.start first config) events) (id : Nat)
    (c : Connection)
    (hc : (service.run (.start first config) events).connections[id]? =
      some c) :
    ∃ history : List Exchange,
      (frames config.maxFrameBytes).Splits
        (history.map Exchange.received ++ c.stage.pending)
        c.arrived c.unread ∧
      history.filterMap Exchange.served? = exchangesOf id
        (service.run (.start first config) events).log ∧
      c.written <+: history.flatMap (Exchange.reply config.maxFrameBytes) ∧
      (c.broken = false → c.written ++ c.stage.unsent =
        history.flatMap (Exchange.reply config.maxFrameBytes)) := by
  have hconfig := config_run (.start first config) events
  obtain ⟨history, hanswered, hserved⟩ :=
    (inOrder_run first config hrun).keeps id c hc
  rw [hconfig] at hanswered
  exact ⟨history, hanswered.reads, hserved, hanswered.sends,
    hanswered.writes⟩

theorem sample_connection_is_answered :
    ∃ c ∈ (service.run (.start {} {}) sampleServiceRun).connections[0]?,
      ∃ history : List Exchange,
        (frames kMaxFrameBytes).Splits
          (history.map Exchange.received ++ c.stage.pending)
          c.arrived c.unread ∧
        history.filterMap Exchange.served? = exchangesOf 0
          (service.run (.start {} {}) sampleServiceRun).log := by
  have hrun : ServiceRun (.start {} {}) sampleServiceRun := by decide +kernel
  have hsome : ((service.run (.start {} {})
      sampleServiceRun).connections[0]?).isSome = true := by decide +kernel
  obtain ⟨c, hc⟩ := Option.isSome_iff_exists.mp hsome
  obtain ⟨history, hreads, hserved, -⟩ :=
    connections_are_answered_in_order {} {} sampleServiceRun hrun 0 c hc
  exact ⟨c, hc, history, hreads, hserved⟩

/-- The requests of a connection that the engine has served. -/
def servedRequests (s : Service) (id : Nat) : List Frame :=
  (exchangesOf id s.log).map Prod.fst

/-- The frames among the items of a stream. -/
def Received.request? : Received → Option Frame
  | .frame request => some request
  | _ => none

theorem requests_of_history (history : List Exchange) :
    (history.map Exchange.received).filterMap Received.request? =
      (history.filterMap Exchange.served?).map Prod.fst := by
  induction history with
  | nil => rfl
  | cons exchange history ih =>
      cases exchange with
      | oversized operation correlation => exact ih
      | broken status => exact ih
      | served request response => exact congrArg (request :: ·) ih

/--
Which requests of a connection are served depends on the bytes that its peer
sent and on nothing else: of two connections, of one service or of two, where
one peer sent a prefix of what the other sent, one has the requests of the
other served, or the first of them.
-/
theorem requests_follow_bytes (first second : Impl)
    (config config' : ServiceConfig) (events others : List Service.Event)
    (hbound : config'.maxFrameBytes = config.maxFrameBytes)
    (hrun : ServiceRun (.start first config) events)
    (hrun' : ServiceRun (.start second config') others) (id id' : Nat)
    (c d : Connection)
    (hc : (service.run (.start first config) events).connections[id]? =
      some c)
    (hd : (service.run (.start second config') others).connections[id']? =
      some d)
    (hbytes : c.arrived <+: d.arrived) :
    servedRequests (service.run (.start first config) events) id <+:
        servedRequests (service.run (.start second config') others) id' ∨
      servedRequests (service.run (.start second config') others) id' <+:
        servedRequests (service.run (.start first config) events) id := by
  have hconfig := config_run (.start first config) events
  have hconfig' := config_run (.start second config') others
  obtain ⟨history, hanswered, hserved⟩ :=
    (inOrder_run first config hrun).keeps id c hc
  obtain ⟨history', hanswered', hserved'⟩ :=
    (inOrder_run second config' hrun').keeps id' d hd
  rw [hconfig] at hanswered
  rw [hconfig'] at hanswered'
  change c.Answered config.maxFrameBytes history at hanswered
  change d.Answered config'.maxFrameBytes history' at hanswered'
  rw [hbound] at hanswered'
  obtain ⟨middle, hitems, -⟩ := Splitter.splits_append.mp hanswered.reads
  obtain ⟨middle', hothers, -⟩ := Splitter.splits_append.mp hanswered'.reads
  obtain ⟨more, hmore⟩ := hbytes
  unfold servedRequests
  rw [← hserved, ← hserved', ← requests_of_history, ← requests_of_history]
  rcases Nat.le_total (history.map Exchange.received).length
    (history'.map Exchange.received).length with hle | hle
  · rw [← hmore] at hothers
    exact Or.inl ((hitems.initial hothers hle).filterMap _)
  · have harrive := hitems.arrive more
    rw [hmore, ← List.append_nil d.arrived] at harrive
    exact Or.inr ((hothers.initial harrive hle).filterMap _)

theorem sample_requests_follow_bytes :
    let s := service.run (.start {} {}) (sampleServiceRun.take 6)
    let t := service.run (.start {} {}) sampleServiceRun
    servedRequests s 0 <+: servedRequests t 0 ∨
      servedRequests t 0 <+: servedRequests s 0 := by
  have hruns : ServiceRun (.start {} {}) (sampleServiceRun.take 6) ∧
      ServiceRun (.start {} {}) sampleServiceRun := by decide +kernel
  have hbytes : ((service.run (.start {} {})
      (sampleServiceRun.take 6)).connections[0]?.bind fun c =>
        (service.run (.start {} {}) sampleServiceRun).connections[0]?.map
          fun d => decide (c.arrived <+: d.arrived)) = some true := by
    decide +kernel
  obtain ⟨c, hc, hrest⟩ := Option.bind_eq_some_iff.mp hbytes
  obtain ⟨d, hd, hprefix⟩ := Option.map_eq_some_iff.mp hrest
  exact requests_follow_bytes {} {} {} {} _ _ rfl hruns.1 hruns.2 0 0 c d hc hd
    (of_decide_eq_true hprefix)

end FlowOffload

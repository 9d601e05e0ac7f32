import FlowOffload.Engine.Async
import FlowOffload.Service.Dispatch
import FlowOffload.Service.Pool
import FlowOffload.Service.Stream

/-!
# The service

The service between the points at which its threads can be interleaved.  Each
accepted connection has a handler, which is a job of the pool; a handler reads
a frame, hands it to the engine and writes the response in separate steps.  The
peer sends bytes in any pieces, hangs up when it likes and takes as much of a
response as it likes, and the engine is also called from elsewhere.
-/

namespace FlowOffload

open Foundation

def kMaxConnections : Nat := 64

structure ServiceConfig where
  maxConnections : Nat := kMaxConnections
  workers : Nat := 2
  maxQueueDepth : Nat := kMaxQueueDepth
  maxFrameBytes : Nat := kMaxFrameBytes
  deriving DecidableEq, Repr, Inhabited

/-! ## Connections -/

/-- What a handler does when the bytes it writes are through. -/
inductive After where
  /-- The refusal of an oversized frame is the last that is written. -/
  | leave
  /-- The refusal of a frame that cannot be decoded. -/
  | resume
  | respond (operation : Operation)
  deriving DecidableEq, Repr

/-- Where the handler of a connection is in its loop. -/
inductive HandlerStage where
  | idle
  | reading
  | dispatching (request : Frame)
  | writing (bytes : Bytes) (after : After)
  | stopping
  | finished
  deriving DecidableEq, Repr

structure Connection where
  stage : HandlerStage := .idle
  /-- All that the peer has sent. -/
  arrived : Bytes := []
  /-- What of it the handler has not read. -/
  unread : Bytes := []
  /-- All that the peer has been sent. -/
  written : Bytes := []
  /-- The peer sends nothing more. -/
  hungUp : Bool := false
  /-- The socket is closed by the service. -/
  closed : Bool := false
  /-- A write has failed, and so will every later one. -/
  broken : Bool := false
  deriving DecidableEq, Repr

/-- What has happened to the engine, in order. -/
inductive Entry where
  | served (connection : Nat) (request : Frame) (answer : Status)
      (response : Frame)
  | called (op : Op)
  deriving DecidableEq, Repr

structure Service where
  config : ServiceConfig := {}
  engine : Impl := {}
  pool : WorkerPool Nat := {}
  stopRequested : Bool := false
  /-- The connections in the order in which they were accepted; those that are
  not finished are the registry. -/
  connections : List Connection := []
  framesHandled : UInt64 := 0
  framesRejected : UInt64 := 0
  connectionsAccepted : UInt64 := 0
  connectionsRefused : UInt64 := 0
  /-- The history of the engine; the service never reads it. -/
  log : List Entry := []

namespace Service

/-- `start` over an engine, with at least one worker. -/
def start (engine : Impl) (config : ServiceConfig) : Service :=
  { config := config
    engine := engine
    pool := ({} : WorkerPool Nat).start config.workers config.maxQueueDepth }

def registered (s : Service) : Nat :=
  s.connections.countP fun connection => connection.stage ≠ .finished

def setConnection (s : Service) (id : Nat) (connection : Connection) :
    Service :=
  { s with connections := s.connections.set id connection }

/-! ## Accepting and stopping -/

/-- One round of `run` with an accepted socket. -/
def connect (s : Service) : Service :=
  if s.registered ≥ s.config.maxConnections then
    { s with connectionsRefused := s.connectionsRefused + 1 }
  else
    let submitted := s.pool.trySubmit s.connections.length
    let accepted := { s with
      pool := submitted.1
      connectionsAccepted := s.connectionsAccepted + 1 }
    if submitted.2 then
      { accepted with connections := s.connections ++ [({} : Connection)] }
    else
      { accepted with
        connections := s.connections ++ [{ stage := .finished, closed := true }]
        connectionsRefused := s.connectionsRefused + 1 }

/-- The second half of `request_stop`: every registered socket is closed. -/
def closeAll (s : Service) : Service :=
  { s with
    connections := s.connections.map fun connection =>
      if connection.stage = .finished then connection
      else { connection with closed := true } }

/-- The job of a handler that returns. -/
def releaseJob (pool : WorkerPool Nat) (id : Nat) : WorkerPool Nat :=
  if id ∈ pool.active then pool.finish id
  else if pool.draining = some id then pool.drained
  else pool.finishInline id

/-- `drop_connection`, the last that a handler does. -/
def finish (s : Service) (id : Nat) (connection : Connection) : Service :=
  { s.setConnection id
      { connection with stage := .finished, closed := true } with
    pool := releaseJob s.pool id }

/-! ## The handler -/

def oversizedRefusal (operation : Operation) (correlation : UInt64) : Frame :=
  { operation := operation
    correlation := correlation
    status := .protocolOversizedFrame }

def brokenRefusal (status : ReasonCode) : Frame := { status := status }

/-- One read of the handler, when a whole frame or its end is there. -/
def read (s : Service) (id : Nat) (connection : Connection) : Service :=
  if connection.closed then s.finish id connection
  else
    match nextFrame s.config.maxFrameBytes connection.unread with
    | none => if connection.hungUp then s.finish id connection else s
    | some (received, rest) =>
        let taken := { connection with unread := rest }
        let rejected := { s with framesRejected := s.framesRejected + 1 }
        match received with
        | .oversized operation correlation =>
            match encodeFrame (oversizedRefusal operation correlation)
                s.config.maxFrameBytes with
            | none => rejected.finish id taken
            | some bytes => rejected.setConnection id
                { taken with stage := .writing bytes .leave }
        | .broken status =>
            match encodeFrame (brokenRefusal status)
                s.config.maxFrameBytes with
            | none => rejected.setConnection id { taken with stage := .idle }
            | some bytes => rejected.setConnection id
                { taken with stage := .writing bytes .resume }
        | .frame request => s.setConnection id
            { taken with stage := .dispatching request }

/-- The bytes of a response; one that does not fit a frame is not sent. -/
def encodeResponse (maxFrameBytes : Nat) (request response : Frame) :
    Option Bytes :=
  (encodeFrame response maxFrameBytes).orElse fun _ =>
    encodeFrame (request.reply .protocolBackpressure []) maxFrameBytes

/-- The engine serves a request. -/
def serve (s : Service) (id : Nat) (connection : Connection) (request : Frame)
    (answer : Status) : Service :=
  let dispatched := dispatch s.engine request answer
  let served := { s with
    engine := dispatched.1
    framesHandled := s.framesHandled + 1
    log := s.log ++ [Entry.served id request answer dispatched.2] }
  match encodeResponse s.config.maxFrameBytes request dispatched.2 with
  | none => served.finish id connection
  | some bytes => served.setConnection id
      { connection with stage := .writing bytes (.respond request.operation) }

/-- A write of which the peer takes `room` bytes at most. -/
def write (s : Service) (id : Nat) (connection : Connection) (bytes : Bytes)
    (after : After) (room : Nat) : Service :=
  let fails := connection.closed || connection.broken
  let sent := if fails then [] else bytes.take room
  let through := !fails && bytes.length ≤ room
  let written := { connection with
    written := connection.written ++ sent
    broken := connection.broken || !through }
  match after with
  | .leave => s.finish id written
  | .resume => s.setConnection id { written with stage := .idle }
  | .respond operation =>
      if !through then s.finish id written
      else if operation = .shutdown then
        { s.setConnection id { written with stage := .stopping } with
          stopRequested := true }
      else s.setConnection id { written with stage := .idle }

/-- The next step of a handler. -/
def handle (s : Service) (id : Nat) (connection : Connection) (answer : Status)
    (room : Nat) : Service :=
  match connection.stage with
  | .idle =>
      if s.stopRequested then s.finish id connection
      else s.setConnection id { connection with stage := .reading }
  | .reading => s.read id connection
  | .dispatching request => s.serve id connection request answer
  | .writing bytes after => s.write id connection bytes after room
  | .stopping => s.closeAll.finish id { connection with closed := true }
  | .finished => s

def advance (s : Service) (id : Nat) (answer : Status) (room : Nat) :
    Service :=
  (s.connections[id]?).elim s fun connection =>
    s.handle id connection answer room

/-! ## The machine -/

inductive Event where
  | connect
  | arrive (id : Nat) (bytes : Bytes)
  | hangUp (id : Nat)
  | advance (id : Nat) (answer : Status) (room : Nat)
  | call (op : Op)
  /-- The two halves of `request_stop`. -/
  | requestStop
  | closeAll
  /-- A worker takes a connection, or leaves. -/
  | take
  | leave
  /-- The pool is shut down, and its last jobs run in that thread. -/
  | shutdownPool
  | drain
  | reset
  deriving DecidableEq, Repr

def updateConnection (s : Service) (id : Nat)
    (f : Connection → Connection) : Service :=
  { s with connections := s.connections.modify id f }

def step (s : Service) : Event → Service
  | .connect => s.connect
  | .arrive id bytes => s.updateConnection id fun connection =>
      { connection with
        arrived := connection.arrived ++ bytes
        unread := connection.unread ++ bytes }
  | .hangUp id => s.updateConnection id fun connection =>
      { connection with hungUp := true }
  | .advance id answer room => s.advance id answer room
  | .call op =>
      { s with engine := s.engine.step op, log := s.log ++ [Entry.called op] }
  | .requestStop => { s with stopRequested := true }
  | .closeAll => s.closeAll
  | .take => { s with pool := s.pool.take }
  | .leave => { s with pool := s.pool.step .leave }
  | .shutdownPool => { s with pool := s.pool.step .shutdown }
  | .drain => { s with pool := s.pool.drain }
  | .reset => { s with pool := s.pool.reset }

/-- When a step can happen.  A handler only runs while its job does. -/
def allowed (s : Service) : Event → Prop
  | .arrive id _ => ∀ connection ∈ s.connections[id]?,
      connection.hungUp = false
  | .advance id _ _ => id ∈ s.pool.begun
  | .call op => FlowOffload.engine.allowed s.engine op
  | .closeAll => s.stopRequested = true
  | .take => s.pool.allowed .take
  | .leave => s.pool.allowed .leave
  | .drain => s.pool.allowed .drain
  | .reset => s.pool.allowed .reset
  | _ => True

instance (s : Service) (event : Event) : Decidable (s.allowed event) := by
  cases event <;> unfold allowed <;> infer_instance

end Service

/-- The service as a machine whose inputs are the steps of its threads. -/
def service : Machine Service Service.Event where
  step := Service.step
  allowed := Service.allowed

instance (s : Service) (event : Service.Event) :
    Decidable (service.allowed s event) :=
  inferInstanceAs (Decidable (s.allowed event))

end FlowOffload

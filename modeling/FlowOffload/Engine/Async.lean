import FlowOffload.Engine.Run
import FlowOffload.Foundation.OrdMap

/-!
# Asynchronous operations

`submit` hands a placement to the worker pool and returns; `poll` and `cancel`
are about the operation it left in the table.  Every critical section is one
step here, and any step may come next.  What the source shares through a
pointer is one entry of `heap`: the table holds the address, and so does the
job in the queue.  `calls` says how far the submission with this address has
come, first as the call of `submit` and then as its job.
-/

namespace FlowOffload

open Std (ExtTreeMap)
open Foundation (Machine lookup)

def kMaxQueueDepth : Nat := 4096

inductive OperationState where
  | pending | running | completed | cancelled | rejected
  deriving DecidableEq, Repr, Inhabited

def OperationState.isTerminal : OperationState → Bool
  | .completed | .cancelled | .rejected => true
  | .pending | .running => false

structure AsyncOperation where
  id : OperationId := {}
  state : OperationState := .pending
  reason : ReasonCode := .ok
  hasResult : Bool := false
  cancelRequested : Bool := false
  result : PlacementResult := {}
  deriving DecidableEq, Repr, Inhabited

structure OperationStatus where
  id : OperationId := {}
  state : OperationState := .pending
  reason : ReasonCode := .ok
  hasResult : Bool := false
  result : PlacementResult := {}
  deriving DecidableEq, Repr, Inhabited

/-- The part of the engine's configuration that is about the pool. -/
structure PoolConfig where
  workers : Nat := 0
  maxQueueDepth : Nat := kMaxQueueDepth
  deriving DecidableEq, Repr, Inhabited

/-- The worker pool; a job is the address of its operation. -/
structure ThreadPool where
  queue : List Nat := []
  maxQueueDepth : Nat := 0
  stop : Bool := false
  running : Bool := false
  inlineMode : Bool := false
  deriving DecidableEq, Repr, Inhabited

/-- Where the one thread that carries a submission stands. -/
inductive Stage where
  | submitted | refused | queued | picked | placing
  | placed (result : PlacementResult)
  | returned
  deriving DecidableEq, Repr, Inhabited

structure Call where
  request : PlacementRequest := {}
  stage : Stage := .submitted
  deriving DecidableEq, Repr, Inhabited

structure AsyncEngine where
  impl : Impl := {}
  pool : ThreadPool := {}
  operations : ExtTreeMap OperationId Nat := ∅
  heap : ExtTreeMap Nat AsyncOperation := ∅
  calls : ExtTreeMap Nat Call := ∅
  /-- Calls of `submit` that found the engine open. -/
  callers : List PlacementRequest := []
  allocated : Nat := 0
  nextOperation : UInt64 := 1

namespace ThreadPool

/-- The end of `start`, after the pool has shut down. -/
def start (pool : ThreadPool) (config : PoolConfig) : ThreadPool :=
  { pool with
    maxQueueDepth := if config.maxQueueDepth = 0 then 1
      else config.maxQueueDepth
    stop := false
    running := true
    queue := []
    inlineMode := config.workers = 0 }

/-- Where a job goes that is handed to the pool. -/
def trySubmit (pool : ThreadPool) (job : Nat) : ThreadPool × Stage :=
  if pool.inlineMode then (pool, .picked)
  else if !pool.running || pool.stop then (pool, .refused)
  else if pool.maxQueueDepth ≤ pool.queue.length then (pool, .refused)
  else ({ pool with queue := pool.queue ++ [job] }, .queued)

end ThreadPool

namespace AsyncEngine

/-- A constructed engine on which nothing was submitted yet. -/
def init (impl : Impl) (config : PoolConfig) : AsyncEngine :=
  { impl := impl, pool := ThreadPool.start {} config }

def stageAt (s : AsyncEngine) (ref : Nat) : Option Stage :=
  (lookup s.calls ref).map Call.stage

def endedAt (s : AsyncEngine) (ref : Nat) : Bool :=
  (lookup s.heap ref).any fun operation => operation.state.isTerminal

/-- The lowest operation in the table that has ended. -/
def firstEnded (s : AsyncEngine) (operations : ExtTreeMap OperationId Nat) :
    Option OperationId :=
  (operations.toList.find? fun entry => s.endedAt entry.2).map Prod.fst

/-- The eviction loop of `submit`; `terminal` counts the ended operations. -/
def evictEnded (s : AsyncEngine) :
    Nat → ExtTreeMap OperationId Nat → ExtTreeMap OperationId Nat
  | 0, operations => operations
  | terminal + 1, operations =>
      if s.impl.config.maxRequests ≤ operations.size then
        match s.firstEnded operations with
        | some id => s.evictEnded terminal (operations.erase id)
        | none => operations
      else operations

def makeRoom (s : AsyncEngine) : ExtTreeMap OperationId Nat :=
  s.evictEnded (s.operations.toList.countP fun entry => s.endedAt entry.2)
    s.operations

def countSubmitted (s : Impl) : Impl :=
  { s with counters.operationsSubmitted :=
      saturatingIncrement s.counters.operationsSubmitted }

def countBackpressured (s : Impl) : Impl :=
  { s with counters.operationsBackpressured :=
      saturatingIncrement s.counters.operationsBackpressured }

def countCancelled (s : Impl) : Impl :=
  { s with counters.operationsCancelled :=
      saturatingIncrement s.counters.operationsCancelled }

def setStage (s : AsyncEngine) (ref : Nat) (stage : Stage) : AsyncEngine :=
  { s with calls := s.calls.modify ref fun call =>
      { call with stage := stage } }

def update (s : AsyncEngine) (ref : Nat)
    (f : AsyncOperation → AsyncOperation) : AsyncEngine :=
  { s with heap := s.heap.modify ref f }

/-- `submit` begins by asking whether the engine is open. -/
def enter (s : AsyncEngine) (request : PlacementRequest) : AsyncEngine :=
  if s.impl.isOpen then { s with callers := s.callers ++ [request] } else s

/-- The section of `submit` that makes the operation.  `emplace` leaves the
entry that an id has already. -/
def create (s : AsyncEngine) (request : PlacementRequest) : AsyncEngine :=
  let operations := s.makeRoom
  if s.impl.config.maxRequests ≤ operations.size then
    { s with
      impl := countBackpressured s.impl
      operations := operations }
  else
    let id : OperationId := ⟨s.nextOperation⟩
    { s with
      impl := countSubmitted s.impl
      operations := operations.insertIfNew id s.allocated
      heap := s.heap.insert s.allocated { id := id }
      calls := s.calls.insert s.allocated { request := request }
      allocated := s.allocated + 1
      nextOperation := saturatingIncrement s.nextOperation }

/-- One of the calls that found the engine open goes on. -/
def createNext (s : AsyncEngine) (caller : Nat) : AsyncEngine :=
  match s.callers[caller]? with
  | none => s
  | some request =>
      ({ s with callers := s.callers.eraseIdx caller }).create request

def trySubmit (s : AsyncEngine) (ref : Nat) : AsyncEngine :=
  match s.stageAt ref with
  | some .submitted =>
      let submitted := s.pool.trySubmit ref
      ({ s with pool := submitted.1 }).setStage ref submitted.2
  | _ => s

/-- `submit` reports the operation whose job the queue did not take. -/
def reject (s : AsyncEngine) (ref : Nat) : AsyncEngine :=
  match s.stageAt ref, lookup s.heap ref with
  | some .refused, some operation =>
      let counted := { s with impl := countBackpressured s.impl }.setStage ref
        .returned
      match lookup s.operations operation.id with
      | some found => counted.update found fun operation =>
          { operation with state := .rejected, reason := .rejectedQueueFull }
      | none => counted
  | _, _ => s

/-- A worker, or a pool that shuts down, takes the oldest job. -/
def pick (s : AsyncEngine) : AsyncEngine :=
  match s.pool.queue with
  | [] => s
  | ref :: queue =>
      ({ s with pool.queue := queue }).setStage ref .picked

/-- The first section of a job. -/
def start (s : AsyncEngine) (ref : Nat) : AsyncEngine :=
  match s.stageAt ref, lookup s.heap ref with
  | some .picked, some operation =>
      if operation.cancelRequested then
        (s.update ref fun operation =>
          { operation with
            state := .cancelled
            reason := .rejectedCancelled }).setStage ref .returned
      else
        (s.update ref fun operation =>
          { operation with state := .running }).setStage ref .placing
  | _, _ => s

/-- The job places, under the lock of the engine. -/
def placeJob (s : AsyncEngine) (ref : Nat) (answer : Status) : AsyncEngine :=
  match lookup s.calls ref with
  | some { request, stage := .placing } =>
      let placed := s.impl.placeLocked request answer
      ({ s with impl := placed.1 }).setStage ref (.placed placed.2)
  | _ => s

/-- The section of a job that publishes what it placed. -/
def publish (result : PlacementResult) (operation : AsyncOperation) :
    AsyncOperation :=
  { operation with
    result := result
    hasResult := true
    state := if result.status.isAcceptance then .completed else .rejected
    reason := if result.status.isAcceptance then operation.reason
      else result.status }

def finish (s : AsyncEngine) (ref : Nat) : AsyncEngine :=
  match s.stageAt ref with
  | some (.placed result) =>
      (s.update ref (publish result)).setStage ref .returned
  | _ => s

def cancel (s : AsyncEngine) (id : OperationId) : AsyncEngine × Status :=
  match lookup s.operations id with
  | none => (s, .refused .rejectedResourceExhausted)
  | some ref =>
      match (lookup s.heap ref).map AsyncOperation.state with
      | some .pending =>
          ({ s with impl := countCancelled s.impl }.update ref
            fun operation => { operation with cancelRequested := true },
          .accepted .acceptedCancelled)
      | some .running => (s, .refused .rejectedCancelled)
      | _ => (s, .accepted .acceptedNoChangeRequired)

def poll (s : AsyncEngine) (id : OperationId) : OperationStatus :=
  match lookup s.operations id with
  | none =>
      { state := .rejected, reason := .rejectedResourceExhausted }
  | some ref =>
      match lookup s.heap ref with
      | none => {}
      | some operation =>
          { id := operation.id
            state := operation.state
            reason := operation.reason
            hasResult := operation.hasResult
            result := operation.result }

end AsyncEngine

/-- A process starts with an engine of its own. -/
def Op.constructs : Op → Bool
  | .restart _ => true
  | _ => false

/-- One critical section, or one operation of the engine itself. -/
inductive AsyncStep where
  | enter (request : PlacementRequest)
  | create (caller : Nat)
  | trySubmit (ref : Nat)
  | reject (ref : Nat)
  | pick
  | start (ref : Nat)
  | place (ref : Nat) (answer : Status)
  | finish (ref : Nat)
  | cancel (id : OperationId)
  | poll (id : OperationId)
  | stopPool
  | closePool
  | startPool (config : PoolConfig)
  | engine (op : Op)
  deriving DecidableEq, Repr

namespace AsyncEngine

def step (s : AsyncEngine) : AsyncStep → AsyncEngine
  | .enter request => s.enter request
  | .create caller => s.createNext caller
  | .trySubmit ref => s.trySubmit ref
  | .reject ref => s.reject ref
  | .pick => s.pick
  | .start ref => s.start ref
  | .place ref answer => s.placeJob ref answer
  | .finish ref => s.finish ref
  | .cancel id => (s.cancel id).1
  | .poll _ => s
  | .stopPool => { s with pool.stop := true }
  | .closePool =>
      { s with
        pool.running := false
        pool.stop := false
        pool.inlineMode := false }
  | .startPool config => { s with pool := s.pool.start config }
  | .engine op => { s with impl := s.impl.step op }

/-- A pool is closed and started again only when its queue was drained, and
while the process lives the engine is not constructed anew. -/
def allowed (s : AsyncEngine) : AsyncStep → Prop
  | .closePool => s.pool.queue = []
  | .startPool _ => s.pool.queue = []
  | .engine op => op.constructs = false ∧ s.impl.allowed op
  | _ => True

instance (s : AsyncEngine) : ∀ step, Decidable (s.allowed step)
  | .closePool => inferInstanceAs (Decidable (_ = _))
  | .startPool _ => inferInstanceAs (Decidable (_ = _))
  | .engine _ => inferInstanceAs (Decidable (_ ∧ _))
  | .enter _ | .create _ | .trySubmit _ | .reject _ | .pick | .start _
  | .place _ _ | .finish _ | .cancel _ | .poll _ | .stopPool =>
      inferInstanceAs (Decidable True)

end AsyncEngine

/-- The engine with its operations as a machine whose inputs are the critical
sections, in any order. -/
def asyncEngine : Machine AsyncEngine AsyncStep where
  step := AsyncEngine.step
  allowed := AsyncEngine.allowed

instance (s : AsyncEngine) (step : AsyncStep) :
    Decidable (asyncEngine.allowed s step) :=
  inferInstanceAs (Decidable (s.allowed step))

end FlowOffload

import FlowOffload.Foundation.Machine
import Mathlib.Data.List.Perm.Basic

/-!
# The worker pool

The pool between the critical sections of its mutex.  Workers are
interchangeable, so only the number of those that wait for a job is kept.  A
job runs outside of the mutex: it begins in one step and returns in another.
-/

namespace FlowOffload

structure WorkerPool (α : Type) where
  queue : List α := []
  /-- The jobs that workers run; `active_` counts them. -/
  active : List α := []
  /-- The workers that wait for a job. -/
  idle : Nat := 0
  /-- `worker_count`. -/
  workers : Nat := 0
  /-- The jobs that run on the thread that submitted them. -/
  inlined : List α := []
  /-- The job that the thread in `shutdown` runs. -/
  draining : Option α := none
  maxQueueDepth : Nat := 0
  stop : Bool := false
  running : Bool := false
  inlineMode : Bool := false
  /-- The jobs of the submissions that were accepted, oldest first. -/
  accepted : List α := []
  /-- The jobs that have returned. -/
  finished : List α := []
  deriving DecidableEq, Repr

namespace WorkerPool

variable {α : Type}

/-- The jobs that run. -/
def begun (p : WorkerPool α) : List α :=
  p.active ++ (p.inlined ++ p.draining.toList)

/-- What `start` does once its own `shutdown` has returned. -/
def start (p : WorkerPool α) (workers maxQueueDepth : Nat) : WorkerPool α :=
  { p with
    maxQueueDepth := if maxQueueDepth = 0 then 1 else maxQueueDepth
    stop := false
    running := true
    queue := []
    inlineMode := workers = 0
    workers := workers
    idle := workers }

def trySubmit (p : WorkerPool α) (job : α) : WorkerPool α × Bool :=
  if p.inlineMode then
    ({ p with
        inlined := p.inlined ++ [job], accepted := p.accepted ++ [job] }, true)
  else if !p.running || p.stop then (p, false)
  else if p.queue.length ≥ p.maxQueueDepth then (p, false)
  else
    ({ p with
        queue := p.queue ++ [job], accepted := p.accepted ++ [job] }, true)

/-- A waiting worker takes the job at the front. -/
def take (p : WorkerPool α) : WorkerPool α :=
  match p.queue with
  | [] => p
  | job :: queue =>
      { p with
        queue := queue
        active := p.active ++ [job]
        idle := p.idle - 1 }

/-- The thread in `shutdown` takes a job that no worker is left for. -/
def drain (p : WorkerPool α) : WorkerPool α :=
  match p.queue with
  | [] => p
  | job :: queue => { p with queue := queue, draining := some job }

def drained (p : WorkerPool α) : WorkerPool α :=
  match p.draining with
  | none => p
  | some job =>
      { p with draining := none, finished := p.finished ++ [job] }

/-- The end of `shutdown`. -/
def reset (p : WorkerPool α) : WorkerPool α :=
  { p with
    queue := []
    workers := 0
    running := false
    stop := false
    inlineMode := false }

variable [DecidableEq α]

/-- A job returns to the worker that ran it. -/
def finish (p : WorkerPool α) (job : α) : WorkerPool α :=
  { p with
    active := p.active.erase job
    idle := p.idle + 1
    finished := p.finished ++ [job] }

def finishInline (p : WorkerPool α) (job : α) : WorkerPool α :=
  { p with
    inlined := p.inlined.erase job
    finished := p.finished ++ [job] }

inductive Event (α : Type) where
  | start (workers maxQueueDepth : Nat)
  | trySubmit (job : α)
  | take
  | finish (job : α)
  | finishInline (job : α)
  /-- A worker leaves its loop. -/
  | leave
  /-- `shutdown` sets the stop flag. -/
  | shutdown
  | drain
  | drained
  | reset
  deriving DecidableEq, Repr

def step (p : WorkerPool α) : Event α → WorkerPool α
  | .start workers maxQueueDepth => p.start workers maxQueueDepth
  | .trySubmit job => (p.trySubmit job).1
  | .take => p.take
  | .finish job => p.finish job
  | .finishInline job => p.finishInline job
  | .leave => { p with idle := p.idle - 1 }
  | .shutdown => { p with stop := true }
  | .drain => p.drain
  | .drained => p.drained
  | .reset => p.reset

/-- The workers have been joined. -/
def Joined (p : WorkerPool α) : Prop :=
  p.stop = true ∧ p.idle = 0 ∧ p.active = []

/-- When a step can happen. -/
def allowed (p : WorkerPool α) : Event α → Prop
  | .start _ _ => p.running = false ∧ p.stop = false
  | .trySubmit _ => True
  | .take => 0 < p.idle ∧ p.queue ≠ []
  | .finish job => job ∈ p.active
  | .finishInline job => job ∈ p.inlined
  | .leave => 0 < p.idle ∧ p.stop = true ∧ p.queue = []
  | .shutdown => True
  | .drain => p.Joined ∧ p.queue ≠ [] ∧ p.draining = none
  | .drained => p.draining ≠ none
  | .reset => p.Joined ∧ p.queue = [] ∧ p.draining = none

instance (p : WorkerPool α) : Decidable p.Joined :=
  inferInstanceAs (Decidable (_ ∧ _))

instance (p : WorkerPool α) (event : Event α) :
    Decidable (p.allowed event) := by
  cases event <;> unfold allowed <;> infer_instance

end WorkerPool

/-- The pool as a machine whose inputs are its critical sections. -/
def workerPool (α : Type) [DecidableEq α] :
    Foundation.Machine (WorkerPool α) (WorkerPool.Event α) where
  step := WorkerPool.step
  allowed := WorkerPool.allowed

instance {α : Type} [DecidableEq α] (p : WorkerPool α)
    (event : WorkerPool.Event α) :
    Decidable ((workerPool α).allowed p event) :=
  inferInstanceAs (Decidable (p.allowed event))

end FlowOffload

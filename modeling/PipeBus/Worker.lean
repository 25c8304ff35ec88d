/-!
A bounded queue of jobs that one worker runs in order.

Jobs are accepted while fewer than the depth are waiting; the job being run no
longer waits.
-/
namespace PipeBus

/-- How a worker is set up. -/
structure WorkerConfig where
  name : String := "jdpipe-worker"
  depth : Nat := 20
  /-- Milliseconds between two runs of the idle callback, when there is nothing else to do. -/
  idleMillis : Nat := 20

/-- A worker's queue. -/
structure Worker (α : Type) where
  name : String
  depth : Nat
  waiting : List α := []

namespace Worker

variable {α : Type}

/-- A worker without jobs; its queue holds at least one. -/
def start (config : WorkerConfig) : Worker α where
  name := config.name
  depth := max config.depth 1

def pending (worker : Worker α) : Nat := worker.waiting.length

/-- Queue a job; nothing when the queue is full. -/
def run? (worker : Worker α) (job : α) : Option (Worker α) :=
  if worker.waiting.length < worker.depth then
    some { worker with waiting := worker.waiting ++ [job] }
  else none

def take? (worker : Worker α) : Option (α × Worker α) :=
  match worker.waiting with
  | [] => none
  | job :: rest => some (job, { worker with waiting := rest })

end Worker

end PipeBus

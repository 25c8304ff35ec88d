import PipeBus.Node.Error
import PipeBus.Worker

/-!
The thread that runs the jobs of a worker.

In every round the thread looks at the stop flag, takes along the idle callback
that is installed then, waits for a job, runs the job if one came in time, and
runs the callback. Once it is told to stop it runs the jobs that are left in the
queue, and ends. Whoever lets go of a worker last tells it to stop and waits for
the thread to end, unless it is the thread itself that lets go, in the middle of
a job.
-/
namespace PipeBus

/-- Where the thread of a worker stands. -/
inductive WorkerStage (α ι : Type) where
  /-- About to look at the stop flag. -/
  | looking
  /-- About to take the idle callback along. -/
  | fetching
  /-- Waiting for a job, with the callback to run after the wait. -/
  | waiting (idle : Option ι)
  | running (job : α) (idle : Option ι)
  | idling (idle : ι)
  /-- Told to stop, and about to take a job that is left. -/
  | emptying
  /-- Running a job that was left. -/
  | finishing (job : α)
  | ended
  deriving DecidableEq

/-- Whether somebody holds a worker. -/
inductive Tenure where
  | held
  /-- Let go of by somebody who waits for the thread to end. -/
  | awaited
  | released
  deriving DecidableEq

/-- A worker's queue with the thread that empties it. -/
structure WorkerThread (α ι : Type) where
  worker : Worker α
  /-- The idle callback that is installed. -/
  idle : Option ι := none
  tenure : Tenure := .held
  stage : WorkerStage α ι := .looking
  /-- Jobs that the thread has begun, the oldest first. -/
  ran : List α := []

namespace WorkerStage

variable {α ι : Type}

/-- The thread is in the hands of its user: it runs a job or a callback. -/
def isInside : WorkerStage α ι → Bool
  | running .. | idling _ | finishing _ => true
  | _ => false

/-- After a wait, with a job or without: the callback runs if there is one. -/
def afterWait : Option ι → WorkerStage α ι
  | some idle => idling idle
  | none => looking

end WorkerStage

namespace WorkerThread

variable {α ι : Type}

def start (config : WorkerConfig) : WorkerThread α ι where
  worker := Worker.start config

def isStopped (thread : WorkerThread α ι) : Bool := thread.tenure != .held

def run (thread : WorkerThread α ι) (job : α) : Except NodeError Unit × WorkerThread α ι :=
  match thread.worker.run? job with
  | some worker => (.ok (), { thread with worker })
  | none => (.error .workerQueueFull, thread)

/-- Install an idle callback, or clear it. -/
def setIdle (thread : WorkerThread α ι) (idle : Option ι) : WorkerThread α ι :=
  { thread with idle }

/-- Let go of the worker, from inside of the thread or from elsewhere. A thread does not wait for its
own end. -/
def drop (thread : WorkerThread α ι) (inside : Bool) : WorkerThread α ι :=
  { thread with tenure := if inside then .released else .awaited }

/-- Take the next job and begin it; nothing when none waits. -/
def begin? (thread : WorkerThread α ι) (stage : α → WorkerStage α ι) :
    Option (WorkerThread α ι) :=
  thread.worker.take?.map fun (job, worker) =>
    { thread with worker, stage := stage job, ran := thread.ran ++ [job] }

/-- The next step of the thread; nothing when it has ended. A wait without a job runs out. -/
def turn? (thread : WorkerThread α ι) : Option (WorkerThread α ι) :=
  match thread.stage with
  | .looking =>
    some { thread with stage := if thread.isStopped then .emptying else .fetching }
  | .fetching => some { thread with stage := .waiting thread.idle }
  | .waiting idle =>
    some ((thread.begin? (.running · idle)).getD { thread with stage := .afterWait idle })
  | .running _ idle => some { thread with stage := .afterWait idle }
  | .idling _ => some { thread with stage := .looking }
  | .emptying => some ((thread.begin? .finishing).getD { thread with stage := .ended })
  | .finishing _ => some { thread with stage := .emptying }
  | .ended => none

/-- Let the thread go on until it comes to a pause or ends, for at most so many steps. -/
def turnWithin (pauses : WorkerThread α ι → Bool) :
    Nat → WorkerThread α ι → WorkerThread α ι
  | 0, thread => thread
  | steps + 1, thread =>
    if pauses thread then thread
    else
      match thread.turn? with
      | none => thread
      | some later => later.turnWithin pauses steps

/-- Steps in which a thread has run all jobs that wait and waits for another one, or has ended. -/
def roundSteps (thread : WorkerThread α ι) : Nat := 5 * (thread.worker.pending + 2)

/-- Let the thread go on until it waits without a job to take or a callback to run, or until it
runs a job that takes its time. -/
def settle (holdsUp : α → Bool) (thread : WorkerThread α ι) : WorkerThread α ι :=
  thread.turnWithin (fun reached => match reached.stage with
    | .waiting _ => reached.worker.waiting.isEmpty
    | .running job _ | .finishing job => holdsUp job
    | _ => false) thread.roundSteps

/-- The end of the wait for the thread; nothing as long as it goes on, or when nobody waits. -/
def join? (thread : WorkerThread α ι) : Option (WorkerThread α ι) :=
  match thread.tenure, thread.stage with
  | .awaited, .ended => some { thread with tenure := .released }
  | _, _ => none

end WorkerThread

end PipeBus

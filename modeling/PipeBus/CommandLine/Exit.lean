import PipeBus.Simulation.Basic

/-!
How a run of the command line ends: its exit code, what it has printed, and the
message of a failure. Every cause of failure has one code.
-/
namespace PipeBus.CommandLine

/-- Meaning of an exit code. -/
inductive Exit where
  | success
  /-- The run was completed, with a bad result. -/
  | failure
  /-- The arguments do not make up a command. -/
  | badArguments
  | permissionDenied
  | dataInvalid
  /-- An argument is of the wrong form, or names a file that is not there. -/
  | usage
  | timeout
  | internal
  deriving DecidableEq

def Exit.code : Exit → Nat
  | .success => 0
  | .failure => 1
  | .badArguments => 2
  | .permissionDenied => 50
  | .dataInvalid => 60
  | .usage => 64
  | .timeout => 124
  | .internal => 125

/-- Why a run failed. -/
structure Failure where
  exit : Exit
  message : String
  deriving DecidableEq

/-- Name what was being done when something failed. -/
def Failure.within (context : String) (exit : Exit) (message : String) : Failure :=
  ⟨exit, s!"{context}: {message}"⟩

def Exit.ofFault : Fault → Exit
  | .permissionDenied => .permissionDenied
  | .timedOut | .wouldBlock => .timeout
  | _ => .internal

def Failure.ofFrameError (context : String) : FrameError → Failure
  | .stream fault => within context (Exit.ofFault fault) fault.message
  | error => within context .dataInvalid error.message

def Failure.ofNodeError (context : String) (error : NodeError) : Failure :=
  match error with
  | .reset _ => within context .timeout error.message
  | .closed => within context .failure error.message
  | _ => within context .internal error.message

def Failure.ofSimulation : Simulation.Failure → Failure
  | .node stage error => ofNodeError stage.name error
  | .noReply => ⟨.timeout, "echo service did not answer the open command"⟩

/-- Why a file cannot be opened. -/
inductive OpenFault where
  | notFound
  | notDirectory
  | permissionDenied
  | other (message : String)
  deriving DecidableEq

def OpenFault.message : OpenFault → String
  | .notFound => "No such file or directory (os error 2)"
  | .notDirectory => "Not a directory (os error 20)"
  | .permissionDenied => "Permission denied (os error 13)"
  | .other message => message

def Exit.ofOpenFault : OpenFault → Exit
  | .notFound => .usage
  | .permissionDenied => .permissionDenied
  | .notDirectory | .other _ => .internal

/-- What stands at a path. -/
inductive FileState where
  | refused (fault : OpenFault)
  /-- It can be opened but not read. -/
  | directory
  | content (bytes : Bytes)
  deriving DecidableEq

/-- What stands where. -/
abbrev Files := String → FileState

/-- End of a run. -/
structure Outcome where
  exit : Exit
  lines : List String := []
  message : Option String := none

/-- The end of a run that may have failed. -/
def Outcome.ofExcept : Except Failure (Exit × List String) → Outcome
  | .ok (exit, lines) => { exit, lines }
  | .error failure => { exit := failure.exit, message := some failure.message }

end PipeBus.CommandLine

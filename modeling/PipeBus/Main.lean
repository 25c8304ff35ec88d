import PipeBus.CommandLine.Run

/-!
The program: it reads the file that its arguments name, runs the command line and
prints the outcome.
-/
namespace PipeBus.CommandLine

def OpenFault.ofError : IO.Error → OpenFault
  | .noFileOrDirectory .. => .notFound
  | .permissionDenied .. => .permissionDenied
  | .inappropriateType .. => .notDirectory
  | error => .other (toString error)

def FileState.load (path : String) : IO FileState := do
  match ← (IO.FS.readBinFile path).toBaseIO with
  | .ok bytes => return .content bytes.toList
  | .error error =>
    match ← (IO.FS.Handle.mk path .read).toBaseIO with
    | .ok _ => return .directory
    | .error _ => return .refused (OpenFault.ofError error)

def Arguments.load : Arguments → IO Files
  | .run invocation =>
    match invocation.path? with
    | none => return fun _ => .refused .notFound
    | some path => do
      let state ← FileState.load path
      return fun _ => state
  | _ => return fun _ => .refused .notFound

end PipeBus.CommandLine

def main (arguments : List String) : IO UInt32 := do
  let parsed := PipeBus.CommandLine.Arguments.parse arguments
  let outcome := parsed.outcome (← parsed.load)
  for line in outcome.lines do
    IO.println line
  if let some message := outcome.message then
    IO.eprintln s!"error: {message}"
  if outcome.exit = .badArguments then
    for line in PipeBus.CommandLine.helpLines do
      IO.eprintln line
  return UInt32.ofNat outcome.exit.code

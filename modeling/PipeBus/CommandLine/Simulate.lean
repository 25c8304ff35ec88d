import PipeBus.CommandLine.Arguments
import PipeBus.CommandLine.Exit
import PipeBus.Simulation.Config
import PipeBus.Text.Json
import PipeBus.Text.Table

/-!
The simulate command: a trial of the echo service, with the report of it in one
of three forms.
-/
namespace PipeBus.CommandLine

/-- The lines of a report, by name. The time taken stands last. -/
def reportFields (report : Simulation.Report) : List (String × String) :=
  [("bytes_sent", toString report.bytesSent),
    ("bytes_received", toString report.bytesReceived),
    ("bytes_echoed", toString report.bytesEchoed),
    ("matched", toString report.isMatch)]
  ++ (report.statusError.map fun error => ("status_error", toString error.toInt)).toList ++
  [("frames_sent", toString report.stats.sent),
    ("frames_dropped", toString report.stats.dropped),
    ("inbox_overflows", toString report.stats.overflows),
    ("elapsed_ms", toString (report.elapsed / Duration.ofMillis 1))]

/-- A report as lines of text. Every value is a number or a truth value, so that its text is also
its JSON. -/
def reportLines (format : Format) (report : Simulation.Report) : List String :=
  let fields := reportFields report
  match format with
  | .json => [Text.Json.object fields]
  | .pretty => [String.intercalate " " (fields.map fun (key, value) => s!"{key}={value}")]
  | .table =>
    Text.Table.lines ⟨["FIELD", "VALUE"], fields.map fun (key, value) => [key, value]⟩

def loadSettings (files : Files) (path : String) : Except Failure Simulation.Settings :=
  let context := s!"failed reading {path}"
  match files path with
  | .refused fault => .error (Failure.within context (Exit.ofOpenFault fault) fault.message)
  | .directory => .error (Failure.within context .internal Fault.isDirectory.message)
  | .content bytes =>
    match String.fromUTF8? ⟨bytes.toArray⟩ with
    | none => .error (Failure.within context .internal "stream did not contain valid UTF-8")
    | some text =>
      match Simulation.Settings.parse? text with
      | none => .error ⟨.usage, s!"invalid config {path}"⟩
      | some settings => .ok settings

def runSimulate (files : Files) (bytes : Nat) (dropEvery : Option Nat) (config : Option String)
    (format : Format) : Except Failure (Exit × List String) := do
  let settings ← match config with
    | none => .ok {}
    | some path => loadSettings files path
  match Simulation.run (Simulation.pattern bytes) dropEvery settings with
  | .error failure => .error (Failure.ofSimulation failure)
  | .ok report =>
    return (if report.isMatch then .success else .failure, reportLines format report)

end PipeBus.CommandLine

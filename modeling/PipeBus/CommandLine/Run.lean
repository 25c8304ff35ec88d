import PipeBus.CommandLine.Decode
import PipeBus.CommandLine.Simulate

/-!
Running a command line: arguments and files in, an `Outcome` out.
-/
namespace PipeBus.CommandLine

def programVersion : String := "0.1.0"

def versionLine : String := s!"jdpipe {programVersion}"

def versionLines (extended : Bool) : List String :=
  if extended then [
    "name: jdpipe",
    s!"version: {programVersion}",
    "target_os: linux",
    "target_arch: x86_64",
    "build_target: x86_64-unknown-linux-gnu",
    s!"max_frame_payload: {maxPayload}",
    s!"max_packet_data: {maxPacketData}",
    s!"max_pipe_port: {maxPort}"]
  else [versionLine]

def Invocation.run (files : Files) (invocation : Invocation) : Outcome :=
  match invocation.request with
  | .decode input => .ofExcept (runDecode files input invocation.format)
  | .simulate bytes dropEvery config =>
    .ofExcept (runSimulate files bytes dropEvery config invocation.format)
  | .version extended => { exit := .success, lines := versionLines extended }

def Invocation.path? (invocation : Invocation) : Option String :=
  match invocation.request with
  | .decode (.file path) => some path
  | .simulate _ _ config => config
  | _ => none

def helpLines : List String := [
  "Usage: jdpipe [OPTIONS] <COMMAND>",
  "",
  "Commands:",
  "  decode    Decode raw frames and print their packets",
  "  simulate  Stream data through an echo pipe between two simulated nodes",
  "  version   Show version information",
  "",
  "Options:",
  "      --format <FORMAT>      Output format: json, table or pretty",
  "      --log-format <FORMAT>  Log output format: text or json",
  "      --log-level <LEVEL>    Minimum log level: error, warn, info, debug or trace",
  "  -h, --help                 Print help",
  "  -V, --version              Print version"]

def Arguments.outcome (files : Files) : Arguments → Outcome
  | .run invocation => invocation.run files
  | .showVersion => { exit := .success, lines := [versionLine] }
  | .showHelp => { exit := .success, lines := helpLines }
  | .refused => { exit := .badArguments }

def run (files : Files) (arguments : List String) : Outcome :=
  (Arguments.parse arguments).outcome files

end PipeBus.CommandLine

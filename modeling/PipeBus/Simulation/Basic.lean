import PipeBus.Network.Schedule

/-!
A trial of the echo service: a client and a server on a bus that may lose
frames. The client asks for a connection, streams a payload through it chunk by
chunk, closes it, and compares what has come back.

The trial is a script over a `Network` whose two members run in the background.
-/
namespace PipeBus.Simulation

def serverDevice : UInt64 := 0x5345525600000001

def clientDevice : UInt64 := 0x434c4e5400000002

/-- Class of the client's service that watches for the reply to its open command. -/
def watcherClass : UInt32 := 0x1f0ca11e

def server : Nat := 0

def client : Nat := 1

/-- How a trial is set up. -/
structure Settings where
  /-- Setup of both nodes; each gets a device of its own. -/
  node : NodeConfig := { pollInterval := Duration.ofMillis 1 }
  inboxDepth : Nat := Bus.defaultDepth
  /-- Bytes written at once. -/
  chunkSize : Nat := 256
  /-- How long the client waits for the reply, and for the end of the echo. -/
  timeout : Duration := Duration.ofMillis 10000

/-- What a trial was doing when a node refused. -/
inductive Stage where
  | server
  | client
  | input
  | openCommand
  | output
  | write
  | close
  deriving DecidableEq

def Stage.name : Stage → String
  | .server => "server node"
  | .client => "client node"
  | .input => "client input pipe"
  | .openCommand => "open command"
  | .output => "client output pipe"
  | .write => "pipe write"
  | .close => "pipe close"

/-- Why a trial came to no result. -/
inductive Failure where
  | node (stage : Stage) (error : NodeError)
  /-- The server never answered the open command. -/
  | noReply
  deriving DecidableEq

/-- Result of a trial. -/
structure Report where
  bytesSent : Nat
  bytesReceived : Nat
  bytesEchoed : Nat
  /-- Everything came back, and the echo was closed without an error report. -/
  isMatch : Bool
  /-- The error that the server reported. -/
  statusError : Option Int32
  stats : BusStats
  elapsed : Duration

def pattern (length : Nat) : Bytes := (List.range length).map fun i => UInt8.ofNat (i * 31 + 7)

/-- Name the stage of a refusal. -/
def during {α : Type} (stage : Stage) (step : Except NodeError α × Network) :
    Except Failure (α × Network) :=
  match step with
  | (.ok value, network) => .ok (value, network)
  | (.error error, _) => .error (.node stage error)

def joinRunning (stage : Stage) (config : NodeConfig) (roles : List Role) (network : Network) :
    Except Failure Network :=
  match network.join config roles {} scatteredPorts with
  | .error error => .error (.node stage error)
  | .ok joined =>
    let index := network.members.length
    .ok (joined.setMember index { joined.member index with running := true })

/-- Server and client on a bus. -/
def setUp (settings : Settings) : Except Failure Network := do
  let workerDefaults : WorkerConfig := {}
  let start : Network := { bus := some { depth := settings.inboxDepth } }
  let (echo, seated) := start.addEcho server workerDefaults.depth
  let hosted ← joinRunning .server { settings.node with device := serverDevice } [.echo echo]
    seated
  joinRunning .client { settings.node with device := clientDevice }
    [.probe watcherClass { observe := true }] hosted

/-- The port in a reply to the open command. -/
def replyPort? : Occurrence → Option UInt16
  | .observed _ _ packet =>
    if packet.device = serverDevice ∧ packet.command = Echo.openCommand ∧ 2 ≤ packet.data.length
    then some (Wire.toWord16 packet.data)
    else none
  | _ => none

/-- The port in the first reply that the client has seen. -/
def repliedPort? (network : Network) : Option UInt16 :=
  network.background.events.findSome? replyPort?

/-- Lose every so many-th frame from now on. -/
def lose (every : Option Nat) (network : Network) : Network :=
  match every with
  | none => network
  | some number =>
    { network with bus := network.bus.map fun bus => { bus with dropEvery := number } }

/-- Write chunks and send each of them at once, up to the first that fails. -/
def stream (number : Nat) : List Bytes → Network → Except NodeError Unit × Network
  | [], network => (.ok (), network)
  | chunk :: rest, network =>
    match network.callOutput number fun pipe => pipe.writeThrough chunk with
    | (.ok (), later) => stream number rest later
    | (.error error, later) => (.error error, later)

/-- What came of streaming a payload, as far as it shows at one moment. -/
def report (payload : Bytes) (pipe : Nat) (network : Network) : Report :=
  let received := network.background.received pipe
  let status := (network.background.metadata? pipe).bind EchoStatus.parse?
  { bytesSent := payload.length
    bytesReceived := received.length
    bytesEchoed := (network.echoSeat 0).echo.echoed
    isMatch := network.background.ended pipe && status.isNone && received == payload
    statusError := status.map EchoStatus.error
    stats := (network.bus.map Bus.stats).getD {}
    elapsed := network.clock }

/-- Stream a payload through the echo service, losing every so many-th frame once the connection is
open. -/
def run (payload : Bytes) (dropEvery : Option Nat) (settings : Settings) :
    Except Failure Report := do
  let started ← setUp settings
  let ((pipe, port), listening) ← during .input (started.openInput client Receiver.recorder)
  let ((), asked) ← during .openCommand
    ((Network.link client).sendClassCommand Echo.serviceClass Echo.openCommand
      (PipeOpen.encode ⟨clientDevice, port⟩) listening)
  let answered := asked.awaitFor (fun network => (repliedPort? network).isSome) settings.timeout
  match repliedPort? answered with
  | none => .error .noReply
  | some echoPort =>
    let (number, connected) ← during .output
      ((lose dropEvery answered).openOutput client serverDevice echoPort)
    let ((), written) ← during .write
      (stream number (payload.chunks settings.chunkSize) connected)
    let ((), closed) ← during .close (written.callOutput number OutputPipe.close)
    return report payload pipe
      (closed.awaitFor (fun network => network.background.ended pipe) settings.timeout)

end PipeBus.Simulation

import PipeBus.Echo.Service
import PipeBus.Proofs.Peer
import PipeBus.Proofs.Usage
import PipeBus.Simulation.Basic

/-! A trial of the echo service, one move at a time. A client and a server are joined by a lane in
each direction; which of them goes on, which frame arrives or is lost and when a wait runs out is
decided move by move. -/

namespace PipeBus

structure EchoClient where
  /-- The port in the first reply to its open command. -/
  port? : Option UInt16 := none
  log : List Delivery := []

namespace EchoClient

def hear (_ : Unit) (delivery : Delivery) (client : EchoClient) : EchoClient :=
  { client with log := client.log ++ [delivery] }

def observe (packet : Packet) (client : EchoClient) : EchoClient :=
  let seen := Simulation.replyPort? (.observed Simulation.client Simulation.watcherClass packet)
  { client with port? := client.port?.or seen }

/-- The service that watches for the reply to the open command. -/
def watcher : Service (Peer EchoClient Unit) where
  serviceClass := Simulation.watcherClass
  observe packet peer := { peer with rest := peer.rest.observe packet }

def station : Station (Peer EchoClient Unit) Unit := Peer.station [watcher] (Peer.hearing hear)

end EchoClient

namespace Echo

/-- An echo service that is all its node hosts. -/
def host : EchoHost (Peer Echo Nat) Nat where
  link := Peer.link
  echo := Peer.restPlace
  sink := id

def station : Station (Peer Echo Nat) Nat := Peer.station [host.service] (Peer.hearing tell)

end Echo

def Call.failed : Call (Except NodeError Unit × OutputPipe) → Bool
  | .done (.error _, _) => true
  | _ => false

/-- A client that streams chunks through an echo service, and all that is on its way. -/
structure EchoTrial where
  client : Peer EchoClient Unit
  server : Peer Echo Nat
  /-- The client's pipe. -/
  ack : AckHandle
  writer : Usage
  /-- Chunks that have not been written. -/
  chunks : List Bytes
  forth : Lane := {}
  back : Lane := {}

namespace EchoTrial

/-- The settings of a trial: either node gets a device of its own. -/
structure Settings where
  client : NodeConfig := {}
  server : NodeConfig := {}
  clientPorts : Nat → UInt16 := scatteredPorts
  serverPorts : Nat → UInt16 := scatteredPorts
  /-- Jobs that may wait for the echo worker. -/
  depth : Nat := 20

def Settings.freshClient (settings : Settings) : Peer EchoClient Unit where
  node := Node.create { settings.client with device := Simulation.clientDevice }
    settings.clientPorts
  rest := {}

def Settings.freshServer (settings : Settings) : Peer Echo Nat where
  node := Node.create { settings.server with device := Simulation.serverDevice }
    settings.serverPorts
  rest := Echo.start settings.depth

/-- The client opens an input pipe and asks for a connection by class. -/
def ask? (client : Peer EchoClient Unit) : Option (Peer EchoClient Unit) :=
  match Peer.link.openInput () client with
  | (.error _, _) => none
  | (.ok input, listening) =>
    match Peer.link.sendClassCommand Echo.serviceClass Echo.openCommand
        (PipeOpen.encode ⟨Simulation.clientDevice, input.port⟩) listening with
    | (.error _, _) => none
    | (.ok (), asked) => some asked

/-- A node takes the frames that another one has handed over. -/
def takeAll {ε κ : Type} (station : Station (Peer ε κ) κ) (frames : List Frame)
    (peer : Peer ε κ) : Peer ε κ :=
  frames.foldl (fun peer frame => station.processFrame frame peer) peer

/-- Client and server are connected: the open command is answered, and the client opens an output
pipe to the port in the reply. -/
def connect? (settings : Settings) (payload : Bytes) (size : Nat) : Option EchoTrial :=
  match ask? settings.freshClient with
  | none => none
  | some asked =>
    let answered := Peer.link.flush (takeAll Echo.station asked.outbox settings.freshServer)
    let informed := takeAll EchoClient.station answered.outbox { asked with outbox := [] }
    match informed.rest.port? with
    | none => none
    | some port =>
      match Peer.link.openOutput Simulation.serverDevice port informed with
      | (.error _, _) => none
      | (.ok pipe, connected) =>
        some {
          client := connected
          server := { answered with outbox := [] }
          ack := pipe.ack
          writer := .idle pipe
          chunks := payload.chunks size }

/-- The client writes its next chunk, or closes its pipe when there is none. -/
def start? (trial : EchoTrial) : Option EchoTrial :=
  match trial.writer, trial.chunks with
  | .idle pipe, chunk :: chunks =>
    some { trial with writer := .busy false (pipe.writeThrough chunk), chunks }
  | .idle pipe, [] => some { trial with writer := .busy true pipe.close }
  | _, _ => none

/-- The client's call goes on. Nothing when it has to wait, or comes to an error. -/
def advance? (trial : EchoTrial) : Option EchoTrial :=
  match trial.writer with
  | .busy closing call =>
    if call.isWaiting && !Peer.link.isRung trial.ack trial.client then none
    else
      let performed := Peer.link.perform trial.ack call trial.client
      (Usage.after closing performed.1).map fun writer =>
        { trial with
          client := { performed.2 with outbox := [] }
          writer
          forth := trial.forth.launchAll performed.2.outbox }
  | _ => none

def expire? (trial : EchoTrial) : Option EchoTrial :=
  match trial.writer with
  | .busy closing call =>
    if call.isWaiting && !Peer.link.isRung trial.ack trial.client then
      some { trial with writer := .busy closing call.expire, forth := trial.forth.expire }
    else none
  | _ => none

/-- Whether the call that the worker is making comes to an error now. -/
def failing (server : Peer Echo Nat) : Bool :=
  match server.rest.task with
  | none => false
  | some task => (Peer.link.perform task.connection.output.ack task.call server).1.failed

/-- The echo worker goes on. Nothing when it has to wait or has no work, or when its call comes to
an error. -/
def work? (trial : EchoTrial) : Option EchoTrial :=
  if failing trial.server then none
  else (Echo.host.step trial.server).map fun server =>
    { trial with
      server := { server with outbox := [] }
      back := trial.back.launchAll server.outbox }

/-- The wait of the worker's call runs out. -/
def lapse? (trial : EchoTrial) : Option EchoTrial :=
  match trial.server.rest.task with
  | none => none
  | some task =>
    if task.call.isWaiting && !Peer.link.isRung task.connection.output.ack trial.server then
      some { trial with server := Echo.host.expire trial.server, back := trial.back.expire }
    else none

/-- The oldest frame reaches the server. Nothing when the worker would refuse a job. -/
def arriveForth? (trial : EchoTrial) : Option EchoTrial :=
  match trial.forth.frames with
  | [] => none
  | frame :: rest =>
    let server := Echo.station.processFrame frame trial.server
    if server.rest.overruns.isEmpty then
      some { trial with
        server := { server with outbox := [] }
        forth := trial.forth.arrive rest server.outbox }
    else none

def arriveBack? (trial : EchoTrial) : Option EchoTrial :=
  match trial.back.frames with
  | [] => none
  | frame :: rest =>
    let client := EchoClient.station.processFrame frame trial.client
    some { trial with
      client := { client with outbox := [] }
      back := trial.back.arrive rest client.outbox }

def loseForth? (trial : EchoTrial) : Option EchoTrial :=
  match trial.forth.frames with
  | [] => none
  | _ :: rest => some { trial with forth := trial.forth.lose rest }

def loseBack? (trial : EchoTrial) : Option EchoTrial :=
  match trial.back.frames with
  | [] => none
  | _ :: rest => some { trial with back := trial.back.lose rest }

/-- What the server has acknowledged reaches the client. -/
def answerForth (trial : EchoTrial) : EchoTrial :=
  { trial with
    client := takeAll EchoClient.station trial.forth.acks trial.client
    forth := trial.forth.hear }

def answerBack (trial : EchoTrial) : EchoTrial :=
  { trial with
    server := takeAll Echo.station trial.back.acks trial.server
    back := trial.back.hear }

/-- What may happen next. An acknowledgement is lost when it is not heard before its wait runs
out. -/
inductive Move where
  | start
  | advance
  | expire
  | work
  | lapse
  | arriveForth
  | arriveBack
  | loseForth
  | loseBack
  | answerForth
  | answerBack
  deriving DecidableEq

/-- Make a move; nothing when it cannot be made. -/
def move? (trial : EchoTrial) : Move → Option EchoTrial
  | .start => trial.start?
  | .advance => trial.advance?
  | .expire => trial.expire?
  | .work => trial.work?
  | .lapse => trial.lapse?
  | .arriveForth => trial.arriveForth?
  | .arriveBack => trial.arriveBack?
  | .loseForth => trial.loseForth?
  | .loseBack => trial.loseBack?
  | .answerForth => some trial.answerForth
  | .answerBack => some trial.answerBack

def run? (trial : EchoTrial) : List Move → Option EchoTrial
  | [] => some trial
  | move :: moves => (trial.move? move).bind fun moved => moved.run? moves

/-- The client has closed its pipe, and the worker has done all its jobs. -/
structure Finished (trial : EchoTrial) : Prop where
  closed : trial.writer = .closed
  resting : trial.server.rest.task = none
  drained : trial.server.rest.worker.waiting = []

instance (trial : EchoTrial) : Decidable trial.Finished :=
  decidable_of_iff (trial.writer = .closed ∧ trial.server.rest.task = none ∧
    trial.server.rest.worker.waiting = [])
    ⟨fun ⟨closed, resting, drained⟩ => ⟨closed, resting, drained⟩,
      fun ⟨closed, resting, drained⟩ => ⟨closed, resting, drained⟩⟩

end EchoTrial

end PipeBus

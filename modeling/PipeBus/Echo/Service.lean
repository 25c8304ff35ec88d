import PipeBus.Echo.Basic
import PipeBus.Node.Dispatch

/-!
An echo service at a node: how connections are opened by command, and what one
step of its worker does to the node.
-/
namespace PipeBus

/-- An echo service and the node that hosts it, as parts of one state. -/
structure EchoHost (σ κ : Type) where
  link : NodeLink σ κ
  echo : Lens σ Echo
  /-- The receiver that a connection's input pipe gets. -/
  sink : Nat → κ

namespace EchoHost

variable {σ κ : Type}

/-- Open a connection: a pipe to where the client listens, an input pipe of its own, and a reply
that names the input pipe's port. A connection that cannot have both pipes has neither. -/
def openConnection (host : EchoHost σ κ) (packet : Packet) (state : σ) :
    Except NodeError Unit × σ :=
  match host.link.openOutputFor packet state with
  | (.error error, later) => (.error error, later)
  | (.ok output, opened) =>
    let id := (host.echo.get opened).nextId
    let numbered := host.echo.modify (fun echo => { echo with nextId := id + 1 }) opened
    match host.link.openInput (host.sink id) numbered with
    | (.error error, later) => (.error error, host.link.dropOutput output later)
    | (.ok input, later) =>
      let listed := host.echo.modify
        (fun echo => { echo with connections := echo.connections ++ [⟨id, output, input⟩] }) later
      host.link.send packet.service packet.command (Wire.word16 input.port) listed

/-- The hooks of the service; all but the open command is ignored. -/
def service (host : EchoHost σ κ) : Service σ where
  serviceClass := Echo.serviceClass
  handle packet state :=
    if packet.command = Echo.openCommand then (host.openConnection packet state).2 else state

/-- Let go of both pipes of a connection that has left the table. -/
def discard (host : EchoHost σ κ) (connection : EchoConnection) (output : OutputPipe)
    (state : σ) : σ :=
  host.link.closeInput connection.input (host.link.dropOutput output state)

/-- What follows a finished call. A failed echo costs the connection its place; a report is
followed by the close of the connection, whatever became of it. -/
def conclude (host : EchoHost σ κ) (task : EchoTask) (result : Except NodeError Unit)
    (output : OutputPipe) (state : σ) : σ :=
  match task.stage, result with
  | .echoing bytes, .ok () =>
    host.echo.modify (fun echo => ({ echo.store task.connection.id output with
      echoed := echo.echoed + bytes }).rest task.queued) state
  | .echoing _, .error _ =>
    host.discard task.connection output
      (host.echo.modify (fun echo => (echo.remove task.connection.id).rest task.queued) state)
  | .reporting, _ =>
    host.echo.modify (fun echo => echo.closing task.queued { task.connection with output }) state
  | .closing, _ =>
    host.discard task.connection output (host.echo.modify (·.rest task.queued) state)

/-- Carry on with the call that the worker is making. -/
def resume (host : EchoHost σ κ) (task : EchoTask) (state : σ) : σ :=
  match host.link.perform task.connection.output.ack task.call state with
  | (.done (result, output), later) => host.conclude task result output later
  | (call, later) =>
    host.echo.modify (fun echo => { echo with task := some { task with call } }) later

/-- One step of the worker; nothing when it is waiting, or without work. -/
def step (host : EchoHost σ κ) (state : σ) : Option σ :=
  match (host.echo.get state).task with
  | some task =>
    if task.call.isWaiting && !host.link.isRung task.connection.output.ack state then none
    else some (host.resume task state)
  | none => (host.echo.get state).takeUp?.map fun echo => host.echo.set echo state

def waiting? (host : EchoHost σ κ) (state : σ) : Option Duration :=
  (host.echo.get state).task.bind fun task => task.call.delay?

/-- Let the worker's wait run out. -/
def expire (host : EchoHost σ κ) (state : σ) : σ :=
  host.echo.modify (fun echo =>
    { echo with task := echo.task.map fun task => { task with call := task.call.expire } }) state

end EchoHost

end PipeBus

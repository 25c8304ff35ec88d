import PipeBus.Node.Receive
import PipeBus.Node.Transmit
import PipeBus.Pipe.Output

/-!
A node: one device on the bus, with its queues and its open pipes, and the
operations that it offers to the services it hosts.

A node is one part of a larger state of type `σ`, in which the transport and the
services have their parts too. `NodeLink` says where the node is kept and how
frames leave it.
-/
namespace PipeBus

/-- How a node is set up. -/
structure NodeConfig where
  device : UInt64 := 0
  /-- Frames that may wait to be dispatched. -/
  rxDepth : Nat := 10
  /-- How long the transport may take to accept a frame. -/
  sendTimeout : Duration := Duration.ofMillis 50
  /-- How long one round of dispatching waits for a frame. -/
  pollInterval : Duration := Duration.ofMillis 2
  maxInputs : Nat := 8
  maxOutputs : Nat := 8
  /-- Draws before opening an input pipe is given up. -/
  portAttempts : Nat := 64
  retry : RetryPolicy := {}

/-- One device on the bus. -/
structure Node (κ : Type) where
  config : NodeConfig
  tx : TxQueue
  rx : RxQueue
  registry : Registry κ

/-- Where a node is kept, and the transport it sends through. -/
structure NodeLink (σ κ : Type) where
  node : Lens σ (Node κ)
  transmit : Frame → Duration → σ → Bool × σ

namespace Node

variable {κ : Type}

/-- Bytes of an advertisement of so many services: every class, and the control service. -/
def advertisedSize (services : Nat) : Nat := (services + 1) * 4

def create (config : NodeConfig) (ports : Nat → UInt16) : Node κ where
  config
  tx := { device := config.device, sendTimeout := config.sendTimeout }
  rx := RxQueue.ofDepth config.rxDepth
  registry := Registry.create config.maxInputs config.maxOutputs config.portAttempts ports

instance : Inhabited (Node κ) := ⟨create {} scatteredPorts⟩

/-- A fresh node hosting so many services, unless they do not fit in one advertisement. -/
def build (config : NodeConfig) (services : Nat) (ports : Nat → UInt16) :
    Except NodeError (Node κ) :=
  if services > ServiceNumber.maxHosted ∨ advertisedSize services > maxPacketData then
    .error (.tooManyServices services)
  else .ok (create config ports)

/-- Frames lost to a refusing transport or to a full queue of received frames. -/
def framesDropped (node : Node κ) : Nat := node.tx.dropped + node.rx.dropped

/-- The node's queue of packets on their way out. -/
def txLens : Lens (Node κ) TxQueue where
  get := Node.tx
  set tx node := { node with tx }

/-- The node's queue of frames received. -/
def rxLens : Lens (Node κ) RxQueue where
  get := Node.rx
  set rx node := { node with rx }

def registryLens : Lens (Node κ) (Registry κ) where
  get := Node.registry
  set registry node := { node with registry }

def describe (node : Node κ) (services : Nat) : String :=
  let device := Text.hex 16 node.config.device.toNat
  s!"Node \x7b device_id: {device}, services: {services} \x7d"

end Node

/-- A one-line picture of the sending end of a pipe. -/
def OutputPipe.describe (pipe : OutputPipe) : String :=
  let device := Text.hex 16 pipe.device.toNat
  s!"OutputPipe \x7b device: {device}, port: {pipe.port}, open: {pipe.isOpen} \x7d"

/-- The receiving end of a pipe, as its owner holds it. -/
structure InputPipe where
  id : SlotId
  port : UInt16

/-- A one-line picture of the receiving end of a pipe. -/
def InputPipe.describe (pipe : InputPipe) (isOpen : Bool) : String :=
  s!"InputPipe \x7b port: {pipe.port}, open: {isOpen} \x7d"

namespace NodeLink

variable {σ κ α : Type}

/-- The outbound queue together with the transport. -/
def tx (link : NodeLink σ κ) : TxLink σ := ⟨link.node.comp Node.txLens, link.transmit⟩

def rx (link : NodeLink σ κ) : Lens σ RxQueue := link.node.comp Node.rxLens

def registry (link : NodeLink σ κ) : Lens σ (Registry κ) := link.node.comp Node.registryLens

def send (link : NodeLink σ κ) (service : UInt8) (command : UInt16) (data : Bytes) (state : σ) :
    Except NodeError Unit × σ := link.tx.push service command data state

def sendEvent (link : NodeLink σ κ) (service : UInt8) (event argument : UInt32) (state : σ) :
    Except NodeError Unit × σ :=
  if event >>> 16 != 0 then (.error (.invalidEvent event), state)
  else link.send service Command.event (Wire.word32 event ++ Wire.word32 argument) state

/-- Send one command in a frame of its own. -/
def sendFrame (link : NodeLink σ κ) (device : UInt64) (flags service : UInt8) (command : UInt16)
    (data : Bytes) (state : σ) : Except NodeError Unit × σ :=
  match (Frame.empty device flags).push? service command data with
  | none => (.error (.packetTooLarge data.length), state)
  | some frame => (.ok (), (link.tx.pushFrame frame.sealed state).2)

def sendCommand (link : NodeLink σ κ) (device : UInt64) (service : UInt8) (command : UInt16)
    (data : Bytes) (state : σ) : Except NodeError Unit × σ :=
  link.sendFrame device Flag.command service command data state

/-- Send a command to whichever device hosts a service of a class. -/
def sendClassCommand (link : NodeLink σ κ) (serviceClass : UInt32) (command : UInt16)
    (data : Bytes) (state : σ) : Except NodeError Unit × σ :=
  link.sendFrame serviceClass.toUInt64 (Flag.command ||| Flag.serviceClass) 0 command data state

def flush (link : NodeLink σ κ) (state : σ) : σ := link.tx.flush state

/-- Queue a received frame for dispatching; false when there is no room. -/
def frameReceived (link : NodeLink σ κ) (frame : Frame) (state : σ) : Bool × σ :=
  let (accepted, rx) := (link.rx.get state).received frame
  (accepted, link.rx.set rx state)

def openOutput (link : NodeLink σ κ) (device : UInt64) (port : UInt16) (state : σ) :
    Except NodeError OutputPipe × σ :=
  match (link.registry.get state).registerOutput device with
  | (.error error, registry) => (.error error, link.registry.set registry state)
  | (.ok ack, registry) =>
    (.ok (OutputPipe.create device port ack (link.node.get state).config.retry),
      link.registry.set registry state)

/-- Open the pipe that an open command describes. -/
def openOutputFor (link : NodeLink σ κ) (packet : Packet) (state : σ) :
    Except NodeError OutputPipe × σ :=
  match PipeOpen.parse packet.data with
  | .error _ => (.error (.invalidOpen packet.data.length), state)
  | .ok opening => link.openOutput opening.device opening.port state

/-- Let go of a pipe without closing it. -/
def dropOutput (link : NodeLink σ κ) (pipe : OutputPipe) (state : σ) : σ :=
  if pipe.isOpen then
    link.registry.modify (fun registry => (registry.unregisterOutput pipe.ack.slot).2) state
  else state

def openInput (link : NodeLink σ κ) (sink : κ) (state : σ) : Except NodeError InputPipe × σ :=
  match (link.registry.get state).openInput sink with
  | (.error error, registry) => (.error error, link.registry.set registry state)
  | (.ok (id, port), registry) => (.ok ⟨id, port⟩, link.registry.set registry state)

/-- Stop accepting packets on an input pipe. -/
def closeInput (link : NodeLink σ κ) (pipe : InputPipe) (state : σ) : σ :=
  link.registry.modify (fun registry => (registry.closeInput pipe.id).2) state

/-- Whether a call's wait would succeed now. -/
def isRung (link : NodeLink σ κ) (ack : AckHandle) (state : σ) : Bool :=
  ((link.registry.get state).wait ack.bell).1

/-- Use up a rung bell. -/
def answer (link : NodeLink σ κ) (ack : AckHandle) (state : σ) : σ :=
  link.registry.modify (fun registry => (registry.wait ack.bell).2) state

/-- Take a call's steps until it ends or has to wait. -/
def perform (link : NodeLink σ κ) (ack : AckHandle) : Call α → σ → Call α × σ
  | .done value, state => (.done value, state)
  | .arm crc next, state =>
    link.perform ack next (link.registry.modify (·.arm ack.slot crc) state)
  | .send frame next, state => link.perform ack next (link.tx.pushFrame frame state).2
  | .wait delay next, state =>
    if link.isRung ack state then link.perform ack (next true) (link.answer ack state)
    else (.wait delay next, state)
  | .disarm next, state =>
    link.perform ack next (link.registry.modify (·.disarm ack.slot) state)
  | .release next, state =>
    link.perform ack next
      (link.registry.modify (fun registry => (registry.unregisterOutput ack.slot).2) state)

/-- Take all steps of a call. `meanwhile` is what happens elsewhere while the call waits for so
long; a wait whose bell has not been rung by then has run out. -/
def complete (link : NodeLink σ κ) (meanwhile : Duration → σ → σ) (ack : AckHandle) :
    Call α → σ → α × σ
  | .done value, state => (value, state)
  | .arm crc next, state =>
    link.complete meanwhile ack next (link.registry.modify (·.arm ack.slot crc) state)
  | .send frame next, state =>
    link.complete meanwhile ack next (link.tx.pushFrame frame state).2
  | .wait delay next, state =>
    let later := if link.isRung ack state then state else meanwhile delay state
    if link.isRung ack later then link.complete meanwhile ack (next true) (link.answer ack later)
    else link.complete meanwhile ack (next false) later
  | .disarm next, state =>
    link.complete meanwhile ack next (link.registry.modify (·.disarm ack.slot) state)
  | .release next, state =>
    link.complete meanwhile ack next
      (link.registry.modify (fun registry => (registry.unregisterOutput ack.slot).2) state)

end NodeLink

end PipeBus

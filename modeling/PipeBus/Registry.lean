import PipeBus.Arena
import PipeBus.Lens
import PipeBus.Node.Error
import PipeBus.Notify
import PipeBus.Pipe.Word
import PipeBus.Service.Number

/-!
The open pipes of one node.

An input pipe is found by its port and holds the word of the next packet it
accepts; a packet with any other counter is dropped. An output pipe registers a
waiter, which is armed with the checksum of a frame and woken by the
acknowledgement of it. Whoever receives the packets of an input pipe is known
here only by a value of type `κ`.
-/
namespace PipeBus

/-- What the receiver of an input pipe is told. -/
inductive Delivery where
  | data (packet : Packet)
  /-- A packet written with the metadata flag. -/
  | metadata (packet : Packet)
  /-- The sender closed the pipe; nothing follows. -/
  | eof
  deriving DecidableEq

/-- An open input pipe: port and counter of the next packet, and its receiver. -/
structure InputEntry (κ : Type) where
  expected : PipeWord
  sink : κ

/-- The waiter of an open output pipe. -/
structure AckWaiter where
  device : UInt64
  /-- Checksum of the frame whose acknowledgement is expected. -/
  armed : Option UInt16 := none
  /-- Which bell an acknowledgement rings. -/
  bell : Nat

/-- Handle of a registered waiter. Its bell can be waited for even when the waiter is gone. -/
structure AckHandle where
  slot : SlotId
  bell : Nat
  deriving DecidableEq

/-- The open pipes of a node, and where ports of new input pipes come from. -/
structure Registry (κ : Type) where
  inputs : Arena (InputEntry κ)
  outputs : Arena AckWaiter
  /-- The signals of all waiters ever registered. -/
  bells : List Notify := []
  /-- Candidate ports, in the order in which they are drawn. -/
  ports : Nat → UInt16
  drawn : Nat := 0
  /-- Draws before opening an input pipe is given up. -/
  attempts : Nat := 64

/-- Candidate ports for nodes that are given none: every port comes up once in 512 draws. -/
def scatteredPorts (draw : Nat) : UInt16 := UInt16.ofNat ((draw * 205 + 97) % 512)

/-- A packet that an input pipe accepted. -/
structure Accepted (κ : Type) where
  id : SlotId
  sink : κ
  word : PipeWord

namespace Registry

variable {κ σ : Type}

def create (inputs outputs attempts : Nat) (ports : Nat → UInt16) : Registry κ where
  inputs := Arena.ofCapacity inputs
  outputs := Arena.ofCapacity outputs
  ports
  attempts := max attempts 1

/-- Ports of all open input pipes, by slot. -/
def inputPorts (registry : Registry κ) : List UInt16 :=
  registry.inputs.toList.map fun entry => entry.2.expected.port

/-- A port that a new input pipe may take. -/
def isFreePort (registry : Registry κ) (port : UInt16) : Bool :=
  port != 0 && !registry.inputPorts.contains port

/-- Draw ports until one is free, at most so many times. -/
def drawPort (registry : Registry κ) : Nat → Option UInt16 × Registry κ
  | 0 => (none, registry)
  | attempts + 1 =>
    let port := registry.ports registry.drawn &&& maxPort
    let later := { registry with drawn := registry.drawn + 1 }
    if registry.isFreePort port then (some port, later) else later.drawPort attempts

/-- Open an input pipe on a fresh port. -/
def openInput (registry : Registry κ) (sink : κ) :
    Except NodeError (SlotId × UInt16) × Registry κ :=
  if registry.inputs.isFull then
    (.error (.tableFull .input registry.inputs.capacity), registry)
  else
    match registry.drawPort registry.attempts with
    | (none, later) => (.error (.noFreePort registry.attempts), later)
    | (some port, later) =>
      match later.inputs.insert? ⟨PipeWord.ofPort port, sink⟩ with
      | none => (.error (.tableFull .input later.inputs.capacity), later)
      | some (id, inputs) => (.ok (id, port), { later with inputs })

/-- Free an input pipe; false when it was gone already. -/
def closeInput (registry : Registry κ) (id : SlotId) : Bool × Registry κ :=
  match registry.inputs.remove? id with
  | none => (false, registry)
  | some (_, inputs) => (true, { registry with inputs })

def inputOpen (registry : Registry κ) (id : SlotId) : Bool := registry.inputs.contains id

/-- Accept a packet if it bears the port and the counter that an input pipe expects; the pipe then
expects the next counter. -/
def accept? (registry : Registry κ) (packet : Packet) : Option (Accepted κ × Registry κ) :=
  let word : PipeWord := ⟨packet.command⟩
  match registry.inputs.toList.find? fun entry => entry.2.expected.port == word.port with
  | none => none
  | some (id, entry) =>
    if entry.expected.counter != word.counter then none
    else
      let advanced := registry.inputs.modify id fun old =>
        { old with expected := old.expected.advance }
      some (⟨id, entry.sink, word⟩, { registry with inputs := advanced })

/-- Route a pipe packet to its input pipe. The receiver is told while the registry is not held, so
it may open and close pipes; a packet with the close flag is followed by the end of the pipe, which
is then freed unless the receiver has done so. -/
def handlePacket (place : Lens σ (Registry κ)) (tell : κ → Delivery → σ → σ) (packet : Packet)
    (state : σ) : Bool × σ :=
  match (place.get state).accept? packet with
  | none => (false, state)
  | some (accepted, registry) =>
    let delivery := if accepted.word.isMeta then Delivery.metadata packet else Delivery.data packet
    let told := tell accepted.sink delivery (place.set registry state)
    if accepted.word.isClose then
      let ended := tell accepted.sink .eof told
      (true, place.modify (fun left => (left.closeInput accepted.id).2) ended)
    else (true, told)

/-- Register the waiter of an output pipe to a device. -/
def registerOutput (registry : Registry κ) (device : UInt64) :
    Except NodeError AckHandle × Registry κ :=
  let bell := registry.bells.length
  match registry.outputs.insert? { device, bell } with
  | none => (.error (.tableFull .output registry.outputs.capacity), registry)
  | some (slot, outputs) =>
    (.ok ⟨slot, bell⟩, { registry with outputs, bells := registry.bells ++ [{}] })

/-- Free a waiter; false when it was gone already. -/
def unregisterOutput (registry : Registry κ) (id : SlotId) : Bool × Registry κ :=
  match registry.outputs.remove? id with
  | none => (false, registry)
  | some (_, outputs) => (true, { registry with outputs })

/-- Expect the acknowledgement of a frame, and forget wake-ups from before. -/
def arm (registry : Registry κ) (id : SlotId) (crc : UInt16) : Registry κ :=
  match registry.outputs.get? id with
  | none => registry
  | some waiter =>
    { registry with
      outputs := registry.outputs.modify id fun old => { old with armed := some crc }
      bells := registry.bells.modify waiter.bell Notify.clear }

/-- Expect no acknowledgement any more. -/
def disarm (registry : Registry κ) (id : SlotId) : Registry κ :=
  { registry with outputs := registry.outputs.modify id fun old => { old with armed := none } }

def expects (packet : Packet) (waiter : AckWaiter) : Bool :=
  waiter.armed == some packet.command && waiter.device == packet.device

/-- Wake the waiters of an acknowledgement, and count them. Other packets wake nobody. -/
def processAck (registry : Registry κ) (packet : Packet) : Nat × Registry κ :=
  if packet.service != ServiceNumber.crcAck then (0, registry)
  else
    let woken := (registry.outputs.toList.map Prod.snd).filter (expects packet)
    (woken.length, { registry with
      bells := woken.foldl (fun bells waiter => bells.modify waiter.bell Notify.give)
        registry.bells })

/-- Wait for a bell without patience: whether it had been rung. -/
def wait (registry : Registry κ) (bell : Nat) : Bool × Registry κ :=
  ((registry.bells.getD bell {}).wait.1, { registry with
    bells := registry.bells.modify bell fun signal => signal.wait.2 })

def openInputs (registry : Registry κ) : Nat := registry.inputs.size

def openOutputs (registry : Registry κ) : Nat := registry.outputs.size

end Registry

end PipeBus

import PipeBus.Node.Basic

/-!
Where the packets of received frames go.

A frame that asks for it is acknowledged before anything else happens. Then its
packets are handled one by one: acknowledgements wake output pipes, reports are
observed by every service, and commands go to the one destination that
`Node.destination?` names, if they are meant for this device.
-/
namespace PipeBus

/-- A service hosted by a node. Its hooks act on the whole state. -/
structure Service (σ : Type) where
  serviceClass : UInt32
  /-- A command addressed to this service. -/
  handle : Packet → σ → σ := fun _ state => state
  /-- A report from any device. -/
  observe : Packet → σ → σ := fun _ state => state
  /-- Periodic work, once in every round of dispatching. -/
  process : σ → σ := id

/-- A node among the things it works with: its transport, the receivers of its input pipes and the
services it hosts. Service numbers count the services from one. -/
structure Station (σ κ : Type) extends NodeLink σ κ where
  /-- The next frame that has come in, if any. -/
  receive : σ → Option Frame × σ
  tell : κ → Delivery → σ → σ
  services : List (Service σ)

/-- Where a command goes. -/
inductive Destination where
  | control
  | pipe
  /-- The service at this place, counted from zero. -/
  | hosted (index : Nat)
  deriving DecidableEq

namespace Node

/-- Number of the first service of a class; class zero is the control service. -/
def serviceNumber? (classes : List UInt32) (serviceClass : UInt32) : Option UInt8 :=
  if serviceClass = 0 then some ServiceNumber.control
  else (classes.idxOf? serviceClass).map fun index => UInt8.ofNat (index + 1)

/-- The service number that a class-addressed packet has at this node. -/
def classNumber? (classes : List UInt32) (packet : Packet) : Option UInt8 :=
  if packet.targetsClass ∧ packet.device.toNat < UInt32.size then
    serviceNumber? classes packet.device.toUInt32
  else none

/-- A command as this node takes it: with the number of the addressed class, or as it is when it
bears the node's own device. Other commands are for somebody else. -/
def addressed? (device : UInt64) (classes : List UInt32) (packet : Packet) : Option Packet :=
  match classNumber? classes packet with
  | some number => some { packet with service := number }
  | none => if packet.device = device then some packet else none

/-- Where a service number leads, given how many services there are. -/
def destination? (services : Nat) (number : UInt8) : Option Destination :=
  if number = ServiceNumber.control then some .control
  else if number = ServiceNumber.pipe then some .pipe
  else if number.toNat ≤ services then some (.hosted (number.toNat - 1))
  else none

/-- The data of an advertisement: a zero word for the control service, then every class. -/
def advertisement (classes : List UInt32) : Bytes :=
  Wire.word32 0 ++ classes.flatMap Wire.word32

end Node

namespace Station

variable {σ κ : Type}

def classes (station : Station σ κ) : List UInt32 := station.services.map Service.serviceClass

def announce (station : Station σ κ) (state : σ) : Except NodeError Unit × σ :=
  station.send ServiceNumber.control Command.advertisement (Node.advertisement station.classes)
    state

/-- Take a command to its destination. -/
def deliver (station : Station σ κ) (packet : Packet) (destination : Destination) (state : σ) :
    σ :=
  match destination with
  | .control =>
    if packet.command = Command.advertisement then (station.announce state).2 else state
  | .pipe => (Registry.handlePacket station.registry station.tell packet state).2
  | .hosted index =>
    match station.services[index]? with
    | none => state
    | some service => service.handle packet state

def handlePacket (station : Station σ κ) (packet : Packet) (state : σ) : σ :=
  let matched := station.registry.modify (fun registry => (registry.processAck packet).2) state
  if packet.isCommand then
    match Node.addressed? (station.node.get state).config.device station.classes packet with
    | none => matched
    | some taken =>
      match Node.destination? station.services.length taken.service with
      | none => matched
      | some destination => station.deliver taken destination matched
  else station.services.foldl (fun later service => service.observe packet later) matched

/-- Handle the packets of a frame, front to back. -/
def handlePackets (station : Station σ κ) (frame : Frame) (state : σ) : σ :=
  let handled := match frame.front? with
    | none => state
    | some packet => station.handlePacket packet state
  match _shifted : frame.shift? with
  | none => handled
  | some rest => station.handlePackets rest handled
termination_by frame.payload.length
decreasing_by exact Frame.shift?_length _shifted

def mustAck (device : UInt64) (frame : Frame) : Bool :=
  frame.ackRequested && frame.isCommand && frame.device == device

/-- Acknowledge a frame if it asks for it. -/
def acknowledge (station : Station σ κ) (frame : Frame) (state : σ) : σ :=
  if mustAck (station.node.get state).config.device frame then
    station.flush (station.send ServiceNumber.crcAck frame.crc [] state).2
  else state

def processFrame (station : Station σ κ) (frame : Frame) (state : σ) : σ :=
  station.handlePackets frame (station.acknowledge frame state)

/-- Move frames from the transport into the queue of received frames while it has room, at most so
many. -/
def fill (station : Station σ κ) : Nat → σ → σ
  | 0, state => state
  | room + 1, state =>
    if (station.rx.get state).isFull then state
    else
      match station.receive state with
      | (none, later) => later
      | (some frame, later) => station.fill room (station.frameReceived frame later).2

/-- One round of dispatching: take frames in, dispatch at most one, let every service do its
periodic work, and send what is staged. True when a frame was dispatched. -/
def poll (station : Station σ κ) (state : σ) : Bool × σ :=
  let filled := station.fill (station.rx.get state).depth state
  let (frame, rx) := (station.rx.get filled).next
  let taken := station.rx.set rx filled
  let handled := match frame with
    | none => taken
    | some found => station.processFrame found taken
  let processed := station.services.foldl (fun later service => service.process later) handled
  (frame.isSome, station.flush processed)

end Station

end PipeBus

import PipeBus.Network.Basic

/-!
How frames travel in a network, and what its services do.

A frame on a line of its own is at once acknowledged or lost, as the line's rules
say. A frame on the bus waits in the inboxes of the other members, and a pumped
bus is handed around until all inboxes are empty; what is sent meanwhile only
goes onto the bus.
-/
namespace PipeBus

namespace Line

def accepts (line : Line) : Bool := line.accept.headD true

/-- Count the sends of a frame that asks for an acknowledgement: how often the same frame has been
sent in a row by now. -/
def countSend (line : Line) (frame : Frame) : Nat × Line :=
  let times := match line.lastAsking with
    | some (last, times) => if last = frame then times + 1 else 1
    | none => 1
  (times, { line with lastAsking := some (frame, times) })

def acknowledgement (line : Line) (frame : Frame) : Packet where
  device := line.peer.getD frame.device
  flags := 0
  service := ServiceNumber.crcAck
  command := frame.crc
  data := []

/-- What the other end does with a frame: it may answer with an acknowledgement. -/
def answer? (line : Line) (frame : Frame) : Option Packet × Line :=
  if line.acknowledges && frame.ackRequested then
    let (times, counted) := line.countSend frame
    (if times > line.lose then some (line.acknowledgement frame) else none, counted)
  else (none, line)

/-- Whether a frame is accepted, and the line after that. -/
def offer (line : Line) : Bool × Line :=
  (line.accepts, { line with accept := line.accept.drop 1 })

end Line

namespace Network

/-- How a member's frames leave it. -/
abbrev Transmit := Nat → Frame → Duration → Network → Bool × Network

/-- Put an accepted frame on the bus or on the member's line. -/
def carry (index : Nat) (frame : Frame) (network : Network) : Network :=
  match network.bus with
  | some bus => { network with bus := some (bus.send (network.member index).endpoint frame) }
  | none =>
    let (answer, line) := ((linePlace index).get network).answer? frame
    let carried := (linePlace index).set line network
    match answer with
    | none => carried
    | some packet =>
      ((nodePlace index).comp Node.registryLens).modify
        (fun registry => (registry.processAck packet).2) carried

/-- Hand over a frame without handing the bus around. -/
def transmitOnly : Transmit := fun index frame _ network =>
  let (accepted, line) := ((linePlace index).get network).offer
  let offered := (linePlace index).set line network
  if accepted then (true, (offered.record (.sent index frame)).carry index frame)
  else (false, offered)

def receive (index : Nat) (network : Network) : Option Frame × Network :=
  match network.bus with
  | some bus =>
    let (frame, later) := bus.receive (network.member index).endpoint
    (frame, { network with bus := some later })
  | none =>
    let line := (linePlace index).get network
    (line.incoming.head?,
      (linePlace index).set { line with incoming := line.incoming.drop 1 } network)

/-- A member's node, with a way for its frames. -/
def linkBy (transmit : Transmit) (index : Nat) : NodeLink Network Receiver where
  node := nodePlace index
  transmit := transmit index

def beaconData : Bytes := "tick".toUTF8.toList

def probe (link : NodeLink Network Receiver) (index : Nat) (serviceClass : UInt32)
    (actions : ProbeActions) : Service Network where
  serviceClass
  handle packet network :=
    let recorded := network.record (.commanded index serviceClass packet)
    let replied :=
      if actions.reply then (link.send packet.service packet.command packet.data recorded).2
      else recorded
    if actions.opens then
      let (pipe, opened) := link.openOutputFor packet replied
      let (result, numbered) := opened.addOutput index pipe
      numbered.record (.opened index result)
    else replied
  observe packet network :=
    if actions.observe then network.record (.observed index serviceClass packet) else network
  process network :=
    let recorded :=
      if actions.process then network.record (.processed index serviceClass) else network
    if actions.beacon then (link.send 1 1 beaconData recorded).2 else recorded

def hostBy (link : NodeLink Network Receiver) (service : Nat) : EchoHost Network Receiver where
  link
  echo := echoPlace service
  sink := Receiver.echo service

def serviceBy (link : NodeLink Network Receiver) (index : Nat) : Role → Service Network
  | .probe serviceClass actions => probe link index serviceClass actions
  | .bare serviceClass => { serviceClass }
  | .echo service => (hostBy link service).service

/-- A member among the things it works with. -/
def stationBy (transmit : Transmit) (index : Nat) (network : Network) :
    Station Network Receiver where
  toNodeLink := linkBy transmit index
  receive := receive index
  tell := tell
  services := (network.member index).roles.map (serviceBy (linkBy transmit index) index)

/-- Let a member dispatch one frame from the bus, if there is one for it. -/
def pumpMember (index : Nat) (network : Network) : Bool × Network :=
  match network.receive index with
  | (none, later) => (false, later)
  | (some frame, later) =>
    (true, (stationBy transmitOnly index network).processFrame frame later)

/-- Let one member after the other dispatch a frame: whether any did. -/
def pumpRound (network : Network) : Bool × Network :=
  (List.range network.members.length).foldl (fun (moved, reached) index =>
    let (dispatched, later) := pumpMember index reached
    (moved || dispatched, later)) (false, network)

/-- Rounds until the bus is empty, at most so many. -/
def pumpWithin : Nat → Network → Network
  | 0, network => network
  | rounds + 1, network =>
    match network.pumpRound with
    | (true, later) => pumpWithin rounds later
    | (false, later) => later

/-- A bound on rounds. Commands cause reports and reports cause nothing, so that a bus empties long
before. -/
def maxRounds : Nat := 1000000

/-- Hand the frames on the bus around until it is empty. -/
def pump (network : Network) : Network := pumpWithin maxRounds network

/-- Hand over a frame, and hand the bus around if it is pumped. -/
def transmit : Transmit := fun index frame patience network =>
  match transmitOnly index frame patience network with
  | (true, later) => (true, if later.bus.isSome && later.pumps then later.pump else later)
  | refused => refused

def link (index : Nat) : NodeLink Network Receiver := linkBy transmit index

def station (index : Nat) (network : Network) : Station Network Receiver :=
  stationBy transmit index network

def host (service : Nat) (network : Network) : EchoHost Network Receiver :=
  hostBy (link (network.echoSeat service).member) service

end Network

end PipeBus

import PipeBus.Bus
import PipeBus.Echo.Service
import PipeBus.Network.Trace

/-!
Several nodes and what connects them: one shared bus, or a line of its own for
every node, which answers by rule. A network also holds the pipes that have been
opened at its nodes, numbered in the order of opening, the echo services, and a
record of what happened in the foreground and in the background.
-/
namespace PipeBus

/-- Who gets what an input pipe has. -/
inductive Receiver where
  /-- Everything is recorded under the number of the pipe. -/
  | recorder (pipe : Nat)
  | quiet
  | echo (service connection : Nat)

/-- What a probe does besides recording the commands it gets. -/
structure ProbeActions where
  /-- Send back every command as a report. -/
  reply : Bool := false
  /-- Open the output pipe that a command describes. -/
  opens : Bool := false
  observe : Bool := false
  process : Bool := false
  /-- Send a report in every run of the periodic work. -/
  beacon : Bool := false

/-- What a service of a network is. -/
inductive Role where
  | probe (serviceClass : UInt32) (actions : ProbeActions)
  /-- A service that does nothing. -/
  | bare (serviceClass : UInt32)
  | echo (service : Nat)

/-- A line with a scripted other end. -/
structure Line where
  /-- Whether the next frames are accepted; after these, all are. -/
  accept : List Bool := []
  /-- Frames that ask for it are acknowledged. -/
  acknowledges : Bool := false
  /-- How many sends of a frame go unanswered before one is acknowledged. -/
  lose : Nat := 0
  /-- The device that acknowledges; by default the one addressed. -/
  peer : Option UInt64 := none
  busy : Bool := false
  incoming : List Frame := []
  /-- The last frame that asked for an acknowledgement, and how often it has been sent in a row. -/
  lastAsking : Option (Frame × Nat) := none

/-- A node with its services and its place on the bus. -/
structure Member where
  node : Node Receiver
  roles : List Role := []
  line : Line := {}
  /-- Endpoint on the bus, if there is a bus. -/
  endpoint : Nat := 0
  /-- Whether the node is polled in the background. -/
  running : Bool := false
  deriving Inhabited

/-- An echo service, the member that hosts it, and when its worker's current wait ends. -/
structure EchoSeat where
  member : Nat
  echo : Echo
  deadline : Option Duration := none
  deriving Inhabited

/-- Nodes and what connects them. -/
structure Network where
  members : List Member := []
  echoes : List EchoSeat := []
  bus : Option Bus := none
  /-- Whether every send is followed by handing around all frames on the bus. -/
  pumps : Bool := false
  /-- Output pipes with the members they belong to; nothing for one that could not be opened. -/
  outputs : List (Option (Nat × OutputPipe)) := []
  /-- Input pipes with the members they belong to. -/
  inputs : List (Option (Nat × InputPipe)) := []
  /-- Whether what happens now happens in the background. -/
  inBackground : Bool := false
  foreground : Trace := []
  background : Trace := []
  clock : Duration := 0

namespace Network

def member (network : Network) (index : Nat) : Member := network.members.getD index default

def setMember (index : Nat) (member : Member) (network : Network) : Network :=
  { network with members := network.members.set index member }

def echoSeat (network : Network) (service : Nat) : EchoSeat :=
  network.echoes.getD service default

def setEchoSeat (service : Nat) (seat : EchoSeat) (network : Network) : Network :=
  { network with echoes := network.echoes.set service seat }

def nodePlace (index : Nat) : Lens Network (Node Receiver) where
  get network := (network.member index).node
  set node network := network.setMember index { network.member index with node }

def linePlace (index : Nat) : Lens Network Line where
  get network := (network.member index).line
  set line network := network.setMember index { network.member index with line }

def echoPlace (service : Nat) : Lens Network Echo where
  get network := (network.echoSeat service).echo
  set echo network := network.setEchoSeat service { network.echoSeat service with echo }

def record (occurrence : Occurrence) (network : Network) : Network :=
  if network.inBackground then { network with background := occurrence :: network.background }
  else { network with foreground := occurrence :: network.foreground }

def tell (receiver : Receiver) (delivery : Delivery) (network : Network) : Network :=
  match receiver with
  | .quiet => network
  | .recorder pipe => network.record (.delivered pipe delivery)
  | .echo service connection =>
    (echoPlace service).modify (Echo.tell connection delivery) network

/-- Number a newly opened output pipe. -/
def addOutput (index : Nat) (pipe : Except NodeError OutputPipe) (network : Network) :
    Except NodeError Nat × Network :=
  match pipe with
  | .error error => (.error error, { network with outputs := network.outputs ++ [none] })
  | .ok opened =>
    (.ok network.outputs.length,
      { network with outputs := network.outputs ++ [some (index, opened)] })

def output? (network : Network) (number : Nat) : Option (Nat × OutputPipe) :=
  network.outputs.getD number none

def input? (network : Network) (number : Nat) : Option (Nat × InputPipe) :=
  network.inputs.getD number none

/-- Add a node that hosts services in the given roles. -/
def join (config : NodeConfig) (roles : List Role) (line : Line) (ports : Nat → UInt16)
    (network : Network) : Except NodeError Network :=
  match Node.build config roles.length ports with
  | .error error => .error error
  | .ok node =>
    match network.bus.map Bus.attach with
    | none => .ok { network with members := network.members ++ [{ node, roles, line }] }
    | some (endpoint, bus) =>
      .ok { network with
        members := network.members ++ [{ node, roles, line, endpoint }]
        bus := some bus }

/-- Add an echo service to the services of a member; the number of the service comes with it. -/
def addEcho (index depth : Nat) (network : Network) : Nat × Network :=
  (network.echoes.length,
    { network with echoes := network.echoes ++ [{ member := index, echo := Echo.start depth }] })

end Network

end PipeBus

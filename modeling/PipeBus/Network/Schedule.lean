import PipeBus.Network.Transport

/-!
When things happen in a network that runs by itself.

Running members and echo workers take turns until none of them gets any further;
no time passes meanwhile. Only when everything waits does the clock move on, to
the end of the earliest wait.
-/
namespace PipeBus.Network

/-- A turn of a member that is polled in the background: whether anything moved. -/
def turnMember (index : Nat) (network : Network) : Bool × Network :=
  if (network.member index).running then
    let (dispatched, later) := (network.station index).poll network
    let handed (network : Network) : Nat :=
      (network.member index).node.tx.sent + (network.member index).node.tx.dropped
    (dispatched || handed later != handed network, later)
  else (false, network)

/-- Note when the wait of an echo worker ends, if it waits and that is not known yet. -/
def noteDeadline (service : Nat) (network : Network) : Network :=
  let seat := network.echoSeat service
  match seat.deadline, (network.host service).waiting? network with
  | none, some delay => network.setEchoSeat service { seat with deadline := network.clock + delay }
  | _, _ => network

/-- Forget when the wait of an echo worker ends. -/
def forgetDeadline (service : Nat) (network : Network) : Network :=
  network.setEchoSeat service { network.echoSeat service with deadline := none }

/-- A turn of an echo worker: whether anything moved. -/
def turnEcho (service : Nat) (network : Network) : Bool × Network :=
  match (network.host service).step network with
  | some later => (true, later.forgetDeadline service)
  | none => (false, network.noteDeadline service)

/-- Take one of the turns numbered below a bound. -/
def turns (turn : Nat → Network → Bool × Network) (bound : Nat) (network : Network) :
    Bool × Network :=
  (List.range bound).foldl (fun (moved, reached) index =>
    let (stepped, later) := turn index reached
    (moved || stepped, later)) (false, network)

/-- One turn for every member and every echo worker. -/
def round (network : Network) : Bool × Network :=
  let (polled, later) := turns turnMember network.members.length network
  let (stepped, last) := turns turnEcho later.echoes.length later
  (polled || stepped, last)

/-- Rounds until nothing moves, at most so many. -/
def settleWithin : Nat → Network → Network
  | 0, network => network
  | rounds + 1, network =>
    match network.round with
    | (true, later) => settleWithin rounds later
    | (false, later) => later

/-- Let everything in the background get as far as it can without time passing. -/
def settle (network : Network) : Network :=
  { settleWithin maxRounds { network with inBackground := true } with
    inBackground := network.inBackground }

/-- The earliest end of a wait, with the echo service whose worker waits. -/
def earliest? (network : Network) : Option (Duration × Nat) :=
  let ends := (network.echoes.zipIdx).filterMap fun (seat, service) =>
    seat.deadline.map fun deadline => (deadline, service)
  ends.foldl (fun best found => match best with
    | none => some found
    | some (deadline, _) => if found.1 < deadline then some found else best) none

/-- Let the wait of an echo worker run out, and see how far everything gets then. -/
def runOut (deadline : Duration) (service : Nat) (network : Network) : Network :=
  let later := { network with clock := max network.clock deadline }
  (((later.host service).expire later).forgetDeadline service).settle

/-- Let time pass until something is so, but not beyond a limit, for at most so many waits. -/
def passWithin (goal : Network → Bool) (limit : Option Duration) : Nat → Network → Network
  | 0, network => network
  | waits + 1, network =>
    if goal network then network
    else
      match network.earliest? with
      | none => { network with clock := max network.clock (limit.getD network.clock) }
      | some (deadline, service) =>
        if limit.all fun last => deadline ≤ last then
          passWithin goal limit waits (network.runOut deadline service)
        else { network with clock := max network.clock (limit.getD network.clock) }

/-- Let the background run until something is so, or until it is clear that it will not be. -/
def await (goal : Network → Bool) (network : Network) : Network :=
  passWithin goal none maxRounds network.settle

/-- Let the background run until something is so, but at most for so long. Nothing runs while
nobody waits. -/
def awaitFor (goal : Network → Bool) (delay : Duration) (network : Network) : Network :=
  if delay = 0 then network
  else passWithin goal (some (network.clock + delay)) maxRounds network.settle

/-- Make a call of a member's output pipe, with the background running while it waits. -/
def call (index : Nat) (pipe : OutputPipe)
    (operation : OutputPipe → Call (Except NodeError Unit × OutputPipe)) (network : Network) :
    (Except NodeError Unit × OutputPipe) × Network :=
  (link index).complete (fun delay => awaitFor ((link index).isRung pipe.ack) delay) pipe.ack
    (operation pipe) network

/-- Make a call of a numbered output pipe, which keeps what becomes of it. -/
def callOutput (number : Nat) (operation : OutputPipe → Call (Except NodeError Unit × OutputPipe))
    (network : Network) : Except NodeError Unit × Network :=
  match network.output? number with
  | none => (.error .closed, network)
  | some (index, pipe) =>
    let ((result, used), later) := network.call index pipe operation
    (result, { later with outputs := later.outputs.set number (some (index, used)) })

/-- Open an output pipe of a member to a port of a device. -/
def openOutput (index : Nat) (device : UInt64) (port : UInt16) (network : Network) :
    Except NodeError Nat × Network :=
  let (pipe, later) := (link index).openOutput device port network
  later.addOutput index pipe

/-- Open the output pipe that an open command describes. -/
def openOutputFor (index : Nat) (packet : Packet) (network : Network) :
    Except NodeError Nat × Network :=
  let (pipe, later) := (link index).openOutputFor packet network
  later.addOutput index pipe

/-- Let go of a numbered output pipe without closing it. -/
def dropOutput (number : Nat) (network : Network) : Network :=
  match network.output? number with
  | none => network
  | some (index, pipe) =>
    let later := (link index).dropOutput pipe network
    { later with outputs := later.outputs.set number none }

/-- Open an input pipe of a member. Its receiver is told the number that the pipe gets. -/
def openInput (index : Nat) (receiver : Nat → Receiver) (network : Network) :
    Except NodeError (Nat × UInt16) × Network :=
  let number := network.inputs.length
  match (link index).openInput (receiver number) network with
  | (.error error, later) => (.error error, { later with inputs := later.inputs ++ [none] })
  | (.ok pipe, later) =>
    (.ok (number, pipe.port), { later with inputs := later.inputs ++ [some (index, pipe)] })

def closeInput (number : Nat) (network : Network) : Network :=
  match network.input? number with
  | none => network
  | some (index, pipe) => (link index).closeInput pipe network

def inputOpen (number : Nat) (network : Network) : Bool :=
  match network.input? number with
  | none => false
  | some (index, pipe) => ((link index).registry.get network).inputOpen pipe.id

end PipeBus.Network

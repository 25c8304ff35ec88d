import PipeBus.Proofs.EchoTally
import PipeBus.Proofs.EchoTrial

/-! An echo service under audit. The log of an audit says what the connections of the service were
given and what of it was refused, what their output pipes accepted, and when they came to the table
and left it. The dispatcher and the worker take their steps in any order, and the waits of the
worker end in any way that the node can make them end. -/

namespace PipeBus

/-- What an audit takes down about the connections of a service. -/
inductive EchoEntry where
  | opened (id : Nat)
  | given (id : Nat) (delivery : Delivery) (refused : Bool)
  | wrote (id : Nat) (piece : Piece)
  | left (id : Nat)

namespace EchoEntry

def opens (id : Nat) : EchoEntry → Bool
  | .opened other => other == id
  | _ => false

def given? (id : Nat) : EchoEntry → Option (Delivery × Bool)
  | .given other delivery refused => if other = id then some (delivery, refused) else none
  | _ => none

def wrote? (id : Nat) : EchoEntry → Option Piece
  | .wrote other piece => if other = id then some piece else none
  | _ => none

end EchoEntry

/-- A request that the worker is serving, with the rest of its call. -/
structure EchoErrand where
  connection : EchoConnection
  request : EchoRequest
  call : Call Tally

namespace EchoErrand

def begin (connection : EchoConnection) (request : EchoRequest) : EchoErrand :=
  ⟨connection, request, request.tally connection.output⟩

/-- What the worker itself knows of an errand. -/
def task (queued : Bool) (errand : EchoErrand) : EchoTask :=
  ⟨errand.connection, errand.request.stage, queued, errand.call.map Tally.outcome⟩

/-- What follows an errand: a report is followed by the close of the connection. -/
def next? (errand : EchoErrand) (tally : Tally) : Option EchoErrand :=
  match errand.request with
  | .fail _ => some (begin { errand.connection with output := tally.pipe } .finish)
  | .echo _ | .finish => none

end EchoErrand

namespace Echo

/-- Whether a packet asks for something that finds no room in the queue. -/
def refuses (id : Nat) (delivery : Delivery) (echo : Echo) : Bool :=
  match request? delivery with
  | none => false
  | some request => (echo.worker.run? ⟨id, request⟩).isNone

/-- The errand of a job. A connection that is gone has none. -/
def errand? (echo : Echo) (job : EchoJob) : Option EchoErrand :=
  (echo.connection? job.connection).map fun connection => .begin connection job.request

/-- The job that is taken up next, and not skipped. -/
def upcoming? (echo : Echo) : Option EchoJob :=
  match echo.reports, echo.worker.waiting with
  | id :: _, _ => some ⟨id, .fail overrun⟩
  | [], job :: _ => if echo.overruns.contains job.connection then none else some job
  | [], [] => none

/-- The worker has come to the end of a job, and of the reports of an idle callback. -/
def isFree (echo : Echo) : Bool := echo.task.isNone && echo.reports.isEmpty

/-- Take up the next job, which the idle callback does not follow. -/
def takeJob? (echo : Echo) : Option Echo :=
  if echo.isFree then
    echo.worker.take?.map fun (job, worker) =>
      let taken := { echo with worker }
      if echo.overruns.contains job.connection then taken.rest false else taken.takeOn false job
  else none

def ids (echo : Echo) : List Nat := echo.connections.map EchoConnection.id

/-- How a table of connections has changed. -/
def changes (before after : Echo) : List EchoEntry :=
  (before.ids.filter fun id => !after.ids.contains id).map .left ++
    (after.ids.filter fun id => !before.ids.contains id).map .opened

end Echo

/-- An echo service, what its worker is doing, and the log. -/
structure EchoAudit where
  server : Peer Echo Nat
  errand : Option EchoErrand := none
  log : List EchoEntry := []

namespace EchoAudit

inductive Move where
  | connect (packet : Packet)
  /-- A callback on the receiver of a connection. -/
  | give (id : Nat) (delivery : Delivery)
  | hear (packet : Packet)
  /-- The worker takes a step; the idle callback follows every job. -/
  | work
  /-- The worker takes up a job that the idle callback does not follow. -/
  | job
  /-- The idle callback alone. -/
  | idle
  /-- The wait that the worker is in runs out. -/
  | lapse

def start (config : NodeConfig) (ports : Nat → UInt16) (depth : Nat) : EchoAudit where
  server := { node := Node.create config ports, rest := Echo.start depth }

/-- Take down what was given or written, and how the table has changed. -/
def note (audit : EchoAudit) (server : Peer Echo Nat) (errand : Option EchoErrand)
    (entries : List EchoEntry) : EchoAudit where
  server
  errand
  log := audit.log ++ entries ++ Echo.changes audit.server.rest server.rest

/-- The errand goes on, or comes to its end. -/
def goOn (audit : EchoAudit) (server : Peer Echo Nat) (errand : EchoErrand) :
    Call Tally → EchoAudit
  | .done tally =>
    audit.note server (errand.next? tally) (tally.taken.map (.wrote errand.connection.id))
  | call => audit.note server (some { errand with call }) []

def takeUp (audit : EchoAudit) (server : Peer Echo Nat) : EchoAudit :=
  let echo := audit.server.rest
  audit.note server (echo.upcoming?.bind echo.errand?) []

def move (audit : EchoAudit) : Move → EchoAudit
  | .connect packet => audit.note (Echo.host.openConnection packet audit.server).2 audit.errand []
  | .give id delivery =>
    if audit.log.any (EchoEntry.opens id) then
      audit.note (Peer.hearing Echo.tell id delivery audit.server) audit.errand
        [.given id delivery (audit.server.rest.refuses id delivery)]
    else audit
  | .hear packet =>
    audit.note (audit.server.withRegistry (audit.server.node.registry.processAck packet).2)
      audit.errand []
  | .work =>
    match Echo.host.step audit.server with
    | none => audit
    | some server =>
      match audit.errand with
      | none => audit.takeUp server
      | some errand =>
        audit.goOn server errand
          (Peer.link.perform errand.connection.output.ack errand.call audit.server).1
  | .job =>
    match audit.server.rest.takeJob? with
    | none => audit
    | some rest => audit.takeUp { audit.server with rest }
  | .idle =>
    if audit.server.rest.isFree then
      audit.note { audit.server with rest := audit.server.rest.collect } audit.errand []
    else audit
  | .lapse =>
    match audit.errand with
    | none => audit
    | some errand =>
      if Peer.link.isRung errand.connection.output.ack audit.server then audit
      else
        audit.note (Echo.host.expire audit.server)
          (some { errand with call := errand.call.expire }) []

def run (audit : EchoAudit) (moves : List Move) : EchoAudit := moves.foldl move audit

/-- What a connection was given, and whether it was refused. -/
def givenTo (audit : EchoAudit) (id : Nat) : List (Delivery × Bool) :=
  audit.log.filterMap (EchoEntry.given? id)

/-- What the output pipe of a connection has accepted. -/
def writtenTo (audit : EchoAudit) (id : Nat) : List Piece :=
  audit.log.filterMap (EchoEntry.wrote? id)

/-- The data that a connection is being written back. -/
def underWay (audit : EchoAudit) (id : Nat) : Bytes :=
  match audit.errand with
  | none => []
  | some errand => if errand.connection.id = id then errand.request.bytes else []

/-- The data in the queue that is to be written back to a connection. -/
def waitingFor (audit : EchoAudit) (id : Nat) : Bytes :=
  (audit.server.rest.worker.waiting.filter fun job => job.connection == id).flatMap fun job =>
    job.request.bytes

end EchoAudit

end PipeBus

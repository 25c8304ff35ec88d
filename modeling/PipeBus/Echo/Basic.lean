import PipeBus.Echo.Status
import PipeBus.Node.Basic
import PipeBus.Worker

/-!
The state of an echo service: its connections, the queue of work that its
connections have given it, and what its worker is in the middle of.

Packets of a connection are queued as jobs when they arrive, and the worker
takes the jobs one by one. A connection whose packet met a full queue has lost
data: it is marked as overrun, its remaining jobs are skipped, and the worker
closes it with a report when it collects the marks, which it does after every
job and whenever there is none.
-/
namespace PipeBus

/-- A client of the echo service, with a pipe in each direction. -/
structure EchoConnection where
  id : Nat
  output : OutputPipe
  input : InputPipe

/-- What a packet of a connection asks the worker to do. -/
inductive EchoRequest where
  | echo (data : Bytes)
  | finish
  /-- Report an error, then close the connection. -/
  | fail (error : Int32)
  deriving DecidableEq

/-- A request of one connection. -/
structure EchoJob where
  connection : Nat
  request : EchoRequest
  deriving DecidableEq

/-- What the call that the worker is making is good for. -/
inductive EchoStage where
  | echoing (bytes : Nat)
  | reporting
  | closing
  deriving DecidableEq

/-- A pipe call that the worker is making. -/
structure EchoTask where
  connection : EchoConnection
  stage : EchoStage
  /-- A job from the queue, rather than the report of an overrun. -/
  queued : Bool
  call : Call (Except NodeError Unit × OutputPipe)

/-- An echo service. -/
structure Echo where
  worker : Worker EchoJob
  connections : List EchoConnection := []
  /-- Connections that lost a packet to the full queue. -/
  overruns : List Nat := []
  /-- Collected overruns that the worker has yet to report. -/
  reports : List Nat := []
  task : Option EchoTask := none
  /-- Exact, so that no number comes up again; in 64 bits one would after 2^64 connections. -/
  nextId : Nat := 1
  /-- Bytes written back and acknowledged, counted exactly beyond 64 bits. -/
  echoed : Nat := 0

namespace Echo

def workerName : String := "jdpipe-echo"

/-- A service without connections, whose queue holds so many jobs. -/
def start (depth : Nat) : Echo where
  worker := Worker.start { name := workerName, depth }

instance : Inhabited Echo := ⟨start 1⟩

def connection? (echo : Echo) (id : Nat) : Option EchoConnection :=
  echo.connections.find? fun connection => connection.id == id

def remove (echo : Echo) (id : Nat) : Echo :=
  { echo with connections := echo.connections.filter fun connection => connection.id != id }

/-- Keep the state of a connection's output pipe. -/
def store (echo : Echo) (id : Nat) (output : OutputPipe) : Echo :=
  { echo with
    connections := echo.connections.map fun connection =>
      if connection.id = id then { connection with output } else connection }

/-- Mark a connection as overrun, once. -/
def markOverrun (echo : Echo) (id : Nat) : Echo :=
  if echo.overruns.contains id then echo else { echo with overruns := echo.overruns ++ [id] }

/-- Queue a request, or mark its connection as overrun when there is no room. -/
def defer (echo : Echo) (id : Nat) (request : EchoRequest) : Echo :=
  match echo.worker.run? ⟨id, request⟩ with
  | some worker => { echo with worker }
  | none => echo.markOverrun id

/-- Bytes of the tag with which a metadata command starts. -/
def tagLength : Nat := 4

/-- What a packet asks for; a data packet without data asks for nothing. -/
def request? : Delivery → Option EchoRequest
  | .data packet => if packet.data.isEmpty then none else some (.echo packet.data)
  | .metadata packet =>
    some (.fail (if packet.data.length < tagLength then malformedCommand else unknownCommand))
  | .eof => some .finish

def tell (id : Nat) (delivery : Delivery) (echo : Echo) : Echo :=
  match request? delivery with
  | none => echo
  | some request => echo.defer id request

/-- Take over the marks of overrun connections for reporting. -/
def collect (echo : Echo) : Echo :=
  { echo with overruns := [], reports := echo.reports ++ echo.overruns }

/-- End a piece of work; marks are collected after every queued job. -/
def rest (queued : Bool) (echo : Echo) : Echo :=
  let resting := { echo with task := none }
  if queued then resting.collect else resting

/-- Start closing a connection: from now on it is not in the table. -/
def closing (queued : Bool) (connection : EchoConnection) (echo : Echo) : Echo :=
  { echo.remove connection.id with
    task := some ⟨connection, .closing, queued, connection.output.close⟩ }

/-- Start on a request. A connection that is gone has none. -/
def takeOn (queued : Bool) (job : EchoJob) (echo : Echo) : Echo :=
  match echo.connection? job.connection with
  | none => echo.rest queued
  | some connection =>
    match job.request with
    | .echo data =>
      { echo with
        task := some ⟨connection, .echoing data.length, queued,
          connection.output.writeThrough data⟩ }
    | .fail error =>
      { echo with
        task := some ⟨connection, .reporting, queued,
          connection.output.writeMeta (EchoStatus.encode ⟨0, error⟩)⟩ }
    | .finish => echo.closing queued connection

/-- Take up the next piece of work: reports, then jobs, then the collection of overruns. Jobs of an
overrun connection are skipped. Nothing when there is no work. -/
def takeUp? (echo : Echo) : Option Echo :=
  match echo.reports with
  | id :: reports => some ({ echo with reports }.takeOn false ⟨id, .fail overrun⟩)
  | [] =>
    match echo.worker.take? with
    | some (job, worker) =>
      let taken := { echo with worker }
      some (if echo.overruns.contains job.connection then taken.rest true
        else taken.takeOn true job)
    | none => if echo.overruns.isEmpty then none else some echo.collect

/-- Bytes written back so far, and connections in the table. -/
def summary (echo : Echo) : Nat × Nat := (echo.connections.length, echo.echoed)

end Echo

end PipeBus

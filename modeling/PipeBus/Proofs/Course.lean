import PipeBus.Proofs.Requests

/-! The courses of a call. What a call does depends on how its waits end; a course is the record of
what it handed over and waited for when they end in some way, with the value that came of it.
Serving a request leaves a record, and so does serving one after the other. -/

namespace PipeBus

variable {α β : Type}

namespace Call

/-- What a call leaves on record: a frame that it handed over, or how a wait of it ended. -/
inductive Mark where
  | sent (frame : Frame)
  | waited (acked : Bool)
  deriving DecidableEq

def Mark.isWait : Mark → Bool
  | .sent _ => false
  | .waited _ => true

/-- The record of a call, and the value that it ends in. -/
structure Course (α : Type) where
  marks : List Mark
  value : α

/-- The course of a call of which the first wait has a number, when it is given which waits are
ended by the acknowledgement. -/
def course (acks : Nat → Bool) (waits : Nat) : Call α → Course α
  | .done value => ⟨[], value⟩
  | .arm _ next | .disarm next | .release next => course acks waits next
  | .send frame next =>
    let rest := course acks waits next
    { rest with marks := .sent frame :: rest.marks }
  | .wait _ next =>
    let rest := course acks (waits + 1) (next (acks waits))
    { rest with marks := .waited (acks waits) :: rest.marks }

/-- However the waits of a call end that is made after a record, what is on record then and the
value are so. -/
def Yields : Call α → List Mark → (List Mark → α → Prop) → Prop
  | .done value, marks, post => post marks value
  | .arm _ next, marks, post | .disarm next, marks, post | .release next, marks, post =>
    next.Yields marks post
  | .send frame next, marks, post => next.Yields (marks ++ [.sent frame]) post
  | .wait _ next, marks, post => ∀ acked, (next acked).Yields (marks ++ [.waited acked]) post

variable {call : Call α} {marks : List Mark} {post : List Mark → α → Prop}

theorem Yields.bind {next : α → Call β} {further : List Mark → β → Prop}
    (yields : call.Yields marks post)
    (continues : ∀ later value, post later value → (next value).Yields later further) :
    (call.bind next).Yields marks further := by
  induction call generalizing marks with
  | done value => exact continues marks value yields
  | arm crc rest ih | disarm rest ih | release rest ih | send frame rest ih => exact ih yields
  | wait delay rest ih => exact fun acked => ih acked (yields acked)

theorem Yields.mono {further : List Mark → α → Prop} (yields : call.Yields marks post)
    (weaker : ∀ later value, post later value → further later value) :
    call.Yields marks further := by
  induction call generalizing marks with
  | done value => exact weaker marks value yields
  | arm crc rest ih | disarm rest ih | release rest ih | send frame rest ih => exact ih yields
  | wait delay rest ih => exact fun acked => ih acked (yields acked)

theorem Yields.course (yields : call.Yields marks post) (acks : Nat → Bool) (waits : Nat) :
    post (marks ++ (call.course acks waits).marks) (call.course acks waits).value := by
  induction call generalizing marks waits with
  | done value =>
    rw [Call.course, List.append_nil]
    exact yields
  | arm crc next ih | disarm next ih | release next ih => exact ih yields waits
  | send frame next ih =>
    rw [Call.course, List.append_cons]
    exact ih yields waits
  | wait delay next ih =>
    rw [Call.course, List.append_cons]
    exact ih _ (yields _) (waits + 1)

theorem course_map (acks : Nat → Bool) (waits : Nat) (call : Call α) (change : α → β) :
    (call.bind fun value => .done (change value)).course acks waits =
      ⟨(call.course acks waits).marks, change (call.course acks waits).value⟩ := by
  induction call generalizing waits with
  | done value => rfl
  | arm crc next ih | disarm next ih | release next ih => exact ih waits
  | send frame next ih => rw [bind, Call.course, ih, Call.course]
  | wait delay next ih => rw [bind, Call.course, ih, Call.course]

theorem bind_assoc {γ : Type} (call : Call α) (next : α → Call β) (last : β → Call γ) :
    (call.bind next).bind last = call.bind fun value => (next value).bind last := by
  induction call with
  | done value => rfl
  | arm crc rest ih => exact congrArg (Call.arm crc) ih
  | send frame rest ih => exact congrArg (Call.send frame) ih
  | wait delay rest ih => exact congrArg (Call.wait delay) (funext ih)
  | disarm rest ih => exact congrArg Call.disarm ih
  | release rest ih => exact congrArg Call.release ih

theorem bind_done (call : Call α) : (call.bind fun value => .done value) = call := by
  induction call with
  | done value => rfl
  | arm crc rest ih => exact congrArg (Call.arm crc) ih
  | send frame rest ih => exact congrArg (Call.send frame) ih
  | wait delay rest ih => exact congrArg (Call.wait delay) (funext ih)
  | disarm rest ih => exact congrArg Call.disarm ih
  | release rest ih => exact congrArg Call.release ih

end Call

/-- What came of a request: the pieces that the pipe accepted of it, the result, and the pipe. -/
structure Tally where
  taken : List Piece
  result : Except NodeError Unit
  pipe : OutputPipe

/-- A tally as the request itself returns it. -/
def Tally.outcome (tally : Tally) : Except NodeError Unit × OutputPipe := (tally.result, tally.pipe)

namespace OutputPipe

variable {pipe : OutputPipe}

/-- Queue packets like `pushAll`, and tell which of them were accepted. -/
def tallyAll (pipe : OutputPipe) (kind : PacketKind) : List Bytes → Call Tally
  | [] => .done ⟨[], .ok (), pipe⟩
  | chunk :: rest =>
    (pipe.pushPacket chunk kind).bind fun
      | (.ok (), pushed) => (pushed.tallyAll kind rest).bind fun tally =>
        .done { tally with taken := ⟨kind, chunk⟩ :: tally.taken }
      | (.error error, failed) => .done ⟨[], .error error, failed⟩

/-- Queue data or metadata like `writeKind`, and tell which packets were accepted. -/
def tallyKind (pipe : OutputPipe) (data : Bytes) (kind : PacketKind) : Call Tally :=
  if pipe.isOpen then pipe.tallyAll kind (pieces data) else .done ⟨[], .error .closed, pipe⟩

/-- Close like `close`, and tell whether the close packet was accepted. -/
def tallyClose (pipe : OutputPipe) : Call Tally :=
  if pipe.isOpen then
    (pipe.pushPacket [] .close).bind fun
      | (.ok (), pushed) =>
        pushed.flushStaging.bind fun (result, flushed) =>
          flushed.free.bind fun freed => .done ⟨[closing], result, freed⟩
      | (.error error, failed) => failed.free.bind fun freed => .done ⟨[], .error error, freed⟩
  else .done ⟨[], .ok (), pipe⟩

theorem tallyAll_outcome (kind : PacketKind) (chunks : List Bytes) :
    ((pipe.tallyAll kind chunks).bind fun tally => .done tally.outcome) =
      pipe.pushAll kind chunks := by
  induction chunks generalizing pipe with
  | nil => rfl
  | cons chunk rest ih =>
    rw [tallyAll, pushAll, Call.bind_assoc]
    congr 1
    funext value
    obtain ⟨result, pushed⟩ := value
    cases result with
    | error error => rfl
    | ok => exact (Call.bind_assoc ..).trans ih

theorem tallyKind_outcome (data : Bytes) (kind : PacketKind) :
    ((pipe.tallyKind data kind).bind fun tally => .done tally.outcome) =
      pipe.writeKind data kind := by
  rw [tallyKind, writeKind]
  split
  · exact tallyAll_outcome kind (pieces data)
  · rfl

theorem tallyClose_outcome :
    (pipe.tallyClose.bind fun tally => .done tally.outcome) = pipe.close := by
  rw [tallyClose, close]
  split
  · rw [Call.bind_assoc]
    congr 1
    funext value
    obtain ⟨result, pushed⟩ := value
    cases result with
    | error error => exact Call.bind_assoc ..
    | ok =>
      rw [Call.bind_assoc]
      congr 1
      funext value
      exact Call.bind_assoc ..
  · rfl

end OutputPipe

/-- The call that serves a request, and tells which of its pieces were accepted. -/
def Request.tally (pipe : OutputPipe) : Request → Call Tally
  | .write data => pipe.tallyKind data .data
  | .metadata data => pipe.tallyKind data .metadata
  | .flush => pipe.flush.bind fun (result, flushed) => .done ⟨[], result, flushed⟩
  | .close => pipe.tallyClose

/-- Telling what was accepted changes nothing about the call. -/
theorem Request.tally_outcome (pipe : OutputPipe) (request : Request) :
    ((request.tally pipe).bind fun tally => .done tally.outcome) = request.call pipe := by
  cases request with
  | write data | metadata data => exact OutputPipe.tallyKind_outcome data _
  | flush =>
    rw [Request.tally, Call.bind_assoc]
    exact Call.bind_done _
  | close => exact OutputPipe.tallyClose_outcome

theorem Request.course_call (pipe : OutputPipe) (request : Request) (acks : Nat → Bool)
    (waits : Nat) : (request.call pipe).course acks waits =
      ⟨((request.tally pipe).course acks waits).marks,
        ((request.tally pipe).course acks waits).value.outcome⟩ := by
  rw [← request.tally_outcome pipe, Call.course_map]

structure Served where
  request : Request
  wasOpen : Bool
  taken : List Piece
  result : Except NodeError Unit

/-- A pipe after requests, everything that is on record, and what came of each request. -/
structure Transcript where
  pipe : OutputPipe
  marks : List Call.Mark := []
  served : List Served := []

namespace Transcript

def waits (transcript : Transcript) : Nat := transcript.marks.countP Call.Mark.isWait

def accepted (transcript : Transcript) : List Piece := transcript.served.flatMap Served.taken

def serve (acks : Nat → Bool) (transcript : Transcript) (request : Request) : Transcript :=
  let pipe := transcript.pipe
  let course := (request.call pipe).course acks transcript.waits
  let tally := ((request.tally pipe).course acks transcript.waits).value
  { pipe := course.value.2
    marks := transcript.marks ++ course.marks
    served := transcript.served ++ [⟨request, pipe.isOpen, tally.taken, course.value.1⟩] }

/-- Make requests of a fresh pipe, when it is given which waits are ended by the
acknowledgement. -/
def ofRequests (acks : Nat → Bool) (pipe : OutputPipe) (requests : List Request) : Transcript :=
  requests.foldl (serve acks) { pipe }

end Transcript

end PipeBus

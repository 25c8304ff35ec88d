import PipeBus.Proofs.Requests

/-! What a pipe may do, whatever its waits come to: the frames that a call may send, and the
values that it may end in. -/

namespace PipeBus

variable {α : Type}

namespace Call

/-- A frame that a call sends in some course of its waits. -/
inductive Sends : Call α → Frame → Prop where
  | here (frame : Frame) (next : Call α) : Sends (.send frame next) frame
  | send {next : Call α} {frame : Frame} (other : Frame) (later : Sends next frame) :
      Sends (.send other next) frame
  | arm {next : Call α} {frame : Frame} (crc : UInt16) (later : Sends next frame) :
      Sends (.arm crc next) frame
  | wait {next : Bool → Call α} {frame : Frame} (delay : Duration) (acked : Bool)
      (later : Sends (next acked) frame) : Sends (.wait delay next) frame
  | disarm {next : Call α} {frame : Frame} (later : Sends next frame) : Sends (.disarm next) frame
  | release {next : Call α} {frame : Frame} (later : Sends next frame) :
      Sends (.release next) frame

/-- A value that a call ends in for some course of its waits. -/
inductive Ends : Call α → α → Prop where
  | done (value : α) : Ends (.done value) value
  | send {next : Call α} {value : α} (frame : Frame) (later : Ends next value) :
      Ends (.send frame next) value
  | arm {next : Call α} {value : α} (crc : UInt16) (later : Ends next value) :
      Ends (.arm crc next) value
  | wait {next : Bool → Call α} {value : α} (delay : Duration) (acked : Bool)
      (later : Ends (next acked) value) : Ends (.wait delay next) value
  | disarm {next : Call α} {value : α} (later : Ends next value) : Ends (.disarm next) value
  | release {next : Call α} {value : α} (later : Ends next value) : Ends (.release next) value

end Call

/-- A pipe may only send pieces that it has accepted. -/
def Phase.Laden (accepted : List Piece) : Phase → Prop
  | .armed confirmed pieces | .flying confirmed pieces => Cargo accepted confirmed pieces
  | _ => True

namespace Call.Obeys

variable {device : UInt64} {port : UInt16} {accepted : List Piece} {phase : Phase}
  {post : Phase → α → Prop} {call : Call α} {frame : Frame} {value : α}

/-- Every frame that a call sends carries consecutive accepted pieces. -/
theorem sends (obeys : call.Obeys device port accepted post phase) (laden : phase.Laden accepted)
    (sends : call.Sends frame) :
    ∃ confirmed pieces, Cargo accepted confirmed pieces ∧
      frame = (carrier device port confirmed.length pieces).sealed := by
  induction obeys with
  | done _ => cases sends
  | arm cargo _ ih => cases sends with | arm _ later => exact ih cargo later
  | launch _ ih =>
    cases sends with
    | here => exact ⟨_, _, laden, rfl⟩
    | send _ later => exact ih laden later
  | relaunch _ ih =>
    cases sends with
    | here => exact ⟨_, _, laden, rfl⟩
    | send _ later => exact ih laden later
  | wait _ _ rung elapsed =>
    cases sends with
    | wait _ acked later =>
      cases acked with
      | true => exact rung trivial later
      | false => exact elapsed laden later
  | confirm _ ih => cases sends with | disarm later => exact ih trivial later
  | abandon _ ih => cases sends with | disarm later => exact ih trivial later
  | abort _ ih => cases sends with | disarm later => exact ih trivial later
  | leave _ ih => cases sends with | release later => exact ih trivial later
  | giveUp _ ih => cases sends with | release later => exact ih trivial later

theorem ends (obeys : call.Obeys device port accepted post phase) (ends : call.Ends value) :
    ∃ later, post later value := by
  induction obeys with
  | done holds =>
    cases ends
    exact ⟨_, holds⟩
  | arm _ _ ih => cases ends with | arm _ later => exact ih later
  | launch _ ih => cases ends with | send _ later => exact ih later
  | relaunch _ ih => cases ends with | send _ later => exact ih later
  | wait _ _ rung elapsed =>
    cases ends with
    | wait _ acked later =>
      cases acked with
      | true => exact rung later
      | false => exact elapsed later
  | confirm _ ih => cases ends with | disarm later => exact ih later
  | abandon _ ih => cases ends with | disarm later => exact ih later
  | abort _ ih => cases ends with | disarm later => exact ih later
  | leave _ ih => cases ends with | release later => exact ih later
  | giveUp _ ih => cases ends with | release later => exact ih later

end Call.Obeys

namespace OutputPipe

variable {device : UInt64} {port : UInt16} {pipe : OutputPipe} {frame : Frame}

/-- A pipe that has served requests other than a close, whatever its waits came to. -/
inductive Written (device : UInt64) (port : UInt16) : OutputPipe → Prop where
  | fresh (ack : AckHandle) (retry : RetryPolicy) :
      Written device port (create device port ack retry)
  | served {pipe later : OutputPipe} {request : Request} {result : Except NodeError Unit}
      (before : Written device port pipe) (other : request ≠ .close)
      (ends : (request.call pipe).Ends (result, later)) : Written device port later

/-- A frame that such a pipe may send while it serves one more request. -/
def Emits (device : UInt64) (port : UInt16) (frame : Frame) : Prop :=
  ∃ (pipe : OutputPipe) (request : Request), Written device port pipe ∧ request ≠ .close ∧
    (request.call pipe).Sends frame

theorem Written.rests (written : Written device port pipe) :
    ∃ ack accepted phase, pipe.Rests ack device port accepted phase ∧ phase.Laden accepted ∧
      ∀ piece ∈ accepted, piece.kind ≠ .close := by
  induction written with
  | fresh ack retry =>
    have plain : ∀ piece ∈ ([] : List Piece), piece.kind ≠ .close := List.forall_mem_nil _
    exact ⟨ack, [], .resting [], .isOpen rfl plain (stages_create device port ack retry), trivial,
      plain⟩
  | @served before later request result _ other ends ih =>
    obtain ⟨ack, accepted, phase, rests, _, plain⟩ := ih
    obtain ⟨after, still⟩ := (rests.call request).ends ends
    refine ⟨ack, _, after, still, ?_, fun piece member => ?_⟩
    · cases still <;> trivial
    · rcases List.mem_append.mp member with old | new
      · exact plain piece old
      · exact Request.opens_of_mem_pieces request other new

/-- A frame that is sent carries consecutive pieces, none of which is a close. -/
theorem Emits.carrier (emits : Emits device port frame) :
    ∃ accepted confirmed pieces, Cargo accepted confirmed pieces ∧
      (∀ piece ∈ pieces, piece.kind ≠ .close) ∧
      frame = (carrier device port confirmed.length pieces).sealed := by
  obtain ⟨pipe, request, written, other, sends⟩ := emits
  obtain ⟨ack, accepted, phase, rests, laden, plain⟩ := written.rests
  have further : phase.Laden (accepted ++ request.pieces) := by cases rests <;> trivial
  obtain ⟨confirmed, pieces, cargo, rfl⟩ := (rests.call request).sends further sends
  refine ⟨_, confirmed, pieces, cargo, fun piece member => ?_, rfl⟩
  rcases List.mem_append.mp (cargo.within.subset (List.mem_append_right _ member)) with old | new
  · exact plain piece old
  · exact Request.opens_of_mem_pieces request other new

/-- The pipe after requests that are served without waiting. -/
def atOnce (pipe : OutputPipe) : List Request → Option OutputPipe
  | [] => some pipe
  | request :: rest =>
    match request.call pipe with
    | .done (_, later) => later.atOnce rest
    | _ => none

theorem Written.atOnce {later : OutputPipe} {requests : List Request}
    (written : Written device port pipe) (other : ∀ request ∈ requests, request ≠ .close)
    (served : pipe.atOnce requests = some later) : Written device port later := by
  induction requests generalizing pipe with
  | nil =>
    cases served
    exact written
  | cons request rest ih =>
    rw [OutputPipe.atOnce] at served
    split at served
    · rename_i result next reached
      have ends : (request.call pipe).Ends (result, next) := reached ▸ .done _
      exact ih (.served written (other request (List.mem_cons_self ..)) ends)
        (fun one member => other one (List.mem_cons_of_mem _ member)) served
    · cases served

theorem flush_sends (isOpen : pipe.isOpen = true) (staged : pipe.staging = some frame)
    (patient : pipe.retry.delays ≠ []) : (Request.flush.call pipe).Sends frame.sealed := by
  rw [Request.call, flush, if_pos isOpen, flushStaging, staged]
  cases delays : pipe.retry.delays with
  | nil => exact absurd delays patient
  | cons delay rest => exact .arm _ (.here _ _)

end OutputPipe

end PipeBus

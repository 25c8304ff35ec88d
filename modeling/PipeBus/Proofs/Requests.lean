import PipeBus.Proofs.Operations

/-! What a writer asks of a pipe, and what a pipe is between two requests. -/

namespace PipeBus

/-- A request to an output pipe. -/
inductive Request where
  | write (data : Bytes)
  | metadata (data : Bytes)
  | flush
  | close
  deriving DecidableEq

namespace Request

def call (pipe : OutputPipe) : Request → Call (Except NodeError Unit × OutputPipe)
  | .write data => pipe.write data
  | .metadata data => pipe.writeMeta data
  | .flush => pipe.flush
  | .close => pipe.close

def pieces : Request → List Piece
  | .write data => OutputPipe.ofKind .data (OutputPipe.pieces data)
  | .metadata data => OutputPipe.ofKind .metadata (OutputPipe.pieces data)
  | .flush => []
  | .close => [OutputPipe.closing]

variable {piece : Piece}

theorem opens_of_mem_pieces (request : Request) (other : request ≠ .close)
    (member : piece ∈ request.pieces) :
    piece.kind ≠ .close := by
  cases request with
  | write data | metadata data =>
    obtain ⟨chunk, inside, rfl⟩ := List.mem_map.mp member
    exact nofun
  | flush => cases member
  | close => exact absurd rfl other

end Request

namespace OutputPipe

variable {pipe : OutputPipe} {ack : AckHandle} {device : UInt64} {port : UInt16}
  {accepted : List Piece}

/-- A pipe that no call is made of: open, with some of the accepted pieces acknowledged and the
others staged, or gone. -/
inductive Rests (ack : AckHandle) (device : UInt64) (port : UInt16) (accepted : List Piece) :
    Phase → OutputPipe → Prop where
  | isOpen {pipe : OutputPipe} {confirmed staged : List Piece}
      (whole : confirmed ++ staged = accepted)
      (opens : ∀ piece ∈ accepted, piece.kind ≠ .close)
      (stages : pipe.Stages ack device port confirmed staged) :
      Rests ack device port accepted (.resting confirmed) pipe
  | closed {pipe : OutputPipe} {confirmed pieces : List Piece}
      (handle : pipe.ack = ack) (shut : pipe.isOpen = false) :
      Rests ack device port accepted (.gone confirmed pieces) pipe

theorem call_of_closed (request : Request) (shut : pipe.isOpen = false) :
    request.call pipe = .done (if request = .close then .ok () else .error .closed, pipe) := by
  cases request <;>
    simp [Request.call, write, writeMeta, writeKind, flush, close, shut]

theorem Accepts.rests {phase : Phase} {value : Except NodeError Unit × OutputPipe}
    (accepts : Accepts ack device port accepted phase value)
    (opens : ∀ piece ∈ accepted, piece.kind ≠ .close) :
    value.2.Rests ack device port accepted phase := by
  obtain ⟨_ | ⟨⟨⟩⟩, later⟩ := value
  · obtain ⟨⟨confirmed, pieces, rfl⟩, handle, shut⟩ := accepts
    exact .closed handle shut
  · obtain ⟨confirmed, staged, rfl, whole, stages⟩ := accepts
    exact .isOpen whole opens stages

theorem Closes.rests {phase : Phase} {value : Except NodeError Unit × OutputPipe}
    (closes : Closes ack accepted phase value) :
    value.2.Rests ack device port accepted phase := by
  obtain ⟨_ | ⟨⟨⟩⟩, later⟩ := value
  · obtain ⟨⟨confirmed, pieces, rfl⟩, handle, shut⟩ := closes
    exact .closed handle shut
  · obtain ⟨rfl, handle, shut⟩ := closes
    exact .closed handle shut

/-- Serving a request keeps to the protocol and leaves the pipe at rest. -/
theorem Rests.call {phase : Phase} (request : Request)
    (rests : pipe.Rests ack device port accepted phase) :
    (request.call pipe).Obeys device port (accepted ++ request.pieces)
      (fun later value => value.2.Rests ack device port (accepted ++ request.pieces) later)
      phase := by
  cases rests with
  | closed handle shut =>
    rw [call_of_closed request shut]
    exact .done (.closed handle shut)
  | isOpen whole opens stages =>
    subst whole
    cases request with
    | write data =>
      apply (writeKind_obeys data (by decide) stages opens).mono (List.prefix_refl _)
      intro later value accepts
      apply accepts.rests
      intro piece member
      rcases List.mem_append.mp member with old | new
      · exact opens piece old
      · exact Request.opens_of_mem_pieces (.write data) nofun new
    | metadata data =>
      apply (writeKind_obeys data (by decide) stages opens).mono (List.prefix_refl _)
      intro later value accepts
      apply accepts.rests
      intro piece member
      rcases List.mem_append.mp member with old | new
      · exact opens piece old
      · exact Request.opens_of_mem_pieces (.metadata data) nofun new
    | flush =>
      rw [Request.pieces, List.append_nil]
      apply (flush_obeys stages).mono (List.prefix_refl _)
      intro later value delivers
      exact delivers.accepts.rests opens
    | close =>
      apply (close_obeys stages opens).mono (List.prefix_refl _)
      intro later value closes
      exact closes.rests

end OutputPipe

end PipeBus

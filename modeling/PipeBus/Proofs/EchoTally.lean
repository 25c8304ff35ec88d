import PipeBus.Echo.Basic
import PipeBus.Proofs.Branches
import PipeBus.Proofs.Course

/-! The calls of the echo worker, told apart by what the pipe of a connection accepts of a request:
pieces of it from the first on, and all of them unless the call comes to an error. -/

namespace PipeBus

variable {α β : Type}

namespace Call

theorem Ends.of_bind {call : Call α} {next : α → Call β} {value : β}
    (ends : (call.bind next).Ends value) :
    ∃ middle, call.Ends middle ∧ (next middle).Ends value := by
  induction call with
  | done middle => exact ⟨middle, .done middle, ends⟩
  | arm crc rest ih =>
    cases ends with
    | arm _ later =>
      obtain ⟨middle, first, second⟩ := ih later
      exact ⟨middle, .arm crc first, second⟩
  | send frame rest ih =>
    cases ends with
    | send _ later =>
      obtain ⟨middle, first, second⟩ := ih later
      exact ⟨middle, .send frame first, second⟩
  | wait delay rest ih =>
    cases ends with
    | wait _ acked later =>
      obtain ⟨middle, first, second⟩ := ih acked later
      exact ⟨middle, .wait delay acked first, second⟩
  | disarm rest ih =>
    cases ends with
    | disarm later =>
      obtain ⟨middle, first, second⟩ := ih later
      exact ⟨middle, .disarm first, second⟩
  | release rest ih =>
    cases ends with
    | release later =>
      obtain ⟨middle, first, second⟩ := ih later
      exact ⟨middle, .release first, second⟩

theorem Ends.eq_of_done {value other : α} (ends : (Call.done other).Ends value) :
    value = other := by
  cases ends
  rfl

theorem Ends.of_expire {call : Call α} {value : α} (ends : call.expire.Ends value) :
    call.Ends value := by
  cases call with
  | wait delay next => exact .wait delay false ends
  | done | arm | send | disarm | release => exact ends

/-- What a call ends in that has been performed for a while, the whole call ends in. -/
theorem Ends.of_perform {σ κ : Type} (link : NodeLink σ κ) (ack : AckHandle) {call : Call α}
    {state : σ} {value : α} (ends : (link.perform ack call state).1.Ends value) :
    call.Ends value := by
  induction call generalizing state with
  | done other => exact ends
  | arm crc next ih => exact .arm crc (ih ends)
  | send frame next ih => exact .send frame (ih ends)
  | wait delay next ih =>
    rw [NodeLink.perform] at ends
    split at ends
    · exact .wait delay true (ih true ends)
    · exact ends
  | disarm next ih => exact .disarm (ih ends)
  | release next ih => exact .release (ih ends)

/-- The same call, whose value is changed in the end. -/
def map (change : α → β) (call : Call α) : Call β := call.bind fun value => .done (change value)

theorem expire_map (change : α → β) (call : Call α) :
    (call.map change).expire = call.expire.map change := by
  cases call <;> rfl

theorem perform_map {σ κ : Type} (link : NodeLink σ κ) (ack : AckHandle) (change : α → β)
    (call : Call α) (state : σ) :
    link.perform ack (call.map change) state =
      ((link.perform ack call state).1.map change, (link.perform ack call state).2) := by
  induction call generalizing state with
  | done value => rfl
  | arm crc next ih => exact ih _
  | send frame next ih => exact ih _
  | wait delay next ih =>
    rw [map, bind, NodeLink.perform, NodeLink.perform]
    split
    · exact ih true _
    · rfl
  | disarm next ih => exact ih _
  | release next ih => exact ih _

end Call

namespace EchoRequest

/-- The data that a request has written back. -/
def bytes : EchoRequest → Bytes
  | .echo data => data
  | .finish | .fail _ => []

def stage : EchoRequest → EchoStage
  | .echo data => .echoing data.length
  | .fail _ => .reporting
  | .finish => .closing

/-- What a request has written to the pipe of its connection. -/
def pieces : EchoRequest → List Piece
  | .echo data => OutputPipe.ofKind .data (OutputPipe.pieces data)
  | .fail error => OutputPipe.ofKind .metadata [EchoStatus.encode ⟨0, error⟩]
  | .finish => [OutputPipe.closing]

def call (output : OutputPipe) : EchoRequest → Call (Except NodeError Unit × OutputPipe)
  | .echo data => output.writeThrough data
  | .fail error => output.writeMeta (EchoStatus.encode ⟨0, error⟩)
  | .finish => output.close

/-- The same call, that tells what the pipe has accepted. -/
def tally (output : OutputPipe) : EchoRequest → Call Tally
  | .echo data =>
    (output.tallyKind data .data).bind fun tally =>
      match tally.result with
      | .ok () =>
        tally.pipe.flush.bind fun (result, flushed) => .done ⟨tally.taken, result, flushed⟩
      | .error _ => .done tally
  | .fail error => output.tallyKind (EchoStatus.encode ⟨0, error⟩) .metadata
  | .finish => output.tallyClose

/-- Telling what was accepted changes nothing about the call. -/
theorem tally_outcome (output : OutputPipe) (request : EchoRequest) :
    (request.tally output).map Tally.outcome = request.call output := by
  cases request with
  | fail error => exact OutputPipe.tallyKind_outcome _ _
  | finish => exact OutputPipe.tallyClose_outcome
  | echo data =>
    rw [call, OutputPipe.writeThrough, OutputPipe.write, ← OutputPipe.tallyKind_outcome, Call.map,
      tally, Call.bind_assoc, Call.bind_assoc]
    congr 1
    funext tally
    obtain ⟨taken, _ | ⟨⟨⟩⟩, pipe⟩ := tally
    · rfl
    · exact (Call.bind_assoc ..).trans (Call.bind_done _)

/-- What a pipe accepts of a request are pieces of it from the first on, and all of them when data
is written back without an error. -/
structure Fair (request : EchoRequest) (tally : Tally) : Prop where
  within : tally.taken <+: request.pieces
  whole : tally.result = .ok () → request.stage ≠ .closing → tally.taken = request.pieces

end EchoRequest

namespace OutputPipe

variable {pipe : OutputPipe} {kind : PacketKind} {tally : Tally}

theorem tallyAll_fair {chunks : List Bytes} (ends : (pipe.tallyAll kind chunks).Ends tally) :
    tally.taken <+: ofKind kind chunks ∧
      (tally.result = .ok () → tally.taken = ofKind kind chunks) := by
  induction chunks generalizing pipe tally with
  | nil =>
    obtain rfl := ends.eq_of_done
    exact ⟨List.prefix_refl _, fun _ => rfl⟩
  | cons chunk rest ih =>
    obtain ⟨⟨_ | ⟨⟨⟩⟩, pushed⟩, _, further⟩ := ends.of_bind
    · obtain rfl := further.eq_of_done
      exact ⟨List.nil_prefix, nofun⟩
    · obtain ⟨later, before, last⟩ := further.of_bind
      obtain rfl := last.eq_of_done
      obtain ⟨within, whole⟩ := ih before
      exact ⟨(List.prefix_cons_inj _).mpr within, fun well => congrArg _ (whole well)⟩

theorem tallyKind_fair {data : Bytes} (ends : (pipe.tallyKind data kind).Ends tally) :
    tally.taken <+: ofKind kind (pieces data) ∧
      (tally.result = .ok () → tally.taken = ofKind kind (pieces data)) := by
  rw [tallyKind] at ends
  split at ends
  · exact tallyAll_fair ends
  · obtain rfl := ends.eq_of_done
    refine ⟨List.nil_prefix, fun well => ?_⟩
    cases well

theorem tallyClose_fair (ends : pipe.tallyClose.Ends tally) : tally.taken <+: [closing] := by
  rw [tallyClose] at ends
  split at ends
  · obtain ⟨⟨_ | ⟨⟨⟩⟩, pushed⟩, _, further⟩ := ends.of_bind
    · obtain ⟨freed, _, last⟩ := further.of_bind
      obtain rfl := last.eq_of_done
      exact List.nil_prefix
    · obtain ⟨flushed, _, more⟩ := further.of_bind
      obtain ⟨freed, _, last⟩ := more.of_bind
      obtain rfl := last.eq_of_done
      exact List.prefix_refl _
  · obtain rfl := ends.eq_of_done
    exact List.nil_prefix

end OutputPipe

theorem EchoStatus.pieces_encode (status : EchoStatus) :
    OutputPipe.pieces status.encode = [status.encode] := by
  have size : status.encode.length = length := by
    rw [encode, List.length_append, Wire.word32, Wire.word32, Wire.length_encode,
      Wire.length_encode]
    rfl
  refine OutputPipe.pieces_of_short (List.length_pos_iff.mp ?_) ?_ <;> rw [size] <;> decide

theorem EchoRequest.tally_fair {request : EchoRequest} {output : OutputPipe} {tally : Tally}
    (ends : (request.tally output).Ends tally) : request.Fair tally := by
  cases request with
  | echo data =>
    obtain ⟨first, before, last⟩ := ends.of_bind
    obtain ⟨within, whole⟩ := OutputPipe.tallyKind_fair before
    obtain ⟨taken, result, pipe⟩ := first
    cases result with
    | error error =>
      obtain rfl := last.eq_of_done
      exact ⟨within, fun well _ => whole well⟩
    | ok =>
      obtain ⟨flushed, _, final⟩ := last.of_bind
      obtain rfl := final.eq_of_done
      exact ⟨within, fun _ _ => whole rfl⟩
  | fail error =>
    obtain ⟨within, whole⟩ := OutputPipe.tallyKind_fair ends
    rw [EchoStatus.pieces_encode] at within whole
    exact ⟨within, fun well _ => whole well⟩
  | finish => exact ⟨OutputPipe.tallyClose_fair ends, fun _ other => absurd rfl other⟩

end PipeBus

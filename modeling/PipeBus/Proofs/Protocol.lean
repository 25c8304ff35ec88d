import PipeBus.Proofs.Pieces

/-! The protocol of an output pipe. A pipe arms its waiter for a frame of consecutive pieces,
sends that frame until a wait succeeds, and disarms; only then does it arm for the pieces that
follow. A pipe that never gets its acknowledgement gives its waiter up. -/

namespace PipeBus

variable {α β : Type}

/-- How far a pipe is. The pieces in front have been acknowledged; those after them are the ones
of the frame that the pipe is busy with, or has been lost with. -/
inductive Phase where
  | resting (confirmed : List Piece)
  /-- The waiter expects an acknowledgement, and nothing has been sent. -/
  | armed (confirmed pieces : List Piece)
  | flying (confirmed pieces : List Piece)
  /-- The acknowledgement is there. -/
  | landed (confirmed pieces : List Piece)
  /-- The pipe no longer waits for an acknowledgement. -/
  | lost (confirmed pieces : List Piece)
  /-- The waiter has been given up. -/
  | gone (confirmed pieces : List Piece)

def Phase.Held : Phase → Prop
  | .gone _ _ => False
  | _ => True

/-- Consecutive pieces that a pipe may put in one frame, out of all that it has accepted. Nothing
follows a close. -/
structure Cargo (accepted confirmed pieces : List Piece) : Prop where
  nonempty : pieces ≠ []
  short : ∀ piece ∈ pieces, piece.data.length ≤ maxPacketData
  room : (laid 0 0 pieces).length ≤ maxPayload
  within : confirmed ++ pieces <+: accepted
  opens : ∀ piece ∈ (confirmed ++ pieces).dropLast, piece.kind ≠ .close

/-- A call that keeps to the protocol from some phase on, whatever its waits come to. -/
inductive Call.Obeys (device : UInt64) (port : UInt16) (accepted : List Piece)
    (post : Phase → α → Prop) : Phase → Call α → Prop where
  | done {phase : Phase} {value : α} (ends : post phase value) :
      Obeys device port accepted post phase (.done value)
  | arm {confirmed pieces : List Piece} {next : Call α} (cargo : Cargo accepted confirmed pieces)
      (rest : Obeys device port accepted post (.armed confirmed pieces) next) :
      Obeys device port accepted post (.resting confirmed)
        (.arm (carrier device port confirmed.length pieces).sealed.crc next)
  | launch {confirmed pieces : List Piece} {next : Call α}
      (rest : Obeys device port accepted post (.flying confirmed pieces) next) :
      Obeys device port accepted post (.armed confirmed pieces)
        (.send (carrier device port confirmed.length pieces).sealed next)
  | relaunch {confirmed pieces : List Piece} {next : Call α}
      (rest : Obeys device port accepted post (.flying confirmed pieces) next) :
      Obeys device port accepted post (.flying confirmed pieces)
        (.send (carrier device port confirmed.length pieces).sealed next)
  | wait {confirmed pieces : List Piece} {delay : Duration} {next : Bool → Call α}
      (rung : Obeys device port accepted post (.landed confirmed pieces) (next true))
      (elapsed : Obeys device port accepted post (.flying confirmed pieces) (next false)) :
      Obeys device port accepted post (.flying confirmed pieces) (.wait delay next)
  | confirm {confirmed pieces : List Piece} {next : Call α}
      (rest : Obeys device port accepted post (.resting (confirmed ++ pieces)) next) :
      Obeys device port accepted post (.landed confirmed pieces) (.disarm next)
  | abandon {confirmed pieces : List Piece} {next : Call α}
      (rest : Obeys device port accepted post (.lost confirmed pieces) next) :
      Obeys device port accepted post (.flying confirmed pieces) (.disarm next)
  | abort {confirmed pieces : List Piece} {next : Call α}
      (rest : Obeys device port accepted post (.lost confirmed pieces) next) :
      Obeys device port accepted post (.armed confirmed pieces) (.disarm next)
  | leave {confirmed : List Piece} {next : Call α}
      (rest : Obeys device port accepted post (.gone confirmed []) next) :
      Obeys device port accepted post (.resting confirmed) (.release next)
  | giveUp {confirmed pieces : List Piece} {next : Call α}
      (rest : Obeys device port accepted post (.gone confirmed pieces) next) :
      Obeys device port accepted post (.lost confirmed pieces) (.release next)

namespace Call.Obeys

variable {device : UInt64} {port : UInt16} {accepted : List Piece} {phase : Phase}
  {post : Phase → α → Prop} {other : Phase → β → Prop} {call : Call α}

theorem bind {next : α → Call β} (obeys : call.Obeys device port accepted post phase)
    (continues : ∀ later value, post later value →
      (next value).Obeys device port accepted other later) :
    (call.bind next).Obeys device port accepted other phase := by
  induction obeys with
  | done ends => exact continues _ _ ends
  | arm cargo _ ih => exact .arm cargo ih
  | launch _ ih => exact .launch ih
  | relaunch _ ih => exact .relaunch ih
  | wait _ _ rung elapsed => exact .wait rung elapsed
  | confirm _ ih => exact .confirm ih
  | abandon _ ih => exact .abandon ih
  | abort _ ih => exact .abort ih
  | leave _ ih => exact .leave ih
  | giveUp _ ih => exact .giveUp ih

theorem mono {further : Phase → α → Prop} {more : List Piece}
    (obeys : call.Obeys device port accepted post phase) (grows : accepted <+: more)
    (weaker : ∀ later value, post later value → further later value) :
    call.Obeys device port more further phase := by
  induction obeys with
  | done ends => exact .done (weaker _ _ ends)
  | arm cargo _ ih => exact .arm { cargo with within := cargo.within.trans grows } ih
  | launch _ ih => exact .launch ih
  | relaunch _ ih => exact .relaunch ih
  | wait _ _ rung elapsed => exact .wait rung elapsed
  | confirm _ ih => exact .confirm ih
  | abandon _ ih => exact .abandon ih
  | abort _ ih => exact .abort ih
  | leave _ ih => exact .leave ih
  | giveUp _ ih => exact .giveUp ih

end Call.Obeys

/-- A piece takes as many bytes as any other with as much data. -/
theorem length_laid (port other : UInt16) (number place : Nat) (pieces : List Piece) :
    (laid port number pieces).length = (laid other place pieces).length := by
  induction pieces generalizing number place with
  | nil => rfl
  | cons piece pieces ih =>
    rw [laid, laid, List.length_append, List.length_append, Frame.length_packetBytes,
      Frame.length_packetBytes, ih (number + 1) (place + 1)]

theorem length_laid_mod (port : UInt16) (number : Nat) (pieces : List Piece) :
    (laid port number pieces).length % 4 = 0 := by
  induction pieces generalizing number with
  | nil => rfl
  | cons piece pieces ih =>
    have rest := ih (number + 1)
    rw [laid, List.length_append, Frame.length_packetBytes, Frame.stride, align4]
    omega

/-- A frame has room for less than one round of the counter when nothing but a close is empty. -/
theorem Cargo.length_lt {accepted confirmed pieces : List Piece}
    (cargo : Cargo accepted confirmed pieces)
    (nonempty : ∀ piece ∈ accepted, piece.kind ≠ .close → piece.data ≠ []) :
    pieces.length < 32 := by
  have ends := List.dropLast_concat_getLast cargo.nonempty
  have filled : ∀ piece ∈ pieces.dropLast, piece.data ≠ [] := by
    intro piece member
    refine nonempty piece (cargo.within.subset ?_) (cargo.opens piece ?_)
    · exact List.mem_append_right _ (List.dropLast_subset _ member)
    · rw [List.dropLast_append_of_ne_nil cargo.nonempty]
      exact List.mem_append_right _ member
  have wide := length_laid_ge 0 0 pieces.dropLast filled
  have room := cargo.room
  rw [← ends, laid_append, List.length_append] at room
  have count : pieces.dropLast.length = pieces.length - 1 := List.length_dropLast
  simp only [maxPayload] at room
  omega

end PipeBus

import PipeBus.Proofs.Chunks
import PipeBus.Proofs.Protocol

/-! The operations of an output pipe keep to its protocol, and leave the pipe with what it has
accepted: some pieces acknowledged, the ones after them staged. -/

namespace PipeBus

namespace OutputPipe

variable {pipe : OutputPipe} {ack : AckHandle} {device : UInt64} {port : UInt16}
  {accepted confirmed staged : List Piece}

/-- An open pipe of whose pieces some have been acknowledged and some are staged. -/
structure Stages (pipe : OutputPipe) (ack : AckHandle) (device : UInt64) (port : UInt16)
    (confirmed staged : List Piece) : Prop where
  target : pipe.device = device
  handle : pipe.ack = ack
  isOpen : pipe.isOpen = true
  next : pipe.next = PipeWord.numbered port (confirmed ++ staged).length
  staging : pipe.staging =
    if staged = [] then none else some (carrier device port confirmed.length staged)
  short : ∀ piece ∈ staged, piece.data.length ≤ maxPacketData
  room : (laid 0 0 staged).length ≤ maxPayload
  opens : ∀ piece ∈ (confirmed ++ staged).dropLast, piece.kind ≠ .close

/-- What a call leaves behind that was to make a pipe accept pieces. -/
def Accepts (ack : AckHandle) (device : UInt64) (port : UInt16) (accepted : List Piece) :
    Phase → Except NodeError Unit × OutputPipe → Prop
  | phase, (.ok (), pipe) => ∃ confirmed staged, phase = .resting confirmed ∧
      confirmed ++ staged = accepted ∧ pipe.Stages ack device port confirmed staged
  | phase, (.error _, pipe) =>
    (∃ confirmed pieces, phase = .gone confirmed pieces) ∧ pipe.ack = ack ∧ pipe.isOpen = false

/-- What a call leaves behind that was to have all accepted pieces acknowledged. -/
def Delivers (ack : AckHandle) (device : UInt64) (port : UInt16) (accepted : List Piece) :
    Phase → Except NodeError Unit × OutputPipe → Prop
  | phase, (.ok (), pipe) =>
    phase = .resting accepted ∧ pipe.Stages ack device port accepted []
  | phase, (.error _, pipe) =>
    (∃ confirmed pieces, phase = .gone confirmed pieces) ∧ pipe.ack = ack ∧ pipe.isOpen = false

/-- What a call leaves behind that was to close a pipe. -/
def Closes (ack : AckHandle) (accepted : List Piece) :
    Phase → Except NodeError Unit × OutputPipe → Prop
  | phase, (.ok (), pipe) => phase = .gone accepted [] ∧ pipe.ack = ack ∧ pipe.isOpen = false
  | phase, (.error _, pipe) =>
    (∃ confirmed pieces, phase = .gone confirmed pieces) ∧ pipe.ack = ack ∧ pipe.isOpen = false

theorem Delivers.accepts {phase : Phase} {value : Except NodeError Unit × OutputPipe}
    (delivers : Delivers ack device port accepted phase value) :
    Accepts ack device port accepted phase value := by
  obtain ⟨_ | ⟨⟨⟩⟩, pipe⟩ := value
  · exact delivers
  · exact ⟨accepted, [], delivers.1, List.append_nil _, delivers.2⟩

theorem stages_create (device : UInt64) (port : UInt16) (ack : AckHandle) (retry : RetryPolicy) :
    (create device port ack retry).Stages ack device port [] [] where
  target := rfl
  handle := rfl
  isOpen := rfl
  next := (PipeWord.numbered_zero port).symm
  staging := rfl
  short := List.forall_mem_nil _
  room := by decide
  opens := List.forall_mem_nil _

namespace Stages

theorem stagingFrame (stages : pipe.Stages ack device port confirmed staged) :
    pipe.stagingFrame = carrier device port confirmed.length staged := by
  rw [OutputPipe.stagingFrame, stages.staging, stages.target]
  by_cases nothing : staged = []
  · rw [if_pos nothing, nothing]
    rfl
  · rw [if_neg nothing]
    rfl

/-- Whether one more piece has room depends on the bytes that it takes. -/
theorem remaining {piece : Piece} (stages : pipe.Stages ack device port confirmed staged) :
    packetHeader + piece.data.length > pipe.stagingFrame.remaining ↔
      maxPayload < (laid 0 0 (staged ++ [piece])).length := by
  have words := length_laid_mod 0 0 staged
  have room := stages.room
  rw [stages.stagingFrame, Frame.remaining, carrier, length_laid port 0 confirmed.length 0,
    laid_append, List.length_append, laid, laid, List.append_nil, Frame.length_packetBytes,
    Frame.stride, align4]
  simp only [maxPayload, packetHeader] at room ⊢
  omega

theorem stage? {piece : Piece} (stages : pipe.Stages ack device port confirmed staged)
    (opens : ∀ old ∈ confirmed ++ staged, old.kind ≠ .close)
    (short : piece.data.length ≤ maxPacketData)
    (room : (laid 0 0 (staged ++ [piece])).length ≤ maxPayload) :
    ∃ later, pipe.stage? piece.data piece.kind = some later ∧
      later.Stages ack device port confirmed (staged ++ [piece]) := by
  have enough := mt stages.remaining.mp (Nat.not_lt.mpr room)
  have pushed : pipe.stage? piece.data piece.kind =
      some { pipe with
        staging := some (carrier device port confirmed.length (staged ++ [piece]))
        next := pipe.next.advance } := by
    rw [OutputPipe.stage?, Frame.push?, if_neg enough, stages.stagingFrame, stages.next]
    simp [carrier, laid_append, laid, Piece.word]
  refine ⟨_, pushed, stages.target, stages.handle, stages.isOpen, ?_, ?_, ?_, room, ?_⟩
  · change pipe.next.advance = _
    rw [stages.next, PipeWord.advance_numbered]
    simp [Nat.add_assoc]
  · rw [if_neg (List.append_ne_nil_of_right_ne_nil _ (List.cons_ne_nil _ _))]
  · intro old member
    rcases List.mem_append.mp member with before | last
    · exact stages.short old before
    · rw [List.mem_singleton.mp last]
      exact short
  · rw [← List.append_assoc, List.dropLast_concat]
    exact opens

theorem stage?_eq_none {piece : Piece} (stages : pipe.Stages ack device port confirmed staged)
    (full : maxPayload < (laid 0 0 (staged ++ [piece])).length) :
    pipe.stage? piece.data piece.kind = none := by
  rw [OutputPipe.stage?, Frame.push?, if_pos (stages.remaining.mpr full), Option.map_none]

theorem emptied (stages : pipe.Stages ack device port confirmed staged) :
    { pipe with staging := none }.Stages ack device port (confirmed ++ staged) [] where
  target := stages.target
  handle := stages.handle
  isOpen := stages.isOpen
  next := by rw [List.append_nil]; exact stages.next
  staging := rfl
  short := List.forall_mem_nil _
  room := by decide
  opens := by rw [List.append_nil]; exact stages.opens

theorem cargo (stages : pipe.Stages ack device port confirmed staged)
    (within : confirmed ++ staged <+: accepted) (nonempty : staged ≠ []) :
    Cargo accepted confirmed staged where
  nonempty
  short := stages.short
  room := stages.room
  within
  opens := stages.opens

end Stages

/-- What sending the staged pieces comes to. -/
def Flushes (ack : AckHandle) (device : UInt64) (port : UInt16) (confirmed staged : List Piece) :
    Phase → Except NodeError Unit × OutputPipe → Prop
  | phase, (.ok (), pipe) => phase = .resting (confirmed ++ staged) ∧
      pipe.Stages ack device port (confirmed ++ staged) []
  | phase, (.error _, pipe) =>
    phase = .lost confirmed staged ∧ pipe.ack = ack ∧ pipe.isOpen = true

/-- Copies of a frame are sent until a wait succeeds. -/
theorem resend_obeys {α : Type} {post : Phase → α → Prop} {finish : Bool → Call α}
    (rung : (finish true).Obeys device port accepted post (.landed confirmed staged))
    (elapsed : (finish false).Obeys device port accepted post (.flying confirmed staged))
    (delays : List Duration) :
    (resend (carrier device port confirmed.length staged).sealed finish delays).Obeys device port
      accepted post (.flying confirmed staged) := by
  induction delays with
  | nil => exact elapsed
  | cons delay rest ih => exact .relaunch (.wait rung ih)

theorem flushStaging_obeys (stages : pipe.Stages ack device port confirmed staged)
    (within : confirmed ++ staged <+: accepted) :
    pipe.flushStaging.Obeys device port accepted (Flushes ack device port confirmed staged)
      (.resting confirmed) := by
  have empties := stages.emptied
  rw [flushStaging, stages.staging]
  by_cases nothing : staged = []
  · subst nothing
    rw [if_pos rfl]
    have plain : pipe.staging = none := stages.staging
    refine .done ⟨by rw [List.append_nil], ?_⟩
    cases pipe
    cases plain
    exact empties
  · rw [if_neg nothing]
    refine .arm (stages.cargo within nothing) ?_
    cases pipe.retry.delays with
    | nil => exact .abort (.done ⟨rfl, stages.handle, stages.isOpen⟩)
    | cons delay rest =>
      refine .launch (.wait ?_ (resend_obeys ?_ ?_ rest))
      · exact .confirm (.done ⟨rfl, empties⟩)
      · exact .confirm (.done ⟨rfl, empties⟩)
      · exact .abandon (.done ⟨rfl, stages.handle, stages.isOpen⟩)

theorem free_obeys {pieces : List Piece} (held : pipe.ack = ack) (isOpen : pipe.isOpen = true) :
    pipe.free.Obeys device port accepted
      (fun phase later => phase = .gone confirmed pieces ∧ later.ack = ack ∧ later.isOpen = false)
      (.lost confirmed pieces) := by
  rw [free, if_pos isOpen]
  exact .giveUp (.done ⟨rfl, held, rfl⟩)

/-- What became of pieces that a pipe was to accept after a frame of it was lost. -/
theorem freed_obeys {pieces : List Piece} {error : NodeError}
    {post : Phase → Except NodeError Unit × OutputPipe → Prop}
    (held : pipe.ack = ack) (isOpen : pipe.isOpen = true)
    (fails : ∀ later : OutputPipe, later.ack = ack → later.isOpen = false →
      post (.gone confirmed pieces) (.error error, later)) :
    (pipe.free.bind fun freed => .done (.error error, freed)).Obeys device port accepted post
      (.lost confirmed pieces) := by
  apply (free_obeys held isOpen).bind
  rintro _ later ⟨rfl, still, closed⟩
  exact .done (fails later still closed)

theorem room_alone {piece : Piece} (short : piece.data.length ≤ maxPacketData) :
    (laid 0 0 ([] ++ [piece])).length ≤ maxPayload := by
  rw [List.nil_append, laid, laid, List.append_nil, Frame.length_packetBytes, Frame.stride, align4]
  simp only [maxPayload, maxPacketData, packetHeader] at short ⊢
  omega

theorem pushPacket_obeys (piece : Piece)
    (stages : pipe.Stages ack device port confirmed staged)
    (opens : ∀ old ∈ confirmed ++ staged, old.kind ≠ .close)
    (short : piece.data.length ≤ maxPacketData) (within : confirmed ++ staged <+: accepted) :
    (pipe.pushPacket piece.data piece.kind).Obeys device port accepted
      (Accepts ack device port (confirmed ++ staged ++ [piece])) (.resting confirmed) := by
  rw [pushPacket, stageTurns, stageWithin]
  by_cases room : (laid 0 0 (staged ++ [piece])).length ≤ maxPayload
  · obtain ⟨later, pushed, after⟩ := stages.stage? opens short room
    rw [pushed]
    exact .done ⟨confirmed, staged ++ [piece], rfl, (List.append_assoc ..).symm, after⟩
  · -- Without room the staged pieces are sent first; the empty frame then has room for any piece.
    rw [stages.stage?_eq_none (Nat.not_le.mp room)]
    apply (flushStaging_obeys stages within).bind
    rintro phase ⟨_ | ⟨⟨⟩⟩, flushed⟩ flushes
    · obtain ⟨rfl, held, isOpen⟩ := flushes
      exact freed_obeys held isOpen fun later still closed => ⟨⟨_, _, rfl⟩, still, closed⟩
    · obtain ⟨rfl, empty⟩ := flushes
      obtain ⟨later, pushed, after⟩ := empty.stage?
        (by rwa [List.append_nil]) short (room_alone short)
      dsimp only
      rw [stageWithin, pushed]
      exact .done ⟨confirmed ++ staged, [piece], rfl, rfl, after⟩

def ofKind (kind : PacketKind) (chunks : List Bytes) : List Piece :=
  chunks.map fun data => ⟨kind, data⟩

theorem pushAll_obeys {kind : PacketKind} {chunks : List Bytes} (plain : kind ≠ .close)
    (stages : pipe.Stages ack device port confirmed staged)
    (opens : ∀ old ∈ confirmed ++ staged, old.kind ≠ .close)
    (short : ∀ chunk ∈ chunks, chunk.length ≤ maxPacketData) :
    (pipe.pushAll kind chunks).Obeys device port (confirmed ++ staged ++ ofKind kind chunks)
      (Accepts ack device port (confirmed ++ staged ++ ofKind kind chunks))
      (.resting confirmed) := by
  induction chunks generalizing pipe confirmed staged with
  | nil =>
    refine .done ⟨confirmed, staged, rfl, ?_, stages⟩
    rw [ofKind, List.map_nil, List.append_nil]
  | cons chunk rest ih =>
    have pushes := pushPacket_obeys ⟨kind, chunk⟩ stages opens
      (short chunk (List.mem_cons_self ..)) (List.prefix_append _ (ofKind kind (chunk :: rest)))
    apply pushes.bind
    rintro phase ⟨_ | ⟨⟨⟩⟩, pushed⟩ accepts
    · exact .done accepts
    · obtain ⟨before, after, rfl, same, further⟩ := accepts
      have still : ∀ old ∈ before ++ after, old.kind ≠ .close := by
        rw [same]
        intro old member
        rcases List.mem_append.mp member with earlier | last
        · exact opens old earlier
        · rw [List.mem_singleton.mp last]
          exact plain
      have remaining := ih further still fun other member =>
        short other (List.mem_cons_of_mem _ member)
      rw [same, List.append_assoc] at remaining
      exact remaining

theorem writeKind_obeys {kind : PacketKind} (data : Bytes) (plain : kind ≠ .close)
    (stages : pipe.Stages ack device port confirmed staged)
    (opens : ∀ old ∈ confirmed ++ staged, old.kind ≠ .close) :
    (pipe.writeKind data kind).Obeys device port
      (confirmed ++ staged ++ ofKind kind (pieces data))
      (Accepts ack device port (confirmed ++ staged ++ ofKind kind (pieces data)))
      (.resting confirmed) := by
  rw [writeKind, if_pos stages.isOpen]
  exact pushAll_obeys plain stages opens fun chunk member => length_of_mem_pieces member

theorem flush_obeys (stages : pipe.Stages ack device port confirmed staged) :
    pipe.flush.Obeys device port (confirmed ++ staged)
      (Delivers ack device port (confirmed ++ staged)) (.resting confirmed) := by
  rw [flush, if_pos stages.isOpen]
  apply (flushStaging_obeys stages (List.prefix_refl _)).bind
  rintro phase ⟨_ | ⟨⟨⟩⟩, flushed⟩ flushes
  · obtain ⟨rfl, held, isOpen⟩ := flushes
    exact freed_obeys held isOpen fun later still closed => ⟨⟨_, _, rfl⟩, still, closed⟩
  · exact .done flushes

def closing : Piece := ⟨.close, []⟩

/-- A pipe that is to be closed sends what it has staged and gives its waiter up. -/
theorem finish_obeys (stages : pipe.Stages ack device port confirmed staged) :
    (pipe.flushStaging.bind fun (result, flushed) =>
      flushed.free.bind fun freed => .done (result, freed)).Obeys device port (confirmed ++ staged)
      (Closes ack (confirmed ++ staged)) (.resting confirmed) := by
  apply (flushStaging_obeys stages (List.prefix_refl _)).bind
  rintro phase ⟨_ | ⟨⟨⟩⟩, flushed⟩ flushes
  · obtain ⟨rfl, held, isOpen⟩ := flushes
    exact freed_obeys held isOpen fun later still closed => ⟨⟨_, _, rfl⟩, still, closed⟩
  · obtain ⟨rfl, empty⟩ := flushes
    dsimp only
    rw [free, if_pos empty.isOpen]
    exact .leave (.done ⟨rfl, empty.handle, rfl⟩)

theorem close_obeys (stages : pipe.Stages ack device port confirmed staged)
    (opens : ∀ old ∈ confirmed ++ staged, old.kind ≠ .close) :
    pipe.close.Obeys device port (confirmed ++ staged ++ [closing])
      (Closes ack (confirmed ++ staged ++ [closing])) (.resting confirmed) := by
  rw [close, if_pos stages.isOpen]
  have pushes := pushPacket_obeys closing stages opens (by decide)
    (List.prefix_append _ [closing])
  apply pushes.bind
  rintro phase ⟨_ | ⟨⟨⟩⟩, pushed⟩ accepts
  · obtain ⟨⟨before, pieces, rfl⟩, held, closed⟩ := accepts
    dsimp only
    rw [free, closed, if_neg Bool.false_ne_true]
    exact .done ⟨⟨before, pieces, rfl⟩, held, closed⟩
  · obtain ⟨before, after, rfl, same, further⟩ := accepts
    rw [← same]
    exact finish_obeys further

theorem writeThrough_obeys (data : Bytes)
    (stages : pipe.Stages ack device port confirmed staged)
    (opens : ∀ old ∈ confirmed ++ staged, old.kind ≠ .close) :
    (pipe.writeThrough data).Obeys device port
      (confirmed ++ staged ++ ofKind .data (pieces data))
      (Delivers ack device port (confirmed ++ staged ++ ofKind .data (pieces data)))
      (.resting confirmed) := by
  apply (writeKind_obeys data (by decide) stages opens).bind
  rintro phase ⟨_ | ⟨⟨⟩⟩, written⟩ accepts
  · exact .done accepts
  · obtain ⟨before, after, rfl, same, further⟩ := accepts
    rw [← same]
    exact flush_obeys further

end OutputPipe

end PipeBus

import PipeBus.Proofs.Packing
import PipeBus.Proofs.Word

/-! The packets of a pipe. A pipe cuts what is written into pieces; consecutive pieces are
laid into frames with consecutive numbers, and a frame is met as exactly these packets. -/

namespace PipeBus

/-- What a pipe sends as one packet. -/
structure Piece where
  kind : PacketKind
  data : Bytes
  deriving DecidableEq

/-- What a receiver hears, apart from the frame that brought it. -/
inductive Heard where
  | data (bytes : Bytes)
  | metadata (bytes : Bytes)
  | eof
  deriving DecidableEq

def Delivery.heard : Delivery → Heard
  | .data packet => .data packet.data
  | .metadata packet => .metadata packet.data
  | .eof => .eof

def Heard.bytes : Heard → Bytes
  | .data bytes => bytes
  | .metadata _ | .eof => []

def Delivery.bytes (delivery : Delivery) : Bytes := delivery.heard.bytes

/-- What is heard of a piece: a close is a packet without data, followed by the end. -/
def Piece.heard (piece : Piece) : List Heard :=
  match piece.kind with
  | .data => [.data piece.data]
  | .metadata => [.metadata piece.data]
  | .close => [.data piece.data, .eof]

def Packet.word (packet : Packet) : PipeWord := ⟨packet.command⟩

/-- What an input pipe's receiver is told of an accepted packet. -/
def Packet.deliveries (packet : Packet) : List Delivery :=
  let word : PipeWord := ⟨packet.command⟩
  (if word.isMeta then .metadata packet else .data packet) :: if word.isClose then [.eof] else []

namespace Piece

def word (piece : Piece) (port : UInt16) (number : Nat) : PipeWord :=
  (PipeWord.numbered port number).ofKind piece.kind

/-- A packet brings a piece to a port of a device. -/
structure Carried (piece : Piece) (device : UInt64) (port : UInt16) (number : Nat)
    (packet : Packet) : Prop where
  device : packet.device = device
  isCommand : packet.isCommand = true
  targetsClass : packet.targetsClass = false
  service : packet.service = ServiceNumber.pipe
  word : PipeWord.mk packet.command = piece.word port number
  data : packet.data = piece.data

theorem Carried.heard {piece : Piece} {device : UInt64} {port : UInt16} {number : Nat}
    {packet : Packet} (carried : piece.Carried device port number packet) :
    packet.deliveries.map Delivery.heard = piece.heard := by
  obtain ⟨kind, data⟩ := piece
  simp only [Packet.deliveries, carried.word, Piece.word, PipeWord.isMeta_ofKind,
    PipeWord.isClose_ofKind]
  cases kind <;> simp [Piece.heard, Delivery.heard, carried.data]

theorem Carried.answered {piece : Piece} {device : UInt64} {port : UInt16} {number : Nat}
    {packet : Packet} (carried : piece.Carried device port number packet) :
    piece.Carried device port number packet.answered := by
  have kept (bit : UInt8) (other : ~~~Flag.ackRequested &&& bit = bit) :
      Flag.has packet.answered.flags bit = Flag.has packet.flags bit := by
    simp only [Flag.has, Packet.answered, UInt8.and_assoc, other]
  exact {
    device := carried.device
    isCommand := (kept Flag.command (by decide)).trans carried.isCommand
    targetsClass := (kept Flag.serviceClass (by decide)).trans carried.targetsClass
    service := carried.service
    word := carried.word
    data := carried.data }

end Piece

/-- Packets that bring consecutive pieces, the first of which has the given number. -/
inductive CarriedFrom (device : UInt64) (port : UInt16) :
    Nat → List Piece → List Packet → Prop where
  | nil {number : Nat} : CarriedFrom device port number [] []
  | cons {number : Nat} {piece : Piece} {pieces : List Piece} {packet : Packet}
      {packets : List Packet} (front : piece.Carried device port number packet)
      (rest : CarriedFrom device port (number + 1) pieces packets) :
      CarriedFrom device port number (piece :: pieces) (packet :: packets)

namespace CarriedFrom

variable {device : UInt64} {port : UInt16} {number : Nat} {pieces : List Piece}
  {packets : List Packet}

theorem answered (carried : CarriedFrom device port number pieces packets) :
    CarriedFrom device port number pieces (packets.map Packet.answered) := by
  induction carried with
  | nil => exact .nil
  | cons front _ ih => exact .cons front.answered ih

theorem met (carried : CarriedFrom device port number pieces packets) :
    CarriedFrom device port number pieces (Frame.met packets) := by
  cases carried with
  | nil => exact .nil
  | cons front rest => exact .cons front rest.answered

theorem length (carried : CarriedFrom device port number pieces packets) :
    packets.length = pieces.length := by
  induction carried with
  | nil => rfl
  | cons _ _ ih => simp [ih]

theorem heard (carried : CarriedFrom device port number pieces packets) :
    (packets.flatMap Packet.deliveries).map Delivery.heard = pieces.flatMap Piece.heard := by
  induction carried with
  | nil => rfl
  | cons front _ ih => simp [ih, front.heard]

/-- Any number of pieces in front leave the rest to the packets behind. -/
theorem split {before after : List Piece} (carried : CarriedFrom device port number
    (before ++ after) packets) :
    ∃ first second, packets = first ++ second ∧ CarriedFrom device port number before first ∧
      CarriedFrom device port (number + before.length) after second := by
  induction before generalizing number packets with
  | nil => exact ⟨[], packets, rfl, .nil, carried⟩
  | cons piece before ih =>
    cases carried with
    | cons front rest =>
      obtain ⟨first, second, rfl, left, right⟩ := ih rest
      refine ⟨_ :: first, second, rfl, .cons front left, ?_⟩
      rwa [List.length_cons, Nat.add_comm before.length, ← Nat.add_assoc]

end CarriedFrom

/-- Consecutive pieces as they stand in a payload. -/
def laid (port : UInt16) : Nat → List Piece → Bytes
  | _, [] => []
  | number, piece :: rest =>
    Frame.packetBytes ServiceNumber.pipe (piece.word port number).raw piece.data ++
      laid port (number + 1) rest

theorem laid_append (port : UInt16) (number : Nat) (before after : List Piece) :
    laid port number (before ++ after) =
      laid port number before ++ laid port (number + before.length) after := by
  induction before generalizing number with
  | nil => rfl
  | cons piece before ih =>
    rw [List.cons_append, laid, ih, laid, List.append_assoc, List.length_cons,
      Nat.add_comm before.length, Nat.add_assoc]

/-- The frame in which a pipe stages consecutive pieces. -/
def carrier (device : UInt64) (port : UInt16) (number : Nat) (pieces : List Piece) : Frame where
  device
  flags := Flag.command ||| Flag.ackRequested
  payload := laid port number pieces

theorem carried_packetsOf (device : UInt64) (flags : UInt8) (port : UInt16) (number : Nat)
    (pieces : List Piece) (command : Flag.has flags Flag.command = true)
    (notClass : Flag.has flags Flag.serviceClass = false)
    (short : ∀ piece ∈ pieces, piece.data.length ≤ maxPacketData) :
    CarriedFrom device port number pieces
      (Frame.packetsOf device flags (laid port number pieces)) := by
  induction pieces generalizing number with
  | nil =>
    rw [laid, Frame.packetsOf_nil]
    exact .nil
  | cons piece pieces ih =>
    have fits := short piece (by simp)
    simp only [maxPacketData, maxPayload, packetHeader] at fits
    rw [laid, Frame.packetsOf_packetBytes _ _ _ _ _ _ (by omega)]
    refine .cons ⟨rfl, command, notClass, rfl, rfl, rfl⟩ (ih (number + 1) ?_)
    intro other member
    exact short other (List.mem_cons_of_mem _ member)

theorem carried_packets (device : UInt64) (port : UInt16) (number : Nat) (pieces : List Piece)
    (short : ∀ piece ∈ pieces, piece.data.length ≤ maxPacketData) :
    CarriedFrom device port number pieces (carrier device port number pieces).sealed.packets :=
  carried_packetsOf device (Flag.command ||| Flag.ackRequested) port number pieces
    (by decide) (by decide) short

theorem carried_walk (device : UInt64) (port : UInt16) (number : Nat) (pieces : List Piece)
    (short : ∀ piece ∈ pieces, piece.data.length ≤ maxPacketData) :
    CarriedFrom device port number pieces (carrier device port number pieces).sealed.walk := by
  rw [Frame.walk_eq_met]
  exact (carried_packets device port number pieces short).met

/-- Every piece takes a header, and a piece with data takes at least four bytes more. -/
theorem length_laid_ge (port : UInt16) (number : Nat) (pieces : List Piece)
    (nonempty : ∀ piece ∈ pieces, piece.data ≠ []) :
    8 * pieces.length ≤ (laid port number pieces).length := by
  induction pieces generalizing number with
  | nil => simp
  | cons piece pieces ih =>
    have front : 0 < piece.data.length := List.length_pos_iff.mpr (nonempty piece (by simp))
    have rest := ih (number + 1) fun other member => nonempty other (List.mem_cons_of_mem _ member)
    have wide : 8 ≤ Frame.stride piece.data.length := by
      simp only [Frame.stride, align4, packetHeader]
      omega
    rw [laid, List.length_append, Frame.length_packetBytes, List.length_cons]
    omega

end PipeBus

import PipeBus.Proofs.Branches
import PipeBus.Proofs.Exchange

/-! A second copy of a frame. Its packets bear the counters of the first copy, which come round
after 32 packets: a frame with fewer packets is taken once, and of a frame with more packets the
last 32 are taken twice. -/

namespace PipeBus

variable {κ : Type}

/-- The next packet is awaited by its counter, which comes round. -/
theorem Registry.Expects.wrap {registry : Registry κ} {port : UInt16} {number : Nat} {id : SlotId}
    {sink : κ} (expects : registry.Expects port (number + 32) id sink) :
    registry.Expects port number id sink := by
  obtain ⟨word, found, counter⟩ := expects
  exact ⟨word, found, by rw [counter, Nat.add_mod_right]⟩

theorem length_laid_ge_words (port : UInt16) (number : Nat) (pieces : List Piece) :
    4 * pieces.length ≤ (laid port number pieces).length := by
  induction pieces generalizing number with
  | nil => simp
  | cons piece pieces ih =>
    have rest := ih (number + 1)
    have header := Frame.stride_pos piece.data.length
    rw [laid, List.length_append, Frame.length_packetBytes, List.length_cons]
    omega

theorem Cargo.length_le {accepted confirmed pieces : List Piece}
    (cargo : Cargo accepted confirmed pieces) : pieces.length ≤ 59 := by
  have words := length_laid_ge_words 0 0 pieces
  have room := cargo.room
  simp only [maxPayload] at room
  omega

namespace Peer

variable {ε : Type} {peer : Peer ε κ} {device : UInt64} {port : UInt16} {id : SlotId} {sink : κ}
  {accepted confirmed pieces : List Piece}

/-- The last 32 packets of a frame that has as many are told again. -/
theorem processFrame_wrapped (hear : κ → Delivery → ε → ε) (services : List (Service (Peer ε κ)))
    (mine : peer.node.config.device = device)
    (cargo : Cargo accepted confirmed pieces) (opens : ∀ piece ∈ pieces, piece.kind ≠ .close)
    (many : 32 ≤ pieces.length)
    (expects : peer.node.registry.Expects (port &&& maxPort) (confirmed.length + pieces.length) id
      sink) :
    ∃ deliveries : List Delivery, deliveries.map Delivery.heard =
        (pieces.drop (pieces.length - 32)).flatMap Piece.heard ∧
      ((station services (hearing hear)).processFrame
        (carrier device port confirmed.length pieces).sealed peer).rest =
          tellAll hear sink deliveries peer.rest := by
  have bound := cargo.length_le
  have sends := Transmits.acknowledge services (hearing hear)
    (carrier device port confirmed.length pieces).sealed peer
  have still := (congrArg NodeConfig.device sends.config).trans mine
  have carried := carried_walk device port confirmed.length pieces cargo.short
  rw [← List.take_append_drop (pieces.length - 32) pieces] at carried
  obtain ⟨early, late, walked, stale, again⟩ := carried.split
  rw [List.take_append_drop] at walked
  rw [List.length_take_of_le (Nat.sub_le _ _)] at again
  -- The counters of the packets in front lie more than one round behind, those of the others less.
  have apart : ∀ place < (pieces.take (pieces.length - 32)).length,
      (confirmed.length + place) % 32 ≠ (confirmed.length + pieces.length) % 32 := by
    intro place inside
    rw [List.length_take_of_le (Nat.sub_le _ _)] at inside
    omega
  have round : confirmed.length + pieces.length =
      confirmed.length + (pieces.length - 32) + 32 := by omega
  have next := expects
  rw [round] at next
  rw [Station.processFrame_eq, walked, Station.handleAll_append,
    handleAll_stale still stale (sends.registry ▸ expects) apart,
    handleAll_expected still again
      (fun piece member => opens piece (List.mem_of_mem_drop member)) (sends.registry ▸ next.wrap)]
  exact ⟨_, again.heard, by rw [sends.rest]⟩

end Peer

/-- An input pipe that awaits a packet: on the port that the packet bears, with its counter. -/
def Registry.Awaits (registry : Registry κ) (packet : Packet) : Prop :=
  ∃ id entry, registry.listener? (PipeWord.mk packet.command).port = some (id, entry) ∧
    entry.expected.counter = (PipeWord.mk packet.command).counter

/-- A frame that a receiver takes without telling anybody anything. -/
def Silent (services : Exchange.Hosted κ) (frame : Frame) (peer : Peer (List (κ × Delivery)) κ) :
    Prop :=
  (Exchange.process services frame peer).rest = peer.rest ∧
    (Exchange.process services frame peer).node.registry = peer.node.registry

theorem Piece.heard_ne_nil (piece : Piece) : piece.heard ≠ [] := by
  rw [Piece.heard]
  cases piece.kind <;> exact List.cons_ne_nil _ _

theorem carried_front {device : UInt64} {port : UInt16} {number : Nat} {pieces : List Piece}
    {first : Packet} (short : ∀ piece ∈ pieces, piece.data.length ≤ maxPacketData)
    (front : (carrier device port number pieces).sealed.front? = some first) :
    ∃ piece : Piece, piece.Carried device port number first := by
  have carried := carried_packets device port number pieces short
  rw [Frame.packets, Frame.packetsOf_some front] at carried
  cases carried with
  | cons here _ => exact ⟨_, here⟩

/-- Whatever has been written to a pipe: a second copy of a frame whose first packet was awaited is
silent just when the frame has less than 32 packets. -/
theorem replay_silent_iff (services : Exchange.Hosted κ) {device : UInt64} {port : UInt16}
    {frame : Frame} {first : Packet} {peer : Peer (List (κ × Delivery)) κ}
    (emits : OutputPipe.Emits device port frame) (front : frame.front? = some first)
    (mine : peer.node.config.device = device) (awaits : peer.node.registry.Awaits first) :
    Silent services frame (Exchange.process services frame peer) ↔ frame.packets.length < 32 := by
  obtain ⟨accepted, confirmed, pieces, cargo, opens, rfl⟩ := emits.carrier
  obtain ⟨piece, here⟩ := carried_front cargo.short front
  obtain ⟨id, entry, found, counter⟩ := awaits
  rw [here.bears] at found
  have expects : peer.node.registry.Expects (port &&& maxPort) confirmed.length id entry.sink :=
    ⟨entry.expected, found, (congrArg UInt16.toNat counter).trans here.counts⟩
  obtain ⟨once, processed, still, moved, _, _, _⟩ :=
    Peer.processFrame_expected Exchange.record services mine expects cargo.short opens
  have further := expects.advancedBy pieces.length
  rw [← moved] at further
  rw [(carried_packets device port confirmed.length pieces cargo.short).length,
    show Exchange.process services _ peer = once from processed]
  constructor
  · -- The last 32 packets of a longer frame bear the counters that are awaited once more.
    rintro ⟨log, _⟩
    by_contra many
    obtain ⟨deliveries, again, grown⟩ := Peer.processFrame_wrapped Exchange.record services still
      cargo opens (Nat.not_lt.mp many) further
    rw [Exchange.process, grown, Exchange.tellAll_record] at log
    have nothing : deliveries = [] := by simpa using log
    rw [nothing, List.map_nil, eq_comm, List.flatMap_eq_nil_iff] at again
    have some : 0 < (pieces.drop (pieces.length - 32)).length := by
      rw [List.length_drop]
      omega
    obtain ⟨piece, member⟩ := List.exists_mem_of_length_pos some
    exact piece.heard_ne_nil (again piece member)
  · -- In a shorter frame no counter has come round to the one that is awaited after it.
    intro few
    have apart : ∀ place < pieces.length, (confirmed.length + place) % 32 ≠
        (confirmed.length + pieces.length) % 32 := by
      intro place inside
      omega
    have sends := Peer.Transmits.acknowledge services (Peer.hearing Exchange.record)
      (carrier device port confirmed.length pieces).sealed once
    have same := Peer.processFrame_stale Exchange.record services still further cargo.short apart
    rw [Silent, Exchange.process, same]
    exact ⟨sends.rest, sends.registry⟩

/-- The frame that a pipe sends after so many writes without data. -/
def hollow (count : Nat) : Frame := (carrier 2 97 0 (List.replicate count ⟨.data, []⟩)).sealed

theorem emits_hollow {count : Nat}
    (staged : ((OutputPipe.create 2 97 ⟨⟨0, 0⟩, 0⟩ {}).atOnce
      (List.replicate count (.write []))).map (fun pipe =>
        (pipe.staging, pipe.isOpen, pipe.retry.delays.isEmpty)) =
      some (some (carrier 2 97 0 (List.replicate count ⟨.data, []⟩)), true, false)) :
    OutputPipe.Emits 2 97 (hollow count) := by
  obtain ⟨pipe, served, same⟩ := Option.map_eq_some_iff.mp staged
  obtain ⟨staging, isOpen, patient⟩ : pipe.staging = _ ∧ pipe.isOpen = true ∧
      pipe.retry.delays.isEmpty = false := by simpa using same
  refine ⟨pipe, .flush, (OutputPipe.Written.fresh _ _).atOnce ?_ served, nofun, ?_⟩
  · intro request member
    rw [List.eq_of_mem_replicate member]
    exact nofun
  · exact OutputPipe.flush_sends isOpen staging (by simpa using patient)

/-- Thirty-one packets without data are taken once. -/
theorem replay_silent_hollow : Silent [] (hollow 31)
    (Exchange.process [] (hollow 31) Exchange.listener.2) := by
  have emits : OutputPipe.Emits 2 97 (hollow 31) := emits_hollow (by decide +kernel)
  have front : (hollow 31).front? = some ⟨2, 3, ServiceNumber.pipe, 12416, []⟩ := by decide +kernel
  have awaits : Exchange.listener.2.node.registry.Awaits ⟨2, 3, ServiceNumber.pipe, 12416, []⟩ :=
    ⟨⟨0, 0⟩, ⟨PipeWord.ofPort 97, ()⟩, rfl, by decide +kernel⟩
  exact (replay_silent_iff [] emits front rfl awaits).mpr (by decide +kernel)

/-- Thirty-two packets without data are taken twice. -/
theorem replay_told_hollow : ∃ first, OutputPipe.Emits 2 97 (hollow 32) ∧
    (hollow 32).front? = some first ∧ Exchange.listener.2.node.registry.Awaits first ∧
      ¬ Silent [] (hollow 32) (Exchange.process [] (hollow 32) Exchange.listener.2) := by
  refine ⟨⟨2, 3, ServiceNumber.pipe, 12416, []⟩, emits_hollow (by decide +kernel),
    by decide +kernel, ⟨⟨0, 0⟩, ⟨PipeWord.ofPort 97, ()⟩, rfl, by decide +kernel⟩, ?_⟩
  intro silent
  have lengths := congrArg List.length silent.1
  revert lengths
  decide +kernel

end PipeBus

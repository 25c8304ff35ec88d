import PipeBus.Proofs.Loading
import PipeBus.Proofs.Recording

/-! The acknowledgement of a frame. Main statement: whatever is staged and whatever frame comes in,
the station itself queues one acknowledgement if the frame asks this device for one and none
otherwise, and it has handed the acknowledgement over, behind all that was staged before, by the
time it calls anybody (`Station.acknowledges_first`). -/

namespace PipeBus

variable {σ κ : Type}

namespace Deed

def queued? : Deed → Option Packet
  | .queued packet => some packet
  | _ => none

def handed? : Deed → Option Frame
  | .handed frame => some frame
  | _ => none

/-- A service or the receiver of an input pipe is called. -/
def isCall : Deed → Bool
  | .observed _ | .handled _ | .told _ => true
  | .queued _ | .handed _ => false

end Deed

/-- A transport does with a frame what it likes, but stages nothing: an empty queue stays empty, and
a queue keeps its device. -/
structure TxLink.Aloof (link : TxLink σ) : Prop where
  staging : ∀ frame timeout state, (link.queue.get state).staging = none →
    (link.queue.get (link.transmit frame timeout state).2).staging = none
  device : ∀ frame timeout state,
    (link.queue.get (link.transmit frame timeout state).2).device = (link.queue.get state).device

namespace TxQueue

variable {queue : TxQueue} {parcel : Parcel}

theorem stage?_fits
    (fits : packetHeader + parcel.data.length ≤ queue.stagingFrame.remaining) :
    let old := queue.stagingFrame
    let frame := { old with payload := old.payload ++ parcel.bytes }
    queue.stage? parcel.service parcel.command parcel.data =
      some { queue with staging := some frame } := by
  rw [stage?, Frame.push?, if_neg (Nat.not_lt.mpr fits)]
  rfl

theorem stage?_full
    (full : queue.stagingFrame.remaining < packetHeader + parcel.data.length) :
    queue.stage? parcel.service parcel.command parcel.data = none := by
  rw [stage?, Frame.push?, if_pos full]
  rfl

end TxQueue

namespace TxLink

variable {link : TxLink σ} {state : σ} {service : UInt8} {command : UInt16} {data : Bytes}
  {queue : TxQueue}

theorem push_fits (short : data.length ≤ maxPacketData)
    (staged : (link.queue.get state).stage? service command data = some queue) :
    (link.push service command data state).2 = link.queue.set queue state := by
  have once : link.stageWithin service command data stageTurns state =
      some (link.queue.set queue state) := by
    rw [stageTurns, stageWithin, staged]
  rw [push, if_neg (Nat.not_lt.mpr short), once]
  rfl

/-- A packet that does not fit is queued as if all that is staged had been sent before. -/
theorem push_full (short : data.length ≤ maxPacketData)
    (refused : (link.queue.get state).stage? service command data = none)
    (staged : (link.queue.get (link.flush state)).stage? service command data = some queue) :
    (link.push service command data state).2 =
      (link.push service command data (link.flush state)).2 := by
  have twice : link.stageWithin service command data stageTurns state =
      some (link.queue.set queue (link.flush state)) := by
    rw [stageTurns, stageWithin, refused]
    simp only
    rw [stageWithin, staged]
  rw [push_fits short staged, push, if_neg (Nat.not_lt.mpr short), twice]
  rfl

end TxLink

namespace Station

variable {station : Station σ κ} {state : σ} {device : UInt64} {parcels : List Parcel}
  {parcel : Parcel}

theorem get_setQueue (lawful : station.node.Lawful) (queue : TxQueue) (state : σ) :
    station.tx.queue.get (station.tx.queue.set queue state) = queue :=
  congrArg Node.tx (lawful.get_set _ state)

/-- A flush leaves nothing staged, unless the transport stages something. -/
theorem flush_empties (lawful : station.node.Lawful) (aloof : station.tx.Aloof) (state : σ) :
    (station.tx.queue.get (station.tx.flush state)).staging = none ∧
      (station.tx.queue.get (station.tx.flush state)).device =
        (station.tx.queue.get state).device := by
  unfold TxLink.flush
  split
  · rename_i empty
    exact ⟨empty, rfl⟩
  · rename_i frame staged
    simp only [TxLink.pushFrame, Lens.modify, get_setQueue lawful, TxQueue.staging_count,
      TxQueue.device_count]
    constructor
    · apply aloof.staging
      rw [get_setQueue lawful]
    · rw [aloof.device, get_setQueue lawful]

/-- The record of a station that acknowledges a frame, up to the first call. -/
structure Opens (device : UInt64) (staged : List Packet) (ack : Packet) (opening : List Deed) :
    Prop where
  /-- The acknowledgement is queued, and nothing else. -/
  queued : opening.filterMap Deed.queued? = [ack]
  quiet : ∀ deed ∈ opening, deed.isCall = false
  /-- Frames are sealed and bear the device of the node. -/
  stamped : ∀ frame ∈ opening.filterMap Deed.handed?,
    frame.crc = frame.computeCrc ∧ frame.device = device
  /-- All that was staged is handed over in its order, and the acknowledgement behind it. -/
  handed : (opening.filterMap Deed.handed?).flatMap Frame.packets = staged ++ [ack]

theorem Opens.together {frame : Frame} (holds : frame.Holds device 0 (parcels ++ [parcel])) :
    Opens device (parcels.map (Parcel.packet device 0)) (parcel.packet device 0)
      [.queued (parcel.packet device 0), .handed frame.sealed] where
  queued := rfl
  quiet := by simp [Deed.isCall]
  stamped := List.forall_mem_singleton.mpr ⟨frame.crc_sealed, holds.device⟩
  handed := by
    have packets : frame.sealed.packets = _ := holds.packets
    rw [List.map_append] at packets
    exact (List.append_nil _).trans packets

theorem Opens.behind {frame : Frame} {ack : Packet} {opening : List Deed}
    (opens : Opens device [] ack opening) (holds : frame.Holds device 0 parcels) :
    Opens device (parcels.map (Parcel.packet device 0)) ack (.handed frame.sealed :: opening) where
  queued := opens.queued
  quiet := List.forall_mem_cons.mpr ⟨rfl, opens.quiet⟩
  stamped := List.forall_mem_cons.mpr ⟨⟨frame.crc_sealed, holds.device⟩, opens.stamped⟩
  handed := by
    have packets : frame.sealed.packets = _ := holds.packets
    rw [← packets]
    exact congrArg (frame.sealed.packets ++ ·) opens.handed

/-- A packet for which there is room is queued behind all that is staged, and the next flush hands
it over together with that. -/
theorem recorded_push_fits (lawful : station.node.Lawful) (deeds : List Deed)
    (holds : (station.tx.queue.get state).stagingFrame.Holds device 0 parcels)
    (fits : packetHeader + parcel.data.length ≤
      (station.tx.queue.get state).stagingFrame.remaining) :
    ∃ opening, station.recorded.flush (station.recorded.tx.push parcel.service parcel.command
        parcel.data (state, deeds)).2 =
        (station.flush (station.tx.push parcel.service parcel.command parcel.data state).2,
          deeds ++ opening) ∧
      Opens device (parcels.map (Parcel.packet device 0)) (parcel.packet device 0) opening := by
  have staged := TxQueue.stage?_fits fits
  have more := holds.add fits
  have short : parcel.data.length ≤ maxPacketData := more.short parcel (by simp)
  have direct : (station.recorded.tx.push parcel.service parcel.command parcel.data
      (state, deeds)).2 = station.recorded.tx.queue.set _ (state, deeds) :=
    TxLink.push_fits short staged
  refine ⟨_, ?_, Opens.together more⟩
  rw [TxLink.push_fits short staged, direct, station.recorded_stage state deeds staged
    (Nat.lt_of_le_of_lt short (by decide))]
  change station.recorded.tx.flush _ = _
  rw [recorded_flush, get_setQueue lawful, holds.device, holds.flags, List.append_assoc]
  rfl

/-- When there is no room, what is staged is handed over first. -/
theorem recorded_push_full (lawful : station.node.Lawful) (aloof : station.tx.Aloof)
    (own : (station.tx.queue.get state).device = device)
    (holds : (station.tx.queue.get state).stagingFrame.Holds device 0 parcels)
    (short : parcel.data.length ≤ maxPacketData)
    (full : (station.tx.queue.get state).stagingFrame.remaining <
      packetHeader + parcel.data.length) :
    ∃ opening, station.recorded.flush (station.recorded.tx.push parcel.service parcel.command
        parcel.data (state, [])).2 =
        (station.flush (station.tx.push parcel.service parcel.command parcel.data state).2,
          opening) ∧
      Opens device (parcels.map (Parcel.packet device 0)) (parcel.packet device 0) opening := by
  have room : packetHeader + parcel.data.length ≤ maxPayload := by
    simp only [maxPacketData, maxPayload, packetHeader] at short ⊢
    omega
  obtain ⟨frame, held⟩ : ∃ frame, (station.tx.queue.get state).staging = some frame := by
    cases held : (station.tx.queue.get state).staging with
    | some frame => exact ⟨frame, rfl⟩
    | none =>
      rw [TxQueue.stagingFrame, held] at full
      exact absurd room (Nat.not_le.mpr full)
  have flushed : station.recorded.tx.flush (state, []) =
      (station.tx.flush state, [.handed frame.sealed]) := by
    rw [recorded_flush, held]
    rfl
  have fresh : (station.tx.queue.get (station.tx.flush state)).stagingFrame =
      Frame.empty device 0 := by
    obtain ⟨empty, kept⟩ := flush_empties lawful aloof state
    rw [TxQueue.stagingFrame, empty, kept, own]
    rfl
  have fits : packetHeader + parcel.data.length ≤
      (station.tx.queue.get (station.tx.flush state)).stagingFrame.remaining := by
    rw [fresh]
    exact room
  have refused := TxQueue.stage?_full full
  have staged := TxQueue.stage?_fits fits
  have again : (station.recorded.tx.push parcel.service parcel.command parcel.data
      (state, [])).2 = (station.recorded.tx.push parcel.service parcel.command parcel.data
        (station.recorded.tx.flush (state, []))).2 :=
    TxLink.push_full short refused (by rw [flushed]; exact staged)
  obtain ⟨opening, recorded, opens⟩ := recorded_push_fits lawful [.handed frame.sealed]
    (fresh ▸ Frame.holds_empty device 0) fits
  rw [TxLink.push_full short refused staged, again, flushed]
  have front : (station.tx.queue.get state).stagingFrame = frame := by
    rw [TxQueue.stagingFrame, held]
    rfl
  exact ⟨_, recorded, opens.behind (front ▸ holds)⟩

theorem recorded_acknowledge (lawful : station.node.Lawful) (aloof : station.tx.Aloof)
    (own : (station.tx.queue.get state).device = device)
    (holds : (station.tx.queue.get state).stagingFrame.Holds device 0 parcels) {frame : Frame}
    (wanted : mustAck (station.node.get state).config.device frame = true) :
    ∃ opening, station.recorded.acknowledge frame (state, []) =
        (station.acknowledge frame state, opening) ∧
      Opens device (parcels.map (Parcel.packet device 0))
        ⟨device, 0, ServiceNumber.crcAck, frame.crc, []⟩ opening := by
  let parcel : Parcel := ⟨ServiceNumber.crcAck, frame.crc, []⟩
  have sends : station.acknowledge frame state = station.flush
      (station.tx.push parcel.service parcel.command parcel.data state).2 := if_pos wanted
  have records : station.recorded.acknowledge frame (state, []) = station.recorded.flush
      (station.recorded.tx.push parcel.service parcel.command parcel.data (state, [])).2 :=
    if_pos wanted
  rw [sends, records]
  rcases (station.tx.queue.get state).stagingFrame.offer_cases parcel with ⟨fits, _⟩ | ⟨full, _⟩
  · exact recorded_push_fits lawful [] holds fits
  · exact recorded_push_full lawful aloof own holds (Nat.zero_le _) full

theorem no_ack_of_handling {deeds : List Deed} (handling : ∀ deed ∈ deeds, deed.Handling) :
    (deeds.filterMap Deed.queued?).filter (·.service == ServiceNumber.crcAck) = [] := by
  rw [List.filter_eq_nil_iff]
  intro packet member
  obtain ⟨deed, done, queued⟩ := List.mem_filterMap.mp member
  cases deed with
  | queued other =>
    cases queued
    have control : packet.service = ServiceNumber.control := handling _ done
    rw [control]
    decide
  | handed | observed | handled | told => cases queued

/-- Whatever is staged and whatever frame comes in, the station itself queues one acknowledgement of
it, if the frame asks this device for one, and none otherwise. It has handed the acknowledgement
over in a sealed frame of its own device, behind all that was staged before, by the time it calls a
service or the receiver of a pipe. The record is one of what the station does anyway. -/
theorem acknowledges_first (lawful : station.node.Lawful) (aloof : station.tx.Aloof)
    (own : (station.tx.queue.get state).device = (station.node.get state).config.device)
    (staged : (station.tx.queue.get state).stagingFrame.Holds
      (station.node.get state).config.device 0 parcels) (frame : Frame) :
    let device := (station.node.get state).config.device
    let ack : Packet := ⟨device, 0, ServiceNumber.crcAck, frame.crc, []⟩
    let wanted := frame.isCommand && frame.ackRequested && frame.device == device
    let recorded := station.recorded.processFrame frame (state, [])
    recorded.1 = station.processFrame frame state ∧
    (recorded.2.filterMap Deed.queued?).filter (·.service == ServiceNumber.crcAck) =
      (if wanted then [ack] else []) ∧
    (wanted = true → ∃ opening rest, recorded.2 = opening ++ rest ∧
      Opens device (parcels.map (Parcel.packet device 0)) ack opening) := by
  intro device ack wanted recorded
  have asked : mustAck device frame = wanted := by
    simp only [mustAck, wanted, Bool.and_comm frame.ackRequested]
  have split : recorded = station.recorded.handleAll frame.walk
      (station.recorded.acknowledge frame (state, [])) := station.recorded.processFrame_eq frame _
  rw [processFrame_eq, split]
  cases answer : wanted with
  | true =>
    obtain ⟨opening, first, opens⟩ := recorded_acknowledge lawful aloof own staged
      (asked.trans answer)
    obtain ⟨rest, same, handling⟩ :=
      station.keeps_handleAll (station.acknowledge frame state) opening frame.walk
    rw [first, same]
    refine ⟨rfl, ?_, fun _ => ⟨opening, rest, rfl, opens⟩⟩
    simp only [List.filterMap_append, List.filter_append, opens.queued, no_ack_of_handling handling]
    rfl
  | false =>
    have idle : station.acknowledge frame state = state :=
      if_neg (Bool.eq_false_iff.mp (asked.trans answer))
    have unseen : station.recorded.acknowledge frame (state, []) = (state, []) :=
      if_neg (Bool.eq_false_iff.mp (asked.trans answer))
    obtain ⟨rest, same, handling⟩ := station.keeps_handleAll state [] frame.walk
    rw [idle, unseen, same]
    exact ⟨rfl, no_ack_of_handling handling, nofun⟩

/-- A service that answers a command with an acknowledgement of its own. -/
def eager : Service (Peer Unit Unit) where
  serviceClass := 0x1234
  handle packet peer := (Peer.link.send ServiceNumber.crcAck packet.command [] peer).2

/-- A report that leaves no room in its frame. -/
def bulky : Parcel := ⟨1, 2, List.replicate maxPacketData 9⟩

/-- A node that has staged a frame without room. -/
def loaded : Peer Unit Unit where
  node := { Node.create { device := 7 } scatteredPorts with
    tx := { device := 7, staging := some { device := 7, flags := 0, payload := bulky.bytes } } }
  rest := ()

/-- A frame with two commands comes in when there is no room for its acknowledgement. -/
theorem acknowledges_first_loaded :
    let station := Peer.station [eager] fun _ _ peer => peer
    let frame : Frame :=
      { device := 7
        flags := Flag.command ||| Flag.ackRequested
        crc := 0xbeef
        payload := Frame.packetBytes 1 3 [] ++ Frame.packetBytes 1 4 [] }
    let ack : Packet := ⟨7, 0, ServiceNumber.crcAck, 0xbeef, []⟩
    let deeds := (station.recorded.processFrame frame (loaded, [])).2
    (deeds.filterMap Deed.queued?).filter (·.service == ServiceNumber.crcAck) = [ack] ∧
      ∃ opening rest, deeds = opening ++ rest ∧ Opens 7 [bulky.packet 7 0] ack opening := by
  intro station frame ack deeds
  have lawful : station.node.Lawful := ⟨fun _ _ => rfl, fun _ => rfl, fun _ _ _ => rfl⟩
  have aloof : station.tx.Aloof := ⟨fun _ _ _ empty => empty, fun _ _ _ => rfl⟩
  have fits : packetHeader + bulky.data.length ≤ (Frame.empty 7 0).remaining := by
    rw [bulky, List.length_replicate]
    decide
  have staged : (station.tx.queue.get loaded).stagingFrame.Holds 7 0 [bulky] :=
    (Frame.holds_empty 7 0).add fits
  obtain ⟨_, queued, opens⟩ := acknowledges_first lawful aloof rfl staged frame
  have wanted : (frame.isCommand && frame.ackRequested && frame.device == 7) = true := by
    simp only [frame, Frame.isCommand, Frame.ackRequested]
    decide
  exact ⟨queued.trans (if_pos wanted), opens wanted⟩

end Station

end PipeBus

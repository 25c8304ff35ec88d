import PipeBus.Proofs.Encoding
import PipeBus.Proofs.Packing

/-! Frames that are filled packet by packet. A frame takes a packet just when there is room for it,
and what it has taken can be read off its bytes again. Main statement: whatever is offered to a
fresh frame, its packets are those that it took, also after it has crossed the wire
(`Frame.load_round_trip`). -/

namespace PipeBus

/-- What is to become a packet. -/
structure Parcel where
  service : UInt8
  command : UInt16
  data : Bytes

namespace Parcel

def bytes (parcel : Parcel) : Bytes :=
  Frame.packetBytes parcel.service parcel.command parcel.data

def packet (device : UInt64) (flags : UInt8) (parcel : Parcel) : Packet where
  device
  flags
  service := parcel.service
  command := parcel.command
  data := parcel.data

end Parcel

namespace Frame

/-- Offer a packet to a frame: whether it was taken, and the frame then. -/
def offer (frame : Frame) (parcel : Parcel) : Bool × Frame :=
  match frame.push? parcel.service parcel.command parcel.data with
  | none => (false, frame)
  | some later => (true, later)

/-- A frame after packets have been offered to it one after the other. -/
def load (frame : Frame) (parcels : List Parcel) : Frame :=
  parcels.foldl (fun later parcel => (later.offer parcel).2) frame

/-- The packets that a frame takes of those offered one after the other. -/
def accepted (frame : Frame) : List Parcel → List Parcel
  | [] => []
  | parcel :: rest =>
    let (taken, later) := frame.offer parcel
    if taken then parcel :: later.accepted rest else later.accepted rest

/-- A frame that holds just these packets. -/
structure Holds (frame : Frame) (device : UInt64) (flags : UInt8) (parcels : List Parcel) :
    Prop where
  device : frame.device = device
  flags : frame.flags = flags
  payload : frame.payload = parcels.flatMap Parcel.bytes
  short : ∀ parcel ∈ parcels, parcel.data.length ≤ maxPacketData
  room : frame.payload.length ≤ maxPayload

variable {frame : Frame} {device : UInt64} {flags : UInt8} {parcels : List Parcel}

theorem holds_empty (device : UInt64) (flags : UInt8) : (empty device flags).Holds device flags [] :=
  ⟨rfl, rfl, rfl, List.forall_mem_nil _, Nat.zero_le _⟩

theorem aligned_bytes (parcels : List Parcel) : (parcels.flatMap Parcel.bytes).length % 4 = 0 := by
  induction parcels with
  | nil => rfl
  | cons parcel rest ih =>
    rw [List.flatMap_cons, List.length_append, Parcel.bytes, length_packetBytes, stride, align4]
    omega

/-- A frame takes a packet just when there is room for it, and otherwise stays as it is. -/
theorem offer_cases (frame : Frame) (parcel : Parcel) :
    packetHeader + parcel.data.length ≤ frame.remaining ∧
      frame.offer parcel = (true, { frame with payload := frame.payload ++ parcel.bytes }) ∨
    frame.remaining < packetHeader + parcel.data.length ∧ frame.offer parcel = (false, frame) := by
  rcases Nat.lt_or_ge frame.remaining (packetHeader + parcel.data.length) with full | fits
  · exact .inr ⟨full, by rw [offer, push?, if_pos full]⟩
  · exact .inl ⟨fits, by rw [offer, push?, if_neg (Nat.not_lt.mpr fits)]; rfl⟩

/-- The padding of a packet has room as well, because all that is in front of it is aligned. -/
theorem Holds.add (holds : frame.Holds device flags parcels) {parcel : Parcel}
    (fits : packetHeader + parcel.data.length ≤ frame.remaining) :
    { frame with payload := frame.payload ++ parcel.bytes }.Holds device flags
      (parcels ++ [parcel]) := by
  have aligned := holds.payload ▸ aligned_bytes parcels
  have room := holds.room
  simp only [remaining, maxPayload, packetHeader] at fits room
  refine ⟨holds.device, holds.flags, ?_, ?_, ?_⟩
  · rw [List.flatMap_append, List.flatMap_singleton, ← holds.payload]
  · refine List.forall_mem_append.mpr ⟨holds.short, List.forall_mem_singleton.mpr ?_⟩
    simp only [maxPacketData, maxPayload, packetHeader]
    omega
  · simp only [List.length_append, Parcel.bytes, length_packetBytes, stride, align4, maxPayload,
      packetHeader]
    omega

theorem Holds.load (holds : frame.Holds device flags parcels) (offers : List Parcel) :
    (frame.load offers).Holds device flags (parcels ++ frame.accepted offers) := by
  induction offers generalizing frame parcels with
  | nil => rwa [accepted, List.append_nil]
  | cons parcel rest ih =>
    rw [Frame.load, List.foldl_cons, accepted]
    rcases frame.offer_cases parcel with ⟨fits, taken⟩ | ⟨_, refused⟩
    · rw [taken]
      have more := ih (holds.add fits)
      rwa [List.append_assoc] at more
    · rw [refused]
      exact ih holds

theorem packetsOf_bytes (device : UInt64) (flags : UInt8)
    (short : ∀ parcel ∈ parcels, parcel.data.length ≤ maxPacketData) :
    packetsOf device flags (parcels.flatMap Parcel.bytes) =
      parcels.map (Parcel.packet device flags) := by
  induction parcels with
  | nil => exact packetsOf_nil device flags
  | cons parcel rest ih =>
    obtain ⟨front, others⟩ := List.forall_mem_cons.mp short
    have narrow : parcel.data.length < 256 := Nat.lt_of_le_of_lt front (by decide)
    rw [List.flatMap_cons, Parcel.bytes, packetsOf_packetBytes _ _ _ _ _ _ narrow, ih others]
    rfl

theorem Holds.packets (holds : frame.Holds device flags parcels) :
    frame.packets = parcels.map (Parcel.packet device flags) := by
  rw [Frame.packets, holds.device, holds.flags, holds.payload, packetsOf_bytes _ _ holds.short]

/-- Whatever packets are offered to a fresh frame, it takes each that there is room for and no other,
stays aligned and within its capacity, and once sealed it is read off its bytes with just the
packets that it took. -/
theorem load_round_trip (device : UInt64) (flags : UInt8) (parcels : List Parcel) :
    let fresh := empty device flags
    let loaded := fresh.load parcels
    (∀ parcel, ((loaded.offer parcel).1 = true ↔
        packetHeader + parcel.data.length ≤ loaded.remaining) ∧
      ((loaded.offer parcel).1 = false → (loaded.offer parcel).2 = loaded)) ∧
    loaded.payload.length % 4 = 0 ∧ loaded.payload.length + loaded.remaining = maxPayload ∧
    decode loaded.sealed.toBytes = .ok loaded.sealed ∧
    loaded.sealed.device = device ∧ loaded.sealed.flags = flags ∧
    loaded.sealed.packets = (fresh.accepted parcels).map (Parcel.packet device flags) := by
  intro fresh loaded
  have holds : loaded.Holds device flags (fresh.accepted parcels) :=
    (holds_empty device flags).load parcels
  refine ⟨fun parcel => ?_, ?_, ?_, ?_, holds.device, holds.flags, holds.packets⟩
  · rcases loaded.offer_cases parcel with ⟨fits, taken⟩ | ⟨full, refused⟩
    · rw [taken]
      exact ⟨⟨fun _ => fits, fun _ => rfl⟩, nofun⟩
    · rw [refused]
      exact ⟨⟨nofun, fun fits => absurd fits (Nat.not_le.mpr full)⟩, fun _ => rfl⟩
  · rw [holds.payload]
    exact aligned_bytes _
  · exact Nat.add_sub_of_le holds.room
  · simpa using decode_toBytes holds.room []

end Frame

end PipeBus

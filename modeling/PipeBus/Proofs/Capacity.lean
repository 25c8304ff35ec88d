import PipeBus.Proofs.Decoding
import PipeBus.Proofs.Loading
import PipeBus.Proofs.Walking

/-! Frames that are read off the wire and then filled further. A frame takes a packet that has room
for its header and its data, and pads it to a word: that the padding has room as well follows only
from a payload of whole words, which a frame that was received need not have. Main statement: a
received frame stays within its capacity, whatever packets are taken off its front and added to its
end, just when its payload is of whole words or never has room for a header
(`Frame.keeps_capacity_iff`). -/

namespace PipeBus.Frame

/-- What is done to a frame. -/
inductive Handling where
  | push (parcel : Parcel)
  | shift

def handle (frame : Frame) : Handling → Frame
  | .push parcel => (frame.offer parcel).2
  | .shift => frame.advance.2

/-- A frame to which one thing after the other has been done. -/
def handled (frame : Frame) (handlings : List Handling) : Frame := handlings.foldl handle frame

/-- A frame that is read from some bytes, as one frame or off a stream. -/
def Received (frame : Frame) : Prop :=
  ∃ bytes, decode bytes = .ok frame ∨
    ∃ verifyCrc left, takeFrame verifyCrc bytes = (.ok (some frame), left)

/-- A frame that says how much room it has left, and is read off its bytes again once it is
sealed. -/
structure Carriable (frame : Frame) : Prop where
  room : frame.payload.length + frame.remaining = maxPayload
  decodes : decode frame.sealed.toBytes = .ok frame.sealed

variable {frame next : Frame} {parcel : Parcel}

theorem Received.room (received : frame.Received) : frame.payload.length ≤ maxPayload := by
  obtain ⟨bytes, decoded | ⟨verifyCrc, left, taken⟩⟩ := received
  · exact (decodes bytes).room (.inl decoded)
  · have found : (takeFrame verifyCrc bytes).1 = .ok (some frame) := congrArg Prod.fst taken
    cases verifyCrc with
    | true => exact (decodes bytes).room (.inr (.inl found))
    | false => exact (decodes bytes).room (.inr (.inr found))

theorem carriable_iff : frame.Carriable ↔ frame.payload.length ≤ maxPayload := by
  constructor
  · intro carriable
    exact carriable.room ▸ Nat.le_add_right _ _
  · intro room
    exact ⟨Nat.add_sub_of_le room, by simpa using decode_toBytes room []⟩

theorem stride_mod (dataLength : Nat) : stride dataLength % 4 = 0 := Nat.mul_mod_left _ _

/-- A packet adds whole words to a payload, and only if its header and its data have room. -/
theorem length_push (frame : Frame) (parcel : Parcel) :
    (frame.handle (.push parcel)).payload.length =
      if packetHeader + parcel.data.length ≤ frame.remaining then
        frame.payload.length + stride parcel.data.length
      else frame.payload.length := by
  rw [handle]
  rcases frame.offer_cases parcel with ⟨fits, taken⟩ | ⟨full, refused⟩
  · rw [taken, if_pos fits, List.length_append, Parcel.bytes, length_packetBytes]
  · rw [refused, if_neg (Nat.not_le.mpr full)]

theorem length_shifted (moved : frame.shift? = some next) :
    ∃ dataLength, frame.payload.length = stride dataLength + next.payload.length := by
  unfold shift? at moved
  split at moved
  · cases moved
  · rename_i first rest payload
    dsimp only at moved
    split at moved
    · rename_i present
      obtain ⟨packet, found⟩ := Option.isSome_iff_exists.mp present
      have behind := packetAt?_length found
      cases moved
      rw [List.length_drop] at behind ⊢
      exact ⟨first.toNat, by omega⟩
    · cases moved

theorem length_advance (frame : Frame) :
    frame.payload.length = frame.advance.2.payload.length ∨
      ∃ dataLength, frame.payload.length = stride dataLength + frame.advance.2.payload.length := by
  cases shifted : frame.shift? with
  | none => exact .inl (by rw [advance_last shifted])
  | some next =>
    rw [advance_moved shifted]
    exact .inr (length_shifted shifted)

/-- Whatever is done to a frame, its payload changes by whole words. -/
theorem length_handle_mod (frame : Frame) (handling : Handling) :
    (frame.handle handling).payload.length % 4 = frame.payload.length % 4 := by
  cases handling with
  | push parcel =>
    have words := stride_mod parcel.data.length
    rw [length_push]
    split <;> omega
  | shift =>
    rw [handle]
    rcases frame.length_advance with same | ⟨dataLength, shorter⟩
    · rw [same]
    · have words := stride_mod dataLength
      omega

theorem length_handled_mod (frame : Frame) (handlings : List Handling) :
    (frame.handled handlings).payload.length % 4 = frame.payload.length % 4 := by
  induction handlings generalizing frame with
  | nil => rfl
  | cons handling rest ih => exact (ih _).trans (frame.length_handle_mod handling)

/-- With whole words there is room for the padding where there is room for the data. -/
theorem room_handle (aligned : frame.payload.length % 4 = 0)
    (room : frame.payload.length ≤ maxPayload) (handling : Handling) :
    (frame.handle handling).payload.length ≤ maxPayload := by
  cases handling with
  | push parcel =>
    rw [length_push]
    split
    · rename_i fits
      simp only [remaining, maxPayload, packetHeader, stride, align4] at *
      omega
    · exact room
  | shift =>
    rw [handle]
    rcases frame.length_advance with same | ⟨dataLength, shorter⟩ <;> omega

theorem room_handled (aligned : frame.payload.length % 4 = 0)
    (room : frame.payload.length ≤ maxPayload) (handlings : List Handling) :
    (frame.handled handlings).payload.length ≤ maxPayload := by
  induction handlings generalizing frame with
  | nil => exact room
  | cons handling rest ih =>
    exact ih ((frame.length_handle_mod handling).trans aligned) (room_handle aligned room handling)

theorem length_advanced_le (frame : Frame) (shifts : Nat) :
    (frame.advanced shifts).payload.length ≤ frame.payload.length := by
  induction shifts generalizing frame with
  | zero => exact Nat.le_refl _
  | succ shifts ih =>
    have later := ih frame.advance.2
    rw [advanced]
    rcases frame.length_advance with same | ⟨dataLength, shorter⟩ <;> omega

/-- A frame that never has room for a header is only ever shifted. -/
theorem handled_full (frame : Frame)
    (full : ∀ shifts, (frame.advanced shifts).remaining < packetHeader)
    (handlings : List Handling) : ∃ shifts, frame.handled handlings = frame.advanced shifts := by
  induction handlings generalizing frame with
  | nil => exact ⟨0, rfl⟩
  | cons handling rest ih =>
    rw [handled, List.foldl_cons]
    cases handling with
    | push parcel =>
      have here : frame.remaining < packetHeader := full 0
      rcases frame.offer_cases parcel with ⟨fits, _⟩ | ⟨_, refused⟩
      · omega
      · rw [handle, refused]
        exact ih frame full
    | shift =>
      obtain ⟨shifts, same⟩ := ih frame.advance.2 fun shifts => full (shifts + 1)
      exact ⟨shifts + 1, same⟩

theorem handled_shifts (frame : Frame) (shifts : Nat) (handlings : List Handling) :
    frame.handled (List.replicate shifts .shift ++ handlings) =
      (frame.advanced shifts).handled handlings := by
  induction shifts generalizing frame with
  | zero => rfl
  | succ shifts ih => exact ih frame.advance.2

/-- A packet whose data takes all the room that is left behind broken words. -/
def filler (frame : Frame) : Parcel := ⟨0, 0, List.replicate (frame.remaining - packetHeader) 0⟩

/-- Behind broken words the padding of a packet that just fits has no room. -/
theorem length_filler (broken : frame.payload.length % 4 ≠ 0)
    (fits : packetHeader ≤ frame.remaining) :
    maxPayload < (frame.handle (.push frame.filler)).payload.length := by
  have whole : (filler frame).data.length = frame.remaining - packetHeader :=
    List.length_replicate
  rw [length_push, whole, if_pos (by omega)]
  simp only [remaining, maxPayload, packetHeader, stride, align4] at *
  omega

/-- Bytes that claim more payload than a frame can carry are refused. -/
theorem decode_outgrown (large : maxPayload < frame.payload.length)
    (small : frame.payload.length < 256) :
    decode frame.toBytes = .error (.sizeOutOfRange frame.payload.length) := by
  have size : sizeField frame.toBytes = frame.payload.length := by
    have field := size_toBytes small []
    rwa [List.append_nil] at field
  have header : frameHeader ≤ frame.toBytes.length := by
    rw [length_toBytes]
    exact Nat.le_add_right _ _
  rw [decode, announced_oversized header (size ▸ large), size]

theorem advanced_last (last : frame.shift? = none) (shifts : Nat) :
    frame.advanced shifts = frame := by
  induction shifts with
  | zero => rfl
  | succ shifts ih => rwa [advanced, advance_last last]

/-- A sealed frame whose payload is one byte, so many times. -/
def uniform (byte : UInt8) (count : Nat) : Frame :=
  sealed { device := 0, flags := 0, payload := List.replicate count byte }

theorem length_uniform (byte : UInt8) (count : Nat) :
    (uniform byte count).payload.length = count := List.length_replicate

theorem decode_uniform {count : Nat} (byte : UInt8) (room : count ≤ maxPayload) :
    decode (uniform byte count).toBytes = .ok (uniform byte count) := by
  have within : (uniform byte count).payload.length ≤ maxPayload :=
    (length_uniform ..).trans_le room
  have decoded := decode_toBytes within []
  rwa [List.append_nil] at decoded

/-- A received frame stays within its capacity, whatever is done to it, just when its payload is of
whole words or it never has room for the header of a packet. -/
theorem keeps_capacity_iff (frame : Frame) (received : frame.Received) :
    (∀ handlings, (frame.handled handlings).Carriable) ↔
      frame.payload.length % 4 = 0 ∨
        ∀ shifts, (frame.advanced shifts).remaining < packetHeader := by
  constructor
  · intro carriable
    by_contra neither
    obtain ⟨broken, roomy⟩ := not_or.mp neither
    obtain ⟨shifts, fits⟩ := not_forall.mp roomy
    have before := frame.length_handled_mod (List.replicate shifts .shift ++ [])
    rw [handled_shifts] at before
    have beyond := length_filler (before ▸ broken) (Nat.not_lt.mp fits)
    have within := carriable_iff.mp
      (carriable (List.replicate shifts .shift ++ [.push (frame.advanced shifts).filler]))
    rw [handled_shifts] at within
    exact absurd within (Nat.not_le.mpr beyond)
  · rintro (aligned | full) handlings
    · exact carriable_iff.mpr (room_handled aligned received.room handlings)
    · obtain ⟨shifts, same⟩ := handled_full frame full handlings
      rw [same]
      exact carriable_iff.mpr (Nat.le_trans (length_advanced_le frame shifts) received.room)

/-- A frame with one byte of room, whose first packet claims more bytes than there are. -/
theorem keeps_capacity_brimful :
    (uniform 255 235).Received ∧ ∀ handlings, ((uniform 255 235).handled handlings).Carriable := by
  have received : (uniform 255 235).Received := ⟨_, .inl (decode_uniform 255 (by decide))⟩
  have last : (uniform 255 235).shift? = none := by
    apply shift?_of_front?_none
    change packetAt? 0 0 (255 :: 255 :: 255 :: 255 :: List.replicate 231 255) = none
    rw [packetAt?, List.length_replicate, if_neg (by decide)]
  refine ⟨received, (keeps_capacity_iff _ received).mpr (.inr fun shifts => ?_)⟩
  rw [advanced_last last, remaining, length_uniform]
  decide

/-- With 231 bytes there is room for a header and one byte of data, but not for three bytes of
padding. -/
theorem outgrows_capacity :
    let frame := uniform 0 231
    let later := frame.handled [.push ⟨1, 0, [0]⟩]
    decode frame.toBytes = .ok frame ∧ later.payload.length = 239 ∧
      decode later.sealed.toBytes = .error (.sizeOutOfRange 239) := by
  have longer {frame : Frame} (length : frame.payload.length = 231) :
      (frame.handled [.push ⟨1, 0, [0]⟩]).payload.length = 239 := by
    rw [handled, List.foldl_cons, List.foldl_nil, length_push, remaining, length]
    rfl
  have refused {frame : Frame} (length : frame.payload.length = 239) :
      decode frame.sealed.toBytes = .error (.sizeOutOfRange 239) := by
    have same : frame.sealed.payload.length = 239 := length
    rw [decode_outgrown (by rw [same]; decide) (by rw [same]; decide), same]
  exact ⟨decode_uniform 0 (by decide), longer (length_uniform 0 231),
    refused (longer (length_uniform 0 231))⟩

end PipeBus.Frame

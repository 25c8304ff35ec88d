import PipeBus.Proofs.Peer

/-! Two ways through the packets of a frame. One reads them all and leaves the frame as it is, the
other takes them off the front until no further one stands there. Main statement: on every payload,
well formed or not, both meet the same packets, and the second one ends
(`Station.handles_listed_packets`). -/

namespace PipeBus

namespace Frame

/-- Ask a frame for its next packet: whether there is one, and the frame then. -/
def advance (frame : Frame) : Bool × Frame :=
  match frame.shift? with
  | none => (false, frame)
  | some next => (true, next)

def advanced (frame : Frame) : Nat → Frame
  | 0 => frame
  | calls + 1 => frame.advance.2.advanced calls

/-- How many of the first so many calls find a next packet. -/
def moves (frame : Frame) (calls : Nat) : Nat :=
  (List.range calls).countP fun call => (frame.advanced call).advance.1

variable {frame next : Frame}

theorem advance_last (last : frame.shift? = none) : frame.advance = (false, frame) := by
  simp [advance, last]

theorem advance_moved (moved : frame.shift? = some next) : frame.advance = (true, next) := by
  simp [advance, moved]

theorem advance_unmoved (unmoved : frame.advance.1 = false) : frame.advance.2 = frame := by
  cases shifted : frame.shift? with
  | none => rw [advance_last shifted]
  | some next =>
    rw [advance_moved shifted] at unmoved
    cases unmoved

theorem length_packets_last (last : frame.shift? = none) : frame.packets.length ≤ 1 := by
  cases found : frame.front? with
  | none => simp [packets, packetsOf_none found]
  | some packet =>
    have alone := shift?_of_front?_some found
    rw [last] at alone
    rw [packets, packetsOf_some found, packetsOf_none (by simpa using alone)]
    simp

theorem length_packets_moved (moved : frame.shift? = some next) :
    frame.packets.length = next.packets.length + 1 ∧ 0 < next.packets.length := by
  cases found : frame.front? with
  | none =>
    rw [shift?_of_front?_none found] at moved
    cases moved
  | some packet =>
    have shifted := shift?_of_front?_some found
    rw [moved] at shifted
    split at shifted
    · rename_i present
      obtain ⟨second, behind⟩ := Option.isSome_iff_exists.mp present
      cases shifted
      constructor
      · simp [packets, packetsOf_some found, packetsOf_answered]
      · simp [packets, packetsOf_answered, packetsOf_some behind]
    · cases shifted

/-- Just so many calls find a next packet as there are packets behind the first. -/
theorem advance_advanced (frame : Frame) (call : Nat) :
    (frame.advanced call).advance.1 = true ↔ call + 1 < frame.packets.length := by
  induction call generalizing frame with
  | zero =>
    rw [advanced]
    cases shifted : frame.shift? with
    | none =>
      have single := length_packets_last shifted
      simp [advance_last shifted, single]
    | some next =>
      obtain ⟨lengths, more⟩ := length_packets_moved shifted
      simp [advance_moved shifted, lengths, more]
  | succ call ih =>
    rw [advanced]
    cases shifted : frame.shift? with
    | none =>
      have single := length_packets_last shifted
      rw [advance_last shifted]
      simp only [ih]
      omega
    | some next =>
      obtain ⟨lengths, _⟩ := length_packets_moved shifted
      rw [advance_moved shifted]
      simp only [ih, lengths]
      omega

theorem moves_eq (frame : Frame) (calls : Nat) :
    frame.moves calls = min calls (frame.packets.length - 1) := by
  induction calls with
  | zero => simp [moves]
  | succ calls ih =>
    rw [moves] at ih ⊢
    rw [List.range_succ, List.countP_append, ih, List.countP_singleton]
    simp only [advance_advanced]
    split <;> omega

/-- Every packet takes at least its header, the last one perhaps nothing more. -/
theorem length_packetsOf_le (device : UInt64) (flags : UInt8) (payload : Bytes) :
    4 * (packetsOf device flags payload).length ≤ payload.length := by
  fun_induction packetsOf device flags payload with
  | case1 payload absent => simp
  | case2 payload packet found ih =>
    have header := packetAt?_length found
    have stride := stride_pos packet.data.length
    rw [List.length_drop] at ih
    rw [List.length_cons]
    omega

theorem met_eq_mapIdx (packets : List Packet) :
    met packets =
      packets.mapIdx fun place packet => if place = 0 then packet else packet.answered := by
  apply List.ext_getElem?
  intro place
  cases packets with
  | nil => rfl
  | cons first rest => cases place <;> simp [met]

end Frame

namespace Station

variable {σ κ : Type}

/-- Dispatching a frame handles the packets that reading it lists, whatever its payload: the first
one as it is, the others without the request for an acknowledgement. It stops at a frame that it has
not changed, after no more moves than there are words in the payload. -/
theorem handles_listed_packets (station : Station σ κ) (frame : Frame) (state : σ) :
    let listed := frame.packets.mapIdx fun place packet =>
      if place = 0 then packet
      else { packet with flags := packet.flags &&& ~~~Flag.ackRequested }
    frame.walk = listed ∧
    station.handlePackets frame state =
      listed.foldl (fun later packet => station.handlePacket packet later) state ∧
    (∀ call, (frame.advanced call).advance.1 = false →
      (frame.advanced call).advance.2 = frame.advanced call) ∧
    ∀ calls, frame.moves calls ≤ frame.payload.length / 4 := by
  intro listed
  have walked : frame.walk = listed := by
    rw [Frame.walk_eq_met, Frame.met_eq_mapIdx]
    rfl
  refine ⟨walked, ?_, ?_, ?_⟩
  · rw [station.handlePackets_eq, walked]
    rfl
  · intro call unmoved
    exact Frame.advance_unmoved unmoved
  · intro calls
    have short := Frame.length_packetsOf_le frame.device frame.flags frame.payload
    change 4 * frame.packets.length ≤ frame.payload.length at short
    rw [Frame.moves_eq]
    omega

end Station

end PipeBus

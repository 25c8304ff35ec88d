import PipeBus.Frame.Basic

/-! Packets laid end to end. Reading takes off the front exactly what writing put there,
and walking a frame packet by packet meets the packets that a single reading lists. -/

namespace PipeBus

namespace Packet

/-- The packet as it is met behind the first one of a frame. -/
def answered (packet : Packet) : Packet :=
  { packet with flags := packet.flags &&& ~~~Flag.ackRequested }

end Packet

namespace Frame

theorem le_align4 (length : Nat) : length ≤ align4 length := by
  unfold align4
  omega

theorem length_packetBytes (service : UInt8) (command : UInt16) (data : Bytes) :
    (packetBytes service command data).length = stride data.length := by
  have enough := le_align4 (packetHeader + data.length)
  simp only [packetBytes, stride, List.length_append, List.length_cons, List.length_nil,
    Wire.word16, Wire.length_encode, List.length_replicate]
  simp only [packetHeader] at *
  omega

theorem toWord16_word16 (value : UInt16) : Wire.toWord16 (Wire.word16 value) = value := by
  simpa using Wire.toWord16_append value []

theorem packetAt?_packetBytes (device : UInt64) (flags service : UInt8) (command : UInt16)
    (data rest : Bytes) (short : data.length < 256) :
    packetAt? device flags (packetBytes service command data ++ rest) =
      some ⟨device, flags, service, command, data⟩ := by
  have size : (UInt8.ofNat data.length).toNat = data.length := by
    rw [UInt8.toNat_ofNat', Nat.mod_eq_of_lt short]
  have layout (padding : Bytes) : packetAt? device flags
      (UInt8.ofNat data.length :: service :: UInt8.ofNat command.toNat ::
        UInt8.ofNat (command.toNat / 256) :: (data ++ padding)) =
      some ⟨device, flags, service, command, data⟩ := by
    have word : Wire.toWord16 [UInt8.ofNat command.toNat, UInt8.ofNat (command.toNat / 256)] =
        command := toWord16_word16 command
    simp only [packetAt?, size, word]
    simp
  rw [packetBytes, List.append_assoc, List.append_assoc]
  exact layout _

theorem packetsOf_none {device : UInt64} {flags : UInt8} {payload : Bytes}
    (absent : packetAt? device flags payload = none) : packetsOf device flags payload = [] := by
  rw [packetsOf]
  split
  · rfl
  · rename_i packet found
    rw [absent] at found
    cases found

theorem packetsOf_some {device : UInt64} {flags : UInt8} {payload : Bytes} {packet : Packet}
    (present : packetAt? device flags payload = some packet) :
    packetsOf device flags payload =
      packet :: packetsOf device flags (payload.drop (stride packet.data.length)) := by
  rw [packetsOf]
  split
  · rename_i absent
    rw [present] at absent
    cases absent
  · rename_i other found
    rw [present] at found
    cases found
    rfl

theorem packetsOf_nil (device : UInt64) (flags : UInt8) : packetsOf device flags [] = [] :=
  packetsOf_none rfl

theorem packetsOf_packetBytes (device : UInt64) (flags service : UInt8) (command : UInt16)
    (data rest : Bytes) (short : data.length < 256) :
    packetsOf device flags (packetBytes service command data ++ rest) =
      ⟨device, flags, service, command, data⟩ :: packetsOf device flags rest := by
  rw [packetsOf_some (packetAt?_packetBytes device flags service command data rest short)]
  rw [← length_packetBytes service command data, List.drop_left]

/-- Without the request, the same packets stand there without the request. -/
theorem packetAt?_answered (device : UInt64) (flags : UInt8) (payload : Bytes) :
    packetAt? device (flags &&& ~~~Flag.ackRequested) payload =
      (packetAt? device flags payload).map Packet.answered := by
  unfold packetAt?
  split
  · split <;> rfl
  · rfl

theorem packetsOf_answered (device : UInt64) (flags : UInt8) (payload : Bytes) :
    packetsOf device (flags &&& ~~~Flag.ackRequested) payload =
      (packetsOf device flags payload).map Packet.answered := by
  have front (payload : Bytes) := packetAt?_answered device flags payload
  fun_induction packetsOf device flags payload with
  | case1 payload absent =>
    rw [packetsOf_none (by rw [front, absent]; rfl)]
    rfl
  | case2 payload packet found ih =>
    rw [packetsOf_some (by rw [front, found]; rfl), List.map_cons, ← ih]
    rfl

theorem answered_answered (packet : Packet) : packet.answered.answered = packet.answered := by
  simp [Packet.answered, UInt8.and_assoc]

/-- The packets of a frame as they are met one by one. -/
def walk (frame : Frame) : List Packet :=
  match _shifted : frame.shift? with
  | none => frame.front?.toList
  | some next => frame.front?.toList ++ next.walk
termination_by frame.payload.length
decreasing_by exact shift?_length _shifted

theorem walk_last {frame : Frame} (last : frame.shift? = none) :
    frame.walk = frame.front?.toList := by
  rw [walk]
  split
  · rfl
  · rename_i next shifted
    rw [last] at shifted
    cases shifted

theorem walk_shifted {frame next : Frame} (moved : frame.shift? = some next) :
    frame.walk = frame.front?.toList ++ next.walk := by
  rw [walk]
  split
  · rename_i last
    rw [moved] at last
    cases last
  · rename_i other shifted
    rw [moved] at shifted
    cases shifted
    rfl

theorem length_of_packetAt?_none {device : UInt64} {flags first : UInt8} {rest : Bytes}
    (absent : packetAt? device flags (first :: rest) = none) :
    (first :: rest).length < packetHeader + first.toNat := by
  match rest, absent with
  | [], _ | [_], _ | [_, _], _ => simp only [List.length_cons, List.length_nil, packetHeader]; omega
  | service :: low :: high :: rest, absent =>
    have short : rest.length < first.toNat := by simpa [packetAt?] using absent
    simp only [List.length_cons, packetHeader]
    omega

theorem size_of_packetAt?_some {device : UInt64} {flags first : UInt8} {rest : Bytes}
    {packet : Packet} (found : packetAt? device flags (first :: rest) = some packet) :
    packet.data.length = first.toNat := by
  match rest, found with
  | [], found | [_], found | [_, _], found => simp [packetAt?] at found
  | service :: low :: high :: rest, found =>
    simp only [packetAt?] at found
    split at found
    · cases found
      simp only [List.length_take]
      omega
    · cases found

theorem shift?_of_front?_none {frame : Frame} (absent : frame.front? = none) :
    frame.shift? = none := by
  unfold shift?
  split
  · rfl
  · rename_i first rest payload
    rw [front?, payload] at absent
    have short := length_of_packetAt?_none absent
    have reach : (first :: rest).length ≤ stride first.toNat :=
      Nat.le_trans (Nat.le_of_lt short) (le_align4 _)
    simp [payload, List.drop_eq_nil_of_le reach, packetAt?]

theorem shift?_of_front?_some {frame : Frame} {packet : Packet}
    (found : frame.front? = some packet) :
    frame.shift? =
      if (packetAt? frame.device frame.flags
          (frame.payload.drop (stride packet.data.length))).isSome then
        some { frame with
          flags := frame.flags &&& ~~~Flag.ackRequested
          payload := frame.payload.drop (stride packet.data.length) }
      else none := by
  unfold shift?
  split
  · rename_i payload
    rw [front?, payload] at found
    cases found
  · rename_i first rest payload
    rw [front?, payload] at found
    rw [size_of_packetAt?_some found]

/-- What the packets of a frame look like when they are met one by one. -/
def met : List Packet → List Packet
  | [] => []
  | first :: rest => first :: rest.map Packet.answered

theorem met_answered (packets : List Packet) :
    met (packets.map Packet.answered) = packets.map Packet.answered := by
  cases packets with
  | nil => rfl
  | cons first rest => simp [met, answered_answered]

/-- Walking a frame meets its packets in order, all but the first without the request. -/
theorem walk_eq_met (frame : Frame) : frame.walk = met frame.packets := by
  fun_induction walk frame with
  | case1 frame last =>
    cases found : frame.front? with
    | none => rw [packets, packetsOf_none found]; rfl
    | some packet =>
      have alone := shift?_of_front?_some found
      rw [last] at alone
      rw [packets, packetsOf_some found, packetsOf_none (by simpa using alone)]
      rfl
  | case2 frame next shifted ih =>
    cases found : frame.front? with
    | none =>
      rw [shift?_of_front?_none found] at shifted
      cases shifted
    | some packet =>
      have moved := shift?_of_front?_some found
      rw [shifted] at moved
      split at moved
      · cases moved
        rw [ih, packets, packets, packetsOf_some found, packetsOf_answered, met_answered]
        rfl
      · cases moved

theorem walk_single (device : UInt64) (flags service : UInt8) (command : UInt16) (data : Bytes)
    (short : data.length < 256) :
    (Frame.sealed { device, flags, payload := packetBytes service command data }).walk =
      [⟨device, flags, service, command, data⟩] := by
  have read := packetsOf_packetBytes device flags service command data [] short
  rw [List.append_nil, packetsOf_nil] at read
  rw [walk_eq_met]
  exact congrArg met read

end Frame

end PipeBus

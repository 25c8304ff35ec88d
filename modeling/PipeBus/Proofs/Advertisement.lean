import PipeBus.Proofs.Acknowledgement
import PipeBus.Proofs.Routing

/-! The services of a node, as it numbers and advertises them. An advertisement lists the classes
word by word, and a class bears the number of its first service (`Node.Bears`). Main statement: a
node can be built just when its advertisement fits in one packet; then it advertises all its
services, in that packet, whatever is staged, and every number that it gives leads to a service of
the class that it was asked for (`Station.advertises_services`). -/

namespace PipeBus

namespace Node

variable {classes : List UInt32} {serviceClass : UInt32} {number : UInt8}

theorem serviceNumber?_eq_none_iff :
    serviceNumber? classes serviceClass = none ↔ serviceClass ≠ 0 ∧ serviceClass ∉ classes := by
  rw [← Option.not_isSome_iff_eq_none, isSome_serviceNumber?, not_or]

/-- A number counts the services from one, unless it is that of the control service. -/
theorem Bears.toNat_le (bears : Bears classes serviceClass number) :
    number.toNat ≤ classes.length := by
  cases bears with
  | control => exact Nat.zero_le _
  | hosted place other found first counted =>
    obtain ⟨within, _⟩ := List.getElem?_eq_some_iff.mp found
    omega

/-! ### The advertisement -/

theorem advertisement_eq (classes : List UInt32) :
    advertisement classes = (0 :: classes).flatMap Wire.word32 := rfl

theorem length_flatMap_word32 (words : List UInt32) :
    (words.flatMap Wire.word32).length = 4 * words.length := by
  induction words with
  | nil => rfl
  | cons word rest ih =>
    have wide : (Wire.word32 word).length = 4 := Wire.length_encode ..
    rw [List.flatMap_cons, List.length_append, List.length_cons, ih, wide]
    omega

theorem toWord32_flatMap {words : List UInt32} {place : Nat} {word : UInt32}
    (found : words[place]? = some word) :
    Wire.toWord32 ((words.flatMap Wire.word32).drop (4 * place)) = word := by
  induction words generalizing place with
  | nil => cases found
  | cons first rest ih =>
    cases place with
    | zero =>
      cases found
      exact Wire.toWord32_append ..
    | succ place =>
      have wide : (Wire.word32 first).length = 4 := Wire.length_encode ..
      have later : 4 * (place + 1) = 4 + 4 * place := by omega
      rw [List.flatMap_cons, later, ← List.drop_drop, List.drop_left' wide]
      exact ih found

theorem length_advertisement (classes : List UInt32) :
    (advertisement classes).length = advertisedSize classes.length := by
  rw [advertisement_eq, length_flatMap_word32, List.length_cons, advertisedSize, Nat.mul_comm]

/-- Fewer services fit in an advertisement than there are numbers for them. -/
theorem build_eq {κ : Type} (config : NodeConfig) (services : Nat) (ports : Nat → UInt16) :
    (build config services ports : Except NodeError (Node κ)) =
      if advertisedSize services ≤ maxPacketData then .ok (create config ports)
      else .error (.tooManyServices services) := by
  have limit : maxPacketData = 232 := rfl
  have highest : ServiceNumber.maxHosted = 59 := rfl
  unfold build advertisedSize
  by_cases fits : (services + 1) * 4 ≤ maxPacketData
  · rw [if_pos fits, if_neg (by omega)]
  · rw [if_neg fits, if_pos (by omega)]

end Node

namespace Frame

/-- A frame without packets takes a packet unless its data is longer than that of any packet. -/
theorem push?_empty_eq_none_iff {device : UInt64} {flags service : UInt8} {command : UInt16}
    {data : Bytes} :
    (empty device flags).push? service command data = none ↔ maxPacketData < data.length := by
  have room : (empty device flags).remaining = 236 := rfl
  have longest : maxPacketData = 232 := rfl
  rw [push?, room, longest, packetHeader]
  by_cases fits : 4 + data.length > 236
  · rw [if_pos fits]
    exact iff_of_true rfl (by omega)
  · rw [if_neg fits]
    exact iff_of_false (Option.some_ne_none _) (by omega)

end Frame

namespace Station

variable {σ κ : Type}

/-- What a node makes of the services that it hosts. -/
structure Advertises (station : Station σ κ) : Prop where
  /-- Read word by word, an advertisement is a zero and then the class of every service. -/
  listed : (Node.advertisement station.classes).length = 4 * (station.services.length + 1) ∧
    ∀ place word, (0 :: station.services.map Service.serviceClass)[place]? = some word →
      Wire.toWord32 ((Node.advertisement station.classes).drop (4 * place)) = word
  answered : ∀ state, (station.announce state).1 = .ok ()
  /-- To announce queues one packet, and the next flush hands it over behind all that was staged. -/
  announced : ∀ state parcels,
    let device := (station.tx.queue.get state).device
    (station.tx.queue.get state).stagingFrame.Holds device 0 parcels →
    ∃ opening, station.recorded.flush (station.recorded.announce (state, [])).2 =
        (station.flush (station.announce state).2, opening) ∧
      Opens device (parcels.map (Parcel.packet device 0))
        ⟨device, 0, ServiceNumber.control, Command.advertisement,
          Node.advertisement station.classes⟩ opening
  numbered : ∀ serviceClass number,
    Node.serviceNumber? station.classes serviceClass = some number ↔
      Node.Bears station.classes serviceClass number
  unnumbered : ∀ serviceClass,
    Node.serviceNumber? station.classes serviceClass = none ↔
      serviceClass ≠ 0 ∧ serviceClass ∉ station.classes
  /-- The numbers from here on have a fixed meaning. -/
  unreserved : ∀ serviceClass number,
    Node.serviceNumber? station.classes serviceClass = some number → number < 0x3c
  /-- A command to a class is taken with the number of the class. -/
  addressed : ∀ serviceClass number packet device,
    Node.serviceNumber? station.classes serviceClass = some number →
    packet.targetsClass = true → packet.device.toNat = serviceClass.toNat →
      Node.addressed? device station.classes packet = some { packet with service := number }
  /-- A command that is taken with the number of a class is handled by a service of the class. -/
  reached : ∀ serviceClass number, serviceClass ≠ 0 →
    Node.serviceNumber? station.classes serviceClass = some number →
    ∃ service, station.services[number.toNat - 1]? = some service ∧
      service.serviceClass = serviceClass ∧
      ∀ packet taken state, packet.isCommand = true →
        Node.addressed? (station.node.get state).config.device station.classes packet =
          some taken → taken.service = number →
        station.handlePacket packet state =
          service.handle taken (station.visit (.matcher packet) state)

section

variable {station : Station σ κ} {state : σ} {parcels : List Parcel}

theorem announce_eq_ok (fits : (Node.advertisement station.classes).length ≤ maxPacketData)
    (state : σ) : (station.announce state).1 = .ok () := by
  unfold announce NodeLink.send TxLink.push
  rw [if_neg (Nat.not_lt.mpr fits)]

/-- An announcement is queued behind what is staged, or in a frame of its own. -/
theorem recorded_announce (lawful : station.node.Lawful) (aloof : station.tx.Aloof)
    (fits : (Node.advertisement station.classes).length ≤ maxPacketData)
    (holds : (station.tx.queue.get state).stagingFrame.Holds
      (station.tx.queue.get state).device 0 parcels) :
    let device := (station.tx.queue.get state).device
    ∃ opening, station.recorded.flush (station.recorded.announce (state, [])).2 =
        (station.flush (station.announce state).2, opening) ∧
      Opens device (parcels.map (Parcel.packet device 0))
        ⟨device, 0, ServiceNumber.control, Command.advertisement,
          Node.advertisement station.classes⟩ opening := by
  intro device
  let parcel : Parcel :=
    ⟨ServiceNumber.control, Command.advertisement, Node.advertisement station.classes⟩
  have records : station.recorded.announce (state, []) =
      station.recorded.tx.push parcel.service parcel.command parcel.data (state, []) := by
    rw [announce, classes_recorded]
    rfl
  rw [records]
  by_cases room : packetHeader + parcel.data.length ≤
      (station.tx.queue.get state).stagingFrame.remaining
  · exact recorded_push_fits lawful [] holds room
  · exact recorded_push_full lawful aloof rfl holds fits (Nat.not_le.mp room)

/-- A number below those of the pipes and the acknowledgements leads to the service it counts. -/
theorem handlePacket_hosted {packet taken : Packet} {service : Service σ} {place : Nat}
    (few : station.classes.length < ServiceNumber.pipe.toNat)
    (found : station.services[place]? = some service) (command : packet.isCommand = true)
    (addressed : Node.addressed? (station.node.get state).config.device station.classes packet =
      some taken) (counted : taken.service.toNat = place + 1) :
    station.handlePacket packet state =
      service.handle taken (station.visit (.matcher packet) state) := by
  obtain ⟨within, _⟩ := List.getElem?_eq_some_iff.mp found
  have goes : Goes station.classes.length taken taken.service [.service place taken] :=
    .hosted place counted (station.length_classes ▸ within)
  have onward := (goes_iff few).mp goes
  rw [handlePacket_eq, Node.route, if_pos command, addressed]
  simp only
  rw [← onward]
  simp only [travel, List.foldl_cons, List.foldl_nil, visit, found]

theorem class_of_place {place : Nat} {serviceClass : UInt32}
    (found : station.classes[place]? = some serviceClass) :
    ∃ service, station.services[place]? = some service ∧ service.serviceClass = serviceClass := by
  rw [classes, List.getElem?_map] at found
  exact Option.map_eq_some_iff.mp found

theorem addressed?_of_class {serviceClass : UInt32} {number : UInt8} {packet : Packet}
    (device : UInt64) (numbered : Node.serviceNumber? station.classes serviceClass = some number)
    (flagged : packet.targetsClass = true) (named : packet.device.toNat = serviceClass.toNat) :
    Node.addressed? device station.classes packet = some { packet with service := number } := by
  have narrow : packet.device.toNat < UInt32.size := named ▸ serviceClass.toNat_lt
  have cut : packet.device.toUInt32 = serviceClass :=
    UInt32.toNat_inj.mp ((Node.toNat_toUInt32_of_lt narrow).trans named)
  have found : Node.classNumber? station.classes packet = some number := by
    rw [Node.classNumber?, if_pos ⟨flagged, narrow⟩, cut, numbered]
  rw [Node.addressed?, found]

theorem advertises (lawful : station.node.Lawful) (aloof : station.tx.Aloof)
    (fits : Node.advertisedSize station.services.length ≤ maxPacketData) :
    station.Advertises := by
  have size := Node.length_advertisement station.classes
  rw [length_classes] at size
  have count : station.classes.length ≤ 57 := by
    have longest : maxPacketData = 232 := rfl
    rw [length_classes]
    unfold Node.advertisedSize at fits
    omega
  have numbered {serviceClass : UInt32} {number : UInt8} :
      Node.serviceNumber? station.classes serviceClass = some number ↔
        Node.Bears station.classes serviceClass number :=
    Node.serviceNumber?_eq_some_iff (by omega)
  constructor
  · rw [size, Node.advertisedSize, Nat.mul_comm]
    exact ⟨rfl, fun place word found => Node.toWord32_flatMap found⟩
  · exact announce_eq_ok (size ▸ fits)
  · intro state parcels device holds
    exact recorded_announce lawful aloof (size ▸ fits) holds
  · exact fun _ _ => numbered
  · exact fun _ => Node.serviceNumber?_eq_none_iff
  · intro serviceClass number found
    have counted := (numbered.mp found).toNat_le
    have reserved : (0x3c : UInt8).toNat = 60 := rfl
    rw [UInt8.lt_iff_toNat_lt, reserved]
    omega
  · intro serviceClass number packet device found flagged named
    exact addressed?_of_class device found flagged named
  · intro serviceClass number other found
    cases numbered.mp found with
    | control => exact absurd rfl other
    | hosted place _ there first counted =>
      obtain ⟨service, present, own⟩ := class_of_place there
      rw [counted, Nat.add_sub_cancel]
      refine ⟨service, present, own, fun packet taken state command addressed same => ?_⟩
      have few : station.classes.length < ServiceNumber.pipe.toNat :=
        Nat.lt_of_le_of_lt count (by decide)
      exact handlePacket_hosted few present command addressed (same ▸ counted)

end

/-- A node cannot be built just when no frame takes the advertisement of its services. A node that
is built announces them all in one packet, and gives every class that it hosts a number that leads
to a service of that class. -/
theorem advertises_services (station : Station σ κ) (lawful : station.node.Lawful)
    (aloof : station.tx.Aloof) (config : NodeConfig) (ports : Nat → UInt16) :
    let built : Except NodeError (Node κ) := Node.build config station.services.length ports
    (∀ error, built = .error error ↔
      error = .tooManyServices station.services.length ∧
        ∀ device flags service command, (Frame.empty device flags).push? service command
          (Node.advertisement station.classes) = none) ∧
    ∀ fresh, built = .ok fresh → station.Advertises := by
  intro built
  have size := Node.length_advertisement station.classes
  rw [length_classes] at size
  have same : built = _ := Node.build_eq config station.services.length ports
  by_cases fits : Node.advertisedSize station.services.length ≤ maxPacketData
  · rw [if_pos fits] at same
    refine ⟨fun error => iff_of_false (same ▸ nofun) ?_, fun _ _ => advertises lawful aloof fits⟩
    rintro ⟨_, none⟩
    have long := Frame.push?_empty_eq_none_iff.mp (none 0 0 0 0)
    rw [size] at long
    exact Nat.not_lt.mpr fits long
  · rw [if_neg fits] at same
    refine ⟨fun error => ?_, fun fresh ok => absurd (same.symm.trans ok) nofun⟩
    have long := size ▸ Nat.not_le.mp fits
    rw [same, Except.error.injEq, eq_comm]
    exact (and_iff_left fun _ _ _ _ => Frame.push?_empty_eq_none_iff.mpr long).symm

/-- Two services of one class, and between them one of class zero, which nothing but its place in the
list tells from the control service. -/
theorem advertises_services_twins :
    let station := Peer.station [noting 7, noting 0, noting 7] fun _ _ peer => peer
    let fresh : Node Unit := Node.create {} scatteredPorts
    station.node.Lawful ∧ station.tx.Aloof ∧ Node.build {} 3 scatteredPorts = .ok fresh ∧
      station.Advertises ∧
      [7, 0, 5].map (Node.serviceNumber? station.classes) = [some 1, some 0, none] := by
  intro station fresh
  have lawful : station.node.Lawful := ⟨fun _ _ => rfl, fun _ => rfl, fun _ _ _ => rfl⟩
  have aloof : station.tx.Aloof := ⟨fun _ _ _ empty => empty, fun _ _ _ => rfl⟩
  have built : Node.build {} 3 scatteredPorts = .ok fresh := rfl
  exact ⟨lawful, aloof, built,
    (advertises_services station lawful aloof {} scatteredPorts).2 fresh built, by decide⟩

end Station

end PipeBus

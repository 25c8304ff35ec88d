import PipeBus.Proofs.Walking

/-! Where the packets of a frame go. A route is the list of places that a packet comes by; what it
may be is said by rules on the frame's header, the classes hosted and the number in the packet
(`Frame.Routes`). Main statement: at a node that can be built, dispatching a frame takes each of its
packets, in order, along the only route that the rules allow (`Station.routes_packets`). -/

namespace PipeBus

/-- A place that a packet comes by. Services are counted from zero here. -/
inductive Stop where
  /-- The waiters of output pipes. -/
  | matcher (packet : Packet)
  | observer (place : Nat) (packet : Packet)
  /-- The control service advertises. -/
  | announcement
  /-- The input pipes. -/
  | pipes (packet : Packet)
  | service (place : Nat) (packet : Packet)
  deriving DecidableEq

/-- Where a command goes that has this service number at a node with so many services. -/
inductive Goes (services : Nat) (packet : Packet) (number : UInt8) : List Stop → Prop
  | announced (control : number = ServiceNumber.control)
      (asked : packet.command = Command.advertisement) :
      Goes services packet number [.announcement]
  | ignored (control : number = ServiceNumber.control)
      (other : packet.command ≠ Command.advertisement) :
      Goes services packet number []
  | piped (pipe : number = ServiceNumber.pipe) :
      Goes services packet number [.pipes { packet with service := number }]
  | hosted (place : Nat) (counted : number.toNat = place + 1) (present : place < services) :
      Goes services packet number [.service place { packet with service := number }]
  | nowhere (control : number ≠ ServiceNumber.control) (pipe : number ≠ ServiceNumber.pipe)
      (beyond : services < number.toNat) :
      Goes services packet number []

namespace Frame

/-- A frame addressed to a class that is hosted here. The control service is hosted everywhere. -/
structure NamesClass (frame : Frame) (classes : List UInt32) : Prop where
  flagged : frame.targetsClass = true
  narrow : frame.device.toNat ≤ 2 ^ 32 - 1
  hosted : frame.device = 0 ∨ ∃ hosted ∈ classes, hosted.toNat = frame.device.toNat

/-- The service number at a node of a packet that asks for one. -/
inductive Numbered (frame : Frame) (device : UInt64) (classes : List UInt32) (asked : UInt8) :
    UInt8 → Prop
  /-- Class zero is the control service. -/
  | control (flagged : frame.targetsClass = true) (zero : frame.device = 0) :
      Numbered frame device classes asked ServiceNumber.control
  /-- Any other class is the first service of that class. -/
  | first (place : Nat) (hosted : UInt32) (number : UInt8) (flagged : frame.targetsClass = true)
      (nonzero : frame.device ≠ 0) (found : classes[place]? = some hosted)
      (named : hosted.toNat = frame.device.toNat)
      (least : ∀ earlier < place, classes[earlier]? ≠ some hosted)
      (counted : number.toNat = place + 1) :
      Numbered frame device classes asked number
  | own (own : frame.device = device) (unnamed : ¬frame.NamesClass classes) :
      Numbered frame device classes asked asked

/-- The route of a packet of a frame, at a node with this device and services of these classes. -/
inductive Routes (frame : Frame) (device : UInt64) (classes : List UInt32) (packet : Packet) :
    List Stop → Prop
  | report (report : frame.isCommand = false) :
      Routes frame device classes packet
        (.matcher packet :: (List.range classes.length).map fun place => .observer place packet)
  | stranger (command : frame.isCommand = true) (other : frame.device ≠ device)
      (unnamed : ¬frame.NamesClass classes) :
      Routes frame device classes packet [.matcher packet]
  | command (number : UInt8) (onward : List Stop) (command : frame.isCommand = true)
      (numbered : frame.Numbered device classes packet.service number)
      (goes : Goes classes.length packet number onward) :
      Routes frame device classes packet (.matcher packet :: onward)

end Frame

namespace Station

variable {σ κ : Type}

def visit (station : Station σ κ) : Stop → σ → σ
  | .matcher packet => station.registry.modify fun registry => (registry.processAck packet).2
  | .observer place packet =>
    match station.services[place]? with
    | none => id
    | some service => service.observe packet
  | .announcement => fun state => (station.announce state).2
  | .pipes packet => fun state =>
    (Registry.handlePacket station.registry station.tell packet state).2
  | .service place packet =>
    match station.services[place]? with
    | none => id
    | some service => service.handle packet

def travel (station : Station σ κ) (stops : List Stop) (state : σ) : σ :=
  stops.foldl (fun later stop => station.visit stop later) state

/-- From one state to another by taking packets along their routes, one packet after the other. -/
inductive Handles (station : Station σ κ) (frame : Frame) : List Packet → σ → σ → Prop
  | done (state : σ) : Handles station frame [] state state
  | next {packet : Packet} {packets : List Packet} {before after : σ} (stops : List Stop)
      (routes : frame.Routes (station.node.get before).config.device station.classes packet stops)
      (rest : Handles station frame packets (station.travel stops before) after) :
      Handles station frame (packet :: packets) before after

end Station

/-! ### The header of a packet -/

namespace Frame

variable {frame : Frame} {packet : Packet}

/-- A packet that bears the header of a frame, as far as routing looks at it. -/
structure Heads (frame : Frame) (packet : Packet) : Prop where
  device : packet.device = frame.device
  isCommand : packet.isCommand = frame.isCommand
  targetsClass : packet.targetsClass = frame.targetsClass

theorem Heads.of_eq (device : packet.device = frame.device) (flags : packet.flags = frame.flags) :
    frame.Heads packet where
  device := device
  isCommand := congrArg (Flag.has · Flag.command) flags
  targetsClass := congrArg (Flag.has · Flag.serviceClass) flags

/-- The request for an acknowledgement is no part of what routing looks at. -/
theorem Heads.answered (heads : frame.Heads packet) : frame.Heads packet.answered := by
  have command : ~~~Flag.ackRequested &&& Flag.command = Flag.command := by decide
  have serviceClass : ~~~Flag.ackRequested &&& Flag.serviceClass = Flag.serviceClass := by decide
  refine ⟨heads.device, ?_, ?_⟩
  · rw [← heads.isCommand]
    simp only [Packet.isCommand, Packet.answered, Flag.has, UInt8.and_assoc, command]
  · rw [← heads.targetsClass]
    simp only [Packet.targetsClass, Packet.answered, Flag.has, UInt8.and_assoc, serviceClass]

theorem header_packetsOf {device : UInt64} {flags : UInt8} {payload : Bytes}
    (listed : packet ∈ packetsOf device flags payload) :
    packet.device = device ∧ packet.flags = flags := by
  fun_induction packetsOf device flags payload with
  | case1 payload absent => cases listed
  | case2 payload front found ih =>
    rcases List.mem_cons.mp listed with rfl | behind
    · unfold packetAt? at found
      split at found
      · split at found
        · cases found
          exact ⟨rfl, rfl⟩
        · cases found
      · cases found
    · exact ih behind

theorem heads_walk (met : packet ∈ frame.walk) : frame.Heads packet := by
  have listed {packet : Packet} (listed : packet ∈ frame.packets) : frame.Heads packet :=
    Heads.of_eq (header_packetsOf listed).1 (header_packetsOf listed).2
  rw [walk_eq_met] at met
  cases packets : frame.packets with
  | nil => simp [packets, Frame.met] at met
  | cons first others =>
    rw [packets] at met
    rcases List.mem_cons.mp met with rfl | behind
    · exact listed (by simp [packets])
    · obtain ⟨original, member, rfl⟩ := List.mem_map.mp behind
      exact (listed (by simp [packets, member])).answered

end Frame

/-! ### The number of a packet -/

namespace Node

/-- A class and its number: zero for the control service, and otherwise one more than the place of
the first service of the class. -/
inductive Bears (classes : List UInt32) : UInt32 → UInt8 → Prop where
  | control : Bears classes 0 ServiceNumber.control
  | hosted {serviceClass : UInt32} {number : UInt8} (place : Nat) (other : serviceClass ≠ 0)
      (found : classes[place]? = some serviceClass)
      (first : ∀ earlier < place, classes[earlier]? ≠ some serviceClass)
      (counted : number.toNat = place + 1) :
      Bears classes serviceClass number

variable {device : UInt64} {classes : List UInt32} {packet taken : Packet} {frame : Frame}
  {serviceClass : UInt32} {number : UInt8}

/-- An identifier of at most thirty-two bits is the class that it is cut to. -/
theorem toNat_toUInt32_of_lt {value : UInt64} (narrow : value.toNat < UInt32.size) :
    value.toUInt32.toNat = value.toNat := by
  rw [UInt64.toNat_toUInt32]
  exact Nat.mod_eq_of_lt narrow

theorem toUInt32_eq_zero_iff {value : UInt64} (narrow : value.toNat < UInt32.size) :
    value.toUInt32 = 0 ↔ value = 0 := by
  rw [← UInt32.toNat_inj, ← UInt64.toNat_inj, toNat_toUInt32_of_lt narrow]
  rfl

theorem isSome_serviceNumber? (serviceClass : UInt32) :
    (serviceNumber? classes serviceClass).isSome ↔ serviceClass = 0 ∨ serviceClass ∈ classes := by
  unfold serviceNumber?
  split
  · simp [*]
  · simp [*, List.isSome_idxOf?]

theorem serviceNumber?_zero (classes : List UInt32) :
    serviceNumber? classes 0 = some ServiceNumber.control := if_pos rfl

theorem serviceNumber?_eq_some_iff (few : classes.length < 255) :
    serviceNumber? classes serviceClass = some number ↔ Bears classes serviceClass number := by
  by_cases zero : serviceClass = 0
  · subst zero
    rw [serviceNumber?_zero]
    constructor
    · rintro ⟨⟩
      exact .control
    · intro bears
      cases bears with
      | control => rfl
      | hosted place other => exact absurd rfl other
  rw [serviceNumber?, if_neg zero, Option.map_eq_some_iff]
  have exact (place : Nat) (within : place < classes.length) :
      (UInt8.ofNat (place + 1)).toNat = place + 1 :=
    UInt8.toNat_ofNat_of_lt' (by rw [UInt8.size]; omega)
  constructor
  · rintro ⟨place, found, rfl⟩
    obtain ⟨within, there, least⟩ := List.idxOf?_eq_some_iff.mp found
    refine .hosted place zero (List.getElem?_eq_some_iff.mpr ⟨within, there⟩) ?_
      (exact place within)
    intro earlier before same
    obtain ⟨_, taken⟩ := List.getElem?_eq_some_iff.mp same
    exact least earlier before taken
  · intro bears
    cases bears with
    | control => exact absurd rfl zero
    | hosted place other found first counted =>
      obtain ⟨within, there⟩ := List.getElem?_eq_some_iff.mp found
      refine ⟨place, List.idxOf?_eq_some_iff.mpr ⟨within, there, ?_⟩, ?_⟩
      · intro earlier before same
        exact first earlier before (List.getElem?_eq_some_iff.mpr ⟨by omega, same⟩)
      · exact UInt8.toNat_inj.mp ((exact place within).trans counted.symm)

/-- A packet is addressed to a class just if its frame names one that is hosted here. -/
theorem isSome_classNumber? (heads : frame.Heads packet) :
    (classNumber? classes packet).isSome ↔ frame.NamesClass classes := by
  unfold classNumber?
  rw [heads.device, heads.targetsClass]
  constructor
  · intro numbered
    split at numbered
    · rename_i addressed
      obtain ⟨flagged, narrow⟩ := addressed
      refine ⟨flagged, Nat.le_pred_of_lt narrow, ?_⟩
      rcases (isSome_serviceNumber? _).mp numbered with zero | hosted
      · exact .inl ((toUInt32_eq_zero_iff narrow).mp zero)
      · exact .inr ⟨_, hosted, toNat_toUInt32_of_lt narrow⟩
    · cases numbered
  · intro names
    have narrow : frame.device.toNat < UInt32.size := Nat.lt_of_le_pred (by decide) names.narrow
    rw [if_pos ⟨names.flagged, narrow⟩, isSome_serviceNumber?]
    rcases names.hosted with zero | ⟨hosted, member, named⟩
    · exact .inl ((toUInt32_eq_zero_iff narrow).mpr zero)
    · rw [← toNat_toUInt32_of_lt narrow, UInt32.toNat_inj] at named
      exact .inr (named ▸ member)

theorem classNumber?_eq_some_iff (heads : frame.Heads packet) (few : classes.length < 255) :
    classNumber? classes packet = some number ↔
      (frame.targetsClass = true ∧ frame.device.toNat < UInt32.size) ∧
        Bears classes frame.device.toUInt32 number := by
  rw [classNumber?, heads.device, heads.targetsClass, ← serviceNumber?_eq_some_iff few]
  by_cases addressed : frame.targetsClass = true ∧ frame.device.toNat < UInt32.size
  · rw [if_pos addressed, and_iff_right addressed]
  · rw [if_neg addressed]
    exact iff_of_false (Option.some_ne_none _).symm fun found => addressed found.1

/-- The number of a hosted class is that of its first service. -/
theorem numbered_of_classNumber? (heads : frame.Heads packet) (few : classes.length < 255)
    (numbered : classNumber? classes packet = some number) :
    frame.Numbered device classes packet.service number := by
  obtain ⟨⟨flagged, narrow⟩, bears⟩ := (classNumber?_eq_some_iff heads few).mp numbered
  have same := toNat_toUInt32_of_lt narrow
  have zero := toUInt32_eq_zero_iff narrow
  generalize frame.device.toUInt32 = hosted at bears same zero
  cases bears with
  | control => exact .control flagged (zero.mp rfl)
  | hosted place other found first counted =>
    exact .first place hosted number flagged (fun bare => other (zero.mpr bare)) found same first
      counted

theorem classNumber?_of_zero (heads : frame.Heads packet) (flagged : frame.targetsClass = true)
    (zero : frame.device = 0) : classNumber? classes packet = some ServiceNumber.control := by
  rw [classNumber?, heads.device, heads.targetsClass, zero, if_pos ⟨flagged, by decide⟩]
  rfl

theorem classNumber?_of_first {place : Nat} {hosted : UInt32} (heads : frame.Heads packet)
    (few : classes.length < 255) (flagged : frame.targetsClass = true) (nonzero : frame.device ≠ 0)
    (found : classes[place]? = some hosted) (named : hosted.toNat = frame.device.toNat)
    (least : ∀ earlier < place, classes[earlier]? ≠ some hosted)
    (counted : number.toNat = place + 1) : classNumber? classes packet = some number := by
  have narrow : frame.device.toNat < UInt32.size := named ▸ hosted.toNat_lt
  have cut : frame.device.toUInt32 = hosted :=
    UInt32.toNat_inj.mp ((toNat_toUInt32_of_lt narrow).trans named.symm)
  have other : hosted ≠ 0 := fun zero => nonzero ((toUInt32_eq_zero_iff narrow).mp (cut.trans zero))
  rw [classNumber?_eq_some_iff heads few, cut]
  exact ⟨⟨flagged, narrow⟩, .hosted place other found least counted⟩

/-- A command is taken with just the number that the rules give it. -/
theorem addressed?_eq_some_iff (heads : frame.Heads packet) (few : classes.length < 255) :
    addressed? device classes packet = some taken ↔
      ∃ number, taken = { packet with service := number } ∧
        frame.Numbered device classes packet.service number := by
  constructor
  · intro addressed
    unfold addressed? at addressed
    split at addressed
    · rename_i number numbered
      cases addressed
      exact ⟨number, rfl, numbered_of_classNumber? heads few numbered⟩
    · rename_i unnumbered
      split at addressed
      · rename_i own
        cases addressed
        refine ⟨packet.service, rfl, .own (heads.device ▸ own) ?_⟩
        rw [← isSome_classNumber? heads, unnumbered]
        exact Bool.false_ne_true
      · cases addressed
  · rintro ⟨number, rfl, numbered⟩
    unfold addressed?
    cases numbered with
    | control flagged zero =>
      rw [classNumber?_of_zero heads flagged zero]
    | first place hosted number flagged nonzero found named least counted =>
      rw [classNumber?_of_first heads few flagged nonzero found named least counted]
    | own own unnamed =>
      rw [← isSome_classNumber? heads, Bool.not_eq_true, Option.isSome_eq_false_iff,
        Option.isNone_iff_eq_none] at unnamed
      rw [unnamed]
      exact if_pos (heads.device.trans own)

/-- A command is left to others if it bears another device and names no class hosted here. -/
theorem addressed?_eq_none_iff (heads : frame.Heads packet) :
    addressed? device classes packet = none ↔
      frame.device ≠ device ∧ ¬frame.NamesClass classes := by
  rw [← isSome_classNumber? heads, ← heads.device]
  unfold addressed?
  cases classNumber? classes packet with
  | none => simp
  | some number => simp

/-- The stops of a command that is taken, by the number that it bears then. -/
def onward (services : Nat) (taken : Packet) : List Stop :=
  match destination? services taken.service with
  | none => []
  | some .control => if taken.command = Command.advertisement then [.announcement] else []
  | some .pipe => [.pipes taken]
  | some (.hosted place) => [.service place taken]

def route (device : UInt64) (classes : List UInt32) (packet : Packet) : List Stop :=
  .matcher packet ::
    if packet.isCommand then
      match addressed? device classes packet with
      | none => []
      | some taken => onward classes.length taken
    else (List.range classes.length).map fun place => .observer place packet

end Node

/-! ### The route of a packet -/

section

variable {services : Nat} {packet : Packet} {number : UInt8} {stops : List Stop}

/-- The rules send a numbered command just where the node takes it. With so few services none of
them bears the number of the pipes. -/
theorem goes_iff (few : services < ServiceNumber.pipe.toNat) :
    Goes services packet number stops ↔
      stops = Node.onward services { packet with service := number } := by
  unfold Node.onward Node.destination?
  constructor
  · intro goes
    cases goes with
    | announced control asked => simp [control, asked]
    | ignored control other => simp [control, other]
    | piped pipe => simp [pipe, ServiceNumber.pipe, ServiceNumber.control]
    | hosted place counted present =>
      have control : number ≠ ServiceNumber.control := by
        rintro rfl
        cases counted
      have pipe : number ≠ ServiceNumber.pipe := by
        rintro rfl
        omega
      simp only [if_neg control, if_neg pipe, if_pos (show number.toNat ≤ services by omega),
        show number.toNat - 1 = place by omega]
    | nowhere control pipe beyond =>
      simp only [if_neg control, if_neg pipe, if_neg (Nat.not_le_of_lt beyond)]
  · rintro rfl
    by_cases control : number = ServiceNumber.control
    · by_cases asked : packet.command = Command.advertisement
      · simpa [control, asked] using Goes.announced rfl asked
      · simpa [control, asked] using Goes.ignored rfl asked
    · by_cases pipe : number = ServiceNumber.pipe
      · simp only [if_neg control, if_pos pipe]
        exact .piped pipe
      · by_cases present : number.toNat ≤ services
        · have positive : number.toNat ≠ 0 := fun zero => control (UInt8.toNat_inj.mp zero)
          simp only [if_neg control, if_neg pipe, if_pos present]
          exact .hosted (number.toNat - 1) (by omega) (by omega)
        · simp only [if_neg control, if_neg pipe, if_neg present]
          exact .nowhere control pipe (Nat.lt_of_not_le present)

variable {device : UInt64} {classes : List UInt32} {frame : Frame}

/-- The rules allow a packet one route. -/
theorem Frame.routes_iff (heads : frame.Heads packet)
    (few : classes.length < ServiceNumber.pipe.toNat) :
    frame.Routes device classes packet stops ↔ stops = Node.route device classes packet := by
  have short : classes.length < 255 := Nat.lt_trans few (by decide)
  unfold Node.route
  rw [heads.isCommand]
  constructor
  · intro routes
    cases routes with
    | report report => simp [report]
    | stranger command other unnamed =>
      rw [if_pos command, (Node.addressed?_eq_none_iff heads).mpr ⟨other, unnamed⟩]
    | command number onward command numbered goes =>
      rw [if_pos command,
        (Node.addressed?_eq_some_iff heads short).mpr ⟨number, rfl, numbered⟩,
        (goes_iff few).mp goes]
  · rintro rfl
    cases command : frame.isCommand with
    | false => simpa using Routes.report command
    | true =>
      rw [if_pos rfl]
      cases addressed : Node.addressed? device classes packet with
      | none =>
        obtain ⟨other, unnamed⟩ := (Node.addressed?_eq_none_iff heads).mp addressed
        exact .stranger command other unnamed
      | some taken =>
        obtain ⟨number, rfl, numbered⟩ := (Node.addressed?_eq_some_iff heads short).mp addressed
        exact .command number _ command numbered ((goes_iff few).mpr rfl)

end

namespace Station

variable {σ κ : Type} (station : Station σ κ)

theorem length_classes : station.classes.length = station.services.length := List.length_map ..

theorem travel_append (first second : List Stop) (state : σ) :
    station.travel (first ++ second) state =
      station.travel second (station.travel first state) :=
  List.foldl_append ..

/-- Coming by the first so many services, in order. -/
theorem travel_observers (packet : Packet) (count : Nat) (state : σ) :
    station.travel ((List.range count).map fun place => .observer place packet) state =
      (station.services.take count).foldl
        (fun later service => service.observe packet later) state := by
  induction count with
  | zero => rfl
  | succ count ih =>
    rw [List.range_succ, List.map_append, travel_append, ih, List.take_add_one,
      List.foldl_append]
    simp only [travel, List.map_cons, List.map_nil, List.foldl_cons, List.foldl_nil, visit]
    cases station.services[count]? <;> rfl

theorem travel_onward (taken : Packet) (state : σ) :
    station.travel (Node.onward station.services.length taken) state =
      match Node.destination? station.services.length taken.service with
      | none => state
      | some destination => station.deliver taken destination state := by
  unfold Node.onward
  cases Node.destination? station.services.length taken.service with
  | none => rfl
  | some destination =>
    cases destination with
    | control =>
      simp only [deliver]
      split <;> rfl
    | pipe => rfl
    | hosted place =>
      simp only [travel, List.foldl_cons, List.foldl_nil, visit, deliver]
      cases station.services[place]? <;> rfl

theorem handlePacket_eq (packet : Packet) (state : σ) :
    station.handlePacket packet state =
      station.travel
        (Node.route (station.node.get state).config.device station.classes packet) state := by
  have matched (stops : List Stop) :
      station.travel (.matcher packet :: stops) state =
        station.travel stops (station.visit (.matcher packet) state) := rfl
  unfold handlePacket Node.route
  rw [matched, length_classes]
  cases packet.isCommand with
  | false =>
    simp only [Bool.false_eq_true, ↓reduceIte, travel_observers, List.take_length]
    rfl
  | true =>
    simp only [↓reduceIte]
    cases Node.addressed? (station.node.get state).config.device station.classes packet with
    | none => rfl
    | some taken => exact (station.travel_onward taken _).symm

/-- Handling packets is taking them along routes that the rules allow, one after the other. -/
theorem handles_handleAll {frame : Frame} {packets : List Packet}
    (few : station.classes.length < ServiceNumber.pipe.toNat)
    (heads : ∀ packet ∈ packets, frame.Heads packet) (state : σ) :
    station.Handles frame packets state (station.handleAll packets state) := by
  induction packets generalizing state with
  | nil => exact .done state
  | cons packet packets ih =>
    have others : ∀ packet ∈ packets, frame.Heads packet := fun packet member =>
      heads packet (List.mem_cons_of_mem _ member)
    have front : frame.Heads packet := heads packet (List.mem_cons_self ..)
    refine .next _ ((Frame.routes_iff front few).mpr rfl) ?_
    rw [← station.handlePacket_eq]
    exact ih others (station.handlePacket packet state)

/-- A node that can be built hosts fewer services than there are numbers before that of the
pipes. -/
theorem length_classes_of_build {config : NodeConfig} {ports : Nat → UInt16} {fresh : Node κ}
    (built : Node.build config station.services.length ports = .ok fresh) :
    station.classes.length < ServiceNumber.pipe.toNat := by
  unfold Node.build at built
  split at built
  · cases built
  · rename_i few
    have pipe : ServiceNumber.pipe.toNat = 0x3e := rfl
    simp only [ServiceNumber.maxHosted] at few
    rw [length_classes, pipe]
    omega

/-- Dispatching a frame handles the packets that reading it lists, each one once and in order. At a
node that can be built a packet has one route, whatever the frame bears, and takes it: it is offered
to the waiters of output pipes; a report is then observed by every service in turn, and a command
goes to the one place that its number leads to, if there is one and the frame is addressed to this
device or to a class hosted here. -/
theorem routes_packets (station : Station σ κ) (frame : Frame) (state : σ)
    (ports : Nat → UInt16) (fresh : Node κ)
    (built : Node.build (station.node.get state).config station.services.length ports =
      .ok fresh) :
    let listed := frame.packets.mapIdx fun place packet =>
      if place = 0 then packet
      else { packet with flags := packet.flags &&& ~~~Flag.ackRequested }
    station.Handles frame listed (station.acknowledge frame state)
      (station.processFrame frame state) ∧
    ∀ packet ∈ listed, ∀ device, ∃! stops,
      frame.Routes device station.classes packet stops := by
  intro listed
  have few := station.length_classes_of_build built
  have walked : frame.walk = listed := by
    rw [Frame.walk_eq_met, Frame.met_eq_mapIdx]
    rfl
  have heads : ∀ packet ∈ listed, frame.Heads packet := by
    rw [← walked]
    intro packet
    exact Frame.heads_walk
  constructor
  · rw [processFrame_eq, walked]
    exact station.handles_handleAll few heads _
  · intro packet member device
    have only (stops : List Stop) : frame.Routes device station.classes packet stops ↔
        stops = Node.route device station.classes packet :=
      Frame.routes_iff (heads packet member) few
    exact ⟨_, (only _).mpr rfl, fun stops => (only stops).mp⟩

def noting (serviceClass : UInt32) : Service (Peer (List UInt8) Unit) where
  serviceClass
  handle packet peer := { peer with rest := peer.rest ++ [packet.service] }

/-- Two services of one class, at a device of the same number. A frame that is addressed both ways
reaches the first service, whatever number its packets bear. -/
theorem routes_packets_twins :
    let station := Peer.station [noting 7, noting 7] fun _ _ peer => peer
    let node : Node Unit := Node.create { device := 7 } scatteredPorts
    let peer : Peer (List UInt8) Unit := { node, rest := [] }
    let flags := Flag.command ||| Flag.serviceClass
    let frame : Frame :=
      { device := 7, flags, payload := Frame.packetBytes 9 3 [] ++ Frame.packetBytes 0 0 [] }
    let packets : List Packet := [⟨7, flags, 9, 3, []⟩, ⟨7, flags, 0, 0, []⟩]
    Node.build node.config 2 scatteredPorts = .ok node ∧
      station.Handles frame packets peer (station.processFrame frame peer) ∧
      (∀ packet ∈ packets, ∀ device, ∃! stops, frame.Routes device [7, 7] packet stops) ∧
      (station.processFrame frame peer).rest = [1, 1] := by
  intro station node peer flags frame packets
  have built : Node.build node.config 2 scatteredPorts = .ok node := rfl
  have read : frame.packets = packets := by
    have second := Frame.packetsOf_packetBytes 7 flags 0 0 [] [] (by decide)
    rw [List.append_nil, Frame.packetsOf_nil] at second
    exact (Frame.packetsOf_packetBytes 7 flags 9 3 [] _ (by decide)).trans
      (congrArg (_ :: ·) second)
  obtain ⟨handles, only⟩ := station.routes_packets frame peer scatteredPorts node built
  have listed : (packets.mapIdx fun place packet =>
      if place = 0 then packet
      else { packet with flags := packet.flags &&& ~~~Flag.ackRequested }) = packets := by decide
  have unasked : station.acknowledge frame peer = peer := by
    refine if_neg ?_
    simp only [mustAck, Frame.ackRequested, frame, flags]
    decide
  rw [read, listed, unasked] at handles
  rw [read, listed] at only
  refine ⟨built, handles, only, ?_⟩
  rw [processFrame_eq, Frame.walk_eq_met, read, unasked]
  simp only [station, peer, node, packets, flags]
  decide

end Station

end PipeBus

import PipeBus.Proofs.Switchboard

/-! What input pipes take out of a sequence of packets when their receivers only keep what they are
told. Every pipe makes its own selection: of the packets on its port it takes the first one with the
counter that is due, then the next such one after it, until it has taken one with the close flag.
Main statement: after any run this is what the receiver of every open pipe is told, whatever packets
come for other pipes in between (`Switchboard.gates_run`). -/

namespace PipeBus

/-- Whether a pipe on this port that has taken so many packets takes this one. -/
def Packet.isNext (port : UInt16) (number : Nat) (packet : Packet) : Bool :=
  packet.word.port == port && packet.word.counter.toNat == number % 32

/-- The packets that a pipe on a port takes out of a sequence after it has taken so many: each is
the first one behind its predecessor that bears the port and the counter of its number, and there is
none behind one with the close flag. -/
def selection (port : UInt16) (number : Nat) (packets : List Packet) : List Packet :=
  match found : packets.dropWhile fun packet => !packet.isNext port number with
  | [] => []
  | packet :: rest =>
    packet :: if packet.word.isClose then [] else selection port (number + 1) rest
termination_by packets.length
decreasing_by
  have shorter := (packets.dropWhile_suffix fun packet => !packet.isNext port number).length_le
  rwa [found] at shorter

section Selection

variable {port : UInt16} {number : Nat} {packet : Packet} {packets rest : List Packet}

theorem selection_eq (port : UInt16) (number : Nat) (packets : List Packet) :
    selection port number packets =
      match packets.dropWhile fun packet => !packet.isNext port number with
      | [] => []
      | packet :: rest =>
        packet :: if packet.word.isClose then [] else selection port (number + 1) rest := by
  rw [selection]
  split <;> rename_i found <;> rw [found]

theorem selection_nil : selection port number [] = [] :=
  selection_eq port number []

theorem selection_skip (other : packet.isNext port number = false) :
    selection port number (packet :: rest) = selection port number rest := by
  rw [selection_eq, List.dropWhile_cons, other, Bool.not_false, if_pos rfl, ← selection_eq]

theorem selection_take (next : packet.isNext port number = true) :
    selection port number (packet :: rest) =
      packet :: if packet.word.isClose then [] else selection port (number + 1) rest := by
  rw [selection_eq, List.dropWhile_cons, next, Bool.not_true, if_neg Bool.false_ne_true]

/-- A selection is made among the packets on the port. -/
theorem selection_filter :
    selection port number (packets.filter fun packet => packet.word.port == port) =
      selection port number packets := by
  induction packets generalizing number with
  | nil => rfl
  | cons packet rest ih =>
    cases bears : packet.word.port == port with
    | false =>
      have other : packet.isNext port number = false := by rw [Packet.isNext, bears, Bool.false_and]
      rw [List.filter_cons_of_neg (by simp [bears]), ih, selection_skip other]
    | true =>
      rw [List.filter_cons_of_pos (by simp [bears])]
      cases next : packet.isNext port number with
      | false => rw [selection_skip next, selection_skip next, ih]
      | true => rw [selection_take next, selection_take next, ih]

end Selection

/-- An input pipe accepts a packet just when it bears the port and the counter of its word. -/
def InputEntry.Awaits {κ : Type} (entry : InputEntry κ) (packet : Packet) : Prop :=
  packet.word.port = entry.expected.port ∧ packet.word.counter = entry.expected.counter

namespace Switchboard

def Event.tells (pipe : Nat) : Event → Option Delivery
  | .told other delivery => if other = pipe then some delivery else none
  | _ => none

/-- All that the receiver of a pipe was told, in order. -/
def heard (events : List Event) (pipe : Nat) : List Delivery :=
  events.filterMap (Event.tells pipe)

/-- A switchboard after packets were routed to receivers that only keep what they are told. -/
def routed (packets : List Packet) (board : Switchboard) : Switchboard :=
  board.run silent (packets.map .route)

/-- What comes of one packet. -/
inductive Outcome (board : Switchboard) (packet : Packet) (later : Switchboard) : Prop where
  /-- No pipe wants it, and nothing changes. -/
  | dropped
      (unwanted : ∀ id entry, board.registry.inputs.get? id = some entry → ¬ entry.Awaits packet)
      (events : later.events = board.events ++ [.routed packet false])
      (registry : later.registry = board.registry)
  /-- One pipe accepts it: its receiver is told once, and no other pipe changes. -/
  | accepted (id : SlotId) (entry : InputEntry Nat)
      (stored : board.registry.inputs.get? id = some entry) (awaited : entry.Awaits packet)
      (events : later.events =
        board.events ++ packet.deliveries.map (.told entry.sink) ++ [.routed packet true])
      (own : later.registry.inputs.get? id =
        if packet.word.isClose then none
        else some { entry with expected := entry.expected.advance })
      (others : ∀ other, other ≠ id →
        later.registry.inputs.get? other = board.registry.inputs.get? other)
      (rest : later.registry = { board.registry with inputs := later.registry.inputs })

/-- What comes of packets that are routed one after the other. -/
structure Gates (board : Switchboard) (packets : List Packet) : Prop where
  each : ∀ before packet, before ++ [packet] <+: packets →
    Outcome (board.routed before) packet (board.routed (before ++ [packet]))
  /-- The receiver of an open pipe is told the selection that the pipe makes. -/
  selects : ∀ id entry, board.registry.inputs.get? id = some entry →
    heard (board.routed packets).events entry.sink =
      heard board.events entry.sink ++
        (selection entry.expected.port (taken board.events entry.sink) packets).flatMap
          Packet.deliveries
  /-- The receiver of a pipe that is not open is told nothing. -/
  gone : ∀ pipe, (∀ id entry, board.registry.inputs.get? id = some entry → entry.sink ≠ pipe) →
    heard (board.routed packets).events pipe = heard board.events pipe
  /-- Packets that agree on the port of a pipe are all the same to its receiver. -/
  independent : ∀ id entry others, board.registry.inputs.get? id = some entry →
    (packets.filter fun packet => packet.word.port == entry.expected.port) =
      (others.filter fun packet => packet.word.port == entry.expected.port) →
    heard (board.routed packets).events entry.sink = heard (board.routed others).events entry.sink

section Outcome

variable {board later : Switchboard} {packet : Packet} {packets : List Packet} {id : SlotId}
  {entry : InputEntry Nat} {events : List Event} {registry : Registry Nat}

theorem heard_routed (events : List Event) (packet : Packet) (accepted : Bool) (pipe : Nat) :
    heard (events ++ [.routed packet accepted]) pipe = heard events pipe := by
  rw [heard, List.filterMap_append]
  exact List.append_nil _

theorem heard_told (events : List Event) (sink : Nat) (packet : Packet) (pipe : Nat) :
    heard (events ++ packet.deliveries.map (.told sink)) pipe =
      heard events pipe ++ if sink = pipe then packet.deliveries else [] := by
  rw [heard, List.filterMap_append, List.filterMap_map, heard]
  congr 1
  split
  · rename_i own
    have tells : (Event.tells pipe ∘ Event.told sink) = some := funext fun _ => if_pos own
    rw [tells, List.filterMap_some]
  · rename_i other
    exact List.filterMap_eq_nil_iff.mpr fun _ _ => if_neg other

theorem taken_routed (events : List Event) (packet : Packet) (accepted : Bool) (pipe : Nat) :
    taken (events ++ [.routed packet accepted]) pipe = taken events pipe :=
  taken_concat ..

/-- A packet that is told to a pipe counts once, whether or not the end follows. -/
theorem taken_told (events : List Event) (sink : Nat) (packet : Packet) (pipe : Nat) :
    taken (events ++ packet.deliveries.map (.told sink)) pipe =
      taken events pipe + if sink = pipe then 1 else 0 := by
  rw [taken, List.countP_append, Packet.deliveries_eq, List.map_cons, List.countP_cons,
    Event.brings_delivery, taken]
  cases packet.word.isClose <;> simp [Event.brings, Delivery.packet?]

/-- A pipe accepts the packet that is next after those it has been told. -/
theorem Entered.awaits_iff {port : UInt16} (entered : Entered events id entry port) :
    entry.Awaits packet ↔ packet.isNext entry.expected.port (taken events entry.sink) = true := by
  have counter : entry.expected.counter.toNat = taken events entry.sink % 32 := by
    rw [entered.expected, PipeWord.counter_numbered]
  rw [InputEntry.Awaits, Packet.isNext, Bool.and_eq_true, beq_iff_eq, beq_iff_eq, ← counter,
    UInt16.toNat_inj]

/-- A packet that was not accepted is awaited by no pipe. -/
theorem Sound.unwanted (sound : Sound events registry) (refused : registry.accept? packet = none)
    (stored : registry.inputs.get? id = some entry) : ¬ entry.Awaits packet := by
  rintro ⟨bears, counter⟩
  obtain ⟨word, sink⟩ := entry
  have sole : registry.Sole word.port id :=
    fun other held found same => sound.apart id ⟨word, sink⟩ other held stored found same.symm
  have small : word.counter.toNat < 32 := by
    rw [PipeWord.toNat_counter]
    exact Nat.mod_lt _ (by decide)
  have expects : registry.Expects word.port word.counter.toNat id sink :=
    sole.expects stored rfl (Nat.mod_eq_of_lt small).symm
  have number : packet.word.counter.toNat = word.counter.toNat % 32 := by
    rw [counter, Nat.mod_eq_of_lt small]
  have taken := expects.accept? bears number
  rw [refused] at taken
  cases taken

theorem tell_silent (pipe : Nat) (delivery : Delivery) (board : Switchboard) :
    Switchboard.tell silent pipe delivery board =
      board.note (.told pipe delivery) board.registry := rfl

theorem perform_silent {sink : Nat}
    (taken : board.registry.accept? packet = some (⟨id, sink, packet.word⟩, registry)) :
    (board.perform silent (.route packet)).events =
        board.events ++ packet.deliveries.map (.told sink) ++ [.routed packet true] ∧
      (board.perform silent (.route packet)).registry =
        if packet.word.isClose then (registry.closeInput id).2 else registry := by
  rw [perform_accepted silent taken, Packet.deliveries_eq]
  cases packet.word.isClose <;> simp [tell_silent, events, note]

theorem Traced.outcome (traced : board.Traced) (packet : Packet) :
    Outcome board packet (board.routed [packet]) := by
  have sound := traced.reaches.sound
  change Outcome board packet (board.perform silent (.route packet))
  rcases board.registry.accept?_cases packet with refused | ⟨id, entry, found, counter, taken⟩
  · rw [perform_refused silent refused]
    exact .dropped (fun id entry stored => sound.unwanted refused stored) (events_note ..) rfl
  obtain ⟨stored, bears, _⟩ := Registry.listener?_eq_some.mp found
  obtain ⟨events, table⟩ := perform_silent taken
  have entries {other : SlotId} {held : InputEntry Nat} :=
    board.registry.get?_advanced_iff stored other held
  have frame {other : SlotId} {held : InputEntry Nat} (different : other ≠ id) :
      (board.registry.advanced id).inputs.get? other = some held ↔
        board.registry.inputs.get? other = some held := by
    refine entries.trans ?_
    rw [or_iff_right fun both => different both.1, and_iff_right different]
  refine .accepted id entry stored ⟨bears.symm, counter.symm⟩ events ?_ ?_ ?_ <;> rw [table] <;>
    cases packet.word.isClose
  · exact entries.mpr (.inl ⟨rfl, rfl⟩)
  · exact Registry.get?_closeInput_self _ id
  · intro other different
    ext held
    exact frame different
  · intro other different
    ext held
    exact (Registry.get?_closeInput_iff _ id).trans
      ((and_iff_right different).trans (frame different))
  · rfl
  · rcases (board.registry.advanced id).closeInput_cases id with ⟨_, same⟩ | ⟨_, _, _, same⟩ <;>
      rw [if_pos rfl, same] <;> rfl

end Outcome

section Gates

variable {board later : Switchboard} {packet : Packet} {packets : List Packet} {id : SlotId}
  {entry : InputEntry Nat}

/-- After an outcome every open pipe was open before, with the same receiver. -/
theorem Outcome.was_open (outcome : Outcome board packet later)
    (stored : later.registry.inputs.get? id = some entry) :
    ∃ old, board.registry.inputs.get? id = some old ∧ old.sink = entry.sink := by
  rcases outcome with ⟨_, _, same⟩ | ⟨other, held, found, _, _, own, others, _⟩
  · rw [same] at stored
    exact ⟨entry, stored, rfl⟩
  · by_cases same : id = other
    · subst same
      rw [own] at stored
      split at stored <;> cases stored
      exact ⟨held, found, rfl⟩
    · exact ⟨entry, others id same ▸ stored, rfl⟩

/-- What a packet does to an open pipe. -/
theorem Outcome.meets (resting : board.Resting) (outcome : Outcome board packet later)
    (stored : board.registry.inputs.get? id = some entry) :
    packet.isNext entry.expected.port (taken board.events entry.sink) = false ∧
        later.registry.inputs.get? id = some entry ∧
        heard later.events entry.sink = heard board.events entry.sink ∧
        taken later.events entry.sink = taken board.events entry.sink ∨
      packet.isNext entry.expected.port (taken board.events entry.sink) = true ∧
        later.registry.inputs.get? id =
          (if packet.word.isClose then none
            else some { entry with expected := entry.expected.advance }) ∧
        heard later.events entry.sink = heard board.events entry.sink ++ packet.deliveries ∧
        taken later.events entry.sink = taken board.events entry.sink + 1 := by
  have sound := resting.traced.reaches.sound
  obtain ⟨port, entered⟩ := sound.entered id entry stored
  rcases outcome with ⟨unwanted, events, same⟩ |
    ⟨other, held, found, awaited, events, own, others, _⟩
  · refine .inl ⟨?_, same ▸ stored, ?_, ?_⟩
    · exact Bool.eq_false_iff.mpr (mt entered.awaits_iff.mpr (unwanted id entry stored))
    · rw [events, heard_routed]
    · rw [events, taken_routed]
  · rw [events, heard_routed, heard_told, taken_routed, taken_told]
    by_cases same : other = id
    · subst same
      cases found.symm.trans stored
      refine .inr ⟨entered.awaits_iff.mp awaited, own, ?_, ?_⟩ <;> rw [if_pos rfl]
    · have apart : held.sink ≠ entry.sink := fun sinks => same (sound.same stored found sinks)
      refine .inl ⟨Bool.eq_false_iff.mpr fun next => ?_, ?_, ?_, ?_⟩
      · have bears := (entered.awaits_iff.mpr next).1
        exact same (sound.apart id entry other held stored found (bears.symm.trans awaited.1))
      · rw [others id (Ne.symm same), stored]
      · rw [if_neg apart, List.append_nil]
      · rw [if_neg apart, Nat.add_zero]

theorem routed_cons (packet : Packet) (rest : List Packet) (board : Switchboard) :
    board.routed (packet :: rest) = (board.routed [packet]).routed rest := rfl

theorem routed_append (before after : List Packet) (board : Switchboard) :
    board.routed (before ++ after) = (board.routed before).routed after := by
  rw [routed, List.map_append, run, List.foldl_append]
  rfl

theorem Resting.routed (resting : board.Resting) (packets : List Packet) :
    (board.routed packets).Resting :=
  resting.run silent (packets.map .route)

theorem Resting.heard_gone {pipe : Nat} (resting : board.Resting)
    (gone : ∀ id entry, board.registry.inputs.get? id = some entry → entry.sink ≠ pipe) :
    heard (board.routed packets).events pipe = heard board.events pipe := by
  induction packets generalizing board with
  | nil => rfl
  | cons packet rest ih =>
    have outcome := resting.traced.outcome packet
    have still (id : SlotId) (entry : InputEntry Nat)
        (stored : (board.routed [packet]).registry.inputs.get? id = some entry) :
        entry.sink ≠ pipe := by
      obtain ⟨old, found, same⟩ := outcome.was_open stored
      exact same ▸ gone id old found
    rw [routed_cons, ih (resting.routed [packet]) still]
    rcases outcome with ⟨_, events, _⟩ | ⟨id, entry, stored, _, events, _, _, _⟩
    · rw [events, heard_routed]
    · rw [events, heard_routed, heard_told, if_neg (gone id entry stored), List.append_nil]

/-- The receiver of an open pipe is told the selection that the pipe makes. -/
theorem Resting.heard_selection (resting : board.Resting)
    (stored : board.registry.inputs.get? id = some entry) :
    heard (board.routed packets).events entry.sink =
      heard board.events entry.sink ++
        (selection entry.expected.port (taken board.events entry.sink) packets).flatMap
          Packet.deliveries := by
  induction packets generalizing board entry with
  | nil =>
    rw [selection_nil]
    exact (List.append_nil _).symm
  | cons packet rest ih =>
    have outcome := resting.traced.outcome packet
    have later := resting.routed [packet]
    rw [routed_cons]
    rcases outcome.meets resting stored with
      ⟨other, kept, heard, taken⟩ | ⟨next, kept, heard, taken⟩
    · rw [ih later kept, selection_skip other, heard, taken]
    · rw [selection_take next, List.flatMap_cons, ← List.append_assoc, ← heard]
      cases closes : packet.word.isClose with
      | false =>
        rw [closes, if_neg Bool.false_ne_true] at kept
        have further := ih later kept
        rw [PipeWord.port_advance, taken] at further
        exact further
      | true =>
        rw [closes, if_pos rfl] at kept
        refine (later.heard_gone ?_).trans (List.append_nil _).symm
        intro other held found sinks
        -- A pipe with this receiver would be the one that was closed.
        obtain ⟨old, before, same⟩ := outcome.was_open found
        rw [resting.traced.reaches.sound.same stored before (same.trans sinks), kept] at found
        cases found

theorem Resting.gates (resting : board.Resting) (packets : List Packet) : Gates board packets where
  each before packet _ := by
    rw [routed_append]
    exact (resting.routed before).traced.outcome packet
  selects id entry stored := resting.heard_selection stored
  gone pipe := resting.heard_gone
  independent id entry others stored agree := by
    rw [resting.heard_selection stored, resting.heard_selection stored, ← selection_filter, agree,
      selection_filter]

/-- After any run, whatever the receivers did in the course of it, every open pipe makes its own
selection of the packets that come. -/
theorem gates_run (inputs outputs attempts : Nat) (ports : Nat → UInt16) (reaction : Reaction)
    (operations : List Operation) (packets : List Packet) :
    Gates ((start inputs outputs attempts ports).run reaction operations) packets :=
  (resting_run inputs outputs attempts ports reaction operations).gates packets

end Gates

end Switchboard

end PipeBus

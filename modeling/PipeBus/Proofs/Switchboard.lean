import Mathlib.Data.List.Induction
import PipeBus.Proofs.InputTable
import PipeBus.Proofs.Pieces

/-! Input pipes whose receivers act on the registry of pipes. While a receiver is told something it
may close its own pipe, or any other, and open new ones, which may take the slot or the port that
has become free. Whatever happens is on record, together with the table as it was then. Main statement:
every run, the insides of its callbacks included, is a sequence of steps of one kind
(`Switchboard.Reaches`), from which its invariants are derived. -/

namespace PipeBus

namespace Packet

/-- How the packet itself is told to the receiver of the pipe that accepted it. -/
def delivery (packet : Packet) : Delivery :=
  if packet.word.isMeta then .metadata packet else .data packet

theorem deliveries_eq (packet : Packet) :
    packet.deliveries = packet.delivery :: if packet.word.isClose then [.eof] else [] := rfl

end Packet

/-- The packet that a delivery brings; the end of a pipe brings none. -/
def Delivery.packet? : Delivery → Option Packet
  | .data packet | .metadata packet => some packet
  | .eof => none

theorem Packet.delivery_ne_eof (packet : Packet) : packet.delivery ≠ .eof := by
  unfold Packet.delivery
  split <;> nofun

theorem Packet.packet?_delivery (packet : Packet) : packet.delivery.packet? = some packet := by
  unfold Packet.delivery
  split <;> rfl

namespace Switchboard

/-- What is done to a registry for output pipes. -/
inductive Errand where
  | register (device : UInt64)
  | unregister (id : SlotId)
  | arm (id : SlotId) (crc : UInt16)
  | disarm (id : SlotId)
  | answer (packet : Packet)
  | wait (bell : Nat)

def Errand.apply {κ : Type} (errand : Errand) (registry : Registry κ) : Registry κ :=
  match errand with
  | .register device => (registry.registerOutput device).2
  | .unregister id => (registry.unregisterOutput id).2
  | .arm id crc => registry.arm id crc
  | .disarm id => registry.disarm id
  | .answer packet => (registry.processAck packet).2
  | .wait bell => (registry.wait bell).2

/-- Input pipes do not notice what is done for output pipes. -/
theorem Errand.inputs_apply {κ : Type} (errand : Errand) (registry : Registry κ) :
    (errand.apply registry).inputs = registry.inputs := by
  cases errand with
  | register device =>
    rw [apply, Registry.registerOutput]
    split <;> rfl
  | unregister id =>
    rw [apply, Registry.unregisterOutput]
    split <;> rfl
  | arm id crc =>
    rw [apply, Registry.arm]
    split <;> rfl
  | disarm id => rfl
  | answer packet =>
    rw [apply, Registry.processAck]
    split <;> rfl
  | wait bell => rfl

/-- What can be done to a registry besides routing a packet. -/
inductive Action where
  | openPipe
  /-- Close whatever pipe a handle stands for. -/
  | closePipe (id : SlotId)
  | serve (errand : Errand)

/-- Something that happened at a table of input pipes. A pipe is known by the place that its opening
has in the record. -/
inductive Event where
  | started
  /-- A pipe was opened: the handle and the port that were returned. -/
  | opened (id : SlotId) (port : UInt16)
  | refused (error : NodeError)
  /-- A handle was closed: whether that freed a pipe. -/
  | closed (id : SlotId) (freed : Bool)
  | served
  /-- The receiver of a pipe was told something; what it does follows in the record. -/
  | told (pipe : Nat) (delivery : Delivery)
  | routed (packet : Packet) (accepted : Bool)
  deriving DecidableEq

/-- An event, and the table as it stood then. -/
structure Moment where
  event : Event
  registry : Registry Nat

/-- What the receivers of pipes do when they are told something. They know all that has happened,
from which also follows what will come of the actions they choose. -/
abbrev Reaction := List Moment → Nat → Delivery → List Action

/-- Receivers that only keep what they are told. -/
def silent : Reaction := fun _ _ _ => []

inductive Operation where
  | act (action : Action)
  | route (packet : Packet)

end Switchboard

open Switchboard in
/-- The input pipes of a node, and the record of what happened to them. -/
structure Switchboard where
  registry : Registry Nat
  log : List Moment

namespace Switchboard

def start (inputs outputs attempts : Nat) (ports : Nat → UInt16) : Switchboard where
  registry := Registry.create inputs outputs attempts ports
  log := [⟨.started, Registry.create inputs outputs attempts ports⟩]

/-- What happened, without the tables. -/
def events (board : Switchboard) : List Event := board.log.map Moment.event

/-- Put an event on record that leaves the table so. -/
def note (event : Event) (registry : Registry Nat) (board : Switchboard) : Switchboard where
  registry
  log := board.log ++ [⟨event, registry⟩]

def place : Lens Switchboard (Registry Nat) where
  get := registry
  set registry board := { board with registry }

def act (action : Action) (board : Switchboard) : Switchboard :=
  match action with
  | .openPipe =>
    match board.registry.openInput board.log.length with
    | (.ok (id, port), registry) => board.note (.opened id port) registry
    | (.error error, registry) => board.note (.refused error) registry
  | .closePipe id =>
    let (freed, registry) := board.registry.closeInput id
    board.note (.closed id freed) registry
  | .serve errand => board.note .served (errand.apply board.registry)

/-- Tell the receiver of a pipe, and let it act. -/
def tell (reaction : Reaction) (pipe : Nat) (delivery : Delivery) (board : Switchboard) :
    Switchboard :=
  (reaction board.log pipe delivery).foldl (fun later action => later.act action)
    (board.note (.told pipe delivery) board.registry)

def perform (reaction : Reaction) (board : Switchboard) : Operation → Switchboard
  | .act action => board.act action
  | .route packet =>
    let (accepted, later) := Registry.handlePacket place (tell reaction) packet board
    later.note (.routed packet accepted) later.registry

def run (reaction : Reaction) (operations : List Operation) (board : Switchboard) : Switchboard :=
  operations.foldl (perform reaction) board

inductive Stage where
  | idle
  | telling (pipe : Nat) (packet : Packet)
  /-- The receiver of a pipe is told that a packet was the last one. -/
  | ending (pipe : Nat) (packet : Packet)
  deriving DecidableEq

def Stage.after (stage : Stage) : Event → Stage
  | .told pipe delivery =>
    match delivery.packet?, stage with
    | some packet, _ => .telling pipe packet
    | none, .telling _ packet => .ending pipe packet
    | none, _ => stage
  | .routed _ _ => .idle
  | _ => stage

def stage (events : List Event) : Stage := events.foldl Stage.after .idle

theorem stage_concat (events : List Event) (event : Event) :
    stage (events ++ [event]) = (stage events).after event := by
  rw [stage, List.foldl_append]
  rfl

theorem Stage.after_delivery (stage : Stage) (pipe : Nat) (packet : Packet) :
    stage.after (.told pipe packet.delivery) = .telling pipe packet := by
  unfold Packet.delivery
  split <;> rfl

/-- What may happen next, and the table that it leaves. -/
inductive Step (events : List Event) (registry : Registry Nat) : Event → Registry Nat → Prop where
  | opened {id : SlotId} {port : UInt16} {later : Registry Nat}
      (opened : registry.openInput events.length = (.ok (id, port), later)) :
      Step events registry (.opened id port) later
  | refused {error : NodeError} {later : Registry Nat}
      (refused : registry.openInput events.length = (.error error, later)) :
      Step events registry (.refused error) later
  | closed {id : SlotId} {freed : Bool} {later : Registry Nat}
      (closed : registry.closeInput id = (freed, later)) :
      Step events registry (.closed id freed) later
  | served (errand : Errand) : Step events registry .served (errand.apply registry)
  /-- A pipe accepts the packet that bears its port and its next counter. -/
  | told {packet : Packet} {id : SlotId} {entry : InputEntry Nat} (idle : stage events = .idle)
      (found : registry.listener? packet.word.port = some (id, entry))
      (counter : entry.expected.counter = packet.word.counter) :
      Step events registry (.told entry.sink packet.delivery) (registry.advanced id)
  | ended {pipe : Nat} {packet : Packet} (telling : stage events = .telling pipe packet)
      (closes : packet.word.isClose = true) : Step events registry (.told pipe .eof) registry
  | rejected {packet : Packet} (idle : stage events = .idle)
      (refused : registry.accept? packet = none) :
      Step events registry (.routed packet false) registry
  | kept {pipe : Nat} {packet : Packet} (telling : stage events = .telling pipe packet)
      (stays : packet.word.isClose = false) : Step events registry (.routed packet true) registry
  /-- A pipe that has been told of its end is freed. -/
  | freed {pipe : Nat} {packet : Packet} {id : SlotId} {port : UInt16}
      (ending : stage events = .ending pipe packet)
      (known : events[pipe]? = some (.opened id port)) :
      Step events registry (.routed packet true) (registry.closeInput id).2

/-- The events and the table that steps lead to. -/
inductive Reaches : List Event → Registry Nat → Prop where
  | start (inputs outputs attempts : Nat) (ports : Nat → UInt16) :
      Reaches [.started] (Registry.create inputs outputs attempts ports)
  | step {events : List Event} {registry later : Registry Nat} {event : Event}
      (before : Reaches events registry) (step : Step events registry event later) :
      Reaches (events ++ [event]) later

def Event.brings (pipe : Nat) : Event → Bool
  | .told other delivery => other == pipe && delivery.packet?.isSome
  | _ => false

def taken (events : List Event) (pipe : Nat) : Nat := events.countP (Event.brings pipe)

/-- An open pipe as the record has it: its opening returned this handle and this port, and it awaits
the packet that follows those that it has been told. -/
structure Entered (events : List Event) (id : SlotId) (entry : InputEntry Nat) (port : UInt16) :
    Prop where
  opening : events[entry.sink]? = some (.opened id port)
  nonzero : port ≠ 0
  masked : port &&& maxPort = port
  expected : entry.expected = PipeWord.numbered port (taken events entry.sink)

/-- A table that agrees with the record of what happened. -/
structure Sound (events : List Event) (registry : Registry Nat) : Prop where
  tidy : registry.inputs.Tidy
  entered : ∀ id entry, registry.inputs.get? id = some entry → ∃ port, Entered events id entry port
  apart : ∀ id entry other held, registry.inputs.get? id = some entry →
    registry.inputs.get? other = some held → entry.expected.port = held.expected.port → other = id
  named : ∀ place pipe delivery, events[place]? = some (Event.told pipe delivery) → pipe < place

section Sound

variable {events : List Event} {registry later : Registry Nat} {event : Event} {id : SlotId}
  {entry : InputEntry Nat} {port : UInt16} {pipe : Nat} {packet : Packet}

theorem taken_concat (events : List Event) (event : Event) (pipe : Nat) :
    taken (events ++ [event]) pipe = taken events pipe + if event.brings pipe then 1 else 0 := by
  rw [taken, List.countP_append, List.countP_singleton, taken]

theorem Entered.bears (entered : Entered events id entry port) : entry.expected.port = port := by
  rw [entered.expected, PipeWord.port_numbered, entered.masked]

theorem Entered.before (entered : Entered events id entry port) : entry.sink < events.length :=
  (List.getElem?_eq_some_iff.mp entered.opening).1

theorem Sound.same (sound : Sound events registry) {other : SlotId} {held : InputEntry Nat}
    (stored : registry.inputs.get? id = some entry)
    (also : registry.inputs.get? other = some held) (sinks : held.sink = entry.sink) :
    other = id := by
  obtain ⟨_, entered⟩ := sound.entered id entry stored
  obtain ⟨_, further⟩ := sound.entered other held also
  have openings := further.opening
  rw [sinks, entered.opening] at openings
  cases openings
  rfl

theorem Entered.concat (entered : Entered events id entry port)
    (other : event.brings entry.sink = false) : Entered (events ++ [event]) id entry port where
  opening := by rw [List.getElem?_append_left entered.before, entered.opening]
  nonzero := entered.nonzero
  masked := entered.masked
  expected := by rw [taken_concat, other, if_neg Bool.false_ne_true, entered.expected, Nat.add_zero]

theorem Sound.named_concat (sound : Sound events registry)
    (told : ∀ pipe delivery, event = Event.told pipe delivery → pipe < events.length) :
    ∀ place pipe delivery, (events ++ [event])[place]? = some (Event.told pipe delivery) →
      pipe < place := by
  intro place pipe delivery found
  rcases Nat.lt_trichotomy place events.length with early | rfl | late
  · rw [List.getElem?_append_left early] at found
    exact sound.named place pipe delivery found
  · rw [List.getElem?_concat_length] at found
    exact told pipe delivery (Option.some.inj found)
  · have inside := (List.getElem?_eq_some_iff.mp found).1
    rw [List.length_append, List.length_singleton] at inside
    omega

/-- Nobody has been told anything under the number of a pipe that is yet to be opened. -/
theorem Sound.taken_length (sound : Sound events registry) : taken events events.length = 0 := by
  refine List.countP_eq_zero.mpr ?_
  intro event member
  obtain ⟨place, inside, rfl⟩ := List.getElem_of_mem member
  have found : events[place]? = some events[place] := List.getElem?_eq_getElem inside
  cases told : events[place] with
  | told pipe delivery =>
    rw [told] at found
    have before := sound.named place pipe delivery found
    simp only [Event.brings, Bool.and_eq_true, beq_iff_eq, not_and]
    omega
  | _ => exact Bool.false_ne_true

/-- An event after which every open pipe was open before, and that brings none of them a packet. -/
theorem Sound.concat (sound : Sound events registry) (tidy : later.inputs.Tidy)
    (kept : ∀ id entry, later.inputs.get? id = some entry → registry.inputs.get? id = some entry)
    (told : ∀ pipe delivery, event = Event.told pipe delivery → pipe < events.length)
    (quiet : ∀ pipe, event.brings pipe = false) : Sound (events ++ [event]) later where
  tidy
  entered id entry stored := by
    obtain ⟨port, entered⟩ := sound.entered id entry (kept id entry stored)
    exact ⟨port, entered.concat (quiet entry.sink)⟩
  apart id entry other held stored also :=
    sound.apart id entry other held (kept id entry stored) (kept other held also)
  named := sound.named_concat told

theorem Sound.opened (sound : Sound events registry)
    (opened : registry.openInput events.length = (.ok (id, port), later)) :
    Sound (events ++ [.opened id port]) later := by
  obtain ⟨masked, free, stored, _, _⟩ := Registry.openInput_inserts opened
  obtain ⟨nonzero, unused⟩ := Registry.isFreePort_iff.mp free
  have entries {other : SlotId} {held : InputEntry Nat} : later.inputs.get? other = some held ↔
      other = id ∧ ⟨PipeWord.ofPort port, events.length⟩ = held ∨
        registry.inputs.get? other = some held := sound.tidy.get?_insert?_iff stored
  have fresh : Entered (events ++ [.opened id port]) id ⟨PipeWord.ofPort port, events.length⟩
      port := {
    opening := List.getElem?_concat_length
    nonzero
    masked
    expected := by
      rw [taken_concat, sound.taken_length]
      exact (PipeWord.numbered_zero port).symm }
  refine ⟨(sound.tidy.insert? stored).2, ?_, ?_, sound.named_concat nofun⟩
  · intro other held found
    rcases entries.mp found with ⟨rfl, rfl⟩ | old
    · exact ⟨port, fresh⟩
    · obtain ⟨port, entered⟩ := sound.entered other held old
      exact ⟨port, entered.concat rfl⟩
  · intro one entry other held stored also ports
    rcases entries.mp stored with ⟨rfl, rfl⟩ | old <;>
      rcases entries.mp also with ⟨rfl, rfl⟩ | older
    · rfl
    · exact absurd (ports.symm.trans fresh.bears) (unused other held older)
    · exact absurd (ports.trans fresh.bears) (unused one entry old)
    · exact sound.apart one entry other held old older ports

/-- Whose pipe the receiver is that is told something. -/
def Stage.pipe? : Stage → Option Nat
  | .idle => none
  | .telling pipe _ | .ending pipe _ => some pipe

theorem mem_of_stage (current : (stage events).pipe? = some pipe) :
    ∃ delivery, Event.told pipe delivery ∈ events := by
  induction events using List.reverseRecOn with
  | nil => cases current
  | append_singleton events event ih =>
    have old (same : (stage events).pipe? = some pipe) :
        ∃ delivery, Event.told pipe delivery ∈ events ++ [event] := by
      obtain ⟨delivery, member⟩ := ih same
      exact ⟨delivery, List.mem_append_left _ member⟩
    rw [stage_concat] at current
    cases event with
    | told other delivery =>
      simp only [Stage.after] at current
      have new : ∃ said, Event.told other said ∈ events ++ [.told other delivery] :=
        ⟨delivery, List.mem_append_right _ (List.mem_singleton_self _)⟩
      split at current
      · cases current
        exact new
      · cases current
        exact new
      · exact old current
    | routed packet accepted => cases current
    | started | opened | refused | closed | served => exact old current

theorem Sound.pipe_lt (sound : Sound events registry)
    (current : (stage events).pipe? = some pipe) : pipe < events.length := by
  obtain ⟨delivery, member⟩ := mem_of_stage current
  obtain ⟨place, found⟩ := List.getElem?_of_mem member
  exact Nat.lt_trans (sound.named place pipe delivery found) (List.getElem?_eq_some_iff.mp found).1

theorem Event.brings_delivery (pipe other : Nat) (packet : Packet) :
    Event.brings pipe (.told other packet.delivery) = (other == pipe) := by
  rw [Event.brings, Packet.packet?_delivery, Option.isSome_some, Bool.and_true]

theorem Sound.told (sound : Sound events registry) (stored : registry.inputs.get? id = some entry)
    (packet : Packet) :
    Sound (events ++ [.told entry.sink packet.delivery]) (registry.advanced id) := by
  obtain ⟨port, entered⟩ := sound.entered id entry stored
  have entries {other : SlotId} {held : InputEntry Nat} :=
    registry.get?_advanced_iff stored other held
  have next : Entered (events ++ [.told entry.sink packet.delivery]) id
      { entry with expected := entry.expected.advance } port := {
    opening := by rw [List.getElem?_append_left entered.before, entered.opening]
    nonzero := entered.nonzero
    masked := entered.masked
    expected := by
      rw [taken_concat, Event.brings_delivery, beq_self_eq_true, if_pos rfl, entered.expected]
      exact PipeWord.advance_numbered .. }
  refine ⟨sound.tidy.modify stored _, ?_, ?_, ?_⟩
  · intro other held found
    rcases entries.mp found with ⟨rfl, rfl⟩ | ⟨different, old⟩
    · exact ⟨port, next⟩
    · obtain ⟨port, entered⟩ := sound.entered other held old
      refine ⟨port, entered.concat ?_⟩
      rw [Event.brings_delivery, beq_eq_false_iff_ne]
      exact fun same => different (sound.same stored old same.symm)
  · intro one held other more found also ports
    rcases entries.mp found with ⟨rfl, rfl⟩ | ⟨_, old⟩ <;>
      rcases entries.mp also with ⟨rfl, rfl⟩ | ⟨_, older⟩
    · rfl
    · rw [PipeWord.port_advance] at ports
      exact sound.apart one entry other more stored older ports
    · rw [PipeWord.port_advance] at ports
      exact sound.apart one held other entry old stored ports
    · exact sound.apart one held other more old older ports
  · refine sound.named_concat ?_
    intro pipe delivery same
    cases same
    exact entered.before

theorem Sound.closeInput (sound : Sound events registry) (id : SlotId) :
    (registry.closeInput id).2.inputs.Tidy ∧
      ∀ other held, (registry.closeInput id).2.inputs.get? other = some held →
        registry.inputs.get? other = some held := by
  refine ⟨?_, fun other held found => (registry.get?_closeInput_iff id |>.mp found).2⟩
  rcases registry.closeInput_cases id with ⟨_, same⟩ | ⟨entry, inputs, removed, same⟩ <;> rw [same]
  · exact sound.tidy
  · exact sound.tidy.remove? (Arena.get?_of_remove? removed) removed

theorem Sound.step (sound : Sound events registry) (step : Step events registry event later) :
    Sound (events ++ [event]) later := by
  cases step with
  | opened opened => exact sound.opened opened
  | refused refused =>
    have inputs := Registry.openInput_eq_error refused
    exact sound.concat (inputs ▸ sound.tidy) (fun _ _ found => inputs ▸ found) nofun fun _ => rfl
  | @closed id freed _ closed =>
    obtain ⟨tidy, kept⟩ := sound.closeInput id
    rw [closed] at tidy kept
    exact sound.concat tidy kept nofun fun _ => rfl
  | served errand =>
    have inputs := errand.inputs_apply registry
    exact sound.concat (inputs ▸ sound.tidy) (fun _ _ found => inputs ▸ found) nofun fun _ => rfl
  | told _ found _ => exact sound.told (Registry.listener?_eq_some.mp found).1 _
  | @ended pipe _ telling _ =>
    refine sound.concat sound.tidy (fun _ _ found => found) ?_ fun other => ?_
    · intro other delivery same
      cases same
      exact sound.pipe_lt (by rw [telling]; rfl)
    · exact Bool.and_false _
  | rejected | kept =>
    exact sound.concat sound.tidy (fun _ _ found => found) nofun fun _ => rfl
  | @freed _ _ id _ _ _ =>
    obtain ⟨tidy, kept⟩ := sound.closeInput id
    exact sound.concat tidy kept nofun fun _ => rfl

theorem Reaches.sound (reaches : Reaches events registry) : Sound events registry := by
  induction reaches with
  | start inputs outputs attempts ports =>
    have vacant (id : SlotId) (entry : InputEntry Nat) :
        (Arena.ofCapacity inputs).get? id ≠ some entry :=
      Option.eq_none_iff_forall_ne_some.mp (Arena.get?_ofCapacity inputs id) entry
    refine ⟨Arena.tidy_ofCapacity inputs, ?_, ?_, ?_⟩
    · exact fun id entry found => absurd found (vacant id entry)
    · exact fun id entry _ _ found => absurd found (vacant id entry)
    · intro place pipe delivery found
      obtain ⟨inside, told⟩ := List.getElem?_eq_some_iff.mp found
      rw [List.getElem_singleton] at told
      cases told
  | step _ step ih => exact ih.step step

end Sound

/-- At every moment so far, the events up to then and the table as it stood then are so. -/
def Throughout (board : Switchboard) (holds : List Event → Registry Nat → Prop) : Prop :=
  ∀ past moment, past ++ [moment] <+: board.log →
    holds ((past ++ [moment]).map Moment.event) moment.registry

section Perform

variable {board : Switchboard} {packet : Packet} {id : SlotId} {sink : Nat}
  {registry : Registry Nat}

theorem perform_refused (reaction : Reaction) (refused : board.registry.accept? packet = none) :
    board.perform reaction (.route packet) = board.note (.routed packet false) board.registry := by
  simp only [perform, Registry.handlePacket, place, refused]

theorem perform_accepted (reaction : Reaction)
    (taken : board.registry.accept? packet = some (⟨id, sink, packet.word⟩, registry)) :
    board.perform reaction (.route packet) =
      let told := tell reaction sink packet.delivery { board with registry }
      if packet.word.isClose then
        let ended := tell reaction sink .eof told
        ended.note (.routed packet true) (ended.registry.closeInput id).2
      else told.note (.routed packet true) told.registry := by
  simp only [perform, Registry.handlePacket, place, taken]
  cases packet.word.isClose <;> rfl

end Perform

/-- A switchboard at which nothing but steps has happened. -/
structure Traced (board : Switchboard) : Prop where
  throughout : board.Throughout Reaches
  reaches : Reaches board.events board.registry

/-- A switchboard between operations. -/
structure Resting (board : Switchboard) : Prop where
  traced : board.Traced
  idle : stage board.events = .idle

/-- A switchboard after actions that followed one another. -/
structure Follows (board later : Switchboard) : Prop where
  traced : later.Traced
  stage : stage later.events = stage board.events
  grows : board.events <+: later.events

section Traced

variable {board : Switchboard}

theorem events_note (event : Event) (registry : Registry Nat) (board : Switchboard) :
    (board.note event registry).events = board.events ++ [event] := by
  simp [events, note]

theorem grows_note (event : Event) (registry : Registry Nat) (board : Switchboard) :
    board.events <+: (board.note event registry).events :=
  events_note event registry board ▸ List.prefix_append ..

theorem Traced.note {event : Event} {registry : Registry Nat} (traced : board.Traced)
    (step : Step board.events board.registry event registry) :
    (board.note event registry).Traced := by
  have reaches := Reaches.step traced.reaches step
  constructor
  · intro past moment within
    rcases List.prefix_concat_iff.mp within with whole | early
    · rw [whole, List.map_append]
      obtain ⟨_, rfl⟩ := List.append_inj' whole rfl |>.imp id List.singleton_inj.mp
      exact reaches
    · exact traced.throughout past moment early
  · rw [events_note]
    exact reaches

theorem Traced.act (traced : board.Traced) (action : Action) :
    board.Follows (board.act action) := by
  have follows {event : Event} {registry : Registry Nat}
      (step : Step board.events board.registry event registry)
      (same : ∀ stage : Stage, stage.after event = stage) :
      board.Follows (board.note event registry) := by
    refine ⟨traced.note step, ?_, ?_⟩
    · rw [events_note, stage_concat, same]
    · exact grows_note ..
  have length : board.log.length = board.events.length := (List.length_map _).symm
  cases action with
  | openPipe =>
    rw [Switchboard.act, length]
    split
    · rename_i opened
      exact follows (.opened opened) fun _ => rfl
    · rename_i refused
      exact follows (.refused refused) fun _ => rfl
  | closePipe id => exact follows (.closed rfl) fun _ => rfl
  | serve errand => exact follows (.served errand) fun _ => rfl

theorem Traced.acts (traced : board.Traced) (actions : List Action) :
    board.Follows (actions.foldl (fun later action => later.act action) board) := by
  induction actions generalizing board with
  | nil => exact ⟨traced, rfl, List.prefix_refl _⟩
  | cons action rest ih =>
    have first := traced.act action
    have further := ih first.traced
    exact ⟨further.traced, further.stage.trans first.stage, first.grows.trans further.grows⟩

/-- The receiver of a pipe is told something when that is the next step, whatever it does then. -/
theorem Traced.tell {pipe : Nat} {delivery : Delivery} {registry : Registry Nat}
    (reaction : Reaction) (traced : board.Traced)
    (step : Step board.events board.registry (.told pipe delivery) registry) :
    (board.note (.told pipe delivery) registry).Follows
      (tell reaction pipe delivery { board with registry }) :=
  (traced.note step).acts (reaction board.log pipe delivery)

theorem Resting.route (reaction : Reaction) (packet : Packet) (resting : board.Resting) :
    (board.perform reaction (.route packet)).Resting := by
  obtain ⟨traced, idle⟩ := resting
  have returns {later : Switchboard} {registry : Registry Nat} {accepted : Bool}
      (traced : later.Traced)
      (step : Step later.events later.registry (.routed packet accepted) registry) :
      (later.note (.routed packet accepted) registry).Resting := by
    refine ⟨traced.note step, ?_⟩
    rw [events_note, stage_concat]
    rfl
  rcases board.registry.accept?_cases packet with refused | ⟨id, entry, found, counter, taken⟩
  · rw [perform_refused reaction refused]
    exact returns traced (.rejected idle refused)
  · have told := traced.tell reaction (.told idle found counter)
    have telling := told.stage
    rw [events_note, stage_concat, Stage.after_delivery] at telling
    rw [perform_accepted reaction taken]
    cases closes : packet.word.isClose with
    | false => exact returns told.traced (.kept telling closes)
    | true =>
      have ended := told.traced.tell reaction (.ended telling closes)
      have ending := ended.stage
      rw [events_note, stage_concat, telling] at ending
      -- The pipe is found again by the handle that its opening has on record.
      obtain ⟨port, entered⟩ :=
        traced.reaches.sound.entered id entry (Registry.listener?_eq_some.mp found).1
      obtain ⟨rest, grown⟩ := ((grows_note ..).trans told.grows).trans
        ((grows_note ..).trans ended.grows)
      have known : (tell reaction entry.sink .eof (tell reaction entry.sink packet.delivery
          { board with registry := board.registry.advanced id })).events[entry.sink]? =
            some (.opened id port) := by
        rw [← grown, List.getElem?_append_left entered.before, entered.opening]
      exact returns ended.traced (.freed ending known)

theorem Resting.perform (reaction : Reaction) (operation : Operation) (resting : board.Resting) :
    (board.perform reaction operation).Resting := by
  cases operation with
  | act action =>
    have follows := resting.traced.act action
    exact ⟨follows.traced, follows.stage.trans resting.idle⟩
  | route packet => exact resting.route reaction packet

theorem Resting.run (reaction : Reaction) (operations : List Operation) (resting : board.Resting) :
    (board.run reaction operations).Resting := by
  induction operations generalizing board with
  | nil => exact resting
  | cons operation rest ih => exact ih (resting.perform reaction operation)

theorem traced_start (inputs outputs attempts : Nat) (ports : Nat → UInt16) :
    (start inputs outputs attempts ports).Traced where
  throughout past moment within := by
    have whole : past ++ [moment] =
        [] ++ [⟨.started, Registry.create inputs outputs attempts ports⟩] :=
      within.eq_of_length_le (by simp [start])
    obtain ⟨rfl, rfl⟩ := List.append_singleton_inj.mp whole
    exact .start inputs outputs attempts ports
  reaches := .start inputs outputs attempts ports

/-- Whatever the receivers do, nothing but steps happens in a run. -/
theorem resting_run (inputs outputs attempts : Nat) (ports : Nat → UInt16) (reaction : Reaction)
    (operations : List Operation) :
    ((start inputs outputs attempts ports).run reaction operations).Resting :=
  Resting.run reaction operations ⟨traced_start inputs outputs attempts ports, rfl⟩

end Traced

end Switchboard

end PipeBus

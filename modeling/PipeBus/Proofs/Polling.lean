import PipeBus.Proofs.Acknowledgement

/-! Frames on their way into a station. A frame comes into the queue of received frames from the
station's transport while it is polled, or is brought from outside between polls, and leaves it when
a poll takes it out and dispatches it. Every such moment of a run is on record, with the state that
it led to, and each state is what the station makes of the one before (`Polling.Step`). Main
statement: whatever is dispatched, staged and sent meanwhile, a frame that the queue has accepted is
dispatched in its turn and once, and the only frames that are dropped are those that are brought
while the queue is full (`Polling.loses_nothing`). -/

namespace PipeBus

variable {σ κ α : Type}

/-- A change that does not touch a part of the state. -/
def Lens.SparedBy (lens : Lens σ α) (change : σ → σ) : Prop :=
  ∀ state, lens.get (change state) = lens.get state

theorem Lens.SparedBy.foldl {lens : Lens σ α} {β : Type} {change : σ → β → σ} {steps : List β}
    (spared : ∀ step ∈ steps, lens.SparedBy fun state => change state step) :
    lens.SparedBy fun state => steps.foldl change state := by
  intro state
  induction steps generalizing state with
  | nil => rfl
  | cons step rest ih =>
    have first := spared step (List.mem_cons_self ..) state
    exact (ih (fun other member => spared other (List.mem_cons_of_mem _ member)) _).trans first

/-- A station among things that leave its queue of received frames to it. A transport, a service or
a receiver may send, stage packets and act on pipes. -/
structure Station.Calm (station : Station σ κ) : Prop where
  lawful : station.node.Lawful
  aloof : station.tx.Aloof
  transmit : ∀ frame timeout, station.rx.SparedBy fun state =>
    (station.transmit frame timeout state).2
  receive : station.rx.SparedBy fun state => (station.receive state).2
  tell : ∀ sink delivery, station.rx.SparedBy (station.tell sink delivery)
  handle : ∀ service ∈ station.services, ∀ packet, station.rx.SparedBy (service.handle packet)
  observe : ∀ service ∈ station.services, ∀ packet, station.rx.SparedBy (service.observe packet)
  process : ∀ service ∈ station.services, station.rx.SparedBy service.process

namespace Station.Calm

variable {station : Station σ κ}

theorem get_setNode (calm : station.Calm) (node : Node κ) (state : σ) :
    station.rx.get (station.node.set node state) = node.rx :=
  congrArg Node.rx (calm.lawful.get_set node state)

theorem setRegistry (calm : station.Calm) (registry : Registry κ) :
    station.rx.SparedBy (station.registry.set registry) :=
  fun state => calm.get_setNode { station.node.get state with registry } state

theorem setQueue (calm : station.Calm) (tx : TxQueue) :
    station.rx.SparedBy (station.tx.queue.set tx) :=
  fun state => calm.get_setNode { station.node.get state with tx } state

theorem pushFrame (calm : station.Calm) (frame : Frame) :
    station.rx.SparedBy fun state => (station.tx.pushFrame frame state).2 :=
  fun _ => (calm.setQueue _ _).trans (calm.transmit frame _ _)

theorem flush (calm : station.Calm) : station.rx.SparedBy station.flush := by
  intro state
  unfold NodeLink.flush TxLink.flush
  split
  · rfl
  · exact (calm.pushFrame _ _).trans (calm.setQueue _ state)

theorem stageWithin (calm : station.Calm) {service : UInt8} {command : UInt16} {data : Bytes}
    {turns : Nat} {state later : σ}
    (staged : station.tx.stageWithin service command data turns state = some later) :
    station.rx.get later = station.rx.get state := by
  induction turns generalizing state with
  | zero => cases staged
  | succ turns ih =>
    rw [TxLink.stageWithin] at staged
    split at staged
    · cases staged
      exact calm.setQueue _ state
    · exact (ih staged).trans (calm.flush state)

theorem send (calm : station.Calm) (service : UInt8) (command : UInt16) (data : Bytes) :
    station.rx.SparedBy fun state => (station.send service command data state).2 := by
  intro state
  simp only [NodeLink.send, TxLink.push]
  split
  · rfl
  · cases staged : station.tx.stageWithin service command data TxLink.stageTurns state with
    | none => rfl
    | some later => exact calm.stageWithin staged

theorem acknowledge (calm : station.Calm) (frame : Frame) :
    station.rx.SparedBy (station.acknowledge frame) := by
  intro state
  unfold Station.acknowledge
  split
  · exact (calm.flush _).trans (calm.send _ _ _ state)
  · rfl

/-- Routing a packet to an input pipe calls its receiver and acts on pipes. -/
theorem handleInput (calm : station.Calm) (packet : Packet) :
    station.rx.SparedBy fun state =>
      (Registry.handlePacket station.registry station.tell packet state).2 := by
  intro state
  simp only [Registry.handlePacket]
  split
  · rfl
  · rename_i accepted registry taken
    have ready := calm.setRegistry registry state
    have told (delivery : Delivery) := (calm.tell accepted.sink delivery _).trans ready
    split
    · exact (calm.setRegistry _ _).trans ((calm.tell accepted.sink .eof _).trans (told _))
    · exact told _

theorem deliver (calm : station.Calm) (packet : Packet) (destination : Destination) :
    station.rx.SparedBy (station.deliver packet destination) := by
  intro state
  cases destination with
  | control =>
    unfold Station.deliver
    simp only
    split
    · exact calm.send _ _ _ state
    · rfl
  | pipe => exact calm.handleInput packet state
  | hosted index =>
    simp only [Station.deliver]
    cases found : station.services[index]? with
    | none => rfl
    | some service => exact calm.handle service (List.mem_of_getElem? found) packet state

theorem handlePacket (calm : station.Calm) (packet : Packet) :
    station.rx.SparedBy (station.handlePacket packet) := by
  intro state
  have matched := calm.setRegistry ((station.registry.get state).processAck packet).2 state
  simp only [Station.handlePacket]
  split
  · split
    · exact matched
    · split
      · exact matched
      · exact (calm.deliver _ _ _).trans matched
  · have observed : station.rx.SparedBy fun state =>
        station.services.foldl (fun later service => service.observe packet later) state :=
      .foldl fun service member => calm.observe service member packet
    exact (observed _).trans matched

theorem processFrame (calm : station.Calm) (frame : Frame) :
    station.rx.SparedBy (station.processFrame frame) := by
  intro state
  have handled : station.rx.SparedBy fun state =>
      frame.walk.foldl (fun later packet => station.handlePacket packet later) state :=
    .foldl fun packet _ => calm.handlePacket packet
  rw [station.processFrame_eq]
  exact (handled _).trans (calm.acknowledge frame state)

theorem rounds (calm : station.Calm) : station.rx.SparedBy fun state =>
    station.flush (station.services.foldl (fun later service => service.process later) state) := by
  intro state
  have processed : station.rx.SparedBy fun state =>
      station.services.foldl (fun later service => service.process later) state :=
    .foldl calm.process
  exact (calm.flush _).trans (processed state)

theorem emptied (calm : station.Calm) (state : σ) :
    (station.node.get (station.flush state)).tx.staging = none :=
  (flush_empties calm.lawful calm.aloof state).1

end Station.Calm

namespace RxQueue

variable {queue : RxQueue}

theorem received_full (full : queue.isFull = true) (frame : Frame) :
    queue.received frame = (false, { queue with dropped := queue.dropped + 1 }) := if_pos full

theorem received_room (room : queue.isFull = false) (frame : Frame) :
    queue.received frame = (true, { queue with frames := queue.frames ++ [frame] }) :=
  if_neg (Bool.eq_false_iff.mp room)

theorem next_nil (empty : queue.frames = []) : queue.next = (none, queue) := by
  cases queue
  cases empty
  rfl

theorem next_cons {frame : Frame} {rest : List Frame} (front : queue.frames = frame :: rest) :
    queue.next = (some frame, { queue with frames := rest }) := by
  rw [next, front]
  rfl

end RxQueue

/-- A frame is dispatched: it is acknowledged if it asks for that, and then its packets are handled
from the front to the back. -/
structure Station.Dispatches (station : Station σ κ) (frame : Frame) (before after : σ) : Prop where
  processed : after = station.processFrame frame before
  handled : after = station.handleAll frame.walk (station.acknowledge frame before)

theorem Station.dispatches (station : Station σ κ) (frame : Frame) (state : σ) :
    station.Dispatches frame state (station.processFrame frame state) :=
  ⟨rfl, station.processFrame_eq frame state⟩

namespace Polling

inductive Event where
  | started
  /-- A frame was brought from outside, and this was answered. -/
  | brought (frame : Frame) (accepted : Bool)
  /-- A frame was moved from the transport, and this was answered. -/
  | moved (frame : Frame) (accepted : Bool)
  | drained
  /-- A frame was taken out of the queue and dispatched. -/
  | processed (frame : Frame)
  /-- A poll returned, and this was its answer. -/
  | polled (processed : Bool)
  | elsewhere

/-- An event, and the state that it led to. -/
structure Moment (σ : Type) where
  event : Event
  state : σ

inductive Operation (σ : Type) where
  | poll
  | bring (frame : Frame)
  /-- Something else happens, perhaps at the transport. -/
  | elsewhere (change : σ → σ)

end Polling

open Polling in
/-- The record of a run: what happened last, and what happened before that, the latest first. -/
structure Polling (σ : Type) where
  now : Moment σ
  past : List (Moment σ) := []

namespace Polling

def state (polling : Polling σ) : σ := polling.now.state

def log (polling : Polling σ) : List (Moment σ) := polling.now :: polling.past

def start (state : σ) : Polling σ where
  now := ⟨.started, state⟩

def note (event : Event) (state : σ) (polling : Polling σ) : Polling σ where
  now := ⟨event, state⟩
  past := polling.log

def fill (station : Station σ κ) : Nat → Polling σ → Polling σ
  | 0, polling => polling
  | room + 1, polling =>
    if (station.rx.get polling.state).isFull then polling
    else
      match station.receive polling.state with
      | (none, later) => polling.note .drained later
      | (some frame, later) =>
        let (accepted, moved) := station.frameReceived frame later
        fill station room (polling.note (.moved frame accepted) moved)

def take (station : Station σ κ) (polling : Polling σ) : Polling σ :=
  let (frame, rx) := (station.rx.get polling.state).next
  match frame with
  | none => polling
  | some found =>
    polling.note (.processed found)
      (station.processFrame found (station.rx.set rx polling.state))

/-- Do one thing. Where a poll leads to is not taken from the record of what happened during it. -/
def perform (station : Station σ κ) (polling : Polling σ) : Operation σ → Polling σ
  | .poll =>
    let (processed, later) := station.poll polling.state
    ((polling.fill station (station.rx.get polling.state).depth).take station).note
      (.polled processed) later
  | .bring frame =>
    let (accepted, later) := station.frameReceived frame polling.state
    polling.note (.brought frame accepted) later
  | .elsewhere change => polling.note .elsewhere (change polling.state)

def run (station : Station σ κ) (operations : List (Operation σ)) (polling : Polling σ) :
    Polling σ :=
  operations.foldl (perform station) polling

def Event.accepted? : Event → Option Frame
  | .brought frame true | .moved frame true => some frame
  | _ => none

def Event.processed? : Event → Option Frame
  | .processed frame => some frame
  | _ => none

def Event.drops : Event → Bool
  | .brought _ false => true
  | _ => false

/-- The frames that the queue accepted, in this order. -/
def accepted : List (Moment σ) → List Frame
  | [] => []
  | moment :: past => accepted past ++ moment.event.accepted?.toList

/-- The frames that were dispatched, in this order. -/
def processed : List (Moment σ) → List Frame
  | [] => []
  | moment :: past => processed past ++ moment.event.processed?.toList

/-- How many frames were dispatched since the last poll returned. -/
def turn : List (Moment σ) → Nat
  | [] => 0
  | moment :: past =>
    match moment.event with
    | .polled _ => 0
    | .processed _ => turn past + 1
    | _ => turn past

/-- What happens to a station when an event is put on record, after so many frames have been
dispatched in the same poll. -/
inductive Step (station : Station σ κ) (turn : Nat) (before : σ) : Moment σ → Prop where
  | brought (frame : Frame) :
      Step station turn before
        ⟨.brought frame (station.frameReceived frame before).1,
          (station.frameReceived frame before).2⟩
  /-- The transport is asked for a frame only while there is room for it. -/
  | moved {frame : Frame} {later : σ} (room : (station.rx.get before).isFull = false)
      (came : station.receive before = (some frame, later)) :
      Step station turn before
        ⟨.moved frame (station.frameReceived frame later).1, (station.frameReceived frame later).2⟩
  | drained {later : σ} (came : station.receive before = (none, later)) :
      Step station turn before ⟨.drained, later⟩
  | processed {frame : Frame} {rest : List Frame} {after : σ} (first : turn = 0)
      (front : (station.rx.get before).frames = frame :: rest)
      (dispatches : station.Dispatches frame
        (station.rx.set { station.rx.get before with frames := rest } before) after) :
      Step station turn before ⟨.processed frame, after⟩
  /-- Every service does its periodic work, and what is staged is sent. -/
  | polled {processed : Bool} (answer : turn = processed.toNat) :
      Step station turn before ⟨.polled processed, station.flush
        (station.services.foldl (fun later service => service.process later) before)⟩
  | elsewhere {after : σ} (kept : station.rx.get after = station.rx.get before) :
      Step station turn before ⟨.elsewhere, after⟩

/-- A record in which no frame is lost, from a queue of some depth. -/
structure Orderly (station : Station σ κ) (depth : Nat) (log : List (Moment σ)) : Prop where
  /-- What is on record happened to the station, one event after the other. -/
  steps : ∀ moment before past, moment :: before :: past <:+ log →
    Step station (turn (before :: past)) before.state moment
  /-- At every moment the accepted frames are those that were dispatched and then those that are
  queued. -/
  order : ∀ moment past, moment :: past <:+ log →
    accepted (moment :: past) =
      processed (moment :: past) ++ (station.rx.get moment.state).frames
  /-- What is moved from the transport is accepted. -/
  moved : ∀ moment ∈ log, ∀ frame accepted, moment.event = .moved frame accepted →
    accepted = true
  /-- What is brought is refused just when the queue is full. -/
  brought : ∀ moment before past, moment :: before :: past <:+ log → ∀ frame accepted,
    moment.event = .brought frame accepted →
    (accepted = false ↔ (station.rx.get before.state).frames.length = max depth 1)
  /-- Each frame that is refused then is counted, and nothing else. -/
  dropped : ∀ moment before past, moment :: before :: past <:+ log →
    (station.rx.get moment.state).dropped =
      (station.rx.get before.state).dropped + if moment.event.drops then 1 else 0
  /-- No more than one frame is dispatched in a poll. -/
  once : ∀ past, past <:+ log → turn past ≤ 1
  /-- A poll tells whether it has dispatched a frame, and leaves nothing staged. -/
  polled : ∀ moment past, moment :: past <:+ log → ∀ processed,
    moment.event = .polled processed →
    turn past = processed.toNat ∧ (station.tx.queue.get moment.state).staging = none

/-- What an event does to the queue, after so many frames have been dispatched in the same poll. -/
inductive Passes (turn : Nat) (before : RxQueue) : Event → RxQueue → Prop where
  | brought (frame : Frame) :
      Passes turn before (.brought frame (before.received frame).1) (before.received frame).2
  | moved {frame : Frame} (room : before.isFull = false) :
      Passes turn before (.moved frame true) { before with frames := before.frames ++ [frame] }
  | drained : Passes turn before .drained before
  | processed {frame : Frame} {rest : List Frame} (first : turn = 0)
      (front : before.frames = frame :: rest) :
      Passes turn before (.processed frame) { before with frames := rest }
  | polled {processed : Bool} (answer : turn = processed.toNat) :
      Passes turn before (.polled processed) before
  | elsewhere : Passes turn before .elsewhere before

/-- A record of steps that follow one another, which start with an empty queue. -/
inductive Traced (station : Station σ κ) (depth : Nat) : List (Moment σ) → Prop where
  | started {state : σ} (empty : station.rx.get state = RxQueue.ofDepth depth) :
      Traced station depth [⟨.started, state⟩]
  | step {moment before : Moment σ} {past : List (Moment σ)}
      (traced : Traced station depth (before :: past))
      (step : Step station (turn (before :: past)) before.state moment) :
      Traced station depth (moment :: before :: past)

section Traced

variable {station : Station σ κ} {depth : Nat} {moment before : Moment σ}
  {past log : List (Moment σ)}

/-- Among things that leave the queue alone, an event does to it what it says. -/
theorem Step.passes (calm : station.Calm) {turn : Nat} {before : σ}
    (step : Step station turn before moment) :
    Passes turn (station.rx.get before) moment.event (station.rx.get moment.state) := by
  have queued (frame : Frame) (state : σ) :
      station.rx.get (station.frameReceived frame state).2 =
        ((station.rx.get state).received frame).2 := calm.get_setNode _ state
  cases step with
  | brought frame =>
    rw [queued]
    exact .brought frame
  | @moved frame later room came =>
    have still : station.rx.get (station.receive before).2 = _ := calm.receive before
    rw [came] at still
    have taken := RxQueue.received_room room frame
    rw [queued, still, taken, NodeLink.frameReceived, still, taken]
    exact .moved room
  | @drained later came =>
    have still : station.rx.get (station.receive before).2 = _ := calm.receive before
    rw [came] at still
    exact still ▸ .drained
  | @processed frame rest after first front dispatches =>
    have left : station.rx.get (station.rx.set { station.rx.get before with frames := rest }
        before) = { station.rx.get before with frames := rest } := calm.get_setNode _ before
    rw [dispatches.processed, calm.processFrame, left]
    exact .processed first front
  | polled answer =>
    rw [calm.rounds before]
    exact .polled answer
  | elsewhere kept =>
    rw [kept]
    exact .elsewhere

/-- A queue that has accepted just what was dispatched and what it still holds. -/
structure Tally (station : Station σ κ) (depth : Nat) (moment : Moment σ)
    (past : List (Moment σ)) : Prop where
  sized : (station.rx.get moment.state).depth = max depth 1
  bounded : (station.rx.get moment.state).frames.length ≤ max depth 1
  order : accepted (moment :: past) =
    processed (moment :: past) ++ (station.rx.get moment.state).frames
  once : turn (moment :: past) ≤ 1

theorem Tally.isFull_iff (tally : Tally station depth moment past) :
    (station.rx.get moment.state).isFull = true ↔
      (station.rx.get moment.state).frames.length = max depth 1 := by
  have bounded := tally.bounded
  rw [RxQueue.isFull, decide_eq_true_iff, tally.sized]
  omega

theorem Tally.accepts (tally : Tally station depth before past) {frame : Frame}
    (room : (station.rx.get before.state).isFull = false)
    (queued : station.rx.get moment.state = { station.rx.get before.state with
      frames := (station.rx.get before.state).frames ++ [frame] })
    (accepts : moment.event.accepted? = some frame) (keeps : moment.event.processed? = none)
    (same : turn (moment :: before :: past) = turn (before :: past)) :
    Tally station depth moment (before :: past) where
  sized := by rw [queued, tally.sized]
  bounded := by
    have short : (station.rx.get before.state).frames.length ≠ max depth 1 := by
      rw [ne_eq, ← tally.isFull_iff, room]
      exact Bool.false_ne_true
    have bounded := tally.bounded
    rw [queued, List.length_append, List.length_singleton]
    omega
  order := by
    rw [accepted, processed, accepts, keeps, tally.order, queued, Option.toList_none,
      List.append_nil]
    exact List.append_assoc ..
  once := same ▸ tally.once

theorem Tally.rests (tally : Tally station depth before past)
    (kept : (station.rx.get moment.state).depth = (station.rx.get before.state).depth ∧
      (station.rx.get moment.state).frames = (station.rx.get before.state).frames)
    (keeps : moment.event.accepted? = none ∧ moment.event.processed? = none)
    (same : turn (moment :: before :: past) ≤ turn (before :: past)) :
    Tally station depth moment (before :: past) where
  sized := kept.1.trans tally.sized
  bounded := by rw [kept.2]; exact tally.bounded
  order := by
    rw [accepted, processed, keeps.1, keeps.2, tally.order, kept.2, Option.toList_none,
      List.append_nil, List.append_nil]
  once := same.trans tally.once

theorem Tally.takes (tally : Tally station depth before past) {frame : Frame} {rest : List Frame}
    (first : turn (before :: past) = 0)
    (front : (station.rx.get before.state).frames = frame :: rest)
    (left : station.rx.get moment.state = { station.rx.get before.state with frames := rest })
    (event : moment.event = .processed frame) :
    Tally station depth moment (before :: past) where
  sized := by rw [left, tally.sized]
  bounded := by
    have bounded := tally.bounded
    rw [front, List.length_cons] at bounded
    rw [left]
    exact Nat.le_of_succ_le bounded
  order := by
    rw [accepted, processed, tally.order, front, left, event]
    simp [Event.accepted?, Event.processed?]
  once := by
    rw [turn, event]
    exact (congrArg Nat.succ first).le

theorem Tally.step (tally : Tally station depth before past) (calm : station.Calm)
    (step : Step station (turn (before :: past)) before.state moment) :
    Tally station depth moment (before :: past) := by
  have passes := step.passes calm
  obtain ⟨event, after⟩ := moment
  generalize queue : station.rx.get (Moment.state ⟨event, after⟩) = later at passes
  cases passes with
  | brought frame =>
    cases full : (station.rx.get before.state).isFull with
    | true =>
      rw [RxQueue.received_full full] at queue ⊢
      exact tally.rests ⟨by rw [queue], by rw [queue]⟩ ⟨rfl, rfl⟩ (Nat.le_refl _)
    | false =>
      rw [RxQueue.received_room full] at queue ⊢
      exact tally.accepts full queue rfl rfl rfl
  | moved room => exact tally.accepts room queue rfl rfl rfl
  | processed first front => exact tally.takes first front queue rfl
  | polled => exact tally.rests ⟨by rw [queue], by rw [queue]⟩ ⟨rfl, rfl⟩ (Nat.zero_le _)
  | drained | elsewhere =>
    exact tally.rests ⟨by rw [queue], by rw [queue]⟩ ⟨rfl, rfl⟩ (Nat.le_refl _)

theorem Traced.tally (calm : station.Calm) (traced : Traced station depth (moment :: past)) :
    Tally station depth moment past := by
  generalize whole : moment :: past = log at traced
  induction traced generalizing moment past with
  | started empty =>
    cases whole
    refine ⟨by rw [empty]; rfl, ?_, ?_, Nat.zero_le _⟩
    · rw [empty]
      exact Nat.zero_le _
    · rw [empty]
      rfl
  | step traced step ih =>
    cases whole
    exact (ih rfl).step calm step

theorem Traced.suffix (traced : Traced station depth log) (within : moment :: past <:+ log) :
    Traced station depth (moment :: past) := by
  induction traced with
  | started empty =>
    obtain same | inside := List.suffix_cons_iff.mp within
    · rw [same]
      exact .started empty
    · cases List.suffix_nil.mp inside
  | step traced step ih =>
    obtain same | inside := List.suffix_cons_iff.mp within
    · rw [same]
      exact .step traced step
    · exact ih inside

theorem Traced.last (traced : Traced station depth (moment :: before :: past)) :
    Step station (turn (before :: past)) before.state moment := by
  cases traced with
  | step _ step => exact step

theorem Passes.moves {turn : Nat} {queue later : RxQueue} {frame : Frame} {accepted : Bool}
    (passes : Passes turn queue (.moved frame accepted) later) : accepted = true := by
  cases passes
  rfl

/-- A frame is refused just when it is brought to a full queue. -/
theorem Passes.refused {turn : Nat} {queue later : RxQueue} {frame : Frame} {accepted : Bool}
    (passes : Passes turn queue (.brought frame accepted) later) :
    accepted = false ↔ queue.isFull = true := by
  cases passes
  cases full : queue.isFull
  · simp [RxQueue.received_room full]
  · simp [RxQueue.received_full full]

theorem Passes.dropped {turn : Nat} {queue later : RxQueue} {event : Event}
    (passes : Passes turn queue event later) :
    later.dropped = queue.dropped + if event.drops then 1 else 0 := by
  cases passes with
  | brought frame =>
    cases full : queue.isFull with
    | true =>
      rw [RxQueue.received_full full]
      rfl
    | false =>
      rw [RxQueue.received_room full]
      rfl
  | moved | drained | processed | polled | elsewhere => rfl

theorem Traced.orderly (calm : station.Calm) (traced : Traced station depth log) :
    Orderly station depth log where
  steps _ _ _ within := (traced.suffix within).last
  order _ _ within := ((traced.suffix within).tally calm).order
  moved moment member frame accepted event := by
    obtain ⟨newer, past, rfl⟩ := List.append_of_mem member
    have within := traced.suffix (List.suffix_append newer (moment :: past))
    cases within with
    | started empty => cases event
    | step _ step =>
      have passes := step.passes calm
      rw [event] at passes
      exact passes.moves
  brought moment before past within frame accepted event := by
    have passes := (traced.suffix within).last.passes calm
    have earlier := traced.suffix ((List.suffix_cons moment _).trans within)
    rw [event] at passes
    rw [← (earlier.tally calm).isFull_iff]
    exact passes.refused
  dropped moment before past within := ((traced.suffix within).last.passes calm).dropped
  once past within := by
    cases past with
    | nil => exact Nat.zero_le 1
    | cons moment past => exact ((traced.suffix within).tally calm).once
  polled moment past within processed event := by
    cases traced.suffix within with
    | started empty => cases event
    | step _ step =>
      cases step with
      | polled answer =>
        cases event
        exact ⟨answer, calm.emptied _⟩
      | brought | moved | drained | processed | elsewhere => cases event

end Traced

section Run

variable {station : Station σ κ} {depth : Nat} {polling : Polling σ}

/-- Moving frames in leads where it leads without a record. -/
theorem Traced.fill (traced : Traced station depth polling.log) (room : Nat) :
    Traced station depth (polling.fill station room).log ∧
      turn (polling.fill station room).log = turn polling.log ∧
      (polling.fill station room).state = station.fill room polling.state := by
  induction room generalizing polling with
  | zero => exact ⟨traced, rfl, rfl⟩
  | succ room ih =>
    rw [Polling.fill, Station.fill]
    cases full : (station.rx.get polling.state).isFull with
    | true => exact ⟨traced, rfl, rfl⟩
    | false =>
      rcases received : station.receive polling.state with ⟨none | frame, later⟩
      · exact ⟨.step traced (.drained received), rfl, rfl⟩
      · exact ih (.step traced (.moved full received))

/-- What a poll has dispatched when it has taken out the oldest frame, if there is one. -/
theorem Traced.take (calm : station.Calm) (traced : Traced station depth polling.log)
    (idle : turn polling.log = 0) :
    Traced station depth (polling.take station).log ∧
      turn (polling.take station).log = (station.rx.get polling.state).next.1.isSome.toNat ∧
      (polling.take station).state =
        match (station.rx.get polling.state).next.1 with
        | none => station.rx.set (station.rx.get polling.state).next.2 polling.state
        | some found => station.processFrame found
            (station.rx.set (station.rx.get polling.state).next.2 polling.state) := by
  rw [Polling.take]
  cases queued : (station.rx.get polling.state).frames with
  | nil =>
    rw [RxQueue.next_nil queued]
    exact ⟨traced, idle, (calm.lawful.set_get polling.state).symm⟩
  | cons frame rest =>
    rw [RxQueue.next_cons queued]
    exact ⟨.step traced (.processed idle queued (station.dispatches frame _)),
      congrArg Nat.succ idle, rfl⟩

/-- A poll does what is on record of it: it moves frames in, dispatches one, lets every service do
its periodic work, and sends what is staged. -/
theorem Traced.poll (calm : station.Calm) (traced : Traced station depth polling.log)
    (idle : turn polling.log = 0) :
    Traced station depth (polling.perform station .poll).log := by
  obtain ⟨filled, same, leads⟩ := traced.fill (station.rx.get polling.state).depth
  obtain ⟨taken, dispatched, later⟩ := filled.take calm (same.trans idle)
  rw [leads] at dispatched later
  have ends := Traced.step taken (.polled dispatched)
  rwa [show ((polling.fill station _).take station).now.state = _ from later] at ends

/-- A record of steps that has come to the end of a poll, or to before the first one. -/
structure Resting (station : Station σ κ) (depth : Nat) (polling : Polling σ) : Prop where
  traced : Traced station depth polling.log
  idle : turn polling.log = 0

theorem Resting.perform (calm : station.Calm) (resting : polling.Resting station depth)
    (operation : Operation σ)
    (aside : ∀ change, operation = .elsewhere change → station.rx.SparedBy change) :
    (polling.perform station operation).Resting station depth := by
  obtain ⟨traced, idle⟩ := resting
  cases operation with
  | poll => exact ⟨traced.poll calm idle, rfl⟩
  | bring frame => exact ⟨.step traced (.brought frame), idle⟩
  | elsewhere change => exact ⟨.step traced (.elsewhere (aside change rfl _)), idle⟩

theorem Resting.run (calm : station.Calm) (resting : polling.Resting station depth)
    (operations : List (Operation σ))
    (aside : ∀ change, .elsewhere change ∈ operations → station.rx.SparedBy change) :
    (polling.run station operations).Resting station depth := by
  induction operations generalizing polling with
  | nil => exact resting
  | cons operation rest ih =>
    have first := resting.perform calm operation
      fun change same => aside change (same ▸ List.mem_cons_self ..)
    exact ih first fun change member => aside change (List.mem_cons_of_mem _ member)

theorem resting_start {state : σ} (empty : station.rx.get state = RxQueue.ofDepth depth) :
    (start state).Resting station depth := ⟨.started empty, rfl⟩

/-- However a station with an empty queue is polled and whatever is brought between the polls, the
frames that its queue accepts are dispatched in their order, each once and one in a poll at most.
Only what is brought to a full queue is dropped, and it is counted. A poll leaves nothing staged. -/
theorem loses_nothing (calm : station.Calm) (depth : Nat) (state : σ)
    (empty : station.rx.get state = RxQueue.ofDepth depth) (operations : List (Operation σ))
    (aside : ∀ change, .elsewhere change ∈ operations → station.rx.SparedBy change) :
    Orderly station depth ((start state).run station operations).log :=
  ((resting_start empty).run calm operations aside).traced.orderly calm

/-- A peer that finds the frames that come in among what it keeps. -/
def fed (services : List (Service (Peer (List Frame) Unit))) :
    Station (Peer (List Frame) Unit) Unit :=
  { Peer.station services fun _ _ peer => peer with
    receive := fun peer => (peer.rest.head?, { peer with rest := peer.rest.drop 1 }) }

/-- A service that answers every command with a report. -/
def answering : Service (Peer (List Frame) Unit) where
  serviceClass := 7
  handle packet peer := (Peer.link.send 1 packet.command packet.data peer).2

theorem calm_answering : (fed [answering]).Calm where
  lawful := ⟨fun _ _ => rfl, fun _ => rfl, fun _ _ _ => rfl⟩
  aloof := ⟨fun _ _ _ empty => empty, fun _ _ _ => rfl⟩
  transmit _ _ _ := rfl
  receive _ := rfl
  tell _ _ _ := rfl
  handle := by
    intro service member packet peer
    rw [List.mem_singleton.mp member]
    obtain ⟨tx, outbox, same⟩ := Peer.Transmits.send 1 packet.command packet.data peer
    change (Peer.link.send 1 packet.command packet.data peer).2.node.rx = peer.node.rx
    rw [same]
  observe := by
    intro service member packet peer
    rw [List.mem_singleton.mp member]
    rfl
  process := by
    intro service member peer
    rw [List.mem_singleton.mp member]
    rfl

/-- A queue of one frame is brought two frames, and two more come through the transport, while a
service answers. -/
theorem loses_nothing_answering :
    let peer : Peer (List Frame) Unit := ⟨Node.create { rxDepth := 1 } scatteredPorts, [], []⟩
    let frame (service : UInt8) : Frame := ((Frame.empty 0 Flag.command).push? service 9 []).getD
      (Frame.empty 0 0)
    let operations : List (Operation (Peer (List Frame) Unit)) :=
      [.bring (frame 1), .bring (frame 2),
        .elsewhere fun peer => { peer with rest := [frame 1, frame 2] }, .poll, .poll, .poll]
    (fed [answering]).Calm ∧ (fed [answering]).rx.get peer = RxQueue.ofDepth 1 ∧
      (∀ change, .elsewhere change ∈ operations → (fed [answering]).rx.SparedBy change) ∧
      Orderly (fed [answering]) 1 ((start peer).run (fed [answering]) operations).log := by
  intro peer frame operations
  have aside : ∀ change, .elsewhere change ∈ operations →
      (fed [answering]).rx.SparedBy change := by
    intro change member peer
    simp only [operations, List.mem_cons, reduceCtorEq, Operation.elsewhere.injEq,
      List.not_mem_nil, or_false, false_or] at member
    rw [member]
    rfl
  exact ⟨calm_answering, rfl, aside, loses_nothing calm_answering 1 peer rfl operations aside⟩

end Run

end Polling

end PipeBus

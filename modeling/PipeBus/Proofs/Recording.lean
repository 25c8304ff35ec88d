import PipeBus.Proofs.Peer

/-! What a station does of its own accord. A recorded station is the same station in a larger state,
which keeps beside the state what the station has queued and handed over and whom it has called.
What the services and the receivers do when they are called, and what the transport does, stays
unseen. Main statement: recording changes nothing, and while packets are handled nothing is queued
but advertisements (`Station.keeps_handleAll`). -/

namespace PipeBus

variable {σ κ : Type}

/-- What a station does itself. -/
inductive Deed where
  /-- A packet is added to the staging frame. -/
  | queued (packet : Packet)
  | handed (frame : Frame)
  | observed (packet : Packet)
  | handled (packet : Packet)
  | told (delivery : Delivery)
  deriving DecidableEq

/-- What a station does while it handles packets: all that it queues then are advertisements. -/
def Deed.Handling : Deed → Prop
  | .queued packet => packet.service = ServiceNumber.control
  | _ => True

/-- The packets that have come into the staging frame: those behind all that stood there before, or
all that stand there if it has gone. -/
def TxQueue.added (before after : TxQueue) : List Packet :=
  match after.staging with
  | none => []
  | some frame =>
    let old := before.stagingFrame.payload
    Frame.packetsOf frame.device frame.flags
      (if old.isPrefixOf frame.payload then frame.payload.drop old.length else frame.payload)

namespace Service

/-- The same service, whose calls are recorded. -/
def recorded (service : Service σ) : Service (σ × List Deed) where
  serviceClass := service.serviceClass
  handle packet state := (service.handle packet state.1, state.2 ++ [.handled packet])
  observe packet state := (service.observe packet state.1, state.2 ++ [.observed packet])
  process state := (service.process state.1, state.2)

end Service

namespace Station

/-- The same station, which keeps a record of what it does. -/
def recorded (station : Station σ κ) : Station (σ × List Deed) κ where
  node := {
    get := fun state => station.node.get state.1
    set := fun node state => (station.node.set node state.1,
      state.2 ++ ((station.node.get state.1).tx.added node.tx).map .queued) }
  transmit frame timeout state :=
    let (accepted, later) := station.transmit frame timeout state.1
    (accepted, later, state.2 ++ [.handed frame])
  receive state :=
    let (frame, later) := station.receive state.1
    (frame, later, state.2)
  tell sink delivery state :=
    (station.tell sink delivery state.1, state.2 ++ [.told delivery])
  services := station.services.map Service.recorded

end Station

namespace TxQueue

variable {before after : TxQueue}

theorem added_same (same : after.staging = before.staging) : before.added after = [] := by
  unfold added stagingFrame
  rw [same]
  cases before.staging with
  | none => rfl
  | some frame => simp [Frame.packetsOf_nil]

theorem added_none (empty : after.staging = none) : before.added after = [] := by
  rw [added, empty]

theorem staging_count (queue : TxQueue) (accepted : Bool) :
    (queue.count accepted).staging = queue.staging := by
  unfold count
  split <;> rfl

theorem device_count (queue : TxQueue) (accepted : Bool) :
    (queue.count accepted).device = queue.device := by
  unfold count
  split <;> rfl

theorem added_stage? {service : UInt8} {command : UInt16} {data : Bytes}
    (staged : before.stage? service command data = some after) (short : data.length < 256) :
    before.added after =
      [⟨before.stagingFrame.device, before.stagingFrame.flags, service, command, data⟩] := by
  obtain ⟨frame, pushed, rfl⟩ := Option.map_eq_some_iff.mp staged
  unfold Frame.push? at pushed
  split at pushed
  · cases pushed
  · cases pushed
    have alone := Frame.packetsOf_packetBytes before.stagingFrame.device before.stagingFrame.flags
      service command data [] short
    have front (payload more : Bytes) : payload.isPrefixOf (payload ++ more) = true :=
      List.isPrefixOf_iff_prefix.mpr (List.prefix_append payload more)
    rw [List.append_nil, Frame.packetsOf_nil] at alone
    simpa only [added, front, ↓reduceIte, List.drop_left] using alone

end TxQueue

namespace Station

variable (station : Station σ κ) (state : σ) (deeds : List Deed)

/-! The record of what happens to the queue. -/

/-- A node to whose queue nothing is added is put back unseen. -/
theorem recorded_setNode {node : Node κ} (unseen : (station.node.get state).tx.added node.tx = []) :
    station.recorded.node.set node (state, deeds) = (station.node.set node state, deeds) := by
  have kept : deeds ++ ((station.node.get state).tx.added node.tx).map Deed.queued = deeds := by
    rw [unseen, List.map_nil, List.append_nil]
  exact congrArg (Prod.mk _) kept

theorem recorded_setRegistry (registry : Registry κ) :
    station.recorded.registry.set registry (state, deeds) =
      (station.registry.set registry state, deeds) :=
  station.recorded_setNode state deeds (TxQueue.added_same rfl)

theorem recorded_pushFrame (frame : Frame) :
    (station.recorded.tx.pushFrame frame (state, deeds)).2 =
      ((station.tx.pushFrame frame state).2, deeds ++ [.handed frame]) :=
  station.recorded_setNode _ _ (TxQueue.added_same (TxQueue.staging_count ..))

theorem recorded_flush :
    station.recorded.tx.flush (state, deeds) = (station.tx.flush state,
      deeds ++
        (station.tx.queue.get state).staging.toList.map fun frame => .handed frame.sealed) := by
  have found : station.recorded.tx.queue.get (state, deeds) = station.tx.queue.get state := rfl
  unfold TxLink.flush
  rw [found]
  cases staged : (station.tx.queue.get state).staging with
  | none => simp
  | some frame =>
    have taken : station.recorded.tx.queue.set { station.tx.queue.get state with staging := none }
        (state, deeds) = (station.tx.queue.set _ state, deeds) :=
      station.recorded_setNode state deeds (TxQueue.added_none rfl)
    simp only [Lens.modify, found, taken, recorded_pushFrame]
    rfl

theorem recorded_stage {service : UInt8} {command : UInt16} {data : Bytes} {queue : TxQueue}
    (staged : (station.tx.queue.get state).stage? service command data = some queue)
    (short : data.length < 256) :
    let frame := (station.tx.queue.get state).stagingFrame
    station.recorded.tx.queue.set queue (state, deeds) = (station.tx.queue.set queue state,
      deeds ++ [.queued ⟨frame.device, frame.flags, service, command, data⟩]) := by
  intro frame
  have seen := congrArg (List.map Deed.queued) (TxQueue.added_stage? staged short)
  exact congrArg (fun more => (station.tx.queue.set queue state, deeds ++ more)) seen

/-! Handling packets. -/

/-- A station has come to this state by doing more than before, all of it while handling packets. -/
def Keeps (deeds : List Deed) (state : σ) (recorded : σ × List Deed) : Prop :=
  ∃ more, recorded = (state, deeds ++ more) ∧ ∀ deed ∈ more, deed.Handling

theorem Keeps.refl (deeds : List Deed) (state : σ) : Keeps deeds state (state, deeds) :=
  ⟨[], by rw [List.append_nil], List.forall_mem_nil _⟩

theorem Keeps.add {deed : Deed} (deeds : List Deed) (state : σ) (handling : deed.Handling) :
    Keeps deeds state (state, deeds ++ [deed]) :=
  ⟨[deed], rfl, List.forall_mem_singleton.mpr handling⟩

/-- What was done on the way to where the record starts may be counted in. -/
theorem Keeps.since {deeds more : List Deed} {state : σ} {recorded : σ × List Deed}
    (keeps : Keeps (deeds ++ more) state recorded) (before : ∀ deed ∈ more, deed.Handling) :
    Keeps deeds state recorded := by
  obtain ⟨later, rfl, after⟩ := keeps
  exact ⟨more ++ later, by rw [List.append_assoc], List.forall_mem_append.mpr ⟨before, after⟩⟩

theorem keeps_flush :
    Keeps deeds (station.flush state) (station.recorded.flush (state, deeds)) := by
  refine ⟨_, station.recorded_flush state deeds, ?_⟩
  intro deed member
  obtain ⟨frame, _, rfl⟩ := List.mem_map.mp member
  trivial

theorem keeps_stageWithin {command : UInt16} {data : Bytes} (short : data.length < 256)
    (turns : Nat) :
    Option.Rel (Keeps deeds)
      (station.tx.stageWithin ServiceNumber.control command data turns state)
      (station.recorded.tx.stageWithin ServiceNumber.control command data turns
        (state, deeds)) := by
  induction turns generalizing state deeds with
  | zero => exact .none
  | succ turns ih =>
    have found : station.recorded.tx.queue.get (state, deeds) = station.tx.queue.get state := rfl
    rw [TxLink.stageWithin, TxLink.stageWithin, found]
    cases staged : (station.tx.queue.get state).stage? ServiceNumber.control command data with
    | some queue =>
      exact .some ⟨_, station.recorded_stage state deeds staged short, by simp [Deed.Handling]⟩
    | none =>
      obtain ⟨more, flushed, before⟩ := station.keeps_flush state deeds
      have rest := ih (station.flush state) (deeds ++ more)
      rw [← flushed] at rest
      change Option.Rel (Keeps deeds) (station.tx.stageWithin _ _ _ turns (station.flush state))
        (station.recorded.tx.stageWithin _ _ _ turns (station.recorded.flush (state, deeds)))
      generalize station.tx.stageWithin _ _ _ turns (station.flush state) = plain at rest ⊢
      generalize station.recorded.tx.stageWithin _ _ _ turns _ = seen at rest ⊢
      cases rest with
      | none => exact .none
      | some keeps => exact .some (keeps.since before)

theorem classes_recorded : station.recorded.classes = station.classes := by
  simp [classes, recorded, Service.recorded, Function.comp_def]

theorem keeps_announce :
    Keeps deeds (station.announce state).2 (station.recorded.announce (state, deeds)).2 := by
  unfold announce NodeLink.send TxLink.push
  rw [classes_recorded]
  split
  · exact .refl deeds state
  · rename_i fits
    have short : (Node.advertisement station.classes).length < 256 :=
      Nat.lt_of_le_of_lt (Nat.not_lt.mp fits) (by decide)
    have staged : Option.Rel (Keeps deeds) (station.tx.stageWithin _ _ _ _ state)
        (station.recorded.tx.stageWithin _ Command.advertisement _ _ (state, deeds)) :=
      station.keeps_stageWithin state deeds short TxLink.stageTurns
    generalize station.tx.stageWithin _ _ _ TxLink.stageTurns state = plain at staged ⊢
    generalize station.recorded.tx.stageWithin _ _ _ TxLink.stageTurns _ = seen at staged ⊢
    cases staged with
    | none => exact .refl deeds state
    | some keeps => exact keeps

theorem keeps_input (packet : Packet) :
    Keeps deeds (Registry.handlePacket station.registry station.tell packet state).2
      (Registry.handlePacket station.recorded.registry station.recorded.tell packet
        (state, deeds)).2 := by
  have found : station.recorded.registry.get (state, deeds) = station.registry.get state := rfl
  unfold Registry.handlePacket
  rw [found]
  split
  · exact .refl deeds state
  · rename_i accepted registry taken
    rw [recorded_setRegistry]
    generalize station.registry.set registry state = ready
    by_cases closes : accepted.word.isClose = true
    · simp only [closes, ↓reduceIte]
      generalize (if accepted.word.isMeta = true then Delivery.metadata packet
        else Delivery.data packet) = delivery
      have ended := station.recorded_setRegistry
        (station.tell accepted.sink .eof (station.tell accepted.sink delivery ready))
        (deeds ++ [.told delivery] ++ [.told .eof])
      refine ⟨[.told delivery] ++ [.told .eof], ?_, by simp [Deed.Handling]⟩
      rw [← List.append_assoc]
      exact ended _
    · simp only [closes]
      exact .add deeds _ trivial

theorem keeps_deliver (packet : Packet) (destination : Destination) :
    Keeps deeds (station.deliver packet destination state)
      (station.recorded.deliver packet destination (state, deeds)) := by
  cases destination with
  | control =>
    change Keeps deeds (if packet.command = Command.advertisement then _ else _)
      (if packet.command = Command.advertisement then _ else _)
    split
    · exact station.keeps_announce state deeds
    · exact .refl deeds state
  | pipe => exact station.keeps_input state deeds packet
  | hosted index =>
    have place : station.recorded.services[index]? =
        station.services[index]?.map Service.recorded := List.getElem?_map ..
    unfold deliver
    simp only [place]
    cases station.services[index]? with
    | none => exact .refl deeds state
    | some service => exact .add deeds _ trivial

theorem keeps_observe (services : List (Service σ)) (packet : Packet) :
    Keeps deeds (services.foldl (fun later service => service.observe packet later) state)
      ((services.map Service.recorded).foldl (fun later service => service.observe packet later)
        (state, deeds)) := by
  induction services generalizing state deeds with
  | nil => exact .refl deeds state
  | cons service rest ih =>
    have observed : Deed.Handling (.observed packet) := trivial
    exact (ih (service.observe packet state) (deeds ++ [.observed packet])).since
      (List.forall_mem_singleton.mpr observed)

theorem keeps_handlePacket (packet : Packet) :
    Keeps deeds (station.handlePacket packet state)
      (station.recorded.handlePacket packet (state, deeds)) := by
  have matched : station.recorded.registry.modify (fun registry => (registry.processAck packet).2)
      (state, deeds) =
      (station.registry.modify (fun registry => (registry.processAck packet).2) state, deeds) :=
    station.recorded_setRegistry state deeds _
  have found : station.recorded.node.get (state, deeds) = station.node.get state := rfl
  have many : station.recorded.services.length = station.services.length := List.length_map ..
  unfold handlePacket
  simp only [matched, found, many, classes_recorded]
  split
  · split
    · exact .refl deeds _
    · split
      · exact .refl deeds _
      · exact station.keeps_deliver _ deeds _ _
  · exact keeps_observe _ deeds station.services packet

theorem keeps_handleAll (packets : List Packet) :
    Keeps deeds (station.handleAll packets state)
      (station.recorded.handleAll packets (state, deeds)) := by
  induction packets generalizing state deeds with
  | nil => exact .refl deeds state
  | cons packet rest ih =>
    obtain ⟨more, same, before⟩ := station.keeps_handlePacket state deeds packet
    change Keeps deeds _
      (station.recorded.handleAll rest (station.recorded.handlePacket packet (state, deeds)))
    rw [same]
    exact (ih (station.handlePacket packet state) (deeds ++ more)).since before

end Station

end PipeBus

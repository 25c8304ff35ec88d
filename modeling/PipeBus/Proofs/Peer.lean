import PipeBus.Node.Dispatch
import PipeBus.Proofs.AckTable
import PipeBus.Proofs.Pieces

/-! A node on its own: everything it hands over is collected in an outbox, and its services
and the receivers of its input pipes may keep a state of theirs. -/

namespace PipeBus

variable {σ ε κ : Type}

/-- A node, the frames it has handed over, and whatever its services keep. -/
structure Peer (ε κ : Type) where
  node : Node κ
  outbox : List Frame := []
  rest : ε

namespace Peer

def nodePlace : Lens (Peer ε κ) (Node κ) where
  get := node
  set node peer := { peer with node }

def restPlace : Lens (Peer ε κ) ε where
  get := rest
  set rest peer := { peer with rest }

/-- A peer's node, whose frames go to the outbox. -/
def link : NodeLink (Peer ε κ) κ where
  node := nodePlace
  transmit frame _ peer := (true, { peer with outbox := peer.outbox ++ [frame] })

/-- A peer that hosts services and tells the receivers of its input pipes. -/
def station (services : List (Service (Peer ε κ)))
    (tell : κ → Delivery → Peer ε κ → Peer ε κ) : Station (Peer ε κ) κ where
  toNodeLink := link
  receive peer := (none, peer)
  tell
  services

def hearing (hear : κ → Delivery → ε → ε) (sink : κ) (delivery : Delivery) (peer : Peer ε κ) :
    Peer ε κ := { peer with rest := hear sink delivery peer.rest }

def withRegistry (peer : Peer ε κ) (registry : Registry κ) : Peer ε κ :=
  { peer with node := { peer.node with registry } }

/-- One peer is another one that has staged and handed over frames. -/
def Transmits (before after : Peer ε κ) : Prop :=
  ∃ tx outbox, after = { before with node := { before.node with tx }, outbox }

namespace Transmits

variable {first second third : Peer ε κ}

theorem refl (peer : Peer ε κ) : Transmits peer peer := ⟨peer.node.tx, peer.outbox, rfl⟩

theorem trans (left : Transmits first second) (right : Transmits second third) :
    Transmits first third := by
  obtain ⟨_, _, rfl⟩ := left
  obtain ⟨tx, outbox, rfl⟩ := right
  exact ⟨tx, outbox, rfl⟩

theorem registry (transmits : Transmits first second) :
    second.node.registry = first.node.registry := by
  obtain ⟨_, _, rfl⟩ := transmits
  rfl

theorem config (transmits : Transmits first second) : second.node.config = first.node.config := by
  obtain ⟨_, _, rfl⟩ := transmits
  rfl

theorem rest (transmits : Transmits first second) : second.rest = first.rest := by
  obtain ⟨_, _, rfl⟩ := transmits
  rfl

theorem setQueue (peer : Peer ε κ) (queue : TxQueue) :
    Transmits peer (link.tx.queue.set queue peer) := ⟨queue, peer.outbox, rfl⟩

theorem pushFrame (frame : Frame) (peer : Peer ε κ) :
    Transmits peer (link.tx.pushFrame frame peer).2 :=
  ⟨peer.node.tx.count true, peer.outbox ++ [frame], rfl⟩

theorem flush (peer : Peer ε κ) : Transmits peer (link.tx.flush peer) := by
  unfold TxLink.flush
  split
  · exact refl peer
  · exact (setQueue peer _).trans (pushFrame _ _)

theorem stageWithin {service : UInt8} {command : UInt16} {data : Bytes} {turns : Nat}
    {peer later : Peer ε κ}
    (staged : link.tx.stageWithin service command data turns peer = some later) :
    Transmits peer later := by
  induction turns generalizing peer with
  | zero => cases staged
  | succ turns ih =>
    rw [TxLink.stageWithin] at staged
    split at staged
    · cases staged
      exact setQueue peer _
    · exact (flush peer).trans (ih staged)

theorem send (service : UInt8) (command : UInt16) (data : Bytes) (peer : Peer ε κ) :
    Transmits peer (link.send service command data peer).2 := by
  unfold NodeLink.send TxLink.push
  split
  · exact refl peer
  · cases staged : link.tx.stageWithin service command data TxLink.stageTurns peer with
    | none => exact refl peer
    | some later => exact stageWithin staged

theorem acknowledge (services : List (Service (Peer ε κ)))
    (tell : κ → Delivery → Peer ε κ → Peer ε κ) (frame : Frame) (peer : Peer ε κ) :
    Transmits peer ((station services tell).acknowledge frame peer) := by
  unfold Station.acknowledge
  split
  · exact (send _ _ _ peer).trans (flush _)
  · exact refl peer

end Transmits

section

variable {services : List (Service (Peer ε κ))} {tell : κ → Delivery → Peer ε κ → Peer ε κ}
  {packet taken : Packet} {destination : Destination} {peer : Peer ε κ}

/-- A packet that acknowledges nothing leaves the waiters alone. -/
theorem modify_processAck (other : packet.service ≠ ServiceNumber.crcAck) :
    (station services tell).registry.modify
      (fun registry => (registry.processAck packet).2) peer = peer :=
  congrArg peer.withRegistry (Registry.processAck_of_other other)

/-- A command goes where it is addressed to, and nowhere else. -/
theorem handlePacket_command (other : packet.service ≠ ServiceNumber.crcAck)
    (command : packet.isCommand = true)
    (addressed : Node.addressed? peer.node.config.device (station services tell).classes packet =
      some taken)
    (leads : Node.destination? services.length taken.service = some destination) :
    (station services tell).handlePacket packet peer =
      (station services tell).deliver taken destination peer := by
  unfold Station.handlePacket
  simp only [modify_processAck other, command, ↓reduceIte]
  split
  · rename_i nobody
    cases addressed.symm.trans nobody
  · rename_i found
    cases addressed.symm.trans found
    split
    · rename_i nowhere
      cases leads.symm.trans nowhere
    · rename_i there
      cases leads.symm.trans there
      rfl

theorem handlePacket_refused (refused : peer.node.registry.accept? packet = none) :
    (Registry.handlePacket link.registry tell packet peer).2 = peer := by
  unfold Registry.handlePacket
  split
  · rfl
  · rename_i found
    cases refused.symm.trans found

/-- The receiver of an accepted packet is told, and a packet with the close flag ends its pipe. -/
theorem handlePacket_taken {id : SlotId} {sink : κ} {word : PipeWord} {registry : Registry κ}
    (accepted : peer.node.registry.accept? packet = some (⟨id, sink, word⟩, registry)) :
    (Registry.handlePacket link.registry tell packet peer).2 =
      let told := tell sink (if word.isMeta then .metadata packet else .data packet)
        (peer.withRegistry registry)
      let ended := tell sink .eof told
      if word.isClose then ended.withRegistry (ended.node.registry.closeInput id).2 else told := by
  unfold Registry.handlePacket
  split
  · rename_i refused
    cases accepted.symm.trans refused
  · rename_i found
    cases accepted.symm.trans found
    by_cases closes : word.isClose = true
    · simp only [closes, ↓reduceIte]
      rfl
    · simp only [closes]
      rfl

theorem handlePacket_report (other : packet.service ≠ ServiceNumber.crcAck)
    (report : packet.isCommand = false) :
    (station services tell).handlePacket packet peer =
      services.foldl (fun later service => service.observe packet later) peer := by
  unfold Station.handlePacket
  simp only [modify_processAck other, report, Bool.false_eq_true, ↓reduceIte]
  rfl

end

end Peer

namespace Station

variable (station : Station σ κ)

def handleAll (packets : List Packet) (state : σ) : σ :=
  packets.foldl (fun later packet => station.handlePacket packet later) state

theorem handleAll_append (first second : List Packet) (state : σ) :
    station.handleAll (first ++ second) state =
      station.handleAll second (station.handleAll first state) :=
  List.foldl_append ..

/-- Dispatching a frame handles the packets that walking it meets. -/
theorem handlePackets_eq (frame : Frame) (state : σ) :
    station.handlePackets frame state = station.handleAll frame.walk state := by
  fun_induction Station.handlePackets station frame state with
  | case1 frame state handled last =>
    rw [Frame.walk_last last]
    cases found : frame.front? <;> simp [handled, handleAll, found]
  | case2 frame state handled next shifted ih =>
    rw [ih, Frame.walk_shifted shifted]
    cases found : frame.front? <;> simp [handled, handleAll, found]

theorem processFrame_eq (frame : Frame) (state : σ) :
    station.processFrame frame state =
      station.handleAll frame.walk (station.acknowledge frame state) :=
  station.handlePackets_eq frame _

end Station

end PipeBus

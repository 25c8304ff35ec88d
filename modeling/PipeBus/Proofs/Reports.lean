import PipeBus.Proofs.Peer

/-! Reports without data, such as acknowledgements. A node hears them, and nothing else comes of
them where the services observe only reports that say something. -/

namespace PipeBus

variable {ε κ : Type}

/-- A frame of reports without data. -/
structure Frame.Bare (frame : Frame) : Prop where
  report : frame.isCommand = false
  packets : ∀ packet ∈ frame.walk, packet.isCommand = false ∧ packet.data = []

def Frame.acknowledging (device : UInt64) (crc : UInt16) : Frame :=
  Frame.sealed { device, flags := 0, payload := Frame.packetBytes ServiceNumber.crcAck crc [] }

theorem Frame.bare_acknowledging (device : UInt64) (crc : UInt16) :
    (Frame.acknowledging device crc).Bare := by
  have plain : Flag.has 0 Flag.command = false := by decide
  constructor
  · exact plain
  · intro packet member
    rw [Frame.acknowledging, Frame.walk_single _ _ _ _ [] (by decide)] at member
    rw [List.mem_singleton.mp member]
    exact ⟨plain, rfl⟩

/-- Services to which reports without data are nothing. -/
def Service.Indifferent (services : List (Service (Peer ε κ))) : Prop :=
  ∀ service ∈ services, ∀ packet peer, packet.data = [] → service.observe packet peer = peer

namespace Peer

variable {services : List (Service (Peer ε κ))} {tell : κ → Delivery → Peer ε κ → Peer ε κ}

/-- A node that has nothing staged hands over at most an acknowledgement when it takes a frame. -/
theorem acknowledge_idle (services : List (Service (Peer ε κ)))
    (tell : κ → Delivery → Peer ε κ → Peer ε κ) (frame : Frame) {peer : Peer ε κ}
    (idle : peer.node.tx.staging = none) :
    ∃ tx acks, (station services tell).acknowledge frame peer =
        { peer with
          node := { peer.node with tx }
          outbox := peer.outbox ++ acks } ∧
      tx.staging = none ∧ ∀ ack ∈ acks, ack.Bare := by
  unfold Station.acknowledge
  split
  · obtain ⟨⟨config, tx, rx, registry⟩, outbox, rest⟩ := peer
    obtain ⟨device, timeout, staging, sent, dropped⟩ := tx
    cases idle
    refine ⟨⟨device, timeout, none, sent + 1, dropped⟩, [Frame.acknowledging device frame.crc], rfl,
      rfl, ?_⟩
    intro ack member
    rw [List.mem_singleton.mp member]
    exact Frame.bare_acknowledging device frame.crc
  · exact ⟨peer.node.tx, [], by simp, idle, List.forall_mem_nil _⟩

private theorem observe_bare {packet : Packet} {peer : Peer ε κ}
    (indifferent : Service.Indifferent services) (bare : packet.data = []) :
    services.foldl (fun later service => service.observe packet later) peer = peer := by
  induction services with
  | nil => rfl
  | cons service services ih =>
    rw [List.foldl_cons, indifferent service (List.mem_cons_self ..) packet peer bare]
    exact ih fun other member => indifferent other (List.mem_cons_of_mem _ member)

private theorem handleAll_bare (indifferent : Service.Indifferent services) (packets : List Packet)
    (bare : ∀ packet ∈ packets, packet.isCommand = false ∧ packet.data = []) (peer : Peer ε κ) :
    (station services tell).handleAll packets peer =
      peer.withRegistry
        (packets.foldl (fun heard packet => (heard.processAck packet).2) peer.node.registry) := by
  induction packets generalizing peer with
  | nil => rfl
  | cons packet packets ih =>
    obtain ⟨⟨report, empty⟩, others⟩ := List.forall_mem_cons.mp bare
    have handled : (station services tell).handlePacket packet peer =
        peer.withRegistry (peer.node.registry.processAck packet).2 := by
      unfold Station.handlePacket
      simp only [report, Bool.false_eq_true, ↓reduceIte]
      exact observe_bare indifferent empty
    rw [Station.handleAll, List.foldl_cons, handled]
    exact ih others (peer.withRegistry (peer.node.registry.processAck packet).2)

theorem processFrame_bare {frame : Frame} (indifferent : Service.Indifferent services)
    (bare : frame.Bare) (peer : Peer ε κ) :
    (station services tell).processFrame frame peer =
      peer.withRegistry (peer.node.registry.hearFrame frame) := by
  have unasked : (station services tell).acknowledge frame peer = peer := by
    unfold Station.acknowledge Station.mustAck
    simp [bare.report]
  rw [Station.processFrame_eq, unasked]
  exact handleAll_bare indifferent frame.walk bare.packets peer

end Peer

end PipeBus

import PipeBus.Proofs.Peer

/-! Where acknowledgements come from. A node that dispatches a frame hands over no other
acknowledgement than that of the frame, whatever its services and receivers send besides. -/

namespace PipeBus

variable {ε κ : Type}

namespace Frame

/-- A frame made of whole packets that are all allowed. -/
def Built (allowed : UInt8 → UInt16 → Prop) (frame : Frame) : Prop :=
  ∃ entries : List (UInt8 × UInt16 × Bytes),
    frame.payload = entries.flatMap (fun entry => packetBytes entry.1 entry.2.1 entry.2.2) ∧
      ∀ entry ∈ entries, entry.2.2.length < 256 ∧ allowed entry.1 entry.2.1

variable {allowed more : UInt8 → UInt16 → Prop} {frame next : Frame}

theorem Built.empty (device : UInt64) (flags : UInt8) : (Frame.empty device flags).Built allowed :=
  ⟨[], rfl, List.forall_mem_nil _⟩

theorem Built.mono (built : frame.Built allowed)
    (weaker : ∀ service command, allowed service command → more service command) :
    frame.Built more := by
  obtain ⟨entries, same, all⟩ := built
  exact ⟨entries, same, fun entry member => (all entry member).imp_right (weaker _ _)⟩

theorem Built.push? {service : UInt8} {command : UInt16} {data : Bytes} (built : frame.Built allowed)
    (permitted : allowed service command) (pushed : frame.push? service command data = some next) :
    next.Built allowed := by
  obtain ⟨entries, same, all⟩ := built
  unfold Frame.push? at pushed
  split at pushed
  · cases pushed
  · rename_i room
    cases pushed
    refine ⟨entries ++ [(service, command, data)], ?_, fun entry member => ?_⟩
    · simp [same]
    · rcases List.mem_append.mp member with old | new
      · exact all entry old
      · rw [List.mem_singleton.mp new]
        refine ⟨?_, permitted⟩
        simp only [Frame.remaining, maxPayload, packetHeader] at room
        simp only
        omega

theorem Built.walk (built : frame.Built allowed) :
    ∀ packet ∈ frame.sealed.walk, allowed packet.service packet.command := by
  obtain ⟨entries, same, all⟩ := built
  have packets : ∀ packet ∈ frame.sealed.packets, allowed packet.service packet.command := by
    rw [Frame.packets]
    change ∀ packet ∈ packetsOf frame.device frame.flags frame.payload, _
    rw [same]
    clear same
    induction entries with
    | nil => simp [packetsOf_nil]
    | cons entry rest ih =>
      have front := all entry (List.mem_cons_self ..)
      rw [List.flatMap_cons, packetsOf_packetBytes _ _ _ _ _ _ front.1]
      refine List.forall_mem_cons.mpr ⟨front.2, ih ?_⟩
      intro other member
      exact all other (List.mem_cons_of_mem _ member)
  rw [walk_eq_met]
  cases found : frame.sealed.packets with
  | nil => exact List.forall_mem_nil _
  | cons first others =>
    rw [found] at packets
    obtain ⟨front, behind⟩ := List.forall_mem_cons.mp packets
    refine List.forall_mem_cons.mpr ⟨front, ?_⟩
    intro packet member
    obtain ⟨other, inside, rfl⟩ := List.mem_map.mp member
    exact behind other inside

end Frame

namespace Peer

/-- Every acknowledgement that a peer has staged or handed over is vouched for. -/
structure Vouched (claims : UInt16 → Prop) (peer : Peer ε κ) : Prop where
  outbox : ∀ frame ∈ peer.outbox, ∀ packet ∈ frame.walk, packet.service = ServiceNumber.crcAck →
    claims packet.command
  staging : ∀ frame, peer.node.tx.staging = some frame →
    frame.Built fun service command => service = ServiceNumber.crcAck → claims command

/-- What happens at a peer brings no acknowledgements about, and leaves its device as it is. -/
def Harmless (change : Peer ε κ → Peer ε κ) : Prop :=
  ∀ claims peer, Vouched claims peer →
    Vouched claims (change peer) ∧ (change peer).node.config = peer.node.config

variable {claims : UInt16 → Prop} {peer : Peer ε κ}

theorem Harmless.fold {α : Type} {change : α → Peer ε κ → Peer ε κ} {list : List α}
    (each : ∀ one ∈ list, Harmless (change one)) :
    Harmless fun peer => list.foldl (fun later one => change one later) peer := by
  induction list with
  | nil => exact fun _ _ vouched => ⟨vouched, rfl⟩
  | cons one rest ih =>
    intro claims peer vouched
    obtain ⟨first, same⟩ := each one (List.mem_cons_self ..) claims peer vouched
    obtain ⟨last, still⟩ := ih (fun other member => each other (List.mem_cons_of_mem _ member))
      claims _ first
    exact ⟨last, still.trans same⟩

theorem Harmless.after {first second : Peer ε κ → Peer ε κ} (before : Harmless first)
    (after : Harmless second) : Harmless fun peer => second (first peer) := by
  intro claims peer vouched
  obtain ⟨middle, same⟩ := before claims peer vouched
  obtain ⟨last, still⟩ := after claims _ middle
  exact ⟨last, still.trans same⟩

theorem Harmless.withRegistry (change : Peer ε κ → Registry κ) :
    Harmless fun peer => peer.withRegistry (change peer) :=
  fun _ _ vouched => ⟨⟨vouched.outbox, vouched.staging⟩, rfl⟩

theorem Vouched.mono {more : UInt16 → Prop} (vouched : Vouched claims peer)
    (grows : ∀ crc, claims crc → more crc) : Vouched more peer where
  outbox frame member packet inside isAck :=
    grows _ (vouched.outbox frame member packet inside isAck)
  staging frame staged :=
    (vouched.staging frame staged).mono fun _ _ allowed isAck => grows _ (allowed isAck)

theorem Vouched.flush (vouched : Vouched claims peer) : Vouched claims (link.tx.flush peer) := by
  unfold TxLink.flush
  split
  · exact vouched
  · rename_i frame staged
    refine ⟨fun sent member packet inside isAck => ?_, fun _ impossible => nomatch impossible⟩
    rcases List.mem_append.mp member with old | new
    · exact vouched.outbox sent old packet inside isAck
    · rw [List.mem_singleton.mp new] at inside
      exact (vouched.staging frame staged).walk packet inside isAck

theorem Vouched.stageWithin {service : UInt8} {command : UInt16} {data : Bytes} {turns : Nat}
    {later : Peer ε κ} (allowed : service = ServiceNumber.crcAck → claims command)
    (vouched : Vouched claims peer)
    (staged : link.tx.stageWithin service command data turns peer = some later) :
    Vouched claims later := by
  induction turns generalizing peer with
  | zero => cases staged
  | succ turns ih =>
    rw [TxLink.stageWithin] at staged
    split at staged
    · rename_i queue found
      cases staged
      obtain ⟨frame, pushed, rfl⟩ := Option.map_eq_some_iff.mp found
      refine ⟨vouched.outbox, ?_⟩
      intro other same
      cases same
      refine Frame.Built.push? ?_ allowed pushed
      unfold TxQueue.stagingFrame
      cases empty : (link.tx.queue.get peer).staging with
      | none => exact .empty _ _
      | some before => exact vouched.staging before empty
    · exact ih vouched.flush staged

theorem Vouched.send {service : UInt8} {command : UInt16} {data : Bytes}
    (allowed : service = ServiceNumber.crcAck → claims command) (vouched : Vouched claims peer) :
    Vouched claims (link.send service command data peer).2 := by
  unfold NodeLink.send TxLink.push
  split
  · exact vouched
  · cases staged : link.tx.stageWithin service command data TxLink.stageTurns peer with
    | none => exact vouched
    | some later => exact vouched.stageWithin allowed staged

theorem Harmless.send (service : UInt8) (command : UInt16) (data : Bytes)
    (other : service ≠ ServiceNumber.crcAck) :
    Harmless fun peer : Peer ε κ => (link.send service command data peer).2 :=
  fun _ peer vouched => ⟨vouched.send fun same => absurd same other,
    (Transmits.send service command data peer).config⟩

/-- Services and receivers that bring no acknowledgements about. -/
structure Discreet (services : List (Service (Peer ε κ)))
    (tell : κ → Delivery → Peer ε κ → Peer ε κ) : Prop where
  handle : ∀ service ∈ services, ∀ packet, Harmless (service.handle packet)
  observe : ∀ service ∈ services, ∀ packet, Harmless (service.observe packet)
  process : ∀ service ∈ services, Harmless service.process
  tell : ∀ sink delivery, Harmless (tell sink delivery)

namespace Discreet

variable {services : List (Service (Peer ε κ))} {tell : κ → Delivery → Peer ε κ → Peer ε κ}

theorem handleInput (discreet : Discreet services tell) (packet : Packet) :
    Harmless fun peer => (Registry.handlePacket link.registry tell packet peer).2 := by
  intro claims peer vouched
  cases found : peer.node.registry.accept? packet with
  | none =>
    simp only [handlePacket_refused found]
    exact ⟨vouched, trivial⟩
  | some accepted =>
    obtain ⟨⟨id, sink, word⟩, registry⟩ := accepted
    simp only [handlePacket_taken found]
    have taken := Harmless.after (Harmless.withRegistry fun _ : Peer ε κ => registry)
      (discreet.tell sink (if word.isMeta then .metadata packet else .data packet))
    have ended := taken.after ((discreet.tell sink .eof).after
      (Harmless.withRegistry fun peer => (peer.node.registry.closeInput id).2))
    by_cases closes : word.isClose = true
    · simp only [closes, ↓reduceIte]
      exact ended claims peer vouched
    · simp only [closes]
      exact taken claims peer vouched

theorem deliver (discreet : Discreet services tell) (packet : Packet) (destination : Destination) :
    Harmless fun peer => (station services tell).deliver packet destination peer := by
  intro claims peer vouched
  cases destination with
  | control =>
    simp only [Station.deliver]
    split
    · exact Harmless.send _ _ _ (by decide) claims peer vouched
    · exact ⟨vouched, rfl⟩
  | pipe => exact discreet.handleInput packet claims peer vouched
  | hosted index =>
    simp only [Station.deliver]
    cases found : (station services tell).services[index]? with
    | none => exact ⟨vouched, rfl⟩
    | some service =>
      exact discreet.handle service (List.mem_of_getElem? found) packet claims peer vouched

theorem handlePacket (discreet : Discreet services tell) (packet : Packet) :
    Harmless fun peer => (station services tell).handlePacket packet peer := by
  have matched := Harmless.withRegistry fun peer : Peer ε κ =>
    (peer.node.registry.processAck packet).2
  have observed := matched.after
    (Harmless.fold fun service member => discreet.observe service member packet)
  intro claims peer vouched
  unfold Station.handlePacket
  split
  · simp only
    split
    · exact matched claims peer vouched
    · split
      · exact matched claims peer vouched
      · exact matched.after (discreet.deliver _ _) claims peer vouched
  · exact observed claims peer vouched

/-- Dispatching a frame brings about the acknowledgement of the frame, if it asks for it. -/
theorem processFrame (discreet : Discreet services tell) {claims : UInt16 → Prop} (frame : Frame)
    {peer : Peer ε κ} (vouched : Vouched claims peer)
    (claimed : Station.mustAck peer.node.config.device frame = true → claims frame.crc) :
    Vouched claims ((station services tell).processFrame frame peer) ∧
      ((station services tell).processFrame frame peer).node.config = peer.node.config := by
  have acked : Vouched claims ((station services tell).acknowledge frame peer) := by
    unfold Station.acknowledge
    split
    · rename_i must
      exact (vouched.send fun _ => claimed must).flush
    · exact vouched
  have same := (Transmits.acknowledge services tell frame peer).config
  obtain ⟨last, still⟩ := Harmless.fold
    (fun packet (_ : packet ∈ frame.walk) => discreet.handlePacket packet) claims _ acked
  rw [Station.processFrame_eq]
  exact ⟨last, still.trans same⟩

end Discreet

end Peer

end PipeBus

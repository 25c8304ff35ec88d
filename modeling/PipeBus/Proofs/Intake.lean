import PipeBus.Proofs.Peer

/-! Frames of a pipe at its receiver. Pieces that start at the expected number are taken one
by one, in order; pieces none of which bears the expected number change nothing. -/

namespace PipeBus

variable {ε κ : Type}

namespace Registry

/-- The registry after an input pipe has taken so many packets. -/
def advancedBy (registry : Registry κ) (id : SlotId) : Nat → Registry κ
  | 0 => registry
  | count + 1 => (registry.advanced id).advancedBy id count

variable {registry : Registry κ} {port : UInt16} {id : SlotId} {number : Nat} {sink : κ}

theorem Expects.advancedBy (expects : registry.Expects port number id sink) (count : Nat) :
    (registry.advancedBy id count).Expects port (number + count) id sink := by
  induction count generalizing registry number with
  | zero => exact expects
  | succ count ih =>
    have later := ih expects.advanced
    rwa [Nat.add_assoc, Nat.add_comm 1] at later

theorem Expects.stored (expects : registry.Expects port number id sink) :
    ∃ word, registry.inputs.get? id = some ⟨word, sink⟩ := by
  obtain ⟨word, found, _⟩ := expects
  exact ⟨word, (listener?_eq_some.mp found).1⟩

theorem Sole.advancedBy (sole : registry.Sole port id)
    (expects : registry.Expects port number id sink) (count : Nat) :
    (registry.advancedBy id count).Sole port id := by
  induction count generalizing registry number with
  | zero => exact sole
  | succ count ih =>
    obtain ⟨word, stored⟩ := expects.stored
    exact ih (sole.advanced stored) expects.advanced

theorem advancedBy_succ (registry : Registry κ) (id : SlotId) (count : Nat) :
    registry.advancedBy id (count + 1) = (registry.advancedBy id count).advanced id := by
  induction count generalizing registry with
  | zero => rfl
  | succ count ih => exact ih (registry.advanced id)

theorem outputs_advancedBy (registry : Registry κ) (id : SlotId) (count : Nat) :
    (registry.advancedBy id count).outputs = registry.outputs := by
  induction count generalizing registry with
  | zero => rfl
  | succ count ih => exact ih (registry.advanced id)

theorem bells_advancedBy (registry : Registry κ) (id : SlotId) (count : Nat) :
    (registry.advancedBy id count).bells = registry.bells := by
  induction count generalizing registry with
  | zero => rfl
  | succ count ih => exact ih (registry.advanced id)

end Registry

namespace Piece.Carried

variable {piece : Piece} {port : UInt16} {number : Nat} {packet : Packet}

theorem bears {device : UInt64} (carried : piece.Carried device port number packet) :
    (PipeWord.mk packet.command).port = port &&& maxPort := by
  rw [carried.word, Piece.word, PipeWord.port_ofKind, PipeWord.port_numbered]

theorem counts {device : UInt64} (carried : piece.Carried device port number packet) :
    (PipeWord.mk packet.command).counter.toNat = number % 32 := by
  rw [carried.word, Piece.word, PipeWord.counter_ofKind]

theorem closes {device : UInt64} (carried : piece.Carried device port number packet) :
    (PipeWord.mk packet.command).isClose = decide (piece.kind = .close) := by
  rw [carried.word, Piece.word, PipeWord.isClose_ofKind]

theorem handlePacket {device : UInt64} {services : List (Service (Peer ε κ))}
    {tell : κ → Delivery → Peer ε κ → Peer ε κ} {peer : Peer ε κ}
    (carried : piece.Carried device port number packet)
    (mine : peer.node.config.device = device) :
    (Peer.station services tell).handlePacket packet peer =
      (Registry.handlePacket Peer.link.registry tell packet peer).2 := by
  subst mine
  have other : packet.service ≠ ServiceNumber.crcAck := by
    rw [carried.service]
    decide
  have taken : Node.addressed? peer.node.config.device
      (Peer.station services tell).classes packet = some packet := by
    simp [Node.addressed?, Node.classNumber?, carried.targetsClass, carried.device]
  have destination : Node.destination? services.length packet.service = some .pipe := by
    rw [carried.service]
    rfl
  rw [Peer.handlePacket_command other carried.isCommand taken destination]
  rfl

end Piece.Carried

/-- What a peer keeps after one of its receivers was told something. -/
def tellAll (hear : κ → Delivery → ε → ε) (sink : κ) (deliveries : List Delivery) (rest : ε) : ε :=
  deliveries.foldl (fun rest delivery => hear sink delivery rest) rest

theorem tellAll_append (hear : κ → Delivery → ε → ε) (sink : κ) (first second : List Delivery)
    (rest : ε) :
    tellAll hear sink (first ++ second) rest =
      tellAll hear sink second (tellAll hear sink first rest) := by
  simp [tellAll]

namespace Peer

variable {hear : κ → Delivery → ε → ε} {peer : Peer ε κ} {packet : Packet} {id : SlotId}
  {sink : κ} {registry : Registry κ}

/-- An accepted packet is told; one with the close flag also ends its pipe. -/
theorem handlePacket_accepted
    (accepted : peer.node.registry.accept? packet = some (⟨id, sink, ⟨packet.command⟩⟩, registry)) :
    (Registry.handlePacket link.registry (hearing hear) packet peer).2 =
      { peer with
        node := { peer.node with
          registry :=
            if (PipeWord.mk packet.command).isClose then (registry.closeInput id).2 else registry }
        rest := tellAll hear sink packet.deliveries peer.rest } := by
  rw [handlePacket_taken accepted]
  by_cases close : (PipeWord.mk packet.command).isClose = true
  · simp only [close, ↓reduceIte, Packet.deliveries]
    rfl
  · simp only [Bool.not_eq_true] at close
    simp only [close, Bool.false_eq_true, ↓reduceIte, Packet.deliveries]
    rfl

variable {services : List (Service (Peer ε κ))} {device : UInt64} {port : UInt16}
  {number : Nat} {pieces : List Piece} {packets : List Packet}

theorem handleAll_expected
    (mine : peer.node.config.device = device)
    (carried : CarriedFrom device port number pieces packets)
    (opens : ∀ piece ∈ pieces, piece.kind ≠ .close)
    (expects : peer.node.registry.Expects (port &&& maxPort) number id sink) :
    (station services (hearing hear)).handleAll packets peer =
      { peer with
        node := { peer.node with registry := peer.node.registry.advancedBy id pieces.length }
        rest := tellAll hear sink (packets.flatMap Packet.deliveries) peer.rest } := by
  induction carried generalizing peer with
  | nil => rfl
  | cons front _ ih =>
    have taken := expects.accept? front.bears front.counts
    have last := front.closes.trans (decide_eq_false (opens _ (List.mem_cons_self ..)))
    rw [Station.handleAll, List.foldl_cons, front.handlePacket mine, handlePacket_accepted taken,
      last]
    refine Eq.trans (ih mine ?_ expects.advanced) ?_
    · intro other member
      exact opens other (List.mem_cons_of_mem _ member)
    · simp only [List.flatMap_cons, tellAll_append]
      rfl

/-- Expected pieces that end in a close are all taken, and nobody is left on the port. -/
theorem handleAll_closing {last : Piece}
    (mine : peer.node.config.device = device)
    (carried : CarriedFrom device port number (pieces ++ [last]) packets)
    (opens : ∀ piece ∈ pieces, piece.kind ≠ .close) (closes : last.kind = .close)
    (expects : peer.node.registry.Expects (port &&& maxPort) number id sink) :
    (station services (hearing hear)).handleAll packets peer =
      { peer with
        node := { peer.node with
          registry := ((peer.node.registry.advancedBy id (pieces.length + 1)).closeInput id).2 }
        rest := tellAll hear sink (packets.flatMap Packet.deliveries) peer.rest } := by
  obtain ⟨first, second, rfl, before, after⟩ := carried.split
  cases after with
  | cons final nothing =>
    cases nothing with
    | nil =>
      have taken := (expects.advancedBy pieces.length).accept? final.bears final.counts
      have flagged := final.closes.trans (decide_eq_true closes)
      rw [Station.handleAll_append, handleAll_expected mine before opens expects, Station.handleAll,
        List.foldl_cons, List.foldl_nil, final.handlePacket ?_, handlePacket_accepted taken, flagged,
        Registry.advancedBy_succ]
      · simp only [List.flatMap_append, tellAll_append, List.flatMap_cons, List.flatMap_nil,
          List.append_nil, ↓reduceIte]
      · exact mine

theorem handleAll_stale {expected : Nat}
    (mine : peer.node.config.device = device)
    (carried : CarriedFrom device port number pieces packets)
    (expects : peer.node.registry.Expects (port &&& maxPort) expected id sink)
    (apart : ∀ place < pieces.length, (number + place) % 32 ≠ expected % 32) :
    (station services (hearing hear)).handleAll packets peer = peer := by
  induction carried with
  | nil => rfl
  | cons front _ ih =>
    have refused := expects.accept?_eq_none front.bears (by
      rw [front.counts]
      exact apart 0 (by simp))
    rw [Station.handleAll, List.foldl_cons, front.handlePacket mine, handlePacket_refused refused]
    apply ih
    intro place inside
    have later := apart (place + 1) (by simpa using inside)
    rwa [Nat.add_assoc, Nat.add_comm 1]

theorem handleAll_deaf
    (mine : peer.node.config.device = device)
    (carried : CarriedFrom device port number pieces packets)
    (deaf : peer.node.registry.listener? (port &&& maxPort) = none) :
    (station services (hearing hear)).handleAll packets peer = peer := by
  induction carried with
  | nil => rfl
  | cons front _ ih =>
    have refused := Registry.accept?_of_deaf deaf front.bears
    rw [Station.handleAll, List.foldl_cons, front.handlePacket mine, handlePacket_refused refused]
    exact ih

end Peer

end PipeBus

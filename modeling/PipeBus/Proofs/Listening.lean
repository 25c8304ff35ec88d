import PipeBus.Proofs.Lane
import PipeBus.Proofs.Reception

/-! A node between two frames, one of whose input pipes has been given some pieces. -/

namespace PipeBus.Peer

variable {ε κ : Type} {peer later : Peer ε κ} {device : UInt64} {port : UInt16} {id : SlotId}
  {sink : κ} {accepted delivered confirmed pieces : List Piece}

/-- A node that has nothing to hand over, and one of whose input pipes has been given pieces. -/
structure Listens (peer : Peer ε κ) (device : UInt64) (port : UInt16) (id : SlotId) (sink : κ)
    (delivered : List Piece) : Prop where
  mine : peer.node.config.device = device
  idle : peer.node.tx.staging = none
  empty : peer.outbox = []
  gate : peer.node.registry.Gate port id sink delivered

/-- What a node makes of pieces that it has not been given before. -/
structure Takes (hear : κ → Delivery → ε → ε) (sink : κ) (fresh : List Piece)
    (before after : Peer ε κ) : Prop where
  outputs : after.node.registry.outputs = before.node.registry.outputs
  bells : after.node.registry.bells = before.node.registry.bells
  size : after.node.registry.inputs.size = before.node.registry.inputs.size -
    fresh.countP fun piece => piece.kind = .close
  told : ∃ deliveries, deliveries.map Delivery.heard = fresh.flatMap Piece.heard ∧
    after.rest = tellAll hear sink deliveries before.rest
  answers : ∀ answer ∈ after.outbox, answer.Bare

/-- A copy of the frame that follows what has been confirmed is answered with reports only, and its
pieces are delivered once. -/
theorem Listens.arrive (hear : κ → Delivery → ε → ε) (services : List (Service (Peer ε κ)))
    (listens : peer.Listens device port id sink delivered) (cargo : Cargo accepted confirmed pieces)
    (few : pieces.length < 32) (either : delivered = confirmed ∨ delivered = confirmed ++ pieces) :
    ∃ fresh, delivered ++ fresh = confirmed ++ pieces ∧
      Takes hear sink fresh peer ((station services (hearing hear)).processFrame
        (carrier device port confirmed.length pieces).sealed peer) ∧
      Listens { (station services (hearing hear)).processFrame
        (carrier device port confirmed.length pieces).sealed peer with outbox := [] } device port id
          sink (confirmed ++ pieces) := by
  obtain ⟨fresh, grown, received, gate⟩ :=
    processFrame_copy hear services listens.mine listens.gate cargo few either
  obtain ⟨tx, acks, acknowledged, idle, bare⟩ := acknowledge_idle services (hearing hear)
    (carrier device port confirmed.length pieces).sealed listens.idle
  rw [acknowledged] at received
  refine ⟨fresh, grown, ⟨received.outputs, received.bells, received.size, received.told, ?_⟩, ?_⟩
  · rw [received.outbox, listens.empty]
    exact bare
  · constructor
    · exact (congrArg NodeConfig.device received.config).trans listens.mine
    · exact (congrArg TxQueue.staging received.tx).trans idle
    · rfl
    · exact gate

theorem Listens.operates (listens : peer.Listens device port id sink delivered)
    (operates : Operates peer later) :
    Listens { later with outbox := [] } device port id sink delivered where
  mine := (congrArg NodeConfig.device operates.config).trans listens.mine
  idle := operates.staging.trans listens.idle
  empty := rfl
  gate := listens.gate.of_inputs operates.inputs

theorem Listens.keep (listens : peer.Listens device port id sink delivered) (rest : ε) :
    Listens { peer with rest } device port id sink delivered :=
  ⟨listens.mine, listens.idle, listens.empty, listens.gate⟩

theorem Listens.hears (listens : peer.Listens device port id sink delivered) (frames : List Frame) :
    Listens (peer.withRegistry (frames.foldl Registry.hearFrame peer.node.registry)) device port id
      sink delivered where
  mine := listens.mine
  idle := listens.idle
  empty := listens.empty
  gate := listens.gate.of_inputs (Registry.inputs_hearFrames ..)

end PipeBus.Peer

import PipeBus.Proofs.Intake
import PipeBus.Proofs.Protocol

/-! What a receiver makes of the frames of one pipe. The frame that follows what has been
delivered is delivered whole; another copy of the last one changes nothing but the queue of
outgoing frames, which gets one more acknowledgement. -/

namespace PipeBus

variable {ε κ : Type}

namespace Registry

/-- Where an input pipe is after it has been given some pieces: at the next number, or away when
they ended in a close. -/
structure Gate (registry : Registry κ) (port : UInt16) (id : SlotId) (sink : κ)
    (delivered : List Piece) : Prop where
  expects : (∀ piece ∈ delivered, piece.kind ≠ .close) →
    registry.Expects (port &&& maxPort) delivered.length id sink
  sole : (∀ piece ∈ delivered, piece.kind ≠ .close) → registry.Sole (port &&& maxPort) id
  deaf : (∃ piece ∈ delivered, piece.kind = .close) → registry.listener? (port &&& maxPort) = none
  away : (∃ piece ∈ delivered, piece.kind = .close) → registry.inputs.get? id = none

variable {registry later : Registry κ} {port : UInt16} {id : SlotId} {sink : κ}
  {delivered : List Piece} {last : Piece}

theorem Gate.of_inputs (gate : registry.Gate port id sink delivered)
    (inputs : later.inputs = registry.inputs) : later.Gate port id sink delivered := by
  obtain ⟨_, _, _, _, _, _⟩ := later
  cases inputs
  exact ⟨gate.expects, gate.sole, gate.deaf, gate.away⟩

theorem Gate.opened (opened : registry.openInput sink = (.ok (id, port), later)) :
    later.Gate port id sink [] := by
  obtain ⟨masked, stored, sole⟩ := openInput_eq_ok opened
  rw [← masked] at sole
  have bears : (PipeWord.ofPort port).port = port &&& maxPort := by
    rw [← PipeWord.numbered_zero, PipeWord.port_numbered]
  have first : (PipeWord.ofPort port).counter.toNat = 0 % 32 := by
    rw [← PipeWord.numbered_zero, PipeWord.counter_numbered]
  exact {
    expects := fun _ => sole.expects stored bears first
    sole := fun _ => sole
    deaf := fun ⟨_, member, _⟩ => nomatch member
    away := fun ⟨_, member, _⟩ => nomatch member }

theorem outputs_closeInput (registry : Registry κ) (id : SlotId) :
    (registry.closeInput id).2.outputs = registry.outputs := by
  unfold Registry.closeInput
  split <;> rfl

theorem bells_closeInput (registry : Registry κ) (id : SlotId) :
    (registry.closeInput id).2.bells = registry.bells := by
  unfold Registry.closeInput
  split <;> rfl

/-- Closing a pipe that has been taken off the table changes nothing. -/
theorem closeInput_of_away (away : registry.inputs.get? id = none) :
    (registry.closeInput id).2 = registry := by
  rw [Registry.closeInput, Arena.remove?_of_none away]

theorem size_advancedBy (registry : Registry κ) (id : SlotId) (count : Nat) :
    (registry.advancedBy id count).inputs.size = registry.inputs.size := by
  induction count generalizing registry with
  | zero => rfl
  | succ count ih =>
    rw [Registry.advancedBy, ih]
    exact Arena.size_modify ..

theorem Gate.advancedBy (gate : registry.Gate port id sink delivered) {pieces : List Piece}
    (before : ∀ piece ∈ delivered, piece.kind ≠ .close)
    (opens : ∀ piece ∈ pieces, piece.kind ≠ .close) :
    (registry.advancedBy id pieces.length).Gate port id sink (delivered ++ pieces) := by
  have expects := gate.expects before
  have never : ¬ ∃ piece ∈ delivered ++ pieces, piece.kind = .close := by
    rintro ⟨piece, member, closes⟩
    rcases List.mem_append.mp member with early | late
    · exact before piece early closes
    · exact opens piece late closes
  exact {
    expects := fun _ => by rw [List.length_append]; exact expects.advancedBy pieces.length
    sole := fun _ => (gate.sole before).advancedBy expects pieces.length
    deaf := fun some => absurd some never
    away := fun some => absurd some never }

theorem Gate.closeInput (gate : registry.Gate port id sink delivered)
    (before : ∀ piece ∈ delivered, piece.kind ≠ .close) (closes : last.kind = .close) :
    ((registry.advanced id).closeInput id).2.Gate port id sink (delivered ++ [last]) ∧
      ((registry.advanced id).closeInput id).2.inputs.size = registry.inputs.size - 1 := by
  obtain ⟨word, stored⟩ := (gate.expects before).stored
  have moved : (registry.advanced id).inputs.get? id = some ⟨word.advance, sink⟩ :=
    Arena.get?_modify stored _
  have shut := ((gate.sole before).advanced stored).closeInput moved
  have size := size_advancedBy registry id 1
  have ended : ¬ ∀ piece ∈ delivered ++ [last], piece.kind ≠ .close :=
    fun never => never last (List.mem_append_right _ (List.mem_singleton_self _)) closes
  refine ⟨⟨fun never => absurd never ended, fun never => absurd never ended, fun _ => shut,
    fun _ => ?_⟩, ?_⟩
  · rw [Registry.closeInput, Arena.remove?_of_get? moved]
    exact Arena.get?_cleared rfl
  · rw [← size, Registry.closeInput, Arena.remove?_of_get? moved]
    rfl

end Registry

theorem Cargo.cases_last {accepted confirmed pieces : List Piece}
    (cargo : Cargo accepted confirmed pieces) :
    ∃ before last, pieces = before ++ [last] ∧ ∀ piece ∈ confirmed ++ before,
      piece.kind ≠ .close := by
  refine ⟨pieces.dropLast, pieces.getLast cargo.nonempty,
    (List.dropLast_concat_getLast cargo.nonempty).symm, ?_⟩
  intro piece member
  apply cargo.opens piece
  rwa [List.dropLast_append_of_ne_nil cargo.nonempty]

namespace Peer

variable {peer : Peer ε κ} {device : UInt64} {port : UInt16} {id : SlotId} {sink : κ}
  {accepted delivered confirmed pieces : List Piece}

/-- What changes at a peer whose input pipe is given pieces: its receiver is told them, and a
close takes the pipe off the table. -/
structure Receives (hear : κ → Delivery → ε → ε) (sink : κ) (pieces : List Piece)
    (before after : Peer ε κ) : Prop where
  config : after.node.config = before.node.config
  outputs : after.node.registry.outputs = before.node.registry.outputs
  bells : after.node.registry.bells = before.node.registry.bells
  size : after.node.registry.inputs.size = before.node.registry.inputs.size -
    pieces.countP fun piece => piece.kind = .close
  told : ∃ deliveries, deliveries.map Delivery.heard = pieces.flatMap Piece.heard ∧
    after.rest = tellAll hear sink deliveries before.rest
  tx : after.node.tx = before.node.tx
  outbox : after.outbox = before.outbox

theorem handleAll_next (hear : κ → Delivery → ε → ε) (services : List (Service (Peer ε κ)))
    {packets : List Packet} (mine : peer.node.config.device = device)
    (gate : peer.node.registry.Gate port id sink delivered)
    (cargo : Cargo accepted delivered pieces)
    (carried : CarriedFrom device port delivered.length pieces packets) :
    Receives hear sink pieces peer ((station services (hearing hear)).handleAll packets peer) ∧
      ((station services (hearing hear)).handleAll packets peer).node.registry.Gate port id sink
        (delivered ++ pieces) := by
  obtain ⟨before, last, rfl, opens⟩ := cargo.cases_last
  have early : ∀ piece ∈ delivered, piece.kind ≠ .close :=
    fun piece member => opens piece (List.mem_append_left _ member)
  have front : ∀ piece ∈ before, piece.kind ≠ .close :=
    fun piece member => opens piece (List.mem_append_right _ member)
  have none : (before.countP fun piece => piece.kind = .close) = 0 :=
    List.countP_eq_zero.mpr fun piece member => by simpa using front piece member
  by_cases closes : last.kind = .close
  · rw [handleAll_closing mine carried front closes (gate.expects early),
      Registry.advancedBy_succ]
    have moved := gate.advancedBy early front
    have shut := moved.closeInput opens closes
    have size := shut.2
    rw [Registry.size_advancedBy] at size
    refine ⟨⟨rfl, ?_, ?_, ?_, ⟨_, carried.heard, rfl⟩, rfl, rfl⟩, ?_⟩
    · exact (Registry.outputs_closeInput _ id).trans (Registry.outputs_advancedBy _ id _)
    · exact (Registry.bells_closeInput _ id).trans (Registry.bells_advancedBy _ id _)
    · rw [List.countP_append, none, List.countP_singleton]
      simpa [closes] using size
    · rw [← List.append_assoc]
      exact shut.1
  · have all : ∀ piece ∈ before ++ [last], piece.kind ≠ .close := by
      intro piece member
      rcases List.mem_append.mp member with old | new
      · exact front piece old
      · rwa [List.mem_singleton.mp new]
    rw [handleAll_expected mine carried all (gate.expects early)]
    refine ⟨⟨rfl, Registry.outputs_advancedBy _ id _, Registry.bells_advancedBy _ id _, ?_,
      ⟨_, carried.heard, rfl⟩, rfl, rfl⟩, gate.advancedBy early all⟩
    rw [List.countP_append, none, List.countP_singleton]
    simp [closes, Registry.size_advancedBy]

/-- The frame after what has been delivered is delivered too, once it has been acknowledged. -/
theorem processFrame_next (hear : κ → Delivery → ε → ε) (services : List (Service (Peer ε κ)))
    (mine : peer.node.config.device = device)
    (gate : peer.node.registry.Gate port id sink delivered)
    (cargo : Cargo accepted delivered pieces) :
    Receives hear sink pieces ((station services (hearing hear)).acknowledge
          (carrier device port delivered.length pieces).sealed peer)
        ((station services (hearing hear)).processFrame
          (carrier device port delivered.length pieces).sealed peer) ∧
      ((station services (hearing hear)).processFrame
        (carrier device port delivered.length pieces).sealed peer).node.registry.Gate port id sink
          (delivered ++ pieces) := by
  have sends := Transmits.acknowledge services (hearing hear)
    (carrier device port delivered.length pieces).sealed peer
  rw [Station.processFrame_eq]
  exact handleAll_next hear services ((congrArg NodeConfig.device sends.config).trans mine)
    (sends.registry ▸ gate) cargo (carried_walk device port delivered.length pieces cargo.short)

theorem processFrame_expected (hear : κ → Delivery → ε → ε) (services : List (Service (Peer ε κ)))
    {first : Nat} (mine : peer.node.config.device = device)
    (expects : peer.node.registry.Expects (port &&& maxPort) first id sink)
    (short : ∀ piece ∈ pieces, piece.data.length ≤ maxPacketData)
    (opens : ∀ piece ∈ pieces, piece.kind ≠ .close) :
    ∃ later, (station services (hearing hear)).processFrame
        (carrier device port first pieces).sealed peer = later ∧
      later.node.config.device = device ∧
      later.node.registry = peer.node.registry.advancedBy id pieces.length ∧
      ∃ deliveries, deliveries.map Delivery.heard = pieces.flatMap Piece.heard ∧
        later.rest = tellAll hear sink deliveries peer.rest := by
  have sends := Transmits.acknowledge services (hearing hear)
    (carrier device port first pieces).sealed peer
  have carried := carried_walk device port first pieces short
  have still := (congrArg NodeConfig.device sends.config).trans mine
  refine ⟨_, (Station.processFrame_eq _ _ _).trans
    (handleAll_expected still carried opens (sends.registry ▸ expects)), still, ?_, _,
    carried.heard, ?_⟩
  · rw [sends.registry]
  · rw [sends.rest]

theorem processFrame_stale (hear : κ → Delivery → ε → ε) (services : List (Service (Peer ε κ)))
    {first expected : Nat} (mine : peer.node.config.device = device)
    (expects : peer.node.registry.Expects (port &&& maxPort) expected id sink)
    (short : ∀ piece ∈ pieces, piece.data.length ≤ maxPacketData)
    (apart : ∀ place < pieces.length, (first + place) % 32 ≠ expected % 32) :
    (station services (hearing hear)).processFrame (carrier device port first pieces).sealed peer =
      (station services (hearing hear)).acknowledge
        (carrier device port first pieces).sealed peer := by
  have sends := Transmits.acknowledge services (hearing hear)
    (carrier device port first pieces).sealed peer
  have carried := carried_walk device port first pieces short
  have still := (congrArg NodeConfig.device sends.config).trans mine
  rw [Station.processFrame_eq, handleAll_stale still carried (sends.registry ▸ expects) apart]

/-- Another copy of the last frame that was delivered is acknowledged, and that is all. -/
theorem processFrame_again (hear : κ → Delivery → ε → ε) (services : List (Service (Peer ε κ)))
    (mine : peer.node.config.device = device)
    (gate : peer.node.registry.Gate port id sink (confirmed ++ pieces))
    (short : ∀ piece ∈ pieces, piece.data.length ≤ maxPacketData) (few : pieces.length < 32) :
    (station services (hearing hear)).processFrame
        (carrier device port confirmed.length pieces).sealed peer =
      (station services (hearing hear)).acknowledge
        (carrier device port confirmed.length pieces).sealed peer := by
  by_cases ended : ∃ piece ∈ confirmed ++ pieces, piece.kind = .close
  · have sends := Transmits.acknowledge services (hearing hear)
      (carrier device port confirmed.length pieces).sealed peer
    have carried := carried_walk device port confirmed.length pieces short
    have still := (congrArg NodeConfig.device sends.config).trans mine
    rw [Station.processFrame_eq, handleAll_deaf still carried (sends.registry ▸ gate.deaf ended)]
  · refine processFrame_stale hear services mine (gate.expects ?_) short ?_
    · intro piece member closes
      exact ended ⟨piece, member, closes⟩
    · intro place inside
      rw [List.length_append]
      omega

/-- A copy of the frame that follows what has been confirmed leaves its pieces delivered, whether
they were before or not. -/
theorem processFrame_copy (hear : κ → Delivery → ε → ε) (services : List (Service (Peer ε κ)))
    (mine : peer.node.config.device = device)
    (gate : peer.node.registry.Gate port id sink delivered)
    (cargo : Cargo accepted confirmed pieces) (few : pieces.length < 32)
    (either : delivered = confirmed ∨ delivered = confirmed ++ pieces) :
    ∃ fresh, delivered ++ fresh = confirmed ++ pieces ∧
      Receives hear sink fresh ((station services (hearing hear)).acknowledge
          (carrier device port confirmed.length pieces).sealed peer)
        ((station services (hearing hear)).processFrame
          (carrier device port confirmed.length pieces).sealed peer) ∧
      ((station services (hearing hear)).processFrame
        (carrier device port confirmed.length pieces).sealed peer).node.registry.Gate port id sink
          (confirmed ++ pieces) := by
  rcases either with rfl | rfl
  · exact ⟨pieces, rfl, processFrame_next hear services mine gate cargo⟩
  · -- The counters of the first copy have not come round within one frame.
    have sends := Transmits.acknowledge services (hearing hear)
      (carrier device port confirmed.length pieces).sealed peer
    refine ⟨[], List.append_nil _, ?_, ?_⟩
    · rw [processFrame_again hear services mine gate cargo.short few]
      exact ⟨rfl, rfl, rfl, rfl, ⟨[], rfl, rfl⟩, rfl, rfl⟩
    · rw [processFrame_again hear services mine gate cargo.short few, sends.registry]
      exact gate

end Peer

end PipeBus

import PipeBus.Node.Basic
import PipeBus.Proofs.Packing

/-! Opening pipes. A node that opens one has an entry for it in its tables, and the payload of an
open command is read back as it was written. -/

namespace PipeBus

theorem PipeOpen.parse_encode (opening : PipeOpen) : parse opening.encode = .ok opening := by
  obtain ⟨device, port⟩ := opening
  have wide : (Wire.word64 device).length = 8 := Wire.length_encode ..
  have narrow : (Wire.word16 port).length = 2 := Wire.length_encode ..
  rw [parse, encode, List.append_assoc, Wire.toWord64_append, List.drop_left' wide,
    Wire.toWord16_append, if_neg]
  simp [wide, narrow, length]

namespace NodeLink

variable {σ κ : Type} {link : NodeLink σ κ} {state later : σ}

theorem openOutput_eq_ok {device : UInt64} {port : UInt16} {pipe : OutputPipe}
    (opened : link.openOutput device port state = (.ok pipe, later)) :
    ∃ ack registry, (link.registry.get state).registerOutput device = (.ok ack, registry) ∧
      pipe = OutputPipe.create device port ack (link.node.get state).config.retry ∧
      later = link.registry.set registry state := by
  unfold NodeLink.openOutput at opened
  rcases registered : (link.registry.get state).registerOutput device with ⟨_ | ack, registry⟩
  · rw [registered] at opened
    cases opened
  · rw [registered] at opened
    cases opened
    exact ⟨ack, registry, rfl, rfl, rfl⟩

/-- Opening a pipe changes nothing but the tables, whatever comes of it. -/
theorem openOutput_state (device : UInt64) (port : UInt16) (state : σ) :
    ∃ registry, (link.openOutput device port state).2 = link.registry.set registry state := by
  unfold NodeLink.openOutput
  split <;> exact ⟨_, rfl⟩

theorem openInput_state (sink : κ) (state : σ) :
    ∃ registry, (link.openInput sink state).2 = link.registry.set registry state := by
  unfold NodeLink.openInput
  split <;> exact ⟨_, rfl⟩

theorem openInput_eq_ok {sink : κ} {input : InputPipe}
    (opened : link.openInput sink state = (.ok input, later)) :
    ∃ registry, (link.registry.get state).openInput sink = (.ok (input.id, input.port), registry) ∧
      later = link.registry.set registry state := by
  unfold NodeLink.openInput at opened
  rcases drawn : (link.registry.get state).openInput sink with ⟨_ | ⟨id, port⟩, registry⟩
  · rw [drawn] at opened
    cases opened
  · rw [drawn] at opened
    cases opened
    exact ⟨registry, rfl, rfl⟩

end NodeLink

end PipeBus

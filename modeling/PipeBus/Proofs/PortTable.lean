import PipeBus.Proofs.Switchboard

/-! The ports of open input pipes. Whatever receivers do while they are told something, no two open
pipes are on one port, and every pipe stays on the port that it was opened on. -/

namespace PipeBus

theorem PipeWord.isMeta_numbered (port : UInt16) (number : Nat) :
    (numbered port number).isMeta = false :=
  isMeta_ofKind port number .data

theorem PipeWord.isClose_numbered (port : UInt16) (number : Nat) :
    (numbered port number).isClose = false :=
  isClose_ofKind port number .data

namespace Registry

variable {κ : Type} {registry : Registry κ}

/-- Pipes on ports of their own have no two ports in common. -/
theorem nodup_inputPorts
    (apart : ∀ id entry other held, registry.inputs.get? id = some entry →
      registry.inputs.get? other = some held → entry.expected.port = held.expected.port →
        other = id) : registry.inputPorts.Nodup := by
  rw [inputPorts, List.Nodup, List.pairwise_map]
  refine registry.inputs.pairwise_toList.imp_of_mem ?_
  rintro ⟨id, entry⟩ ⟨other, held⟩ first second below ports
  have same := apart id entry other held (Arena.mem_toList.mp first) (Arena.mem_toList.mp second)
    ports
  rw [same] at below
  exact Nat.lt_irrefl _ below

end Registry

namespace Switchboard

/-- What is so of the ports in a table, given the record of what happened. -/
structure Ports (events : List Event) (registry : Registry Nat) : Prop where
  distinct : registry.inputPorts.Nodup
  inRange : ∀ port ∈ registry.inputPorts, 1 ≤ port.toNat ∧ port.toNat ≤ 511
  /-- The opening of an open pipe returned its handle and the port that it is on. -/
  kept : ∀ id entry, registry.inputs.get? id = some entry →
    events[entry.sink]? = some (.opened id entry.expected.port)
  plain : ∀ id entry, registry.inputs.get? id = some entry →
    entry.expected.isMeta = false ∧ entry.expected.isClose = false
  listed : registry.inputPorts.length = registry.openInputs

variable {events : List Event} {registry : Registry Nat}

theorem Sound.ports (sound : Sound events registry) : Ports events registry where
  distinct := Registry.nodup_inputPorts sound.apart
  inRange port listed := by
    obtain ⟨⟨id, entry⟩, member, rfl⟩ := List.mem_map.mp listed
    obtain ⟨port, entered⟩ := sound.entered id entry (Arena.mem_toList.mp member)
    have nonzero := mt UInt16.toNat_inj.mp entered.nonzero
    have wide := entry.expected.raw.toNat_lt
    rw [← entered.bears, UInt16.toNat_zero, PipeWord.toNat_port] at nonzero
    simp only [PipeWord.toNat_port]
    omega
  kept id entry stored := by
    obtain ⟨port, entered⟩ := sound.entered id entry stored
    rw [entered.bears]
    exact entered.opening
  plain id entry stored := by
    obtain ⟨port, entered⟩ := sound.entered id entry stored
    rw [entered.expected]
    exact ⟨PipeWord.isMeta_numbered .., PipeWord.isClose_numbered ..⟩
  listed := by
    rw [Registry.inputPorts, List.length_map, Registry.openInputs, sound.tidy.counted]

/-- Whatever port source, capacity and limit of draws, and whatever receivers do inside of their
callbacks: at every moment of a run all is well with the ports. -/
theorem ports_throughout (inputs outputs attempts : Nat) (ports : Nat → UInt16)
    (reaction : Reaction) (operations : List Operation) :
    ((start inputs outputs attempts ports).run reaction operations).Throughout Ports := by
  intro past moment within
  have traced := (resting_run inputs outputs attempts ports reaction operations).traced
  exact (traced.throughout past moment within).sound.ports

end Switchboard

end PipeBus

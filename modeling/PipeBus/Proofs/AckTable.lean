import PipeBus.Proofs.InputTable
import PipeBus.Proofs.Packing

/-! The waiter of an output pipe. Arming forgets earlier wake-ups, an acknowledgement
rings the bells of the waiters that expect it, and a wait that succeeds uses its bell up. -/

namespace PipeBus.Registry

variable {κ : Type} {registry : Registry κ} {ack : AckHandle} {device : UInt64}
  {armed : Option UInt16}

def rung (registry : Registry κ) (bell : Nat) : Bool := (registry.wait bell).1

/-- A handle finds its waiter, which expects the acknowledgement of a checksum or none. -/
structure Waits (registry : Registry κ) (ack : AckHandle) (device : UInt64)
    (armed : Option UInt16) : Prop where
  found : registry.outputs.get? ack.slot = some ⟨device, armed, ack.bell⟩
  bell : ack.bell < registry.bells.length

theorem rung_eq (registry : Registry κ) (bell : Nat) :
    registry.rung bell = (registry.bells.getD bell {}).pending := rfl

/-- The waiter of a new pipe is stored at rest, and is given a bell of its own. -/
theorem registerOutput_eq_ok {later : Registry κ}
    (opened : registry.registerOutput device = (.ok ack, later)) :
    ∃ slot outputs,
      registry.outputs.insert? ⟨device, none, registry.bells.length⟩ = some (slot, outputs) ∧
      ack = ⟨slot, registry.bells.length⟩ ∧
      later = { registry with outputs, bells := registry.bells ++ [{}] } := by
  unfold registerOutput at opened
  simp only at opened
  split at opened
  · cases opened
  · rename_i slot outputs stored
    cases opened
    exact ⟨slot, outputs, stored, rfl, rfl⟩

theorem registerOutput_eq_error {later : Registry κ} {error : NodeError}
    (refused : registry.registerOutput device = (.error error, later)) : later = registry := by
  unfold registerOutput at refused
  simp only at refused
  split at refused <;> cases refused
  rfl

theorem Waits.registered {later : Registry κ}
    (opened : registry.registerOutput device = (.ok ack, later)) : later.Waits ack device none := by
  obtain ⟨slot, outputs, stored, rfl, rfl⟩ := registerOutput_eq_ok opened
  exact ⟨Arena.get?_of_insert? stored, by simp⟩

theorem registerOutput_keeps {later : Registry κ}
    (opened : registry.registerOutput device = (.ok ack, later)) :
    later.inputs = registry.inputs ∧ later.outputs.size = registry.outputs.size + 1 := by
  obtain ⟨slot, outputs, stored, rfl, rfl⟩ := registerOutput_eq_ok opened
  exact ⟨rfl, Arena.size_of_insert? stored⟩

theorem Waits.arm (waits : registry.Waits ack device armed) (crc : UInt16) :
    (registry.arm ack.slot crc).Waits ack device (some crc) := by
  unfold Registry.arm
  rw [waits.found]
  exact ⟨Arena.get?_modify waits.found _, by simpa using waits.bell⟩

theorem size_arm (registry : Registry κ) (id : SlotId) (crc : UInt16) :
    (registry.arm id crc).outputs.size = registry.outputs.size := by
  unfold Registry.arm
  split
  · rfl
  · exact Arena.size_modify ..

theorem Waits.rung_arm (waits : registry.Waits ack device armed) (crc : UInt16) :
    (registry.arm ack.slot crc).rung ack.bell = false := by
  unfold Registry.arm
  rw [waits.found, rung_eq]
  have inside := waits.bell
  simp [List.getD, List.getElem?_eq_getElem inside, Notify.clear]

theorem Waits.disarm (waits : registry.Waits ack device armed) :
    (registry.disarm ack.slot).Waits ack device none :=
  ⟨Arena.get?_modify waits.found _, waits.bell⟩

theorem Waits.wait (waits : registry.Waits ack device armed) (bell : Nat) :
    (registry.wait bell).2.Waits ack device armed :=
  ⟨waits.found, by simpa [Registry.wait] using waits.bell⟩

theorem outputs_processAck (registry : Registry κ) (packet : Packet) :
    (registry.processAck packet).2.outputs = registry.outputs := by
  unfold processAck
  split <;> rfl

theorem inputs_processAck (registry : Registry κ) (packet : Packet) :
    (registry.processAck packet).2.inputs = registry.inputs := by
  unfold processAck
  split <;> rfl

theorem processAck_of_other {packet : Packet} (other : packet.service ≠ ServiceNumber.crcAck) :
    (registry.processAck packet).2 = registry := by
  simp [processAck, other]

theorem length_ring (woken : List AckWaiter) (bells : List Notify) :
    (woken.foldl (fun bells waiter => bells.modify waiter.bell Notify.give) bells).length =
      bells.length := by
  induction woken generalizing bells with
  | nil => rfl
  | cons waiter rest ih => simp [List.foldl_cons, ih]

theorem length_bells_processAck (registry : Registry κ) (packet : Packet) :
    (registry.processAck packet).2.bells.length = registry.bells.length := by
  unfold processAck
  split
  · rfl
  · exact length_ring _ _

theorem Waits.processAck (waits : registry.Waits ack device armed) (packet : Packet) :
    (registry.processAck packet).2.Waits ack device armed :=
  ⟨by rw [outputs_processAck]; exact waits.found, by
    rw [length_bells_processAck]; exact waits.bell⟩

theorem inputs_arm (registry : Registry κ) (id : SlotId) (crc : UInt16) :
    (registry.arm id crc).inputs = registry.inputs := by
  unfold Registry.arm
  split <;> rfl

theorem inputs_unregisterOutput (registry : Registry κ) (id : SlotId) :
    (registry.unregisterOutput id).2.inputs = registry.inputs := by
  unfold unregisterOutput
  split <;> rfl

/-- Every waiter rings a bell that there is. -/
def Orderly (registry : Registry κ) : Prop :=
  ∀ id waiter, registry.outputs.get? id = some waiter → waiter.bell < registry.bells.length

theorem Orderly.create (inputs outputs attempts : Nat) (ports : Nat → UInt16) :
    (Registry.create inputs outputs attempts ports : Registry κ).Orderly := by
  intro id waiter found
  have held := Arena.get?_eq_some.mp found
  simp only [Registry.create, Arena.ofCapacity, List.getElem?_replicate] at held
  split at held
  · simp at held
  · cases held

/-- No other waiter rings the bell of a handle. -/
def Alone (registry : Registry κ) (ack : AckHandle) : Prop :=
  ∀ id waiter, registry.outputs.get? id = some waiter → waiter.bell = ack.bell → id = ack.slot

theorem Alone.registered {later : Registry κ} (orderly : registry.Orderly)
    (opened : registry.registerOutput device = (.ok ack, later)) : later.Alone ack := by
  obtain ⟨slot, outputs, stored, rfl, rfl⟩ := registerOutput_eq_ok opened
  intro id waiter found same
  rcases Arena.get?_set_cases (Arena.insert?_eq_some stored).2 found with ⟨index, held⟩ | ⟨_, old⟩
  · exact SlotId.eq_of index (Slot.mk.inj held).1.symm
  · have below := orderly id waiter old
    simp only at same
    omega

theorem Alone.modify {outputs : Arena AckWaiter} (alone : registry.Alone ack)
    {other : Option UInt16}
    (written : outputs.slots = registry.outputs.slots.set ack.slot.index
      ⟨ack.slot.generation, some ⟨device, other, ack.bell⟩⟩) (id : SlotId) (waiter : AckWaiter)
    (found : outputs.get? id = some waiter) (same : waiter.bell = ack.bell) : id = ack.slot := by
  rcases Arena.get?_set_cases written found with ⟨index, held⟩ | ⟨_, old⟩
  · exact SlotId.eq_of index (Slot.mk.inj held).1.symm
  · exact alone id waiter old same

theorem Alone.arm (alone : registry.Alone ack) (waits : registry.Waits ack device armed)
    (crc : UInt16) : (registry.arm ack.slot crc).Alone ack := by
  unfold Registry.arm
  rw [waits.found]
  exact alone.modify (Arena.slots_modify waits.found _)

theorem Alone.disarm (alone : registry.Alone ack) (waits : registry.Waits ack device armed) :
    (registry.disarm ack.slot).Alone ack :=
  alone.modify (Arena.slots_modify waits.found _)

theorem getElem?_ring (woken : List AckWaiter) (bells : List Notify) (bell : Nat) :
    (woken.foldl (fun bells waiter => bells.modify waiter.bell Notify.give) bells)[bell]? =
      if (woken.any fun waiter => waiter.bell == bell) then bells[bell]?.map Notify.give
      else bells[bell]? := by
  induction woken generalizing bells with
  | nil => rfl
  | cons waiter rest ih =>
    rw [List.foldl_cons, ih, List.getElem?_modify, List.any_cons]
    by_cases same : waiter.bell = bell
    · cases bells[bell]? <;> simp [same, Notify.give]
    · simp [same]

theorem pending_ring (woken : List AckWaiter) (bells : List Notify) (bell : Nat)
    (rung : ((woken.foldl (fun bells waiter => bells.modify waiter.bell Notify.give) bells).getD
      bell {}).pending = true) :
    (bells.getD bell {}).pending = true ∨ ∃ waiter ∈ woken, waiter.bell = bell := by
  rw [List.getD, getElem?_ring] at rung
  split at rung
  · rename_i ringing
    obtain ⟨waiter, member, same⟩ := List.any_eq_true.mp ringing
    exact .inr ⟨waiter, member, beq_iff_eq.mp same⟩
  · exact .inl rung

/-- A bell is rung by an acknowledgement only when its waiter expects just this one. -/
theorem Waits.rung_processAck {packet : Packet} (waits : registry.Waits ack device armed)
    (alone : registry.Alone ack) (rung : (registry.processAck packet).2.rung ack.bell = true) :
    registry.rung ack.bell = true ∨ packet.service = ServiceNumber.crcAck ∧
      armed = some packet.command ∧ device = packet.device := by
  by_cases other : packet.service ≠ ServiceNumber.crcAck
  · rw [processAck_of_other other] at rung
    exact .inl rung
  · have isAck := not_not.mp other
    rw [rung_eq, Registry.processAck, if_neg (by simp [isAck])] at rung
    rcases pending_ring _ _ _ rung with before | ⟨waiter, member, same⟩
    · exact .inl before
    · obtain ⟨stored, expected⟩ := List.mem_filter.mp member
      obtain ⟨⟨id, held⟩, inside, rfl⟩ := List.mem_map.mp stored
      have found := Arena.mem_toList.mp inside
      rw [alone id _ found same, waits.found] at found
      cases found
      simp only [expects, Bool.and_eq_true, beq_iff_eq] at expected
      exact .inr ⟨isAck, expected⟩

/-- Hear a frame: its packets are met one by one, and each may be an acknowledgement. -/
def hearFrame (registry : Registry κ) (frame : Frame) : Registry κ :=
  frame.walk.foldl (fun heard packet => (heard.processAck packet).2) registry

private theorem Waits.hearPackets (waits : registry.Waits ack device armed)
    (packets : List Packet) :
    (packets.foldl (fun heard packet => (heard.processAck packet).2) registry).Waits ack device
      armed := by
  induction packets generalizing registry with
  | nil => exact waits
  | cons packet rest ih => exact ih (waits.processAck packet)

theorem Waits.hearFrame (waits : registry.Waits ack device armed) (frame : Frame) :
    (registry.hearFrame frame).Waits ack device armed := waits.hearPackets frame.walk

theorem Waits.hearFrames (waits : registry.Waits ack device armed) (frames : List Frame) :
    (frames.foldl Registry.hearFrame registry).Waits ack device armed := by
  induction frames generalizing registry with
  | nil => exact waits
  | cons frame rest ih => exact ih (waits.hearFrame frame)

private theorem outputs_hearPackets (registry : Registry κ) (packets : List Packet) :
    (packets.foldl (fun heard packet => (heard.processAck packet).2) registry).outputs =
      registry.outputs := by
  induction packets generalizing registry with
  | nil => rfl
  | cons packet rest ih => exact (ih _).trans (outputs_processAck registry packet)

theorem outputs_hearFrame (registry : Registry κ) (frame : Frame) :
    (registry.hearFrame frame).outputs = registry.outputs := outputs_hearPackets registry frame.walk

theorem outputs_hearFrames (registry : Registry κ) (frames : List Frame) :
    (frames.foldl Registry.hearFrame registry).outputs = registry.outputs := by
  induction frames generalizing registry with
  | nil => rfl
  | cons frame rest ih => exact (ih _).trans (outputs_hearFrame registry frame)

theorem inputs_hearFrame (registry : Registry κ) (frame : Frame) :
    (registry.hearFrame frame).inputs = registry.inputs := by
  unfold hearFrame
  induction frame.walk generalizing registry with
  | nil => rfl
  | cons packet rest ih => exact (ih _).trans (inputs_processAck registry packet)

theorem inputs_hearFrames (registry : Registry κ) (frames : List Frame) :
    (frames.foldl Registry.hearFrame registry).inputs = registry.inputs := by
  induction frames generalizing registry with
  | nil => rfl
  | cons frame rest ih => exact (ih _).trans (inputs_hearFrame registry frame)

theorem Alone.of_outputs {later : Registry κ} (alone : registry.Alone ack)
    (same : later.outputs = registry.outputs) : later.Alone ack := by
  intro id waiter found
  rw [same] at found
  exact alone id waiter found

private theorem Waits.rung_hearPackets (waits : registry.Waits ack device armed)
    (alone : registry.Alone ack) (packets : List Packet)
    (rung : (packets.foldl (fun heard packet => (heard.processAck packet).2) registry).rung
      ack.bell = true) :
    registry.rung ack.bell = true ∨ ∃ packet ∈ packets, packet.service = ServiceNumber.crcAck ∧
      armed = some packet.command ∧ device = packet.device := by
  induction packets generalizing registry with
  | nil => exact .inl rung
  | cons packet rest ih =>
    have still := alone.of_outputs (outputs_processAck registry packet)
    rcases ih (waits.processAck packet) still rung with before | ⟨other, member, expected⟩
    · rcases waits.rung_processAck alone before with earlier | expected
      · exact .inl earlier
      · exact .inr ⟨packet, List.mem_cons_self .., expected⟩
    · exact .inr ⟨other, List.mem_cons_of_mem _ member, expected⟩

/-- A bell that a frame has rung was rung by an acknowledgement that its waiter expects. -/
theorem Waits.rung_hearFrame {frame : Frame} (waits : registry.Waits ack device armed)
    (alone : registry.Alone ack) (rung : (registry.hearFrame frame).rung ack.bell = true) :
    registry.rung ack.bell = true ∨ ∃ packet ∈ frame.walk, packet.service = ServiceNumber.crcAck ∧
      armed = some packet.command ∧ device = packet.device :=
  waits.rung_hearPackets alone frame.walk rung

end PipeBus.Registry

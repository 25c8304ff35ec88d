import PipeBus.Proofs.Occupancy
import PipeBus.Proofs.Word
import PipeBus.Registry

/-! The gate of an input pipe. A pipe takes the packet that bears its port and the counter
it expects, and every packet it takes moves the counter by one. -/

namespace PipeBus.Registry

variable {κ : Type} {registry : Registry κ} {port : UInt16} {id : SlotId} {entry : InputEntry κ}

def listener? (registry : Registry κ) (port : UInt16) : Option (SlotId × InputEntry κ) :=
  registry.inputs.toList.find? fun entry => entry.2.expected.port == port

theorem listener?_eq_some :
    registry.listener? port = some (id, entry) ↔
      registry.inputs.get? id = some entry ∧ entry.expected.port = port ∧
        ∀ lower < id.index, ∀ generation other,
          registry.inputs.get? ⟨lower, generation⟩ = some other → other.expected.port ≠ port := by
  simp [listener?, Arena.find?_toList]

theorem listener?_eq_none :
    registry.listener? port = none ↔
      ∀ id entry, registry.inputs.get? id = some entry → entry.expected.port ≠ port := by
  rw [listener?, Arena.find?_toList_eq_none]
  simp

/-- The registry in which an input pipe expects its next packet. -/
def advanced (registry : Registry κ) (id : SlotId) : Registry κ :=
  { registry with
    inputs := registry.inputs.modify id fun old => { old with expected := old.expected.advance } }

theorem accept?_eq (registry : Registry κ) (packet : Packet) :
    registry.accept? packet =
      match registry.listener? (PipeWord.mk packet.command).port with
      | none => none
      | some (id, entry) =>
        if entry.expected.counter != (PipeWord.mk packet.command).counter then none
        else some (⟨id, entry.sink, ⟨packet.command⟩⟩, registry.advanced id) := rfl

theorem accept?_cases (registry : Registry κ) (packet : Packet) :
    registry.accept? packet = none ∨
      ∃ id entry, registry.listener? (PipeWord.mk packet.command).port = some (id, entry) ∧
        entry.expected.counter = (PipeWord.mk packet.command).counter ∧
        registry.accept? packet =
          some (⟨id, entry.sink, ⟨packet.command⟩⟩, registry.advanced id) := by
  rw [accept?_eq]
  split
  · exact .inl rfl
  · rename_i id entry found
    split
    · exact .inl rfl
    · rename_i counter
      exact .inr ⟨id, entry, found, by simpa using counter, rfl⟩

theorem get?_advanced_iff (registry : Registry κ) (stored : registry.inputs.get? id = some entry)
    (other : SlotId) (held : InputEntry κ) :
    (registry.advanced id).inputs.get? other = some held ↔
      other = id ∧ { entry with expected := entry.expected.advance } = held ∨
        other ≠ id ∧ registry.inputs.get? other = some held :=
  Arena.get?_modify_iff stored fun old => { old with expected := old.expected.advance }

theorem listener?_advanced (found : registry.listener? port = some (id, entry)) :
    (registry.advanced id).listener? port =
      some (id, { entry with expected := entry.expected.advance }) := by
  obtain ⟨stored, bears, before⟩ := listener?_eq_some.mp found
  refine listener?_eq_some.mpr ⟨Arena.get?_modify stored _, ?_, ?_⟩
  · rw [PipeWord.port_advance, bears]
  · intro lower below generation other held
    apply before lower below generation other
    rw [← held]
    exact (Arena.get?_set_ne (Arena.slots_modify stored _) (by simp; omega)).symm

/-- A pipe on a port whose next packet has this number. -/
def Expects (registry : Registry κ) (port : UInt16) (number : Nat) (id : SlotId) (sink : κ) :
    Prop :=
  ∃ word, registry.listener? port = some (id, ⟨word, sink⟩) ∧ word.counter.toNat = number % 32

theorem Expects.advanced {number : Nat} {sink : κ} (expects : registry.Expects port number id sink) :
    (registry.advanced id).Expects port (number + 1) id sink := by
  obtain ⟨word, found, counter⟩ := expects
  have next := listener?_advanced found
  refine ⟨word.advance, next, ?_⟩
  rw [PipeWord.counter_advance, counter, Nat.mod_add_mod]

theorem Expects.accept? {number : Nat} {sink : κ} {packet : Packet}
    (expects : registry.Expects port number id sink)
    (bears : (PipeWord.mk packet.command).port = port)
    (counter : (PipeWord.mk packet.command).counter.toNat = number % 32) :
    registry.accept? packet = some (⟨id, sink, ⟨packet.command⟩⟩, registry.advanced id) := by
  obtain ⟨word, found, expected⟩ := expects
  have same : word.counter = (PipeWord.mk packet.command).counter :=
    UInt16.toNat_inj.mp (expected.trans counter.symm)
  rw [accept?_eq, bears, found]
  simp [same]

theorem Expects.accept?_eq_none {number : Nat} {sink : κ} {packet : Packet}
    (expects : registry.Expects port number id sink)
    (bears : (PipeWord.mk packet.command).port = port)
    (counter : (PipeWord.mk packet.command).counter.toNat ≠ number % 32) :
    registry.accept? packet = none := by
  obtain ⟨word, found, expected⟩ := expects
  have different : word.counter ≠ (PipeWord.mk packet.command).counter := by
    intro same
    rw [← same, expected] at counter
    exact counter rfl
  rw [accept?_eq, bears, found]
  simp [different]

theorem accept?_of_deaf {packet : Packet} (deaf : registry.listener? port = none)
    (bears : (PipeWord.mk packet.command).port = port) : registry.accept? packet = none := by
  rw [accept?_eq, bears, deaf]

/-- No other pipe is on the port of this one. -/
def Sole (registry : Registry κ) (port : UInt16) (id : SlotId) : Prop :=
  ∀ other entry, registry.inputs.get? other = some entry → entry.expected.port = port → other = id

theorem Sole.advanced (sole : registry.Sole port id)
    (stored : registry.inputs.get? id = some entry) : (registry.advanced id).Sole port id := by
  intro other held found bears
  rcases Arena.get?_set_cases (Arena.slots_modify stored _) found with ⟨index, slot⟩ | ⟨_, old⟩
  · exact SlotId.eq_of index (Slot.mk.inj slot).1.symm
  · exact sole other held old bears

theorem Sole.closeInput (sole : registry.Sole port id)
    (stored : registry.inputs.get? id = some entry) :
    (registry.closeInput id).2.listener? port = none := by
  refine listener?_eq_none.mpr ?_
  intro other held found bears
  rw [Registry.closeInput, Arena.remove?_of_get? stored] at found
  rcases Arena.get?_set_cases rfl found with ⟨_, slot⟩ | ⟨different, old⟩
  · cases (Slot.mk.inj slot).2
  · exact different (congrArg SlotId.index (sole other held old bears))

theorem Sole.expects {number : Nat} {sink : κ} {word : PipeWord} (sole : registry.Sole port id)
    (stored : registry.inputs.get? id = some ⟨word, sink⟩) (bears : word.port = port)
    (counter : word.counter.toNat = number % 32) : registry.Expects port number id sink := by
  refine ⟨word, listener?_eq_some.mpr ⟨stored, bears, ?_⟩, counter⟩
  intro lower below generation other held same
  have index := congrArg SlotId.index (sole _ other held same)
  simp only at index
  omega

/-- Drawing a port finds one that is masked and free, and only counts draws. -/
theorem drawPort_eq_some {attempts : Nat} {later : Registry κ}
    (drawn : registry.drawPort attempts = (some port, later)) :
    port &&& maxPort = port ∧ registry.isFreePort port = true ∧
      later = { registry with drawn := later.drawn } := by
  induction attempts generalizing registry with
  | zero => cases drawn
  | succ attempts ih =>
    rw [drawPort] at drawn
    split at drawn
    · rename_i free
      cases drawn
      refine ⟨?_, free, rfl⟩
      rw [UInt16.and_assoc, UInt16.and_self]
    · obtain ⟨masked, free, same⟩ := ih drawn
      exact ⟨masked, free, same⟩

theorem inputs_drawPort {attempts : Nat} {drawn : Option UInt16} {later : Registry κ}
    (draws : registry.drawPort attempts = (drawn, later)) : later.inputs = registry.inputs := by
  induction attempts generalizing registry with
  | zero =>
    cases draws
    rfl
  | succ attempts ih =>
    rw [drawPort] at draws
    split at draws
    · cases draws
      rfl
    · have kept := ih draws
      exact kept

theorem isFreePort_iff :
    registry.isFreePort port = true ↔
      port ≠ 0 ∧ ∀ id entry, registry.inputs.get? id = some entry → entry.expected.port ≠ port := by
  simp only [isFreePort, inputPorts, Bool.and_eq_true, bne_iff_ne, Bool.not_eq_true',
    List.contains_eq_mem, decide_eq_false_iff_not, List.mem_map, not_exists, not_and]
  constructor
  · rintro ⟨nonzero, unused⟩
    exact ⟨nonzero, fun id entry stored => unused (id, entry) (Arena.mem_toList.mpr stored)⟩
  · rintro ⟨nonzero, unused⟩
    refine ⟨nonzero, ?_⟩
    rintro ⟨id, entry⟩ member
    exact unused id entry (Arena.mem_toList.mp member)

/-- What opening an input pipe puts into the table, and what it leaves as it is. -/
theorem openInput_inserts {later : Registry κ} {sink : κ}
    (opened : registry.openInput sink = (.ok (id, port), later)) :
    port &&& maxPort = port ∧ registry.isFreePort port = true ∧
      registry.inputs.insert? ⟨PipeWord.ofPort port, sink⟩ = some (id, later.inputs) ∧
      later.outputs = registry.outputs ∧ later.bells = registry.bells := by
  unfold openInput at opened
  split at opened
  · cases opened
  · split at opened
    · cases opened
    · rename_i drawn middle found
      obtain ⟨masked, free, same⟩ := drawPort_eq_some found
      split at opened
      · cases opened
      · rename_i stored
        cases opened
        rw [same] at stored ⊢
        exact ⟨masked, free, stored, rfl, rfl⟩

theorem openInput_eq_error {later : Registry κ} {sink : κ} {error : NodeError}
    (refused : registry.openInput sink = (.error error, later)) :
    later.inputs = registry.inputs := by
  unfold openInput at refused
  split at refused
  · cases refused
    rfl
  · split at refused
    · rename_i middle drawn
      cases refused
      exact inputs_drawPort drawn
    · rename_i middle drawn
      split at refused
      · cases refused
        exact inputs_drawPort drawn
      · cases refused

/-- A fresh input pipe is alone on its port, which is no more than nine bits wide, and its next
packet is the first one. -/
theorem openInput_eq_ok {later : Registry κ} {sink : κ}
    (opened : registry.openInput sink = (.ok (id, port), later)) :
    port &&& maxPort = port ∧ later.inputs.get? id = some ⟨PipeWord.ofPort port, sink⟩ ∧
      later.Sole port id := by
  obtain ⟨masked, free, stored, _, _⟩ := openInput_inserts opened
  refine ⟨masked, Arena.get?_of_insert? stored, ?_⟩
  intro other entry held bears
  rcases Arena.get?_set_cases (Arena.insert?_eq_some stored).2 held with ⟨index, slot⟩ | ⟨_, old⟩
  · exact SlotId.eq_of index (Slot.mk.inj slot).1.symm
  · exact absurd bears ((isFreePort_iff.mp free).2 other entry old)

theorem openInput_keeps {later : Registry κ} {sink : κ}
    (opened : registry.openInput sink = (.ok (id, port), later)) :
    later.outputs = registry.outputs ∧ later.bells = registry.bells ∧
      later.inputs.size = registry.inputs.size + 1 := by
  obtain ⟨_, _, stored, outputs, bells⟩ := openInput_inserts opened
  exact ⟨outputs, bells, Arena.size_of_insert? stored⟩

/-- Closing a handle frees the pipe that it stands for, or nothing. -/
theorem closeInput_cases (registry : Registry κ) (id : SlotId) :
    registry.inputs.get? id = none ∧ registry.closeInput id = (false, registry) ∨
      ∃ entry inputs, registry.inputs.remove? id = some (entry, inputs) ∧
        registry.closeInput id = (true, { registry with inputs }) := by
  unfold closeInput
  cases found : registry.inputs.get? id with
  | none =>
    rw [Arena.remove?_of_none found]
    exact .inl ⟨rfl, rfl⟩
  | some entry =>
    rw [Arena.remove?_of_get? found]
    exact .inr ⟨entry, _, rfl, rfl⟩

theorem get?_closeInput_iff {other : SlotId} {held : InputEntry κ} (registry : Registry κ)
    (id : SlotId) : (registry.closeInput id).2.inputs.get? other = some held ↔
      other ≠ id ∧ registry.inputs.get? other = some held := by
  rcases registry.closeInput_cases id with ⟨absent, same⟩ | ⟨entry, inputs, removed, same⟩
  · rw [same]
    refine ⟨fun found => ⟨?_, found⟩, And.right⟩
    rintro rfl
    rw [absent] at found
    cases found
  · rw [same]
    exact Arena.get?_remove?_iff removed

theorem get?_closeInput_self (registry : Registry κ) (id : SlotId) :
    (registry.closeInput id).2.inputs.get? id = none :=
  Option.eq_none_iff_forall_ne_some.mpr fun _ found =>
    (registry.get?_closeInput_iff id |>.mp found).1 rfl

end PipeBus.Registry

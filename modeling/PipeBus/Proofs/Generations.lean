import PipeBus.Proofs.Occupancy

/-! The generations of the slots of an arena. A slot that is freed moves on to its next generation,
so that generations count how often something was stored in each slot, until they have come round. -/

namespace PipeBus

/-- What may become of a slot in which nothing is stored: only its entry changes, or it is freed. -/
def Slot.Ages {α : Type} (old slot : Slot α) : Prop :=
  slot.generation = old.generation ∧ slot.value.isSome = old.value.isSome ∨
    slot.generation = old.generation + 1 ∧ old.value.isSome = true ∧ slot.value = none

/-- Generations tell counts apart that are lower than there are generations. -/
theorem Slot.count_eq {first second : Nat} (same : UInt32.ofNat first = UInt32.ofNat second)
    (low : first < UInt32.size) (also : second < UInt32.size) : first = second := by
  have numbers := congrArg UInt32.toNat same
  rwa [UInt32.toNat_ofNat_of_lt' low, UInt32.toNat_ofNat_of_lt' also] at numbers

namespace Arena

variable {α : Type} {arena later : Arena α} {id : SlotId} {value : α} {stored : Nat → Nat}

/-- An arena after something that stores nothing. -/
def Ages (arena later : Arena α) : Prop :=
  ∀ (index : Nat) (slot : Slot α), later.slots[index]? = some slot →
    ∃ old : Slot α, arena.slots[index]? = some old ∧ old.Ages slot

theorem Ages.refl (arena : Arena α) : arena.Ages arena :=
  fun _ slot found => ⟨slot, found, .inl ⟨rfl, rfl⟩⟩

/-- A slot that was freed is not freed again when nothing is stored in it meanwhile. -/
theorem Ages.trans {last : Arena α} (ages : arena.Ages later) (further : later.Ages last) :
    arena.Ages last := by
  intro index slot found
  obtain ⟨middle, between, second⟩ := further index slot found
  obtain ⟨old, before, first⟩ := ages index middle between
  refine ⟨old, before, ?_⟩
  rcases second with ⟨same, held⟩ | ⟨next, held, empty⟩
  · rcases first with ⟨aged, kept⟩ | ⟨aged, kept, freed⟩
    · exact .inl ⟨same.trans aged, held.trans kept⟩
    · rw [freed] at held
      exact .inr ⟨same.trans aged, kept, Option.isNone_iff_eq_none.mp (by simpa using held)⟩
  · rcases first with ⟨aged, kept⟩ | ⟨aged, kept, freed⟩
    · exact .inr ⟨next.trans (congrArg (· + 1) aged), kept.symm.trans held, empty⟩
    · rw [freed] at held
      cases held

theorem ages_set {slot : Slot α} (found : arena.get? id = some value)
    (written : later.slots = arena.slots.set id.index slot)
    (ages : Slot.Ages ⟨id.generation, some value⟩ slot) : arena.Ages later := by
  intro index other inside
  rw [written, List.getElem?_set] at inside
  split at inside
  · rename_i same
    subst same
    rw [if_pos (index_lt found)] at inside
    cases inside
    exact ⟨_, get?_eq_some.mp found, ages⟩
  · exact Ages.refl arena index other inside

theorem ages_modify (found : arena.get? id = some value) (change : α → α) :
    arena.Ages (arena.modify id change) :=
  ages_set found (slots_modify found change) (.inl ⟨rfl, rfl⟩)

theorem ages_remove? (removed : arena.remove? id = some (value, later)) : arena.Ages later := by
  have found := get?_of_remove? removed
  rw [remove?_of_get? found] at removed
  obtain rfl := (Prod.mk.inj (Option.some.inj removed)).2
  exact ages_set found rfl (.inr ⟨rfl, rfl, rfl⟩)

/-- The generation of every slot counts how often it was freed, when it is given how often something
was stored in each. -/
def Counts (arena : Arena α) (stored : Nat → Nat) : Prop :=
  ∀ (index : Nat) (slot : Slot α), arena.slots[index]? = some slot →
    ∃ freed, stored index = freed + slot.value.isSome.toNat ∧ slot.generation = UInt32.ofNat freed

theorem counts_ofCapacity (capacity : Nat) :
    (ofCapacity capacity : Arena α).Counts fun _ => 0 := by
  intro index slot found
  have fresh : slot = {} := List.eq_of_mem_replicate (List.mem_of_getElem? found)
  rw [fresh]
  exact ⟨0, rfl, rfl⟩

theorem Counts.ages (counts : arena.Counts stored) (ages : arena.Ages later) :
    later.Counts stored := by
  intro index slot found
  obtain ⟨old, before, ages⟩ := ages index slot found
  obtain ⟨freed, count, age⟩ := counts index old before
  rcases ages with ⟨same, held⟩ | ⟨next, held, empty⟩
  · exact ⟨freed, held ▸ count, same.trans age⟩
  · refine ⟨freed + 1, ?_, ?_⟩
    · rw [count, held, empty]
      rfl
    · rw [next, age, UInt32.ofNat_add]
      rfl

/-- The handle of a new entry tells how often something was stored in its slot before. -/
theorem Counts.insert? (counts : arena.Counts stored) (tidy : arena.Tidy)
    (inserted : arena.insert? value = some (id, later)) :
    id.generation = UInt32.ofNat (stored id.index) ∧
      later.Counts fun index => stored index + if id.index = index then 1 else 0 := by
  have before := (tidy.insert? inserted).1
  obtain ⟨inside, slots⟩ := insert?_eq_some inserted
  obtain ⟨freed, count, age⟩ := counts id.index _ before
  refine ⟨by rw [count]; exact age, fun index slot found => ?_⟩
  by_cases same : id.index = index
  · subst same
    rw [slots, List.getElem?_set_self inside] at found
    cases found
    exact ⟨freed, by simp [count], age⟩
  · rw [slots, List.getElem?_set_ne same] at found
    simpa only [if_neg same, Nat.add_zero] using counts index slot found

end Arena

end PipeBus

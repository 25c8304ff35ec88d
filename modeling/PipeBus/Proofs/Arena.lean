import PipeBus.Arena

/-! What a handle finds. A handle resolves to what its slot holds as long as the generations
agree, and the entries of an arena are listed by slot. -/

namespace PipeBus

theorem SlotId.eq_of {first second : SlotId} (index : first.index = second.index)
    (generation : first.generation = second.generation) : first = second := by
  cases first
  cases second
  exact congr (congrArg SlotId.mk index) generation

namespace Arena

variable {α : Type}

theorem slot?_eq_some {arena : Arena α} {id : SlotId} {slot : Slot α} :
    arena.slot? id = some slot ↔
      arena.slots[id.index]? = some slot ∧ slot.generation = id.generation := by
  simp [slot?, Option.filter_eq_some_iff]

theorem get?_eq_some {arena : Arena α} {id : SlotId} {value : α} :
    arena.get? id = some value ↔ arena.slots[id.index]? = some ⟨id.generation, some value⟩ := by
  constructor
  · intro found
    obtain ⟨slot, named, held⟩ := Option.bind_eq_some_iff.mp found
    obtain ⟨place, same⟩ := slot?_eq_some.mp named
    obtain ⟨generation, stored⟩ := slot
    subst same
    subst held
    exact place
  · intro place
    have named : arena.slot? id = some ⟨id.generation, some value⟩ := slot?_eq_some.mpr ⟨place, rfl⟩
    simp [get?, named]

theorem index_lt {arena : Arena α} {id : SlotId} {value : α} (found : arena.get? id = some value) :
    id.index < arena.slots.length :=
  (List.getElem?_eq_some_iff.mp (get?_eq_some.mp found)).1

theorem slots_modify {arena : Arena α} {id : SlotId} {value : α} (found : arena.get? id = some value)
    (change : α → α) :
    (arena.modify id change).slots =
      arena.slots.set id.index ⟨id.generation, some (change value)⟩ := by
  have named : arena.slot? id = some ⟨id.generation, some value⟩ :=
    slot?_eq_some.mpr ⟨get?_eq_some.mp found, rfl⟩
  simp [modify, named]

theorem get?_modify {arena : Arena α} {id : SlotId} {value : α} (found : arena.get? id = some value)
    (change : α → α) : (arena.modify id change).get? id = some (change value) := by
  rw [get?_eq_some, slots_modify found]
  exact List.getElem?_set_self (index_lt found)

theorem size_modify (arena : Arena α) (id : SlotId) (change : α → α) :
    (arena.modify id change).size = arena.size := by
  unfold modify
  split <;> rfl

theorem insert?_eq_some {arena later : Arena α} {id : SlotId} {value : α}
    (stored : arena.insert? value = some (id, later)) :
    id.index < arena.slots.length ∧
      later.slots = arena.slots.set id.index ⟨id.generation, some value⟩ := by
  unfold insert? at stored
  split at stored
  · cases stored
  · rename_i index rest free
    split at stored
    · cases stored
    · rename_i slot place
      cases stored
      exact ⟨(List.getElem?_eq_some_iff.mp place).1, rfl⟩

theorem size_of_insert? {arena later : Arena α} {id : SlotId} {value : α}
    (stored : arena.insert? value = some (id, later)) : later.size = arena.size + 1 := by
  unfold insert? at stored
  split at stored
  · cases stored
  · split at stored
    · cases stored
    · cases stored
      rfl

theorem get?_of_insert? {arena later : Arena α} {id : SlotId} {value : α}
    (stored : arena.insert? value = some (id, later)) : later.get? id = some value := by
  obtain ⟨inside, slots⟩ := insert?_eq_some stored
  rw [get?_eq_some, slots]
  exact List.getElem?_set_self inside

theorem remove?_of_get? {arena : Arena α} {id : SlotId} {value : α}
    (found : arena.get? id = some value) :
    arena.remove? id = some (value,
      { slots := arena.slots.set id.index ⟨id.generation + 1, none⟩
        free := id.index :: arena.free
        size := arena.size - 1 }) := by
  have named : arena.slot? id = some ⟨id.generation, some value⟩ :=
    slot?_eq_some.mpr ⟨get?_eq_some.mp found, rfl⟩
  simp [remove?, named]

theorem remove?_of_none {arena : Arena α} {id : SlotId} (absent : arena.get? id = none) :
    arena.remove? id = none := by
  unfold remove?
  split
  · rfl
  · rename_i slot named
    rw [get?, named, Option.bind_some] at absent
    rw [absent]

/-- A freed slot has moved on, so its handle resolves to nothing. -/
theorem get?_cleared {arena later : Arena α} {id : SlotId} {generation : UInt32}
    (written : later.slots = arena.slots.set id.index ⟨generation, none⟩) :
    later.get? id = none := by
  rw [Option.eq_none_iff_forall_ne_some]
  intro value found
  rcases Nat.lt_or_ge id.index arena.slots.length with inside | outside
  · have held := get?_eq_some.mp found
    rw [written, List.getElem?_set_self inside] at held
    cases held
  · have inside := index_lt found
    rw [written, List.length_set] at inside
    omega

/-- No slot below a place holds what is looked for. -/
private def MissesBelow (wanted : SlotId × α → Bool) (first : Nat) (slots : List (Slot α))
    (place : Nat) : Prop :=
  ∀ lower < place, ∀ generation value, slots[lower]? = some ⟨generation, some value⟩ →
    wanted (⟨first + lower, generation⟩, value) = false

private theorem missesBelow_cons {wanted : SlotId × α → Bool} {first place : Nat}
    {slot : Slot α} {rest : List (Slot α)} :
    MissesBelow wanted first (slot :: rest) (place + 1) ↔
      (∀ value, slot.value = some value → wanted (⟨first, slot.generation⟩, value) = false) ∧
        MissesBelow wanted (first + 1) rest place := by
  have moved (lower : Nat) : first + (lower + 1) = first + 1 + lower := by omega
  constructor
  · intro misses
    constructor
    · intro value held
      exact misses 0 (by omega) slot.generation value (by rw [← held]; rfl)
    · intro lower below generation value stored
      rw [← moved]
      exact misses (lower + 1) (by omega) generation value stored
  · rintro ⟨front, later⟩ lower below generation value stored
    cases lower with
    | zero =>
      cases stored
      exact front value rfl
    | succ lower =>
      rw [moved]
      exact later lower (by omega) generation value stored

/-- A search through the entries stops at the lowest slot that holds what is looked for. -/
private theorem find?_entriesFrom {wanted : SlotId × α → Bool} {first : Nat}
    {slots : List (Slot α)} {id : SlotId} {value : α} :
    (entriesFrom first slots).find? wanted = some (id, value) ↔
      ∃ place, id.index = first + place ∧ slots[place]? = some ⟨id.generation, some value⟩ ∧
        wanted (id, value) = true ∧ MissesBelow wanted first slots place := by
  induction slots generalizing first with
  | nil => simp [entriesFrom]
  | cons slot rest ih =>
    obtain ⟨generation, held⟩ := slot
    -- The search of the rest, when the front slot is passed over.
    have passed (miss : ∀ value, held = some value → wanted (⟨first, generation⟩, value) = false) :
        (entriesFrom (first + 1) rest).find? wanted = some (id, value) ↔
          ∃ place, id.index = first + place ∧
            (⟨generation, held⟩ :: rest : List (Slot α))[place]? =
              some ⟨id.generation, some value⟩ ∧
            wanted (id, value) = true ∧ MissesBelow wanted first (⟨generation, held⟩ :: rest) place := by
      rw [ih]
      constructor
      · rintro ⟨place, index, stored, hit, before⟩
        exact ⟨place + 1, by omega, stored, hit, missesBelow_cons.mpr ⟨miss, before⟩⟩
      · rintro ⟨place, index, stored, hit, before⟩
        cases place with
        | zero =>
          obtain ⟨number, age⟩ := id
          cases stored
          subst index
          rw [miss value rfl] at hit
          cases hit
        | succ place =>
          exact ⟨place, by omega, stored, hit, (missesBelow_cons.mp before).2⟩
    cases held with
    | none => exact passed (by simp)
    | some old =>
      cases hit : wanted (⟨first, generation⟩, old) with
      | false =>
        rw [entriesFrom, List.find?_cons, hit]
        exact passed (by simpa using hit)
      | true =>
        rw [entriesFrom, List.find?_cons, hit]
        constructor
        · intro found
          cases found
          exact ⟨0, rfl, rfl, hit, by simp [MissesBelow]⟩
        · rintro ⟨place, index, stored, _, before⟩
          cases place with
          | zero =>
            obtain ⟨number, age⟩ := id
            cases stored
            subst index
            rfl
          | succ place =>
            have miss := (missesBelow_cons.mp before).1 old rfl
            rw [hit] at miss
            cases miss

theorem find?_toList {arena : Arena α} {wanted : SlotId × α → Bool} {id : SlotId} {value : α} :
    arena.toList.find? wanted = some (id, value) ↔
      arena.get? id = some value ∧ wanted (id, value) = true ∧
        ∀ lower < id.index, ∀ generation other,
          arena.get? ⟨lower, generation⟩ = some other →
            wanted (⟨lower, generation⟩, other) = false := by
  rw [toList, find?_entriesFrom]
  simp only [get?_eq_some, Nat.zero_add, MissesBelow]
  constructor
  · rintro ⟨place, rfl, stored, hit, before⟩
    exact ⟨stored, hit, before⟩
  · rintro ⟨stored, hit, before⟩
    exact ⟨id.index, rfl, stored, hit, before⟩

theorem mem_toList {arena : Arena α} {id : SlotId} {value : α} :
    (id, value) ∈ arena.toList ↔ arena.get? id = some value := by
  classical
  constructor
  · intro member
    have some : (arena.toList.find? fun entry => decide (entry = (id, value))).isSome :=
      List.find?_isSome.mpr ⟨_, member, by simp⟩
    obtain ⟨⟨other, held⟩, found⟩ := Option.isSome_iff_exists.mp some
    obtain ⟨stored, hit, _⟩ := find?_toList.mp found
    cases of_decide_eq_true hit
    exact stored
  · intro stored
    have found : (arena.toList.find? fun entry => decide (entry = (id, value))) =
        some (id, value) := by
      refine find?_toList.mpr ⟨stored, by simp, ?_⟩
      intro lower below generation other _
      have different : lower ≠ id.index := by omega
      simp only [decide_eq_false_iff_not]
      intro same
      exact different (congrArg (fun entry => entry.1.index) same)
    exact List.mem_of_find?_eq_some found

theorem find?_toList_eq_none {arena : Arena α} {wanted : SlotId × α → Bool} :
    arena.toList.find? wanted = none ↔
      ∀ id value, arena.get? id = some value → wanted (id, value) = false := by
  rw [List.find?_eq_none]
  constructor
  · intro none id value stored
    simpa using none (id, value) (mem_toList.mpr stored)
  · rintro misses ⟨id, value⟩ member
    simp [misses id value (mem_toList.mp member)]

theorem get?_set_ne {arena later : Arena α} {index : Nat} {slot : Slot α} {other : SlotId}
    (written : later.slots = arena.slots.set index slot) (different : other.index ≠ index) :
    later.get? other = arena.get? other := by
  simp only [get?, slot?, written, List.getElem?_set_ne (Ne.symm different)]

/-- A handle that resolves after a slot was written names that slot or resolved before. -/
theorem get?_set_cases {arena later : Arena α} {index : Nat} {slot : Slot α} {other : SlotId}
    {value : α} (written : later.slots = arena.slots.set index slot)
    (found : later.get? other = some value) :
    other.index = index ∧ slot = ⟨other.generation, some value⟩ ∨
      other.index ≠ index ∧ arena.get? other = some value := by
  by_cases same : other.index = index
  · refine Or.inl ⟨same, ?_⟩
    rw [get?_eq_some, written, same] at found
    have inside := (List.getElem?_eq_some_iff.mp found).1
    rw [List.getElem?_set_self (by simpa using inside)] at found
    exact Option.some.inj found
  · exact Or.inr ⟨same, (get?_set_ne written same).symm.trans found⟩

end Arena

end PipeBus

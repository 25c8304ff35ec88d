import PipeBus.Proofs.Arena

/-! Which slots of an arena are taken. As long as only its own operations touch it, the free list of
an arena names every vacant slot once, and its size is the number of its entries. -/

namespace PipeBus.Arena

variable {α : Type} {arena later : Arena α} {id : SlotId} {value : α}

/-- The free list names every vacant slot once, and the size counts the entries. -/
structure Tidy (arena : Arena α) : Prop where
  vacant : ∀ index, index ∈ arena.free ↔
    ∃ generation, arena.slots[index]? = some ⟨generation, none⟩
  once : arena.free.Nodup
  counted : arena.size = arena.toList.length

theorem length_entriesFrom (first : Nat) (slots : List (Slot α)) :
    (entriesFrom first slots).length = slots.countP fun slot => slot.value.isSome := by
  induction slots generalizing first with
  | nil => rfl
  | cons slot rest ih =>
    obtain ⟨generation, held⟩ := slot
    cases held with
    | none => rw [entriesFrom, ih, List.countP_cons_of_neg (by simp)]
    | some value =>
      rw [entriesFrom, List.length_cons, ih, List.countP_cons_of_pos (by simp)]

theorem length_toList (arena : Arena α) :
    arena.toList.length = arena.slots.countP fun slot => slot.value.isSome :=
  length_entriesFrom 0 arena.slots

theorem get?_ofCapacity (capacity : Nat) (id : SlotId) :
    (ofCapacity capacity : Arena α).get? id = none := by
  refine Option.eq_none_iff_forall_ne_some.mpr fun value found => ?_
  have fresh := List.eq_of_mem_replicate (List.mem_of_getElem? (get?_eq_some.mp found))
  cases congrArg Slot.value fresh

theorem tidy_ofCapacity (capacity : Nat) : (ofCapacity capacity : Arena α).Tidy where
  vacant index := by
    simp only [ofCapacity, List.mem_range, List.getElem?_replicate]
    constructor
    · intro inside
      exact ⟨0, if_pos inside⟩
    · rintro ⟨generation, stored⟩
      rcases Nat.lt_or_ge index capacity with inside | outside
      · exact inside
      · rw [if_neg (Nat.not_lt.mpr outside)] at stored
        cases stored
  once := List.nodup_range
  counted := by
    rw [length_toList, ofCapacity, eq_comm, List.countP_eq_zero]
    intro slot member
    rw [List.eq_of_mem_replicate member]
    simp

/-- Writing a slot changes the number of entries by what it held and what it holds. -/
private theorem length_toList_set {slot old : Slot α} {index : Nat}
    (before : arena.slots[index]? = some old) (written : later.slots = arena.slots.set index slot) :
    later.toList.length + old.value.toList.length =
      arena.toList.length + slot.value.toList.length := by
  obtain ⟨inside, rfl⟩ := List.getElem?_eq_some_iff.mp before
  have counts (held : Option α) : (if held.isSome then 1 else 0) = held.toList.length := by
    cases held <;> rfl
  have present : (arena.slots[index].value.toList.length) ≤
      arena.slots.countP fun slot => slot.value.isSome := by
    rw [← counts]
    split
    · rename_i held
      exact List.countP_pos_iff.mpr ⟨_, List.getElem_mem inside, held⟩
    · exact Nat.zero_le _
  rw [length_toList, length_toList, written, List.countP_set inside, counts, counts]
  omega

theorem Tidy.modify (tidy : arena.Tidy) (found : arena.get? id = some value) (change : α → α) :
    (arena.modify id change).Tidy := by
  have before := get?_eq_some.mp found
  have slots := slots_modify found change
  have free : (arena.modify id change).free = arena.free := by
    unfold Arena.modify
    split <;> rfl
  refine ⟨fun index => ?_, free ▸ tidy.once, ?_⟩
  · rw [free, tidy.vacant, slots]
    by_cases same : id.index = index
    · subst same
      rw [List.getElem?_set_self (index_lt found), before]
      exact ⟨fun ⟨_, empty⟩ => (nomatch empty), fun ⟨_, empty⟩ => (nomatch empty)⟩
    · rw [List.getElem?_set_ne same]
  · have same := length_toList_set before slots
    rw [size_modify, tidy.counted]
    simpa using same.symm

theorem Tidy.insert? (tidy : arena.Tidy) (stored : arena.insert? value = some (id, later)) :
    arena.slots[id.index]? = some ⟨id.generation, none⟩ ∧ later.Tidy := by
  obtain ⟨inside, slots⟩ := insert?_eq_some stored
  have size := size_of_insert? stored
  have taken : arena.free = id.index :: later.free ∧
      ∃ slot, arena.slots[id.index]? = some slot ∧ slot.generation = id.generation := by
    unfold Arena.insert? at stored
    split at stored
    · cases stored
    · rename_i index rest free
      split at stored
      · cases stored
      · rename_i slot place
        cases stored
        exact ⟨free, slot, place, rfl⟩
  obtain ⟨free, slot, place, age⟩ := taken
  have once := tidy.once
  rw [free, List.nodup_cons] at once
  obtain ⟨generation, empty⟩ := (tidy.vacant id.index).mp (free ▸ List.mem_cons_self ..)
  have before : arena.slots[id.index]? = some ⟨id.generation, none⟩ := by
    rw [place] at empty ⊢
    cases empty
    rw [← age]
  refine ⟨before, fun index => ?_, once.2, ?_⟩
  · rw [slots]
    by_cases same : id.index = index
    · subst same
      rw [List.getElem?_set_self inside]
      exact ⟨fun member => absurd member once.1, fun ⟨_, empty⟩ => (nomatch empty)⟩
    · rw [List.getElem?_set_ne same, ← tidy.vacant, free, List.mem_cons,
        or_iff_right (Ne.symm same)]
  · have grown := length_toList_set before slots
    rw [size, tidy.counted]
    simpa using grown.symm

theorem Tidy.remove? (tidy : arena.Tidy) (found : arena.get? id = some value)
    (freed : arena.remove? id = some (value, later)) : later.Tidy := by
  rw [remove?_of_get? found] at freed
  obtain rfl := (Prod.mk.inj (Option.some.inj freed)).2
  have before := get?_eq_some.mp found
  refine ⟨fun index => ?_, List.nodup_cons.mpr ⟨?_, tidy.once⟩, ?_⟩
  · rw [List.mem_cons, tidy.vacant]
    by_cases same : id.index = index
    · subst same
      rw [List.getElem?_set_self (index_lt found)]
      exact ⟨fun _ => ⟨_, rfl⟩, fun _ => .inl rfl⟩
    · rw [List.getElem?_set_ne same, or_iff_right (Ne.symm same)]
  · rw [tidy.vacant, before]
    rintro ⟨generation, empty⟩
    cases empty
  · have shrunk (later : Arena α)
        (written : later.slots = arena.slots.set id.index ⟨id.generation + 1, none⟩) :
        later.toList.length + 1 = arena.toList.length := length_toList_set before written
    exact Nat.sub_eq_of_eq_add (tidy.counted.trans (shrunk _ rfl).symm)

theorem get?_of_remove? (freed : arena.remove? id = some (value, later)) :
    arena.get? id = some value := by
  cases found : arena.get? id with
  | none =>
    rw [remove?_of_none found] at freed
    cases freed
  | some held =>
    rw [remove?_of_get? found] at freed
    rw [(Prod.mk.inj (Option.some.inj freed)).1]

theorem get?_of_remove?_none (stale : arena.remove? id = none) : arena.get? id = none := by
  cases found : arena.get? id with
  | none => rfl
  | some value =>
    rw [remove?_of_get? found] at stale
    cases stale

theorem eq_of_index {other : SlotId} {held : α} (found : arena.get? id = some value)
    (also : arena.get? other = some held) (same : other.index = id.index) : other = id := by
  have slot := get?_eq_some.mp also
  rw [same, get?_eq_some.mp found] at slot
  exact SlotId.eq_of same (Slot.mk.inj (Option.some.inj slot)).1.symm

theorem get?_remove?_iff {other : SlotId} {held : α}
    (freed : arena.remove? id = some (value, later)) :
    later.get? other = some held ↔ other ≠ id ∧ arena.get? other = some held := by
  have found := get?_of_remove? freed
  rw [remove?_of_get? found] at freed
  obtain rfl := (Prod.mk.inj (Option.some.inj freed)).2
  constructor
  · intro kept
    rcases get?_set_cases rfl kept with ⟨_, slot⟩ | ⟨different, old⟩
    · exact nomatch (Slot.mk.inj slot).2
    · exact ⟨fun same => different (congrArg SlotId.index same), old⟩
  · rintro ⟨different, old⟩
    exact (get?_set_ne rfl fun same => different (eq_of_index found old same)).trans old

theorem get?_modify_iff {other : SlotId} {held : α} (found : arena.get? id = some value)
    (change : α → α) : (arena.modify id change).get? other = some held ↔
      other = id ∧ change value = held ∨ other ≠ id ∧ arena.get? other = some held := by
  have slots := slots_modify found change
  by_cases same : other = id
  · subst same
    simp [get?_modify found]
  · rw [or_iff_right (fun both => same both.1), and_iff_right same]
    by_cases index : other.index = id.index
    · constructor
      · intro kept
        rcases get?_set_cases slots kept with ⟨_, slot⟩ | ⟨different, _⟩
        · exact absurd (SlotId.eq_of index (Slot.mk.inj slot).1.symm) same
        · exact absurd index different
      · intro old
        exact absurd (eq_of_index found old index) same
    · rw [get?_set_ne slots index]

theorem Tidy.get?_insert?_iff {other : SlotId} {held : α} (tidy : arena.Tidy)
    (stored : arena.insert? value = some (id, later)) :
    later.get? other = some held ↔ other = id ∧ value = held ∨ arena.get? other = some held := by
  obtain ⟨before, _⟩ := tidy.insert? stored
  obtain ⟨_, slots⟩ := insert?_eq_some stored
  constructor
  · intro kept
    rcases get?_set_cases slots kept with ⟨index, slot⟩ | ⟨_, old⟩
    · obtain ⟨age, same⟩ := Slot.mk.inj slot
      exact .inl ⟨SlotId.eq_of index age.symm, Option.some.inj same⟩
    · exact .inr old
  · rintro (⟨rfl, rfl⟩ | old)
    · exact get?_of_insert? stored
    · refine (get?_set_ne slots fun same => ?_).trans old
      have taken := get?_eq_some.mp old
      rw [same, before] at taken
      exact nomatch (Slot.mk.inj (Option.some.inj taken)).2

private theorem index_of_mem_entriesFrom {first : Nat} {slots : List (Slot α)}
    {entry : SlotId × α} (member : entry ∈ entriesFrom first slots) : first ≤ entry.1.index := by
  induction slots generalizing first with
  | nil => cases member
  | cons slot rest ih =>
    rw [entriesFrom] at member
    split at member
    · exact Nat.le_of_succ_le (ih member)
    · rcases List.mem_cons.mp member with rfl | later
      · exact Nat.le_refl _
      · exact Nat.le_of_succ_le (ih later)

theorem pairwise_toList (arena : Arena α) :
    arena.toList.Pairwise fun first second => first.1.index < second.1.index := by
  suffices sorted : ∀ first (slots : List (Slot α)), (entriesFrom first slots).Pairwise
      fun first second => first.1.index < second.1.index from sorted 0 arena.slots
  intro first slots
  induction slots generalizing first with
  | nil => exact .nil
  | cons slot rest ih =>
    rw [entriesFrom]
    split
    · exact ih (first + 1)
    · exact .cons (fun entry member => index_of_mem_entriesFrom member) (ih (first + 1))

end PipeBus.Arena

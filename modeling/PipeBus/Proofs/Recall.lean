import PipeBus.Proofs.Generations

/-! An arena as a map from handles to entries. What a handle stands for can be told from what was
done with the arena and what it answered, without the arena (`Arena.recalled`). Main statement: the
arena finds just that, whatever is done with it, and a handle that has been given back finds nothing
until the generations of its slot have come round (`Arena.refines_recall`). -/

namespace PipeBus.Arena

variable {α : Type} {arena later : Arena α} {id : SlotId} {value : α}

inductive Act (α : Type) where
  | insert (value : α)
  | get (id : SlotId)
  | alter (id : SlotId) (change : α → α)
  | remove (id : SlotId)
  | list
  | visit (change : SlotId → α → α)

inductive Answer (α : Type) where
  | stored (id : SlotId)
  /-- There is no room, and the entry is handed back. -/
  | refused (value : α)
  | found (value : Option α)
  | listed (entries : List (SlotId × α))

/-- What an arena answers when it is asked for something, and the arena afterwards. -/
def perform (arena : Arena α) : Act α → Answer α × Arena α
  | .insert value =>
    match arena.insert? value with
    | none => (.refused value, arena)
    | some (id, later) => (.stored id, later)
  | .get id => (.found (arena.get? id), arena)
  | .alter id change => (.found (arena.get? id), arena.modify id change)
  | .remove id =>
    match arena.remove? id with
    | none => (.found none, arena)
    | some (value, later) => (.found (some value), later)
  | .list => (.listed arena.toList, arena)
  | .visit change =>
    let (entries, later) := arena.visit change
    (.listed entries, later)

/-- What was asked of an arena with what it answered, the latest first. -/
abbrev Log (α : Type) := List (Act α × Answer α)

def after (capacity : Nat) : List (Act α) → Arena α
  | [] => ofCapacity capacity
  | act :: earlier => ((after capacity earlier).perform act).2

def log (capacity : Nat) : List (Act α) → Log α
  | [] => []
  | act :: earlier => (act, ((after capacity earlier).perform act).1) :: log capacity earlier

def Act.handle? : Act α → Answer α → Option SlotId
  | .insert _, .stored id => some id
  | .get id, _ | .alter id _, _ | .remove id, _ => some id
  | _, _ => none

/-- What a handle stands for after an entry of the log, given what it stood for before. -/
def note (id : SlotId) (held : Option α) : Act α × Answer α → Option α
  | (.insert value, .stored other) => if other = id then some value else held
  | (.alter other change, _) => if other = id then held.map change else held
  | (.remove other, _) => if other = id then none else held
  | (.visit change, _) => held.map (change id)
  | _ => held

/-- What a handle stands for after a log. -/
def recalled (id : SlotId) : Log α → Option α
  | [] => none
  | entry :: earlier => note id (recalled id earlier) entry

def frees (index : Nat) : Act α × Answer α → Bool
  | (.remove id, .found (some _)) => id.index == index
  | _ => false

def freed (index : Nat) (log : Log α) : Nat := log.countP (frees index)

/-! Going through all entries. -/

theorem visitFrom_fst (change : SlotId → α → α) (index : Nat) (slots : List (Slot α)) :
    (visitFrom change index slots).1 = entriesFrom index slots := by
  induction slots generalizing index with
  | nil => rfl
  | cons slot rest ih =>
    obtain ⟨generation, held⟩ := slot
    cases held <;> simp [visitFrom, entriesFrom, ih]

theorem entriesFrom_visitFrom (change : SlotId → α → α) (index : Nat) (slots : List (Slot α)) :
    entriesFrom index (visitFrom change index slots).2 =
      (entriesFrom index slots).map fun entry => (entry.1, change entry.1 entry.2) := by
  induction slots generalizing index with
  | nil => rfl
  | cons slot rest ih =>
    obtain ⟨generation, held⟩ := slot
    cases held <;> simp [visitFrom, entriesFrom, ih]

theorem length_visitFrom (change : SlotId → α → α) (index : Nat) (slots : List (Slot α)) :
    (visitFrom change index slots).2.length = slots.length := by
  induction slots generalizing index with
  | nil => rfl
  | cons slot rest ih =>
    obtain ⟨generation, held⟩ := slot
    cases held <;> simp [visitFrom, ih]

theorem visitFrom_getElem? (change : SlotId → α → α) (index : Nat) (slots : List (Slot α))
    (place : Nat) :
    (visitFrom change index slots).2[place]? = slots[place]?.map fun slot =>
      { slot with value := slot.value.map (change ⟨index + place, slot.generation⟩) } := by
  induction slots generalizing index place with
  | nil => rfl
  | cons slot rest ih =>
    obtain ⟨generation, held⟩ := slot
    cases place with
    | zero => cases held <;> simp [visitFrom]
    | succ place =>
      have next := ih (index + 1) place
      rw [Nat.add_right_comm, Nat.add_assoc] at next
      cases held <;> simpa [visitFrom] using next

theorem slots_visit (arena : Arena α) (change : SlotId → α → α) (index : Nat) :
    (arena.visit change).2.slots[index]? = arena.slots[index]?.map fun slot =>
      { slot with value := slot.value.map (change ⟨index, slot.generation⟩) } := by
  have all := visitFrom_getElem? change 0 arena.slots index
  rwa [Nat.zero_add] at all

theorem visit_fst (arena : Arena α) (change : SlotId → α → α) :
    (arena.visit change).1 = arena.toList :=
  visitFrom_fst change 0 arena.slots

theorem get?_visit (arena : Arena α) (change : SlotId → α → α) (id : SlotId) :
    (arena.visit change).2.get? id = (arena.get? id).map (change id) := by
  apply Option.ext
  intro held
  rw [get?_eq_some, slots_visit, Option.map_eq_some_iff, Option.map_eq_some_iff]
  constructor
  · rintro ⟨⟨generation, stored⟩, place, same⟩
    obtain ⟨rfl, changed⟩ := Slot.mk.inj same
    obtain ⟨old, rfl, rfl⟩ := Option.map_eq_some_iff.mp changed
    exact ⟨old, get?_eq_some.mpr place, rfl⟩
  · rintro ⟨old, found, rfl⟩
    exact ⟨_, get?_eq_some.mp found, rfl⟩

/-! What one request does. -/

theorem modify_of_none (absent : arena.get? id = none) (change : α → α) :
    arena.modify id change = arena := by
  unfold modify
  split
  · rfl
  · rename_i slot named
    obtain ⟨inside, same⟩ := List.getElem?_eq_some_iff.mp (slot?_eq_some.mp named).1
    obtain ⟨generation, held⟩ := slot
    rw [get?, named, Option.bind_some] at absent
    subst absent
    simp only [Option.map_none, ← same, List.set_getElem_self]

theorem remove?_eq_some (removed : arena.remove? id = some (value, later)) :
    arena.get? id = some value ∧
      later.slots = arena.slots.set id.index ⟨id.generation + 1, none⟩ := by
  have found := get?_of_remove? removed
  rw [remove?_of_get? found] at removed
  obtain rfl := (Prod.mk.inj (Option.some.inj removed)).2
  exact ⟨found, rfl⟩

theorem getElem?_set_some {slots : List (Slot α)} {index other : Nat} {slot new : Slot α}
    (place : slots[index]? = some slot) :
    (slots.set other new)[index]? = some (if other = index then new else slot) := by
  have inside := (List.getElem?_eq_some_iff.mp place).1
  rw [List.getElem?_set]
  split
  · rename_i same
    rw [if_pos (same ▸ inside)]
  · exact place

theorem insert?_eq_none (tidy : arena.Tidy) :
    arena.insert? value = none ↔ arena.free = [] := by
  unfold insert?
  split
  · rename_i empty
    simp [empty]
  · rename_i index rest free
    obtain ⟨generation, vacant⟩ := (tidy.vacant index).mp (free ▸ List.mem_cons_self ..)
    simp [vacant, free]

theorem Tidy.fresh (tidy : arena.Tidy) (stored : arena.insert? value = some (id, later)) :
    arena.get? id = none := by
  apply Option.eq_none_iff_forall_ne_some.mpr
  intro held found
  have vacant := (tidy.insert? stored).1
  rw [get?_eq_some.mp found] at vacant
  cases vacant

/-- One arena has the entries of another one, and a new one. -/
structure Gains (arena : Arena α) (id : SlotId) (value : α) (later : Arena α) : Prop where
  fresh : arena.get? id = none
  stored : later.get? id = some value
  others : ∀ other, other ≠ id → later.get? other = arena.get? other
  counts : later.size = arena.size + 1

theorem Tidy.gains (tidy : arena.Tidy) (stored : arena.insert? value = some (id, later)) :
    arena.Gains id value later where
  fresh := tidy.fresh stored
  stored := get?_of_insert? stored
  others other different := by
    apply Option.ext
    intro held
    rw [tidy.get?_insert?_iff stored]
    exact or_iff_right fun same => different same.1
  counts := size_of_insert? stored

/-- The free list names the slots that no handle reaches. -/
theorem Tidy.mem_free_iff (tidy : arena.Tidy) (index : Nat) :
    index ∈ arena.free ↔
      index < arena.capacity ∧ ∀ generation, arena.get? ⟨index, generation⟩ = none := by
  rw [tidy.vacant]
  constructor
  · rintro ⟨age, place⟩
    refine ⟨(List.getElem?_eq_some_iff.mp place).1, fun generation => ?_⟩
    apply Option.eq_none_iff_forall_ne_some.mpr
    intro value found
    rw [get?_eq_some.mp found] at place
    cases place
  · rintro ⟨inside, empty⟩
    have place : arena.slots[index]? = some arena.slots[index] := List.getElem?_eq_getElem inside
    generalize arena.slots[index] = slot at place
    obtain ⟨generation, held⟩ := slot
    cases held with
    | none => exact ⟨generation, place⟩
    | some value =>
      have found : arena.get? ⟨index, generation⟩ = some value := get?_eq_some.mpr place
      rw [empty] at found
      cases found

/-- No slot is free just when there are as many entries as slots. -/
theorem Tidy.isFull_iff (tidy : arena.Tidy) :
    arena.isFull = true ↔ arena.size = arena.capacity := by
  rw [isFull, List.isEmpty_iff, tidy.counted, length_toList, capacity, List.countP_eq_length]
  constructor
  · intro empty slot member
    obtain ⟨index, place⟩ := List.getElem?_of_mem member
    obtain ⟨generation, held⟩ := slot
    cases held with
    | some value => rfl
    | none =>
      have free := (tidy.vacant index).mpr ⟨generation, place⟩
      rw [empty] at free
      cases free
  · intro taken
    apply List.eq_nil_iff_forall_not_mem.mpr
    intro index free
    obtain ⟨generation, place⟩ := (tidy.vacant index).mp free
    cases taken _ (List.mem_of_getElem? place)

theorem Tidy.visit (tidy : arena.Tidy) (change : SlotId → α → α) :
    (arena.visit change).2.Tidy := by
  constructor
  · intro index
    change index ∈ arena.free ↔ _
    rw [tidy.vacant, slots_visit]
    constructor
    · rintro ⟨generation, place⟩
      exact ⟨generation, by simp [place]⟩
    · rintro ⟨generation, place⟩
      obtain ⟨⟨age, held⟩, found, same⟩ := Option.map_eq_some_iff.mp place
      cases held with
      | none => exact ⟨age, found⟩
      | some value => cases (Slot.mk.inj same).2
  · exact tidy.once
  · have entries : (arena.visit change).2.toList = _ := entriesFrom_visitFrom change 0 arena.slots
    rw [entries, List.length_map]
    exact tidy.counted

/-- What may come of a request: the answer, and the arena afterwards. -/
inductive Outcome (arena : Arena α) : Act α → Answer α → Arena α → Prop where
  | stored {value : α} {id : SlotId} {later : Arena α}
      (stored : arena.insert? value = some (id, later)) :
      Outcome arena (.insert value) (.stored id) later
  | refused {value : α} (full : arena.insert? value = none) :
      Outcome arena (.insert value) (.refused value) arena
  | got (id : SlotId) : Outcome arena (.get id) (.found (arena.get? id)) arena
  | altered {id : SlotId} {value : α} (found : arena.get? id = some value) (change : α → α) :
      Outcome arena (.alter id change) (.found (some value)) (arena.modify id change)
  | removed {id : SlotId} {value : α} {later : Arena α}
      (removed : arena.remove? id = some (value, later)) :
      Outcome arena (.remove id) (.found (some value)) later
  | unaltered {id : SlotId} (absent : arena.get? id = none) (change : α → α) :
      Outcome arena (.alter id change) (.found none) arena
  | unremoved {id : SlotId} (absent : arena.get? id = none) :
      Outcome arena (.remove id) (.found none) arena
  | listed : Outcome arena .list (.listed arena.toList) arena
  | visited (change : SlotId → α → α) :
      Outcome arena (.visit change) (.listed arena.toList) (arena.visit change).2

theorem perform_outcome (arena : Arena α) (act : Act α) :
    arena.Outcome act (arena.perform act).1 (arena.perform act).2 := by
  cases act with
  | insert value =>
    rw [perform]
    split
    · rename_i full
      exact .refused full
    · rename_i stored
      exact .stored stored
  | get id => exact .got id
  | alter id change =>
    cases found : arena.get? id with
    | none =>
      rw [perform, found, modify_of_none found]
      exact .unaltered found change
    | some value =>
      rw [perform, found]
      exact .altered found change
  | remove id =>
    rw [perform]
    split
    · rename_i stale
      exact .unremoved (get?_of_remove?_none stale)
    · rename_i removed
      exact .removed removed
  | list => exact .listed
  | visit change =>
    have visited := arena.visit_fst change
    simp only [perform]
    rw [visited]
    exact .visited change

namespace Outcome

variable {act : Act α} {answer : Answer α}

theorem tidy (outcome : arena.Outcome act answer later) (tidy : arena.Tidy) : later.Tidy := by
  cases outcome with
  | stored stored => exact (tidy.insert? stored).2
  | altered found change => exact tidy.modify found change
  | removed removed => exact tidy.remove? (get?_of_remove? removed) removed
  | visited change => exact tidy.visit change
  | refused | got | unaltered | unremoved | listed => exact tidy

/-- Every handle stands for what it is then recalled to stand for. -/
theorem get?_eq (outcome : arena.Outcome act answer later) (tidy : arena.Tidy) (id : SlotId) :
    later.get? id = note id (arena.get? id) (act, answer) := by
  cases outcome with
  | @stored value other later stored =>
    apply Option.ext
    intro held
    rw [tidy.get?_insert?_iff stored, note]
    by_cases same : other = id
    · subst same
      simp [tidy.fresh stored]
    · simp [same, Ne.symm same]
  | @altered other value found change =>
    apply Option.ext
    intro held
    rw [get?_modify_iff found, note]
    by_cases same : other = id
    · subst same
      simp [found]
    · simp [same, Ne.symm same]
  | @removed other value later removed =>
    apply Option.ext
    intro held
    rw [get?_remove?_iff removed, note]
    by_cases same : other = id
    · simp [same]
    · simp [same, Ne.symm same]
  | visited change => exact arena.get?_visit change id
  | @unaltered other absent | @unremoved other absent =>
    by_cases same : other = id
    · subst same
      simp [note, absent]
    · simp [note, same]
  | refused | got | listed => rfl

theorem capacity_eq (outcome : arena.Outcome act answer later) :
    later.capacity = arena.capacity := by
  cases outcome with
  | stored stored => rw [capacity, (insert?_eq_some stored).2, List.length_set, capacity]
  | altered found change => rw [capacity, slots_modify found, List.length_set, capacity]
  | removed removed => rw [capacity, (remove?_eq_some removed).2, List.length_set, capacity]
  | visited change => exact length_visitFrom change 0 arena.slots
  | refused | got | unaltered | unremoved | listed => rfl

/-- A slot moves on to its next generation just when it is freed, and stays taken until then. -/
theorem slot_moves (outcome : arena.Outcome act answer later) (tidy : arena.Tidy) {index : Nat}
    {slot : Slot α} (place : arena.slots[index]? = some slot) :
    ∃ next, later.slots[index]? = some next ∧
      (frees index (act, answer) = true ∧ next.generation = slot.generation + 1 ∨
        frees index (act, answer) = false ∧ next.generation = slot.generation ∧
          (slot.value.isSome = true → next.value.isSome = true)) := by
  have kept : slot.value.isSome = true → slot.value.isSome = true := fun taken => taken
  cases outcome with
  | @stored value id later stored =>
    obtain ⟨before, _⟩ := tidy.insert? stored
    obtain ⟨_, slots⟩ := insert?_eq_some stored
    refine ⟨_, slots ▸ getElem?_set_some place, .inr ⟨rfl, ?_⟩⟩
    by_cases same : id.index = index
    · subst same
      rw [before] at place
      cases place
      simp
    · simp [same]
  | @altered id value found change =>
    refine ⟨_, slots_modify found change ▸ getElem?_set_some place, .inr ⟨rfl, ?_⟩⟩
    by_cases same : id.index = index
    · subst same
      rw [get?_eq_some.mp found] at place
      cases place
      simp
    · simp [same]
  | @removed id value later removed =>
    obtain ⟨found, slots⟩ := remove?_eq_some removed
    refine ⟨_, slots ▸ getElem?_set_some place, ?_⟩
    by_cases same : id.index = index
    · subst same
      rw [get?_eq_some.mp found] at place
      cases place
      simp [frees]
    · simp [frees, same]
  | visited change =>
    refine ⟨_, (arena.slots_visit change index).trans (congrArg _ place), .inr ⟨rfl, rfl, ?_⟩⟩
    simp
  | refused | got | unaltered | unremoved | listed =>
    exact ⟨slot, place, .inr ⟨rfl, rfl, kept⟩⟩

/-- A handle that stands for something frees its slot when it is removed. -/
theorem frees_of_remove (outcome : arena.Outcome (.remove id) answer later)
    (found : arena.get? id = some value) : frees id.index (.remove id, answer) = true := by
  cases outcome with
  | removed => simp [frees]
  | unremoved absent =>
    rw [found] at absent
    cases absent

end Outcome

/-! All requests, one after the other. -/

variable {capacity : Nat} {acts : List (Act α)} {newer older : Log α}

theorem tidy_after (capacity : Nat) (acts : List (Act α)) : (after capacity acts).Tidy := by
  induction acts with
  | nil => exact tidy_ofCapacity capacity
  | cons act earlier ih => exact (perform_outcome _ act).tidy ih

theorem capacity_after (capacity : Nat) (acts : List (Act α)) :
    (after capacity acts).capacity = capacity := by
  induction acts with
  | nil => exact List.length_replicate
  | cons act earlier ih => exact (perform_outcome _ act).capacity_eq.trans ih

theorem get?_after (capacity : Nat) (acts : List (Act α)) (id : SlotId) :
    (after capacity acts).get? id = recalled id (log capacity acts) := by
  induction acts with
  | nil => exact get?_ofCapacity capacity id
  | cons act earlier ih =>
    rw [log, recalled, ← ih]
    exact (perform_outcome _ act).get?_eq (tidy_after capacity earlier) id

/-- Since a handle was given out, the generation of its slot counts how often the slot was freed. As
long as it was not, the entry is there and has not been removed. -/
theorem slot_since (split : log capacity acts = newer ++ (.insert value, .stored id) :: older) :
    ∃ slot, (after capacity acts).slots[id.index]? = some slot ∧
      slot.generation = id.generation + UInt32.ofNat (freed id.index newer) ∧
      (freed id.index newer = 0 →
        slot.value.isSome = true ∧ ∀ answer, (.remove id, answer) ∉ newer) := by
  induction newer generalizing acts with
  | nil =>
    cases acts with
    | nil => cases split
    | cons act earlier =>
      obtain ⟨entry, _⟩ := List.cons.inj split
      obtain ⟨rfl, answer⟩ := Prod.mk.inj entry
      have outcome := perform_outcome (after capacity earlier) (.insert value)
      rw [answer] at outcome
      cases outcome with
      | stored stored =>
        have found := get?_eq_some.mp (get?_of_insert? stored)
        exact ⟨_, found, (UInt32.add_zero id.generation).symm, fun _ => ⟨rfl, by simp⟩⟩
  | cons entry newer ih =>
    cases acts with
    | nil => cases split
    | cons act earlier =>
      obtain ⟨rfl, rest⟩ := List.cons.inj split
      obtain ⟨slot, place, age, taken⟩ := ih rest
      have outcome := perform_outcome (after capacity earlier) act
      obtain ⟨next, found, moves⟩ := outcome.slot_moves (tidy_after capacity earlier) place
      refine ⟨next, found, ?_⟩
      rcases moves with ⟨frees, aged⟩ | ⟨stays, same, still⟩
      · rw [freed, List.countP_cons_of_pos frees]
        constructor
        · rw [aged, age, UInt32.ofNat_add, UInt32.add_assoc]
          rfl
        · intro never
          cases never
      · rw [freed, List.countP_cons_of_neg (by simp [stays])]
        refine ⟨same.trans age, fun never => ?_⟩
        obtain ⟨present, kept⟩ := taken never
        refine ⟨still present, fun answer member => ?_⟩
        rcases List.mem_cons.mp member with removal | before
        · -- The entry is still there, so removing it frees the slot.
          obtain ⟨rfl, rfl⟩ := Prod.mk.inj removal
          obtain ⟨generation, held⟩ := slot
          obtain ⟨value, rfl⟩ := Option.isSome_iff_exists.mp present
          have live : (after capacity earlier).get? id = some value := by
            have first : generation = id.generation := by
              rw [freed, never] at age
              exact age.trans (UInt32.add_zero id.generation)
            rw [get?_eq_some, place, first]
          rw [outcome.frees_of_remove live] at stays
          cases stays
        · exact kept answer before

/-- A slot that was freed since, but not as often as there are generations, has left the handle
behind. -/
theorem get?_of_freed (split : log capacity acts = newer ++ (.insert value, .stored id) :: older)
    (once : 0 < freed id.index newer) (few : freed id.index newer < UInt32.size) :
    (after capacity acts).get? id = none := by
  obtain ⟨slot, place, age, _⟩ := slot_since split
  apply Option.eq_none_iff_forall_ne_some.mpr
  intro held found
  have stored := get?_eq_some.mp found
  rw [place] at stored
  obtain rfl := Option.some.inj stored
  have still : UInt32.ofNat (freed id.index newer) = UInt32.ofNat 0 :=
    (UInt32.add_right_inj id.generation).mp (age.symm.trans (UInt32.add_zero id.generation).symm)
  have never := Slot.count_eq still few (by decide)
  omega

/-- A request about one handle does not change what another one stands for. -/
theorem note_other {act : Act α} {answer : Answer α} {other : SlotId} (held : Option α)
    (on : act.handle? answer = some id) (different : other ≠ id) :
    note other held (act, answer) = held := by
  unfold Act.handle? at on
  split at on <;> cases on <;> simp [note, Ne.symm different]

/-- An arena of some capacity as the map that its log describes. -/
structure Refines (capacity : Nat) (log : Log α) (arena : Arena α) : Prop where
  /-- The free list names the slots in which nothing is stored. -/
  vacant : ∀ index, index ∈ arena.free ↔
    index < capacity ∧ ∀ generation, recalled ⟨index, generation⟩ log = none
  once : arena.free.Nodup
  counted : arena.size = arena.slots.countP fun slot => slot.value.isSome
  full : arena.isFull = true ↔ arena.size = capacity
  refuses : ∀ value, arena.size = capacity →
    arena.perform (.insert value) = (.refused value, arena)
  stores : ∀ value, arena.size ≠ capacity →
    ∃ id, (arena.perform (.insert value)).1 = .stored id ∧ recalled id log = none
  resolves : ∀ id, arena.get? id = recalled id log
  removes : ∀ id, (arena.perform (.remove id)).1 = .found (recalled id log)
  confined : ∀ act id other, act.handle? (arena.perform act).1 = some id → other ≠ id →
    (arena.perform act).2.get? other = arena.get? other
  /-- A handle that was removed does not come back while its slot has generations left. -/
  stale : ∀ newer older id value answer, log = newer ++ (.insert value, .stored id) :: older →
    (.remove id, answer) ∈ newer → freed id.index newer < UInt32.size →
    arena.get? id = none ∧ arena.remove? id = none
  /-- Both ways of going through the entries meet each once, by slot. -/
  listed : ∃ entries, (arena.perform .list).1 = .listed entries ∧
    (∀ change, (arena.perform (.visit change)).1 = .listed entries) ∧
    entries.Pairwise (fun first second => first.1.index < second.1.index) ∧
    ∀ id value, (id, value) ∈ entries ↔ recalled id log = some value

/-- Whatever is asked of an arena, it is the map from handles to entries that its log describes. -/
theorem refines_recall (capacity : Nat) (acts : List (Act α)) :
    (after capacity acts).Refines capacity (log capacity acts) := by
  have tidy := tidy_after capacity acts
  have slots := capacity_after capacity acts
  have resolves := get?_after capacity acts
  have full := tidy.isFull_iff
  rw [slots] at full
  constructor
  · intro index
    simpa only [slots, resolves] using tidy.mem_free_iff index
  · exact tidy.once
  · rw [tidy.counted, length_toList]
  · exact full
  · intro value taken
    have refused : (after capacity acts).insert? value = none :=
      (insert?_eq_none tidy).mpr (List.isEmpty_iff.mp (full.mpr taken))
    rw [perform, refused]
  · intro value room
    cases stored : (after capacity acts).insert? value with
    | none =>
      have taken := full.mp (List.isEmpty_iff.mpr ((insert?_eq_none tidy).mp stored))
      exact absurd taken room
    | some handed =>
      refine ⟨handed.1, by rw [perform, stored], ?_⟩
      rw [← resolves]
      exact tidy.fresh stored
  · exact resolves
  · intro id
    rw [← resolves, perform]
    cases found : (after capacity acts).get? id with
    | none => rw [remove?_of_none found]
    | some value => rw [remove?_of_get? found]
  · intro act id other on different
    rw [(perform_outcome _ act).get?_eq tidy, note_other _ on different]
  · intro newer older id value answer split removed few
    obtain ⟨slot, _, _, kept⟩ := slot_since split
    have once : 0 < freed id.index newer :=
      Nat.pos_of_ne_zero fun never => (kept never).2 answer removed
    have gone := get?_of_freed split once few
    exact ⟨gone, remove?_of_none gone⟩
  · refine ⟨_, rfl, ?_, pairwise_toList _, ?_⟩
    · intro change
      rw [← visit_fst _ change]
      rfl
    · intro id value
      rw [mem_toList, resolves]

/-- A slot that is used again finds its second entry, and nothing under the first handle. -/
example :
    let acts : List (Act Nat) := [.insert 8, .remove ⟨0, 0⟩, .insert 7]
    (after 1 acts).get? ⟨0, 0⟩ = none ∧ (after 1 acts).get? ⟨0, 1⟩ = some 8 := by
  decide

end PipeBus.Arena

/-!
A table of fixed capacity whose entries are reached by handles.

A handle names a slot and the slot's generation. Freeing a slot moves its
generation on, so that a handle of an earlier entry no longer resolves when the
slot is used again. Slots are handed out lowest first, and a freed slot before
any that was never used.
-/
namespace PipeBus

/-- Handle of an arena entry. -/
structure SlotId where
  index : Nat
  generation : UInt32
  deriving DecidableEq

/-- One place of an arena. -/
structure Slot (α : Type) where
  generation : UInt32 := 0
  value : Option α := none

/-- A table of places, those that are free in the order in which they will be used. -/
structure Arena (α : Type) where
  slots : List (Slot α)
  free : List Nat
  size : Nat

namespace Arena

variable {α : Type}

def ofCapacity (capacity : Nat) : Arena α where
  slots := List.replicate capacity {}
  free := List.range capacity
  size := 0

def capacity (arena : Arena α) : Nat := arena.slots.length

def isEmpty (arena : Arena α) : Bool := arena.size == 0

/-- No slot is free. -/
def isFull (arena : Arena α) : Bool := arena.free.isEmpty

/-- The slot a handle names, unless it has moved on to another generation. -/
def slot? (arena : Arena α) (id : SlotId) : Option (Slot α) :=
  arena.slots[id.index]?.filter fun slot => slot.generation == id.generation

/-- The entry a handle stands for. -/
def get? (arena : Arena α) (id : SlotId) : Option α := (arena.slot? id).bind Slot.value

def contains (arena : Arena α) (id : SlotId) : Bool := (arena.get? id).isSome

/-- Store an entry in the next free slot. -/
def insert? (arena : Arena α) (value : α) : Option (SlotId × Arena α) :=
  match arena.free with
  | [] => none
  | index :: rest =>
    match arena.slots[index]? with
    | none => none
    | some slot =>
      some (⟨index, slot.generation⟩,
        { slots := arena.slots.set index { slot with value := some value }
          free := rest
          size := arena.size + 1 })

/-- Change the entry a handle stands for. A stale handle changes nothing. -/
def modify (arena : Arena α) (id : SlotId) (change : α → α) : Arena α :=
  match arena.slot? id with
  | none => arena
  | some slot =>
    { arena with slots := arena.slots.set id.index { slot with value := slot.value.map change } }

/-- Free the slot of a handle and give back its entry. A stale handle frees nothing. -/
def remove? (arena : Arena α) (id : SlotId) : Option (α × Arena α) :=
  match arena.slot? id with
  | none => none
  | some slot =>
    match slot.value with
    | none => none
    | some value =>
      some (value,
        { slots := arena.slots.set id.index { generation := slot.generation + 1 }
          free := id.index :: arena.free
          size := arena.size - 1 })

/-- The arena without the entry of a handle. -/
def erase (arena : Arena α) (id : SlotId) : Arena α :=
  match arena.remove? id with
  | none => arena
  | some (_, later) => later

/-- Entries of consecutive slots, the first of which has the given index. -/
def entriesFrom (index : Nat) : List (Slot α) → List (SlotId × α)
  | [] => []
  | slot :: rest =>
    match slot.value with
    | none => entriesFrom (index + 1) rest
    | some value => (⟨index, slot.generation⟩, value) :: entriesFrom (index + 1) rest

/-- All entries with their handles, by slot. -/
def toList (arena : Arena α) : List (SlotId × α) := entriesFrom 0 arena.slots

/-- Go through the entries of consecutive slots, the first of which has the given index, and change
each. What they were comes with the slots as they are then. -/
def visitFrom (change : SlotId → α → α) (index : Nat) :
    List (Slot α) → List (SlotId × α) × List (Slot α)
  | [] => ([], [])
  | slot :: rest =>
    let (visited, later) := visitFrom change (index + 1) rest
    match slot.value with
    | none => (visited, slot :: later)
    | some value =>
      let id : SlotId := ⟨index, slot.generation⟩
      ((id, value) :: visited, { slot with value := some (change id value) } :: later)

/-- Go through all entries by slot and change each: the entries as they were met, and the arena
afterwards. -/
def visit (arena : Arena α) (change : SlotId → α → α) : List (SlotId × α) × Arena α :=
  let (visited, slots) := visitFrom change 0 arena.slots
  (visited, { arena with slots })

def map (arena : Arena α) (change : α → α) : Arena α := (arena.visit fun _ => change).2

end Arena

end PipeBus

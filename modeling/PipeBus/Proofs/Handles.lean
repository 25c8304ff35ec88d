import Mathlib.Data.List.DropRight
import PipeBus.Proofs.Generations
import PipeBus.Proofs.Switchboard

/-! The handles of input pipes. A slot that is freed moves on to its next generation, so that pipes
opened in the same slot have different handles until the generations have come round. Main
statements: no handle is given out twice, and none frees a pipe twice, in a run that does not use
any slot so often (`Reaches.handle_once`, `Reaches.freed_once`). -/

namespace PipeBus

theorem Registry.ages_closeInput {κ : Type} (registry : Registry κ) (id : SlotId) :
    registry.inputs.Ages (registry.closeInput id).2.inputs := by
  rcases registry.closeInput_cases id with ⟨_, same⟩ | ⟨entry, inputs, removed, same⟩ <;> rw [same]
  · exact .refl registry.inputs
  · exact Arena.ages_remove? removed

namespace Switchboard

def Event.opensIn (index : Nat) : Event → Bool
  | .opened id _ => id.index == index
  | _ => false

def openings (events : List Event) (index : Nat) : Nat := events.countP (Event.opensIn index)

/-- No slot has been used again as often as there are generations. The first use is not counted. -/
def Sparing (events : List Event) : Prop := ∀ index, openings events index ≤ 2 ^ 32

/-- The generations of slots and handles count the openings. -/
structure Aged (events : List Event) (registry : Registry Nat) : Prop where
  slots : ∀ index slot, registry.inputs.slots[index]? = some slot →
    ∃ freed, openings events index = freed + slot.value.isSome.toNat ∧
      slot.generation = UInt32.ofNat freed
  handles : ∀ place id port, events[place]? = some (.opened id port) →
    id.generation = UInt32.ofNat (openings (events.take place) id.index)

variable {events : List Event} {registry later : Registry Nat} {event : Event} {id : SlotId}
  {port : UInt16}

theorem openings_concat (events : List Event) (event : Event) (index : Nat) :
    openings (events ++ [event]) index =
      openings events index + if event.opensIn index then 1 else 0 := by
  rw [openings, List.countP_append, List.countP_singleton, openings]

theorem openings_le_length (events : List Event) (index : Nat) :
    openings events index ≤ events.length :=
  List.countP_le_length

theorem Sparing.of_prefix {whole : List Event} (sparing : Sparing whole)
    (early : events <+: whole) : Sparing events :=
  fun index => Nat.le_trans (early.sublist.countP_le) (sparing index)

theorem Aged.handles_concat (aged : Aged events registry)
    (opened : ∀ id port, event = .opened id port →
      id.generation = UInt32.ofNat (openings events id.index)) :
    ∀ place id port, (events ++ [event])[place]? = some (.opened id port) →
      id.generation = UInt32.ofNat (openings ((events ++ [event]).take place) id.index) := by
  intro place id port found
  rcases Nat.lt_trichotomy place events.length with early | rfl | late
  · rw [List.getElem?_append_left early] at found
    rw [List.take_append_of_le_length (Nat.le_of_lt early)]
    exact aged.handles place id port found
  · rw [List.getElem?_concat_length] at found
    rw [List.take_left]
    exact opened id port (Option.some.inj found)
  · have inside := (List.getElem?_eq_some_iff.mp found).1
    rw [List.length_append, List.length_singleton] at inside
    omega

theorem Aged.concat (aged : Aged events registry) (other : ∀ id port, event ≠ .opened id port)
    (ages : registry.inputs.Ages later.inputs) : Aged (events ++ [event]) later where
  slots index slot found := by
    have opens : event.opensIn index = false := by
      cases event with
      | opened id port => exact absurd rfl (other id port)
      | _ => rfl
    rw [openings_concat, opens, if_neg Bool.false_ne_true, Nat.add_zero]
    exact Arena.Counts.ages aged.slots ages index slot found
  handles := aged.handles_concat fun id port same => absurd same (other id port)

theorem Aged.opened (aged : Aged events registry) (sound : Sound events registry)
    (opened : registry.openInput events.length = (.ok (id, port), later)) :
    Aged (events ++ [.opened id port]) later := by
  obtain ⟨_, _, stored, _, _⟩ := Registry.openInput_inserts opened
  obtain ⟨age, counts⟩ := Arena.Counts.insert? aged.slots sound.tidy stored
  refine ⟨fun index slot found => ?_, aged.handles_concat ?_⟩
  · rw [openings_concat]
    simpa only [Event.opensIn, beq_iff_eq] using counts index slot found
  · intro other number same
    cases same
    exact age

theorem Aged.step (aged : Aged events registry) (sound : Sound events registry)
    (step : Step events registry event later) : Aged (events ++ [event]) later := by
  have same (inputs : later.inputs = registry.inputs) : registry.inputs.Ages later.inputs :=
    inputs ▸ .refl registry.inputs
  cases step with
  | opened opened => exact aged.opened sound opened
  | refused refused => exact aged.concat nofun (same (Registry.openInput_eq_error refused))
  | @closed id freed _ closed =>
    have ages := registry.ages_closeInput id
    rw [closed] at ages
    exact aged.concat nofun ages
  | served errand => exact aged.concat nofun (same (errand.inputs_apply registry))
  | told _ found _ =>
    exact aged.concat nofun (Arena.ages_modify (Registry.listener?_eq_some.mp found).1 _)
  | ended | rejected | kept => exact aged.concat nofun (same rfl)
  | freed => exact aged.concat nofun (registry.ages_closeInput _)

theorem Reaches.aged (reaches : Reaches events registry) : Aged events registry := by
  induction reaches with
  | start inputs outputs attempts ports =>
    constructor
    · exact Arena.counts_ofCapacity inputs
    · intro place id port found
      have member := List.mem_of_getElem? found
      cases List.mem_singleton.mp member
  | step before step ih => exact ih.step before.sound step

theorem openings_mono {before after : List Event} (early : before <+: after) (index : Nat) :
    openings before index ≤ openings after index :=
  early.sublist.countP_le

theorem openings_take_succ {place : Nat} (found : events[place]? = some (.opened id port)) :
    openings (events.take (place + 1)) id.index = openings (events.take place) id.index + 1 := by
  rw [List.take_add_one, found, Option.toList_some, openings_concat, Event.opensIn,
    beq_self_eq_true, if_pos rfl]

/-- No handle is given out twice. -/
theorem Reaches.handle_once (reaches : Reaches events registry) (sparing : Sparing events)
    {first second : Nat} {other : UInt16} (found : events[first]? = some (.opened id port))
    (also : events[second]? = some (.opened id other)) : first = second := by
  -- Between two openings in a slot its generation moves on, and has not come round.
  have apart {first second : Nat} {port other : UInt16}
      (found : events[first]? = some (.opened id port))
      (also : events[second]? = some (.opened id other)) : ¬ first < second := by
    intro before
    have grown := openings_mono (events.take_prefix_take_left before) id.index
    rw [openings_take_succ found] at grown
    have bound := openings_mono (events.take_prefix (second + 1)) id.index
    rw [openings_take_succ also] at bound
    have few := sparing id.index
    have ages := (reaches.aged.handles first id port found).symm.trans
      (reaches.aged.handles second id other also)
    have size : UInt32.size = 2 ^ 32 := rfl
    have same := Slot.count_eq ages (by omega) (by omega)
    omega
  exact Nat.le_antisymm (Nat.not_lt.mp (apart also found)) (Nat.not_lt.mp (apart found also))

/-- A pipe that is open after a step has just been opened or was open before, with the same
receiver. -/
theorem Sound.open_cases {entry : InputEntry Nat} (sound : Sound events registry)
    (step : Step events registry event later) (stored : later.inputs.get? id = some entry) :
    (∃ port, event = .opened id port) ∧ entry.sink = events.length ∨
      ∃ old, registry.inputs.get? id = some old ∧ old.sink = entry.sink := by
  cases step with
  | opened opened =>
    obtain ⟨_, _, inserted, _, _⟩ := Registry.openInput_inserts opened
    rcases (sound.tidy.get?_insert?_iff inserted).mp stored with ⟨rfl, rfl⟩ | old
    · exact .inl ⟨⟨_, rfl⟩, rfl⟩
    · exact .inr ⟨entry, old, rfl⟩
  | refused refused => exact .inr ⟨entry, Registry.openInput_eq_error refused ▸ stored, rfl⟩
  | closed closed =>
    have kept := (sound.closeInput _).2 id entry (by rw [closed]; exact stored)
    exact .inr ⟨entry, kept, rfl⟩
  | served errand => exact .inr ⟨entry, errand.inputs_apply registry ▸ stored, rfl⟩
  | told _ found _ =>
    have before := (Registry.listener?_eq_some.mp found).1
    rcases (Arena.get?_modify_iff before _).mp stored with ⟨rfl, rfl⟩ | ⟨_, old⟩
    · exact .inr ⟨_, before, rfl⟩
    · exact .inr ⟨entry, old, rfl⟩
  | ended | rejected | kept => exact .inr ⟨entry, stored, rfl⟩
  | freed => exact .inr ⟨entry, (sound.closeInput _).2 id entry stored, rfl⟩

/-- A pipe that is open before a step stays open, unless its handle is closed or it has come to its
end. -/
theorem Sound.stays_cases {entry : InputEntry Nat} (sound : Sound events registry)
    (step : Step events registry event later) (stored : registry.inputs.get? id = some entry) :
    later.inputOpen id = true ∨ event = .closed id true ∨
      ∃ pipe packet port, event = .routed packet true ∧ stage events = .ending pipe packet ∧
        events[pipe]? = some (.opened id port) := by
  have resolves {registry : Registry Nat} {entry : InputEntry Nat}
      (stored : registry.inputs.get? id = some entry) : registry.inputOpen id = true := by
    rw [Registry.inputOpen, Arena.contains, stored, Option.isSome_some]
  cases step with
  | opened opened =>
    obtain ⟨_, _, inserted, _, _⟩ := Registry.openInput_inserts opened
    exact .inl (resolves ((sound.tidy.get?_insert?_iff inserted).mpr (.inr stored)))
  | refused refused => exact .inl (resolves (Registry.openInput_eq_error refused ▸ stored))
  | @closed other freed _ closed =>
    by_cases same : id = other
    · subst same
      rcases registry.closeInput_cases id with ⟨absent, _⟩ | ⟨_, _, _, removed⟩
      · rw [stored] at absent
        cases absent
      · rw [removed] at closed
        cases closed
        exact .inr (.inl rfl)
    · have kept := (registry.get?_closeInput_iff other).mpr ⟨same, stored⟩
      rw [closed] at kept
      exact .inl (resolves kept)
  | served errand => exact .inl (resolves (errand.inputs_apply registry ▸ stored))
  | @told _ other _ _ found _ =>
    have before := (Registry.listener?_eq_some.mp found).1
    by_cases same : id = other
    · exact .inl (resolves ((Arena.get?_modify_iff before _).mpr (.inl ⟨same, rfl⟩)))
    · exact .inl (resolves ((Arena.get?_modify_iff before _).mpr (.inr ⟨same, stored⟩)))
  | ended | rejected | kept => exact .inl (resolves stored)
  | @freed pipe packet other port ending known =>
    by_cases same : id = other
    · subst same
      exact .inr (.inr ⟨pipe, packet, port, rfl, ending, known⟩)
    · exact .inl (resolves ((registry.get?_closeInput_iff other).mpr ⟨same, stored⟩))

/-- A handle that has freed its pipe does not resolve ever after. -/
theorem Reaches.spent (reaches : Reaches events registry) (sparing : Sparing events)
    (freed : Event.closed id true ∈ events) :
    (∃ port, Event.opened id port ∈ events) ∧ registry.inputs.get? id = none := by
  induction reaches with
  | start => cases List.mem_singleton.mp freed
  | @step events registry later event before step ih =>
    rcases List.mem_append.mp freed with old | new
    · obtain ⟨⟨port, opened⟩, gone⟩ := ih (sparing.of_prefix (List.prefix_append ..)) old
      refine ⟨⟨port, List.mem_append_left _ opened⟩, ?_⟩
      refine Option.eq_none_iff_forall_ne_some.mpr fun entry stored => ?_
      rcases before.sound.open_cases step stored with ⟨⟨again, rfl⟩, _⟩ | ⟨held, found, _⟩
      · obtain ⟨place, found⟩ := List.getElem?_of_mem opened
        have inside := (List.getElem?_eq_some_iff.mp found).1
        have earlier : (events ++ [Event.opened id again])[place]? = some (.opened id port) := by
          rw [List.getElem?_append_left inside, found]
        have same := (before.step step).handle_once sparing earlier List.getElem?_concat_length
        exact Nat.ne_of_lt inside same
      · rw [gone] at found
        cases found
    · cases List.mem_singleton.mp new
      cases step with
      | closed closed =>
        rcases registry.closeInput_cases id with ⟨_, same⟩ | ⟨entry, _, removed, _⟩
        · rw [same] at closed
          cases closed
        · have gone := registry.get?_closeInput_self id
          rw [closed] at gone
          obtain ⟨port, entered⟩ := before.sound.entered id entry (Arena.get?_of_remove? removed)
          exact ⟨⟨port, List.mem_append_left _ (List.mem_of_getElem? entered.opening)⟩, gone⟩

/-- No handle frees a pipe twice. -/
theorem Reaches.freed_once (reaches : Reaches events registry) (sparing : Sparing events)
    (id : SlotId) : events.count (.closed id true) ≤ 1 := by
  induction reaches with
  | start => exact Nat.zero_le _
  | @step events registry later event before step ih =>
    have early := sparing.of_prefix (List.prefix_append events [event])
    rw [List.count_append, List.count_singleton]
    split
    · rename_i same
      cases eq_of_beq same
      have first : Event.closed id true ∉ events := by
        intro earlier
        cases step with
        | closed closed =>
          rcases registry.closeInput_cases id with ⟨_, same⟩ | ⟨entry, _, removed, _⟩
          · rw [same] at closed
            cases closed
          · have gone := (before.spent early earlier).2
            rw [Arena.get?_of_remove? removed] at gone
            cases gone
      rw [List.count_eq_zero_of_not_mem first]
    · exact ih early

def Event.isTelling : Event → Bool
  | .told _ delivery => delivery.packet?.isSome
  | _ => false

/-- What has happened since a packet was last told to a pipe. -/
def aftermath (events : List Event) : List Event :=
  events.rtakeWhile fun event => !event.isTelling

theorem aftermath_concat (events : List Event) (event : Event) :
    aftermath (events ++ [event]) =
      if event.isTelling then [] else aftermath events ++ [event] := by
  rw [aftermath, List.rtakeWhile_concat]
  cases event.isTelling <;> rfl

theorem place_of_mem_aftermath (member : event ∈ aftermath events) :
    ∃ place, events.length ≤ place + (aftermath events).length ∧ events[place]? = some event := by
  obtain ⟨early, whole⟩ := events.rtakeWhile_suffix fun event => !event.isTelling
  change early ++ aftermath events = events at whole
  obtain ⟨place, found⟩ := List.getElem?_of_mem member
  refine ⟨early.length + place, ?_, ?_⟩
  · have lengths := congrArg List.length whole
    rw [List.length_append] at lengths
    omega
  · rw [← found]
    conv_lhs => rw [← whole]
    rw [List.getElem?_append_right (Nat.le_add_right ..), Nat.add_sub_cancel_left]

theorem Event.isTelling_delivery (pipe : Nat) (packet : Packet) :
    (Event.told pipe packet.delivery).isTelling = true := by
  rw [isTelling, Packet.packet?_delivery, Option.isSome_some]

/-- The pipe whose receiver is being told something was opened before that began. -/
theorem Reaches.pipe_before (reaches : Reaches events registry) {pipe : Nat}
    (current : (stage events).pipe? = some pipe) :
    pipe + (aftermath events).length < events.length := by
  induction reaches with
  | start => cases current
  | @step events registry later event before step ih =>
    rw [stage_concat] at current
    rw [aftermath_concat, List.length_append, List.length_singleton]
    have still (same : (stage events).pipe? = some pipe) :
        pipe + (if event.isTelling then [] else aftermath events ++ [event]).length <
          events.length + 1 := by
      have known := ih same
      split
      · exact Nat.lt_succ_of_lt (Nat.lt_of_le_of_lt (Nat.le_add_right ..) known)
      · rw [List.length_append, List.length_singleton]
        exact Nat.succ_lt_succ known
    cases step with
    | told idle found counter =>
      rw [Stage.after_delivery] at current
      cases current
      obtain ⟨port, entered⟩ :=
        before.sound.entered _ _ (Registry.listener?_eq_some.mp found).1
      rw [Event.isTelling_delivery, if_pos rfl]
      exact Nat.lt_succ_of_lt entered.before
    | ended telling closes =>
      rw [telling] at current
      exact still (telling ▸ current)
    | rejected | kept | freed => cases current
    | opened | refused | closed | served => exact still current

/-- Every pipe opened since a packet was last told is open, unless its handle was closed since. -/
theorem Reaches.survivors (reaches : Reaches events registry) (sparing : Sparing events)
    (opened : Event.opened id port ∈ aftermath events)
    (unclosed : Event.closed id true ∉ aftermath events) : registry.inputOpen id = true := by
  induction reaches with
  | start => cases List.mem_singleton.mp opened
  | @step events registry later event before step ih =>
    have early := sparing.of_prefix (List.prefix_append events [event])
    rw [aftermath_concat] at opened unclosed
    split at opened
    · cases opened
    rename_i quiet
    rw [if_neg quiet] at unclosed
    rcases List.mem_append.mp opened with old | new
    · have found := ih early old fun closed => unclosed (List.mem_append_left _ closed)
      obtain ⟨entry, stored⟩ := Option.isSome_iff_exists.mp found
      rcases before.sound.stays_cases step stored with
        kept | rfl | ⟨pipe, packet, other, _, ending, known⟩
      · exact kept
      · exact absurd (List.mem_append_right _ (List.mem_singleton_self _)) unclosed
      · -- The pipe that has come to its end was opened earlier, so it has another handle.
        have current : (stage events).pipe? = some pipe := by
          rw [ending]
          rfl
        have past := before.pipe_before current
        obtain ⟨place, late, found⟩ := place_of_mem_aftermath old
        have same := before.handle_once early known found
        omega
    · cases List.mem_singleton.mp new
      cases step with
      | opened opened =>
        obtain ⟨_, _, inserted, _, _⟩ := Registry.openInput_inserts opened
        rw [Registry.inputOpen, Arena.contains, Arena.get?_of_insert? inserted, Option.isSome_some]

end Switchboard

end PipeBus

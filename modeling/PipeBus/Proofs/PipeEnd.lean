import PipeBus.Proofs.Handles

/-! How input pipes end. The receiver of a pipe is told of the end right after the packet that
closes the pipe, once, and nothing later; when the routing of that packet returns the pipe is gone,
and every pipe that was opened meanwhile is there. Main statement: that is so at every moment of a
run, whatever receivers do when they are told something (`Switchboard.orderly_throughout`). -/

namespace PipeBus.Switchboard

def Event.call? : Event → Option (Nat × Delivery)
  | .told pipe delivery => some (pipe, delivery)
  | _ => none

def calls (events : List Event) : List (Nat × Delivery) := events.filterMap Event.call?

/-- What is so of the ends of pipes, given the record of what happened. -/
structure Orderly (events : List Event) (registry : Registry Nat) : Prop where
  /-- The end of a pipe is told once, -/
  once : ∀ pipe, events.count (.told pipe .eof) ≤ 1
  /-- right after a packet that closes the pipe, -/
  prompted : ∀ past pipe, events = past ++ [.told pipe .eof] →
    ∃ packet : Packet, packet.word.isClose = true ∧
      (calls past).getLast? = some (pipe, packet.delivery)
  /-- and nothing is told after it. -/
  last : ∀ past pipe delivery, events = past ++ [.told pipe delivery] → .told pipe .eof ∉ past
  /-- When the routing of an accepted packet that closes a pipe returns, the receiver of that pipe
  has just been told both, and the pipe is not open. -/
  parted : ∀ past packet, events = past ++ [.routed packet true] → packet.word.isClose = true →
    ∃ earlier pipe id port, calls past = earlier ++ [(pipe, packet.delivery), (pipe, .eof)] ∧
      past[pipe]? = some (.opened id port) ∧ registry.inputOpen id = false
  /-- Every pipe that was opened since a packet was last told, in the callbacks of that packet or
  after them, is open unless its handle was closed since. -/
  survivors : ∀ id port, .opened id port ∈ aftermath events → .closed id true ∉ aftermath events →
    registry.inputOpen id = true
  /-- A handle frees a pipe once. -/
  freed : ∀ id, events.count (.closed id true) ≤ 1

variable {events past : List Event} {registry later : Registry Nat} {event : Event} {pipe : Nat}
  {packet : Packet}

theorem calls_concat (events : List Event) (event : Event) :
    calls (events ++ [event]) = calls events ++ event.call?.toList := by
  rw [calls, List.filterMap_append, calls]
  cases event <;> rfl

/-- The last calls while a packet is told. -/
def Stage.Shows (calls : List (Nat × Delivery)) : Stage → Prop
  | .idle => True
  | .telling pipe packet => ∃ earlier, calls = earlier ++ [(pipe, packet.delivery)]
  | .ending pipe packet => packet.word.isClose = true ∧
    ∃ earlier, calls = earlier ++ [(pipe, packet.delivery), (pipe, .eof)]

theorem Reaches.shows (reaches : Reaches events registry) :
    (stage events).Shows (calls events) := by
  induction reaches with
  | start => trivial
  | @step events registry later event before step ih =>
    rw [stage_concat, calls_concat]
    cases step with
    | told idle found counter =>
      rw [Stage.after_delivery]
      exact ⟨calls events, rfl⟩
    | @ended pipe packet telling closes =>
      rw [telling] at ih ⊢
      obtain ⟨earlier, known⟩ := ih
      refine ⟨closes, earlier, ?_⟩
      rw [known, List.append_assoc]
      rfl
    | rejected | kept | freed => trivial
    | opened | refused | closed | served =>
      change (stage events).Shows (calls events ++ [])
      rw [List.append_nil]
      exact ih

/-- A pipe has no receiver any more: it is not being told something, and it is not open. -/
def Silent (events : List Event) (registry : Registry Nat) (pipe : Nat) : Prop :=
  (stage events).pipe? ≠ some pipe ∧
    ∀ id entry, registry.inputs.get? id = some entry → entry.sink ≠ pipe

/-- Once its packet has been told, a pipe that has come to its end has no receiver any more. -/
theorem Reaches.ended_cases (reaches : Reaches events registry)
    (ended : Event.told pipe .eof ∈ events) :
    (∃ packet, stage events = .ending pipe packet) ∨ Silent events registry pipe := by
  induction reaches with
  | start => cases List.mem_singleton.mp ended
  | @step events registry later event before step ih =>
    have sound := before.sound
    have gone (old : Event.told pipe .eof ∈ events) (silent : Silent events registry pipe)
        (id : SlotId) (entry : InputEntry Nat) (stored : later.inputs.get? id = some entry) :
        entry.sink ≠ pipe := by
      rcases sound.open_cases step stored with ⟨_, fresh⟩ | ⟨held, found, same⟩
      · obtain ⟨place, found⟩ := List.getElem?_of_mem old
        have inside := (List.getElem?_eq_some_iff.mp found).1
        have named := sound.named place pipe .eof found
        omega
      · exact same ▸ silent.2 id held found
    have still (old : Event.told pipe .eof ∈ events)
        (other : ∀ packet, stage events ≠ .ending pipe packet) : Silent events registry pipe :=
      (ih old).resolve_left fun ⟨packet, ending⟩ => other packet ending
    rw [List.mem_append, List.mem_singleton] at ended
    rw [Silent, stage_concat]
    cases step with
    | @told packet id entry idle found counter =>
      have old := ended.resolve_right fun new => packet.delivery_ne_eof (Event.told.inj new).2.symm
      have silent := still old (by simp [idle])
      refine .inr ⟨?_, gone old silent⟩
      rw [Stage.after_delivery]
      intro same
      exact silent.2 id entry (Registry.listener?_eq_some.mp found).1 (Option.some.inj same)
    | @ended other packet telling closes =>
      rw [telling]
      by_cases same : other = pipe
      · subst same
        exact .inl ⟨packet, rfl⟩
      · have old := ended.resolve_right fun new => same (Event.told.inj new).1.symm
        have silent := still old (by simp [telling])
        exact .inr ⟨fun current => same (Option.some.inj current), gone old silent⟩
    | rejected idle refused =>
      have old := ended.resolve_right nofun
      exact .inr ⟨nofun, gone old (still old (by simp [idle]))⟩
    | kept telling stays =>
      have old := ended.resolve_right nofun
      exact .inr ⟨nofun, gone old (still old (by simp [telling]))⟩
    | @freed other packet id port ending known =>
      have old := ended.resolve_right nofun
      refine .inr ⟨nofun, ?_⟩
      by_cases same : other = pipe
      · -- Whatever is still open has another handle, so it was opened elsewhere in the record.
        rintro held entry stored rfl
        obtain ⟨different, found⟩ := (registry.get?_closeInput_iff id).mp stored
        obtain ⟨_, entered⟩ := sound.entered held entry found
        rw [same, entered.opening] at known
        cases known
        exact different rfl
      · exact gone old (still old (by simp [ending, same]))
    | opened | refused | closed | served =>
      have old := ended.resolve_right nofun
      exact (ih old).imp id fun silent => ⟨silent.1, gone old silent⟩

theorem Reaches.last_step (reaches : Reaches (past ++ [event]) later) :
    event = .started ∨ ∃ registry, Reaches past registry ∧ Step past registry event later := by
  generalize whole : past ++ [event] = events at reaches
  cases reaches with
  | start =>
    have alone : past ++ [event] = [] ++ [.started] := whole
    exact .inl (List.append_singleton_inj.mp alone).2
  | step before step =>
    obtain ⟨rfl, rfl⟩ := List.append_singleton_inj.mp whole
    exact .inr ⟨_, before, step⟩

/-- Nothing is told to a pipe after its end. -/
theorem Reaches.last_word {delivery : Delivery}
    (reaches : Reaches (past ++ [.told pipe delivery]) registry) :
    Event.told pipe .eof ∉ past := by
  intro ended
  obtain ⟨_, before, step⟩ := reaches.last_step.resolve_left nofun
  have cases := before.ended_cases ended
  cases step with
  | told idle found counter =>
    rcases cases with ⟨_, ending⟩ | ⟨_, gone⟩
    · rw [idle] at ending
      cases ending
    · exact gone _ _ (Registry.listener?_eq_some.mp found).1 rfl
  | ended telling closes =>
    rw [telling] at cases
    rcases cases with ⟨_, ending⟩ | ⟨other, _⟩
    · cases ending
    · exact other (by rw [telling]; rfl)

theorem Reaches.ended_once (reaches : Reaches events registry) (pipe : Nat) :
    events.count (.told pipe .eof) ≤ 1 := by
  induction reaches with
  | start => exact Nat.zero_le _
  | @step events registry later event before step ih =>
    rw [List.count_append, List.count_singleton]
    split
    · rename_i same
      cases eq_of_beq same
      rw [List.count_eq_zero_of_not_mem (before.step step).last_word]
    · exact ih

theorem Reaches.prompted (reaches : Reaches (past ++ [.told pipe .eof]) registry) :
    ∃ packet : Packet, packet.word.isClose = true ∧
      (calls past).getLast? = some (pipe, packet.delivery) := by
  obtain ⟨_, before, step⟩ := reaches.last_step.resolve_left nofun
  generalize told : Event.told pipe .eof = event at step
  cases step with
  | @told packet => exact absurd (Event.told.inj told).2.symm packet.delivery_ne_eof
  | @ended _ packet telling closes =>
    cases told
    have shows := before.shows
    rw [telling] at shows
    obtain ⟨earlier, known⟩ := shows
    exact ⟨packet, closes, by rw [known, List.getLast?_concat]⟩
  | _ => cases told

theorem Reaches.parted (reaches : Reaches (past ++ [.routed packet true]) registry)
    (closes : packet.word.isClose = true) :
    ∃ earlier pipe id port, calls past = earlier ++ [(pipe, packet.delivery), (pipe, .eof)] ∧
      past[pipe]? = some (.opened id port) ∧ registry.inputOpen id = false := by
  obtain ⟨table, before, step⟩ := reaches.last_step.resolve_left nofun
  have shows := before.shows
  cases step with
  | kept telling stays =>
    rw [closes] at stays
    cases stays
  | @freed pipe _ id port ending known =>
    rw [ending] at shows
    obtain ⟨_, earlier, told⟩ := shows
    refine ⟨earlier, pipe, id, port, told, known, ?_⟩
    rw [Registry.inputOpen, Arena.contains, table.get?_closeInput_self id, Option.isSome_none]

theorem Reaches.orderly (reaches : Reaches events registry) (sparing : Sparing events) :
    Orderly events registry where
  once := reaches.ended_once
  prompted _ _ same := (same ▸ reaches).prompted
  last _ _ _ same := (same ▸ reaches).last_word
  parted _ _ same := (same ▸ reaches).parted
  survivors _ _ := reaches.survivors sparing
  freed := reaches.freed_once sparing

/-- Whatever the receivers do, pipes end in good order at every moment of a run that uses no slot as
often as there are generations. -/
theorem orderly_throughout (inputs outputs attempts : Nat) (ports : Nat → UInt16)
    (reaction : Reaction) (operations : List Operation)
    (sparing : Sparing ((start inputs outputs attempts ports).run reaction operations).events) :
    ((start inputs outputs attempts ports).run reaction operations).Throughout Orderly := by
  intro past moment within
  have traced := (resting_run inputs outputs attempts ports reaction operations).traced
  have early := List.IsPrefix.map Moment.event within
  exact (traced.throughout past moment within).orderly (sparing.of_prefix early)

def parting : Packet where
  device := 1
  flags := Flag.command
  service := ServiceNumber.pipe
  command := 0x30a0
  data := []

/-- In a table for one pipe on one port, the receiver of the first pipe makes room for another one
when it is told a packet, and closes its handle once more at the end. -/
def takeover : Switchboard :=
  (start 1 0 1 fun _ => 97).run
    (fun _ _ delivery => if delivery = .eof then [.closePipe ⟨0, 0⟩]
      else [.closePipe ⟨0, 0⟩, .openPipe])
    [.act .openPipe, .route parting]

theorem events_takeover : takeover.events =
    [.started, .opened ⟨0, 0⟩ 97, .told 1 (.data parting), .closed ⟨0, 0⟩ true,
      .opened ⟨0, 1⟩ 97, .told 1 .eof, .closed ⟨0, 0⟩ false, .routed parting true] := by
  decide +kernel

theorem orderly_throughout_takeover : Sparing takeover.events ∧ takeover.Throughout Orderly := by
  have sparing : Sparing takeover.events := by
    intro index
    refine (openings_le_length takeover.events index).trans ?_
    rw [events_takeover]
    decide
  exact ⟨sparing, orderly_throughout _ _ _ _ _ _ sparing⟩

end PipeBus.Switchboard

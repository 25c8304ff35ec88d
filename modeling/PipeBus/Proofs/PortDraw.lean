import Mathlib.Data.Nat.Find
import PipeBus.Proofs.Recall
import PipeBus.Proofs.Switchboard

/-! How an input pipe comes by its port. Draws are masked, and taken one after the other until one
suits, as often as the limit allows. Main statement: in every table that receivers, packets and
other operations can lead to, opening a pipe takes just the draws up to the first that suits and
adds just one pipe, or fails and leaves all pipes as they were (`Switchboard.draws_throughout`). -/

namespace PipeBus

theorem PipeWord.port_ofPort (port : UInt16) : (ofPort port).port = port &&& maxPort := by
  rw [← numbered_zero, port_numbered]

theorem PipeWord.counter_ofPort (port : UInt16) : (ofPort port).counter = 0 := by
  rw [← UInt16.toNat_inj, ← numbered_zero, counter_numbered]
  rfl

namespace Registry

variable {κ : Type} {registry later : Registry κ} {sink : κ} {id : SlotId} {port : UInt16}

/-- Every slot for an input pipe is taken. -/
def Crowded (registry : Registry κ) : Prop :=
  ∀ index < registry.inputs.capacity, ∃ generation entry,
    registry.inputs.get? ⟨index, generation⟩ = some entry

def drawnPort (registry : Registry κ) (draw : Nat) : UInt16 := registry.ports draw &&& maxPort

/-- A new input pipe can be put on the port that comes of a draw. -/
def Suits (registry : Registry κ) (draw : Nat) : Prop :=
  registry.drawnPort draw ≠ 0 ∧ ∀ id entry, registry.inputs.get? id = some entry →
    entry.expected.port ≠ registry.drawnPort draw

/-- One table has the input pipes of another one, and a new one on a port. -/
structure Gains (before : Registry κ) (id : SlotId) (port : UInt16) (sink : κ)
    (after : Registry κ) : Prop where
  first : ∃ word, word.port = port ∧ word.counter = 0 ∧
    before.inputs.Gains id ⟨word, sink⟩ after.inputs
  /-- Besides its input pipes and the number of its draws, nothing of the table has changed. -/
  rest : after = { before with inputs := after.inputs, drawn := after.drawn }

/-- What opening an input pipe comes to. -/
structure Draws (registry : Registry κ) (sink : κ) : Prop where
  full : registry.Crowded → registry.openInput sink =
    (.error (.tableFull .input registry.inputs.capacity), registry)
  full_only : ∀ table capacity, (registry.openInput sink).1 = .error (.tableFull table capacity) →
    registry.Crowded
  /-- The first draw that suits is taken. -/
  opened : ¬ registry.Crowded → ∀ skipped < registry.attempts,
    registry.Suits (registry.drawn + skipped) →
    (∀ earlier < skipped, ¬ registry.Suits (registry.drawn + earlier)) → ∃ id later,
      registry.openInput sink = (.ok (id, registry.drawnPort (registry.drawn + skipped)), later) ∧
      registry.Gains id (registry.drawnPort (registry.drawn + skipped)) sink later ∧
      later.drawn = registry.drawn + skipped + 1
  exhausted : ¬ registry.Crowded →
    (∀ skipped < registry.attempts, ¬ registry.Suits (registry.drawn + skipped)) →
    registry.openInput sink = (.error (.noFreePort registry.attempts),
      { registry with drawn := registry.drawn + registry.attempts })
  /-- An attempt that fails is seen by the number of draws alone. -/
  failed : ∀ error later, registry.openInput sink = (.error error, later) →
    later = { registry with drawn := later.drawn }

theorem suits_iff (registry : Registry κ) (draw : Nat) :
    registry.Suits draw ↔ registry.isFreePort (registry.drawnPort draw) = true :=
  isFreePort_iff.symm

theorem drawPort_of_suits {attempts skipped : Nat} (within : skipped < attempts)
    (suits : registry.Suits (registry.drawn + skipped))
    (first : ∀ earlier < skipped, ¬ registry.Suits (registry.drawn + earlier)) :
    registry.drawPort attempts = (some (registry.drawnPort (registry.drawn + skipped)),
      { registry with drawn := registry.drawn + skipped + 1 }) := by
  induction attempts generalizing registry skipped with
  | zero => exact absurd within (Nat.not_lt_zero _)
  | succ attempts ih =>
    rw [drawPort]
    cases skipped with
    | zero => exact if_pos ((registry.suits_iff _).mp suits)
    | succ skipped =>
      have unsuited := mt (registry.suits_iff _).mpr (first 0 (Nat.succ_pos _))
      have next (count : Nat) : registry.drawn + 1 + count = registry.drawn + (count + 1) := by
        omega
      have later : { registry with drawn := registry.drawn + 1 }.Suits
          (registry.drawn + 1 + skipped) := by
        rw [next]
        exact suits
      have rest := ih (Nat.lt_of_succ_lt_succ within) later fun earlier below => by
        change ¬ registry.Suits (registry.drawn + 1 + earlier)
        rw [next]
        exact first (earlier + 1) (Nat.succ_lt_succ below)
      exact (if_neg unsuited).trans (next skipped ▸ rest)

theorem drawPort_of_unsuited {attempts : Nat}
    (unsuited : ∀ skipped < attempts, ¬ registry.Suits (registry.drawn + skipped)) :
    registry.drawPort attempts = (none, { registry with drawn := registry.drawn + attempts }) := by
  induction attempts generalizing registry with
  | zero => rfl
  | succ attempts ih =>
    have next (count : Nat) : registry.drawn + 1 + count = registry.drawn + (count + 1) := by
      omega
    have first := mt (registry.suits_iff _).mpr (unsuited 0 (Nat.succ_pos _))
    have later (skipped : Nat) (below : skipped < attempts) :
        ¬ { registry with drawn := registry.drawn + 1 }.Suits (registry.drawn + 1 + skipped) := by
      rw [next]
      exact unsuited (skipped + 1) (Nat.succ_lt_succ below)
    have rest := ih later
    rw [drawPort]
    exact (if_neg first).trans (next attempts ▸ rest)

theorem suits_or_unsuited (registry : Registry κ) :
    (∃ skipped < registry.attempts, registry.Suits (registry.drawn + skipped) ∧
      ∀ earlier < skipped, ¬ registry.Suits (registry.drawn + earlier)) ∨
    ∀ skipped < registry.attempts, ¬ registry.Suits (registry.drawn + skipped) := by
  classical
  by_cases some : ∃ skipped, skipped < registry.attempts ∧
      registry.Suits (registry.drawn + skipped)
  · obtain ⟨within, suits⟩ := Nat.find_spec some
    refine .inl ⟨Nat.find some, within, suits, fun earlier before also => ?_⟩
    exact Nat.find_min some before ⟨before.trans within, also⟩
  · exact .inr fun skipped within suits => some ⟨skipped, within, suits⟩

theorem crowded_iff (tidy : registry.inputs.Tidy) :
    registry.Crowded ↔ registry.inputs.isFull = true := by
  rw [Arena.isFull, List.isEmpty_iff, List.eq_nil_iff_forall_not_mem]
  refine forall_congr' fun index => ?_
  rw [tidy.mem_free_iff, not_and, not_forall]
  simp only [← ne_eq, Option.ne_none_iff_exists']

/-- Where there is room, a new pipe is put into the table and disturbs no other one. -/
theorem openInput_of_drawn (sink : κ) (tidy : registry.inputs.Tidy)
    (room : registry.inputs.isFull = false) {drawn : Nat}
    (draws : registry.drawPort registry.attempts =
      (some port, { registry with drawn := drawn })) : ∃ id later,
    registry.openInput sink = (.ok (id, port), later) ∧ later.drawn = drawn ∧
      registry.inputs.insert? ⟨PipeWord.ofPort port, sink⟩ = some (id, later.inputs) ∧
      later = { registry with inputs := later.inputs, drawn := later.drawn } := by
  cases stored : registry.inputs.insert? ⟨PipeWord.ofPort port, sink⟩ with
  | none =>
    rw [Arena.isFull, (Arena.insert?_eq_none tidy).mp stored] at room
    cases room
  | some handed =>
    refine ⟨handed.1, { registry with inputs := handed.2, drawn := drawn }, ?_, rfl, rfl, rfl⟩
    rw [openInput, room, draws]
    simp only [stored]
    rfl

theorem gains_of_insert? (tidy : registry.inputs.Tidy) (masked : port &&& maxPort = port)
    (stored : registry.inputs.insert? ⟨PipeWord.ofPort port, sink⟩ = some (id, later.inputs))
    (rest : later = { registry with inputs := later.inputs, drawn := later.drawn }) :
    registry.Gains id port sink later where
  first := by
    refine ⟨PipeWord.ofPort port, ?_, PipeWord.counter_ofPort port, tidy.gains stored⟩
    rw [PipeWord.port_ofPort, masked]
  rest := rest

theorem draws_of_tidy (tidy : registry.inputs.Tidy) (sink : κ) : registry.Draws sink := by
  have taken (crowded : registry.Crowded) : registry.openInput sink =
      (.error (.tableFull .input registry.inputs.capacity), registry) := by
    rw [openInput, if_pos ((crowded_iff tidy).mp crowded)]
  have opened (room : ¬ registry.Crowded) (skipped : Nat) (within : skipped < registry.attempts)
      (suits : registry.Suits (registry.drawn + skipped))
      (first : ∀ earlier < skipped, ¬ registry.Suits (registry.drawn + earlier)) : ∃ id later,
      registry.openInput sink = (.ok (id, registry.drawnPort (registry.drawn + skipped)), later) ∧
      registry.Gains id (registry.drawnPort (registry.drawn + skipped)) sink later ∧
      later.drawn = registry.drawn + skipped + 1 := by
    have free := Bool.eq_false_iff.mpr (mt (crowded_iff tidy).mpr room)
    have draws := drawPort_of_suits within suits first
    obtain ⟨id, later, answer, drawn, stored, rest⟩ := openInput_of_drawn sink tidy free draws
    have masked := (drawPort_eq_some draws).1
    exact ⟨id, later, answer, gains_of_insert? tidy masked stored rest, drawn⟩
  have exhausted (room : ¬ registry.Crowded)
      (unsuited : ∀ skipped < registry.attempts, ¬ registry.Suits (registry.drawn + skipped)) :
      registry.openInput sink = (.error (.noFreePort registry.attempts),
        { registry with drawn := registry.drawn + registry.attempts }) := by
    have free := mt (crowded_iff tidy).mpr room
    rw [openInput, if_neg free, drawPort_of_unsuited unsuited]
  refine ⟨taken, ?_, opened, exhausted, ?_⟩
  · intro table capacity full
    by_contra room
    rcases registry.suits_or_unsuited with ⟨skipped, within, suits, first⟩ | unsuited
    · obtain ⟨id, later, answer, _⟩ := opened room skipped within suits first
      rw [answer] at full
      cases full
    · rw [exhausted room unsuited] at full
      cases full
  · intro error later failed
    by_cases room : registry.Crowded
    · rw [taken room] at failed
      cases failed
      rfl
    · rcases registry.suits_or_unsuited with ⟨skipped, within, suits, first⟩ | unsuited
      · obtain ⟨id, later, answer, _⟩ := opened room skipped within suits first
        rw [answer] at failed
        cases failed
      · rw [exhausted room unsuited] at failed
        cases failed
        rfl

theorem drawPort_rest {attempts : Nat} {drawn : Option UInt16}
    (draws : registry.drawPort attempts = (drawn, later)) :
    later = { registry with drawn := later.drawn } := by
  induction attempts generalizing registry with
  | zero =>
    cases draws
    rfl
  | succ attempts ih =>
    rw [drawPort] at draws
    split at draws
    · cases draws
      rfl
    · have rest := ih draws
      exact rest

/-- Opening an input pipe is seen nowhere but at the input pipes and the draws. -/
theorem openInput_rest (registry : Registry κ) (sink : κ) :
    (registry.openInput sink).2 = { registry with
      inputs := (registry.openInput sink).2.inputs
      drawn := (registry.openInput sink).2.drawn } := by
  unfold openInput
  split
  · rfl
  · split
    · rename_i draws
      rw [drawPort_rest draws]
    · rename_i draws
      have rest := drawPort_rest draws
      split <;> rw [rest]

/-- A table whose ports come from this source, within this limit of draws. -/
structure Drawing (source : Nat → UInt16) (limit : Nat) (registry : Registry κ) : Prop where
  tidy : registry.inputs.Tidy
  ports : registry.ports = source
  attempts : registry.attempts = limit

section Drawing

variable {source : Nat → UInt16} {limit : Nat}

theorem drawing_create (inputs outputs attempts : Nat) (source : Nat → UInt16) :
    (create inputs outputs attempts source : Registry κ).Drawing source (max attempts 1) :=
  ⟨Arena.tidy_ofCapacity inputs, rfl, rfl⟩

theorem Drawing.openInput (drawing : registry.Drawing source limit) (sink : κ) :
    (registry.openInput sink).2.Drawing source limit := by
  obtain ⟨tidy, ports, attempts⟩ := drawing
  have rest := registry.openInput_rest sink
  rcases attempt : registry.openInput sink with ⟨error | ⟨id, port⟩, later⟩ <;>
    rw [attempt] at rest <;> rw [rest]
  · exact ⟨openInput_eq_error attempt ▸ tidy, ports, attempts⟩
  · obtain ⟨_, _, stored, _⟩ := openInput_inserts attempt
    exact ⟨(tidy.insert? stored).2, ports, attempts⟩

theorem Drawing.closeInput (drawing : registry.Drawing source limit) (id : SlotId) :
    (registry.closeInput id).2.Drawing source limit := by
  rcases registry.closeInput_cases id with ⟨_, same⟩ | ⟨entry, inputs, removed, same⟩ <;> rw [same]
  · exact drawing
  · exact ⟨drawing.tidy.remove? (Arena.get?_of_remove? removed) removed, drawing.ports,
      drawing.attempts⟩

theorem Drawing.advanced {entry : InputEntry κ} (drawing : registry.Drawing source limit)
    (stored : registry.inputs.get? id = some entry) :
    (registry.advanced id).Drawing source limit :=
  ⟨drawing.tidy.modify stored _, drawing.ports, drawing.attempts⟩

end Drawing

end Registry

namespace Switchboard

open Registry

variable {board : Switchboard} {source : Nat → UInt16} {limit : Nat}

/-- What is done for output pipes leaves the source of ports as it is. -/
theorem Errand.rest_apply {κ : Type} (errand : Errand) (registry : Registry κ) :
    (errand.apply registry).ports = registry.ports ∧
      (errand.apply registry).attempts = registry.attempts := by
  cases errand with
  | register device =>
    rw [apply, Registry.registerOutput]
    split <;> exact ⟨rfl, rfl⟩
  | unregister id =>
    rw [apply, Registry.unregisterOutput]
    split <;> exact ⟨rfl, rfl⟩
  | arm id crc =>
    rw [apply, Registry.arm]
    split <;> exact ⟨rfl, rfl⟩
  | disarm id => exact ⟨rfl, rfl⟩
  | answer packet =>
    rw [apply, Registry.processAck]
    split <;> exact ⟨rfl, rfl⟩
  | wait bell => exact ⟨rfl, rfl⟩

theorem Errand.drawing {registry : Registry Nat} (errand : Errand)
    (drawing : registry.Drawing source limit) : (errand.apply registry).Drawing source limit := by
  obtain ⟨ports, attempts⟩ := errand.rest_apply registry
  exact ⟨errand.inputs_apply registry ▸ drawing.tidy, ports.trans drawing.ports,
    attempts.trans drawing.attempts⟩

/-- The tables of a switchboard have all had their ports from this source. -/
structure Drawn (source : Nat → UInt16) (limit : Nat) (board : Switchboard) : Prop where
  now : board.registry.Drawing source limit
  since : ∀ moment ∈ board.log, moment.registry.Drawing source limit

theorem Drawn.note {registry : Registry Nat} (drawn : board.Drawn source limit) (event : Event)
    (drawing : registry.Drawing source limit) : (board.note event registry).Drawn source limit where
  now := drawing
  since moment member := by
    rcases List.mem_append.mp member with old | new
    · exact drawn.since moment old
    · rw [List.mem_singleton.mp new]
      exact drawing

theorem Drawn.act (drawn : board.Drawn source limit) (action : Action) :
    (board.act action).Drawn source limit := by
  cases action with
  | openPipe =>
    have opening := drawn.now.openInput board.log.length
    rw [Switchboard.act]
    split
    · rename_i opened
      rw [opened] at opening
      exact drawn.note _ opening
    · rename_i refused
      rw [refused] at opening
      exact drawn.note _ opening
  | closePipe id => exact drawn.note _ (drawn.now.closeInput id)
  | serve errand => exact drawn.note _ (errand.drawing drawn.now)

theorem Drawn.acts (drawn : board.Drawn source limit) (actions : List Action) :
    (actions.foldl (fun later action => later.act action) board).Drawn source limit := by
  induction actions generalizing board with
  | nil => exact drawn
  | cons action rest ih => exact ih (drawn.act action)

theorem Drawn.tell (drawn : board.Drawn source limit) (reaction : Reaction) (pipe : Nat)
    (delivery : Delivery) : (tell reaction pipe delivery board).Drawn source limit :=
  (drawn.note _ drawn.now).acts _

theorem Drawn.perform (drawn : board.Drawn source limit) (reaction : Reaction)
    (operation : Operation) : (board.perform reaction operation).Drawn source limit := by
  cases operation with
  | act action => exact drawn.act action
  | route packet =>
    rcases board.registry.accept?_cases packet with refused | ⟨id, entry, found, _, taken⟩
    · rw [perform_refused reaction refused]
      exact drawn.note _ drawn.now
    · have advanced := drawn.now.advanced (listener?_eq_some.mp found).1
      have taking : { board with registry := board.registry.advanced id }.Drawn source limit :=
        ⟨advanced, drawn.since⟩
      have told := taking.tell reaction entry.sink packet.delivery
      rw [perform_accepted reaction taken]
      dsimp only
      split
      · have ended := told.tell reaction entry.sink .eof
        exact ended.note _ (ended.now.closeInput id)
      · exact told.note _ told.now

theorem Drawn.run (drawn : board.Drawn source limit) (reaction : Reaction)
    (operations : List Operation) : (board.run reaction operations).Drawn source limit := by
  induction operations generalizing board with
  | nil => exact drawn
  | cons operation rest ih => exact ih (drawn.perform reaction operation)

theorem drawn_start (inputs outputs attempts : Nat) (source : Nat → UInt16) :
    (start inputs outputs attempts source).Drawn source (max attempts 1) where
  now := drawing_create inputs outputs attempts source
  since moment member := by
    rw [List.mem_singleton.mp member]
    exact drawing_create inputs outputs attempts source

/-- Whatever is done and whatever receivers do while they are told something, at every moment the
ports come from the source that the table was given, within its limit, and an input pipe is opened
on just the first draw that suits. -/
theorem draws_throughout (inputs outputs attempts : Nat) (source : Nat → UInt16)
    (reaction : Reaction) (operations : List Operation) :
    ((start inputs outputs attempts source).run reaction operations).Throughout fun _ registry =>
      registry.ports = source ∧ registry.attempts = max attempts 1 ∧
        ∀ sink, registry.Draws sink := by
  intro past moment within
  have drawn := (drawn_start inputs outputs attempts source).run reaction operations
  have member := within.subset (List.mem_append_right past (List.mem_singleton_self moment))
  obtain ⟨tidy, ports, limit⟩ := drawn.since moment member
  exact ⟨ports, limit, draws_of_tidy tidy⟩

end Switchboard

end PipeBus

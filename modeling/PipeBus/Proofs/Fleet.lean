import PipeBus.Proofs.Opening
import PipeBus.Proofs.Owner

/-! Any number of output pipes that share the waiters of one node. Pipes are opened, written to,
flushed, closed and dropped in any order, the steps of their calls in any interleaving with each
other and with acknowledgements. Main statement: a pipe that no call is made of is open just when its
own waiter is registered, one that is closed stays so and does nothing any more, and no pipe touches
the waiter of another (`Fleet.lifecycle`). -/

namespace PipeBus

variable {ε κ : Type}

/-- A node, and the pipes that have been opened on it, with their owners. -/
structure Fleet (ε κ : Type) where
  peer : Peer ε κ
  owners : List Owner := []
  /-- The handles of all waiters that have been registered. -/
  opened : List SlotId := []

namespace Fleet

inductive Move where
  | launch (device : UInt64) (port : UInt16)
  | act (place : Nat) (act : Owner.Act)
  /-- The node hears a packet, which may be an acknowledgement. -/
  | hear (packet : Packet)

def start (config : NodeConfig) (ports : Nat → UInt16) (rest : ε) : Fleet ε κ where
  peer := { node := Node.create config ports, rest }

def registry (fleet : Fleet ε κ) : Registry κ := fleet.peer.node.registry

def move (fleet : Fleet ε κ) : Move → Fleet ε κ
  | .launch device port =>
    match Peer.link.openOutput device port fleet.peer with
    | (.error _, peer) => { fleet with peer }
    | (.ok pipe, peer) =>
      { peer, owners := fleet.owners ++ [{ pipe }], opened := fleet.opened ++ [pipe.ack.slot] }
  | .act place act =>
    match fleet.owners[place]? with
    | none => fleet
    | some owner =>
      let (later, peer) := owner.act fleet.peer act
      { fleet with peer, owners := fleet.owners.set place later }
  | .hear packet =>
    { fleet with peer := fleet.peer.withRegistry (fleet.registry.processAck packet).2 }

def run (fleet : Fleet ε κ) (moves : List Move) : Fleet ε κ := moves.foldl move fleet

/-- How many of the handles name a slot. -/
def openings (slots : List SlotId) (index : Nat) : Nat := slots.countP fun id => id.index == index

/-- No slot has been used again as often as there are generations. The first use is not counted. -/
def Sparing (fleet : Fleet ε κ) : Prop := ∀ index, openings fleet.opened index ≤ 2 ^ 32

/-- Handles whose generations count the handles of the same slot before them. -/
inductive Numbered : List SlotId → Prop where
  | nil : Numbered []
  | concat {slots : List SlotId} {id : SlotId} (before : Numbered slots)
      (age : id.generation = UInt32.ofNat (openings slots id.index)) : Numbered (slots ++ [id])

variable {fleet : Fleet ε κ} {standing : Nat → Standing} {owner : Owner} {place : Nat}
  {slots : List SlotId} {id : SlotId}

theorem openings_concat (slots : List SlotId) (id : SlotId) (index : Nat) :
    openings (slots ++ [id]) index = openings slots index + if id.index = index then 1 else 0 := by
  rw [openings, List.countP_append, List.countP_singleton, openings]
  simp only [beq_iff_eq]

theorem Numbered.count_of_mem (numbered : Numbered slots) (member : id ∈ slots) :
    ∃ count < openings slots id.index, id.generation = UInt32.ofNat count := by
  induction numbered with
  | nil => cases member
  | @concat slots last before age ih =>
    rw [openings_concat]
    rcases List.mem_append.mp member with old | new
    · obtain ⟨count, low, same⟩ := ih old
      exact ⟨count, Nat.lt_add_right _ low, same⟩
    · obtain rfl := List.mem_singleton.mp new
      exact ⟨openings slots id.index, by rw [if_pos rfl]; exact Nat.lt_succ_self _, age⟩

/-- Between two uses of a slot its generation moves on, and has not come round. -/
theorem Numbered.nodup (numbered : Numbered slots)
    (sparing : ∀ index, openings slots index ≤ 2 ^ 32) : slots.Nodup := by
  induction numbered with
  | nil => exact .nil
  | @concat slots last before age ih =>
    have early (index : Nat) : openings slots index ≤ 2 ^ 32 := by
      have whole := sparing index
      rw [openings_concat] at whole
      omega
    refine List.nodup_append.mpr ⟨ih early, List.pairwise_singleton _ last, ?_⟩
    rintro id member _ new rfl
    obtain rfl := List.mem_singleton.mp new
    obtain ⟨count, low, same⟩ := before.count_of_mem member
    have whole := sparing id.index
    rw [openings_concat, if_pos rfl] at whole
    have size : UInt32.size = 2 ^ 32 := rfl
    have equal := Slot.count_eq (same.symm.trans age) (by omega) (by omega)
    omega

theorem move_act (found : fleet.owners[place]? = some owner) (act : Owner.Act) :
    fleet.move (.act place act) =
      { fleet with
        peer := (owner.act fleet.peer act).2
        owners := fleet.owners.set place (owner.act fleet.peer act).1 } := by
  rw [move, found]

/-- A pipe is opened with a handle and a waiter of its own, or nothing happens. -/
theorem launch_cases (fleet : Fleet ε κ) (device : UInt64) (port : UInt16) :
    fleet.move (.launch device port) = fleet ∨
      ∃ ack registry retry, fleet.registry.registerOutput device = (.ok ack, registry) ∧
        fleet.move (.launch device port) =
          { peer := fleet.peer.withRegistry registry
            owners := fleet.owners ++ [⟨.create device port ack retry, none, false, []⟩]
            opened := fleet.opened ++ [ack.slot] } := by
  rcases opened : Peer.link.openOutput device port fleet.peer with ⟨error | pipe, peer⟩
  · left
    rw [move, opened]
    unfold NodeLink.openOutput at opened
    split at opened
    · rename_i refused
      cases Registry.registerOutput_eq_error refused
      cases opened
      rfl
    · cases opened
  · right
    obtain ⟨ack, registry, registered, rfl, rfl⟩ := NodeLink.openOutput_eq_ok opened
    refine ⟨ack, registry, fleet.peer.node.config.retry, registered, ?_⟩
    rw [move, opened]
    rfl

/-- What holds between two moves, when it is given where each waiter stands. -/
structure Sound (fleet : Fleet ε κ) (standing : Nat → Standing) : Prop where
  tidy : fleet.registry.outputs.Tidy
  counts : fleet.registry.outputs.Counts (openings fleet.opened)
  numbered : Numbered fleet.opened
  handles : fleet.owners.map (fun owner => owner.pipe.ack.slot) = fleet.opened
  sits : ∀ (place : Nat) (owner : Owner), fleet.owners[place]? = some owner →
    owner.Sits (standing place)
  waits : ∀ (place : Nat) (owner : Owner), fleet.owners[place]? = some owner →
    fleet.registry.outputs.get? owner.pipe.ack.slot = (standing place).waiter? owner.pipe
  owned : ∀ id waiter, fleet.registry.outputs.get? id = some waiter → id ∈ fleet.opened

theorem Sound.handle (sound : fleet.Sound standing) (found : fleet.owners[place]? = some owner) :
    fleet.opened[place]? = some owner.pipe.ack.slot := by
  rw [← sound.handles, List.getElem?_map, found, Option.map_some]

theorem Sound.apart {other : Nat} {second : Owner} (sound : fleet.Sound standing)
    (sparing : fleet.Sparing) (found : fleet.owners[place]? = some owner)
    (also : fleet.owners[other]? = some second) (different : other ≠ place) :
    second.pipe.ack.slot ≠ owner.pipe.ack.slot := by
  intro same
  have twin : fleet.opened[other]? = some owner.pipe.ack.slot := same ▸ sound.handle also
  have inside := (List.getElem?_eq_some_iff.mp twin).1
  exact different ((List.getElem?_inj inside (sound.numbered.nodup sparing)).mp
    (twin.trans (sound.handle found).symm))

theorem sound_start (config : NodeConfig) (ports : Nat → UInt16) (rest : ε) :
    (start config ports rest : Fleet ε κ).Sound fun _ => .away where
  tidy := Arena.tidy_ofCapacity config.maxOutputs
  counts := Arena.counts_ofCapacity config.maxOutputs
  numbered := .nil
  handles := rfl
  sits _ _ := nofun
  waits _ _ := nofun
  owned id waiter found := by
    have absent : (Arena.ofCapacity config.maxOutputs : Arena AckWaiter).get? id = none :=
      Arena.get?_ofCapacity config.maxOutputs id
    cases absent.symm.trans found

theorem Sound.act (sound : fleet.Sound standing) (sparing : fleet.Sparing) (place : Nat)
    (act : Owner.Act) : ∃ later, (fleet.move (.act place act)).Sound later := by
  cases found : fleet.owners[place]? with
  | none =>
    refine ⟨standing, ?_⟩
    rw [move, found]
    exact sound
  | some owner =>
    obtain ⟨later, sits, follows, shifts⟩ :=
      (sound.sits place owner found).act sound.tidy (sound.waits place owner found) act
    have inside := (List.getElem?_eq_some_iff.mp found).1
    rw [move_act found act]
    refine ⟨Function.update standing place later, shifts.tidy, sound.counts.ages shifts.ages,
      sound.numbered, ?_, ?_, ?_, ?_⟩
    · obtain ⟨known, same⟩ := List.getElem?_eq_some_iff.mp (sound.handle found)
      rw [List.map_set, sound.handles, follows.handle, ← same]
      exact List.set_getElem_self known
    · intro other second among
      by_cases same : other = place
      · subst same
        rw [List.getElem?_set_self inside] at among
        cases among
        rwa [Function.update_self]
      · rw [List.getElem?_set_ne (Ne.symm same)] at among
        rw [Function.update_of_ne same]
        exact sound.sits other second among
    · intro other second among
      by_cases same : other = place
      · subst same
        rw [List.getElem?_set_self inside] at among
        cases among
        rw [Function.update_self, follows.handle, follows.waiter?]
        exact shifts.waits
      · rw [List.getElem?_set_ne (Ne.symm same)] at among
        rw [Function.update_of_ne same]
        exact (shifts.others _ (sound.apart sparing found among same)).trans
          (sound.waits other second among)
    · intro id waiter kept
      by_cases same : id = owner.pipe.ack.slot
      · rw [same]
        exact List.mem_of_getElem? (sound.handle found)
      · exact sound.owned id waiter ((shifts.others id same).symm.trans kept)

/-- An owner among some and one more is the last one or among the others. -/
theorem place_of_concat {owners : List Owner} {last : Owner}
    (among : (owners ++ [last])[place]? = some owner) :
    place = owners.length ∧ last = owner ∨ place ≠ owners.length ∧ owners[place]? = some owner := by
  rcases Nat.lt_trichotomy place owners.length with early | rfl | late
  · rw [List.getElem?_append_left early] at among
    exact .inr ⟨Nat.ne_of_lt early, among⟩
  · rw [List.getElem?_concat_length] at among
    exact .inl ⟨rfl, Option.some.inj among⟩
  · have inside := (List.getElem?_eq_some_iff.mp among).1
    rw [List.length_append, List.length_singleton] at inside
    omega

theorem Sound.launch (sound : fleet.Sound standing) (device : UInt64) (port : UInt16)
    (sparing : (fleet.move (.launch device port)).Sparing) :
    ∃ later, (fleet.move (.launch device port)).Sound later := by
  rcases fleet.launch_cases device port with same | ⟨ack, registry, retry, registered, same⟩
  · exact ⟨standing, same.symm ▸ sound⟩
  rw [same] at sparing ⊢
  have stored := Registry.registerOutput_inserts registered
  obtain ⟨age, counts⟩ := sound.counts.insert? sound.tidy stored
  have numbered : Numbered (fleet.opened ++ [ack.slot]) := .concat sound.numbered age
  have fresh : ack.slot ∉ fleet.opened := by
    have once := List.nodup_append.mp (numbered.nodup sparing)
    exact fun member => once.2.2 _ member _ (List.mem_singleton_self _) rfl
  have arrival (id : SlotId) (waiter : AckWaiter) : registry.outputs.get? id = some waiter ↔
      id = ack.slot ∧ ⟨device, none, ack.bell⟩ = waiter ∨
        fleet.registry.outputs.get? id = some waiter := sound.tidy.get?_insert?_iff stored
  refine ⟨Function.update standing fleet.owners.length .resting, (sound.tidy.insert? stored).2, ?_,
    numbered, ?_, ?_, ?_, ?_⟩
  · intro index slot found
    rw [openings_concat]
    exact counts index slot found
  · rw [List.map_append, sound.handles]
    rfl
  · intro place owner among
    rcases place_of_concat among with ⟨rfl, rfl⟩ | ⟨different, old⟩
    · rw [Function.update_self]
      exact ⟨.isOpen rfl rfl, List.forall_mem_nil _⟩
    · rw [Function.update_of_ne different]
      exact sound.sits place owner old
  · intro place owner among
    rcases place_of_concat among with ⟨rfl, rfl⟩ | ⟨different, old⟩
    · rw [Function.update_self]
      exact Arena.get?_of_insert? stored
    · rw [Function.update_of_ne different, ← sound.waits place owner old]
      refine Option.ext fun waiter => (arrival _ waiter).trans (or_iff_right ?_)
      rintro ⟨taken, _⟩
      exact fresh (taken ▸ List.mem_of_getElem? (sound.handle old))
  · intro id waiter found
    rcases (arrival id waiter).mp found with ⟨rfl, _⟩ | old
    · exact List.mem_append_right _ (List.mem_singleton_self _)
    · exact List.mem_append_left _ (sound.owned id waiter old)

theorem Sound.hear (sound : fleet.Sound standing) (packet : Packet) :
    (fleet.move (.hear packet)).Sound standing := by
  have same : (fleet.move (.hear packet)).registry.outputs = fleet.registry.outputs :=
    Registry.outputs_processAck fleet.registry packet
  refine ⟨?_, ?_, sound.numbered, sound.handles, sound.sits, ?_, ?_⟩
  · exact same ▸ sound.tidy
  · rw [same]
    exact sound.counts
  · intro place owner among
    rw [same]
    exact sound.waits place owner among
  · intro id waiter found
    rw [same] at found
    exact sound.owned id waiter found

theorem opened_move (fleet : Fleet ε κ) (move : Move) :
    fleet.opened <+: (fleet.move move).opened := by
  cases move with
  | launch device port =>
    rcases fleet.launch_cases device port with same | ⟨ack, registry, retry, _, same⟩
    · exact (congrArg Fleet.opened same).symm ▸ List.prefix_refl _
    · rw [same]
      exact List.prefix_append ..
  | act place act =>
    rw [Fleet.move]
    split <;> exact List.prefix_refl _
  | hear packet => exact List.prefix_refl _

theorem opened_run (fleet : Fleet ε κ) (moves : List Move) :
    fleet.opened <+: (fleet.run moves).opened := by
  induction moves generalizing fleet with
  | nil => exact List.prefix_refl _
  | cons move rest ih => exact (fleet.opened_move move).trans (ih (fleet.move move))

theorem Sparing.of_prefix {later : Fleet ε κ} (sparing : later.Sparing)
    (early : fleet.opened <+: later.opened) : fleet.Sparing :=
  fun index => Nat.le_trans early.sublist.countP_le (sparing index)

theorem Sound.move (sound : fleet.Sound standing) (move : Move)
    (sparing : (fleet.move move).Sparing) : ∃ later, (fleet.move move).Sound later := by
  cases move with
  | launch device port => exact sound.launch device port sparing
  | act place act => exact sound.act (sparing.of_prefix (fleet.opened_move _)) place act
  | hear packet => exact ⟨standing, sound.hear packet⟩

theorem Sound.run (sound : fleet.Sound standing) (moves : List Move)
    (sparing : (fleet.run moves).Sparing) : ∃ later, (fleet.run moves).Sound later := by
  induction moves generalizing fleet standing with
  | nil => exact ⟨standing, sound⟩
  | cons move rest ih =>
    obtain ⟨later, still⟩ := sound.move move (sparing.of_prefix (opened_run _ rest))
    exact ih still sparing

/-- What a fleet shows between two moves. -/
structure Coherent (fleet : Fleet ε κ) : Prop where
  /-- While no call is made of a pipe, its waiter is registered just when it is open, and expects
  nothing. -/
  waits : ∀ owner ∈ fleet.owners, owner.work = none →
    fleet.registry.outputs.get? owner.pipe.ack.slot =
      if owner.pipe.isOpen then some ⟨owner.pipe.device, none, owner.pipe.ack.bell⟩ else none
  empty : ∀ owner ∈ fleet.owners, owner.work = none → owner.pipe.isOpen = false →
    owner.pipe.staging = none
  unarmed : (∀ owner ∈ fleet.owners, owner.work = none) →
    ∀ entry ∈ fleet.registry.outputs.toList, entry.2.armed = none
  counted : (∀ owner ∈ fleet.owners, owner.work = none) →
    fleet.registry.openOutputs = fleet.owners.countP fun owner => owner.pipe.isOpen
  replies : ∀ owner ∈ fleet.owners, ∀ reply ∈ owner.replies, reply.Fits owner.pipe.device
  /-- What is done with one pipe leaves the others and their waiters alone. -/
  apart : ∀ (place other : Nat) (act : Owner.Act) (owner : Owner), other ≠ place →
    fleet.owners[other]? = some owner →
    (fleet.move (.act place act)).owners[other]? = some owner ∧
      (fleet.move (.act place act)).registry.outputs.get? owner.pipe.ack.slot =
        fleet.registry.outputs.get? owner.pipe.ack.slot

/-- A pipe that is closed and that no call is made of. Whatever is done with it does nothing to the
node, and every request has its reply at once. -/
def Spent (fleet : Fleet ε κ) (place : Nat) (pipe : OutputPipe) : Prop :=
  ∃ owner : Owner, fleet.owners[place]? = some owner ∧ owner.pipe = pipe ∧ owner.work = none ∧
    (∀ act, (fleet.move (.act place act)).peer = fleet.peer) ∧
    (owner.dropped = false → ∀ request, fleet.move (.act place (.ask request)) =
      { fleet with owners := fleet.owners.set place { owner with replies := owner.replies ++
        [⟨request, false, if request = .close then .ok () else .error .closed, false⟩] } })

theorem Sound.waits_idle (sound : fleet.Sound standing) (found : fleet.owners[place]? = some owner)
    (idle : owner.work = none) :
    fleet.registry.outputs.get? owner.pipe.ack.slot =
      (if owner.pipe.isOpen then some ⟨owner.pipe.device, none, owner.pipe.ack.bell⟩ else none) ∧
    (owner.pipe.isOpen = false → owner.pipe.Ended) := by
  have waits := sound.waits place owner found
  have stands := (sound.sits place owner found).stands
  generalize standing place = current at waits stands
  cases stands with
  | isOpen _ isOpen =>
    rw [if_pos isOpen]
    refine ⟨waits, fun closed => ?_⟩
    rw [isOpen] at closed
    cases closed
  | shut _ shut =>
    rw [shut.closed, if_neg Bool.false_ne_true]
    exact ⟨waits, fun _ => shut⟩
  | busy working =>
    rw [idle] at working
    cases working

/-- While no call is made of any pipe, the registered handles are those of the open pipes. -/
theorem Sound.counted (sound : fleet.Sound standing) (sparing : fleet.Sparing)
    (idle : ∀ owner ∈ fleet.owners, owner.work = none) :
    fleet.registry.openOutputs = fleet.owners.countP fun owner => owner.pipe.isOpen := by
  have once : ((fleet.owners.filter fun owner => owner.pipe.isOpen).map fun owner =>
      owner.pipe.ack.slot).Nodup :=
    (sound.handles ▸ sound.numbered.nodup sparing).sublist (List.filter_sublist.map _)
  have single : (fleet.registry.outputs.toList.map Prod.fst).Nodup := by
    refine List.pairwise_map.mpr ((Arena.pairwise_toList _).imp ?_)
    rintro first second before same
    exact Nat.ne_of_lt before (congrArg SlotId.index same)
  have same (id : SlotId) : id ∈ fleet.registry.outputs.toList.map Prod.fst ↔
      id ∈ (fleet.owners.filter fun owner => owner.pipe.isOpen).map fun owner =>
        owner.pipe.ack.slot := by
    simp only [List.mem_map, List.mem_filter, Prod.exists, exists_and_right, exists_eq_right]
    constructor
    · rintro ⟨waiter, member⟩
      have found := Arena.mem_toList.mp member
      have known := sound.owned id waiter found
      rw [← sound.handles] at known
      obtain ⟨owner, among, rfl⟩ := List.mem_map.mp known
      obtain ⟨place, there⟩ := List.getElem?_of_mem among
      refine ⟨owner, ⟨among, ?_⟩, rfl⟩
      have waits := (sound.waits_idle there (idle owner among)).1
      rw [found] at waits
      by_contra closed
      rw [if_neg closed] at waits
      cases waits
    · rintro ⟨owner, ⟨among, isOpen⟩, rfl⟩
      obtain ⟨place, there⟩ := List.getElem?_of_mem among
      have waits := (sound.waits_idle there (idle owner among)).1
      rw [if_pos isOpen] at waits
      exact ⟨_, Arena.mem_toList.mpr waits⟩
  have lengths := ((List.perm_ext_iff_of_nodup single once).mpr same).length_eq
  rw [List.length_map, List.length_map, ← List.countP_eq_length_filter] at lengths
  exact sound.tidy.counted.trans lengths

theorem Sound.coherent (sound : fleet.Sound standing) (sparing : fleet.Sparing) :
    fleet.Coherent where
  waits owner among idle := by
    obtain ⟨place, found⟩ := List.getElem?_of_mem among
    exact (sound.waits_idle found idle).1
  empty owner among idle closed := by
    obtain ⟨place, found⟩ := List.getElem?_of_mem among
    exact ((sound.waits_idle found idle).2 closed).empty
  unarmed idle := by
    rintro ⟨id, waiter⟩ member
    have registered := Arena.mem_toList.mp member
    have known := sound.owned id waiter registered
    rw [← sound.handles] at known
    obtain ⟨owner, among, rfl⟩ := List.mem_map.mp known
    obtain ⟨place, found⟩ := List.getElem?_of_mem among
    have waits := (sound.waits_idle found (idle owner among)).1
    rw [registered] at waits
    split at waits <;> cases waits
    rfl
  counted := sound.counted sparing
  replies owner among := by
    obtain ⟨place, found⟩ := List.getElem?_of_mem among
    exact (sound.sits place owner found).fits
  apart place other act owner different found := by
    cases there : fleet.owners[place]? with
    | none =>
      rw [Fleet.move, there]
      exact ⟨found, rfl⟩
    | some second =>
      obtain ⟨_, _, _, shifts⟩ :=
        (sound.sits place second there).act sound.tidy (sound.waits place second there) act
      rw [move_act there]
      refine ⟨?_, shifts.others _ (sound.apart sparing there found different)⟩
      rwa [List.getElem?_set_ne (Ne.symm different)]

/-- The pipe at a place, while no call is made of it. -/
def Idles (fleet : Fleet ε κ) (place : Nat) (pipe : OutputPipe) : Prop :=
  ∃ owner : Owner, fleet.owners[place]? = some owner ∧ owner.pipe = pipe ∧ owner.work = none

variable {pipe : OutputPipe}

theorem Idles.move (idles : fleet.Idles place pipe) (shut : pipe.Ended) (move : Move) :
    (fleet.move move).Idles place pipe := by
  obtain ⟨owner, found, rfl, idle⟩ := idles
  have inside := (List.getElem?_eq_some_iff.mp found).1
  cases move with
  | launch device port =>
    rcases fleet.launch_cases device port with same | ⟨ack, registry, retry, _, same⟩
    · exact same.symm ▸ ⟨owner, found, rfl, idle⟩
    · rw [same]
      exact ⟨owner, (List.getElem?_append_left inside).trans found, rfl, idle⟩
  | hear packet => exact ⟨owner, found, rfl, idle⟩
  | act other act =>
    by_cases same : other = place
    · subst same
      obtain ⟨_, kept, still⟩ := Owner.act_of_ended idle shut fleet.peer act
      rw [move_act found]
      exact ⟨_, List.getElem?_set_self inside, kept, still⟩
    · rw [Fleet.move]
      split
      · exact ⟨owner, found, rfl, idle⟩
      · exact ⟨owner, (List.getElem?_set_ne same).trans found, rfl, idle⟩

theorem Idles.run (idles : fleet.Idles place pipe) (shut : pipe.Ended) (moves : List Move) :
    (fleet.run moves).Idles place pipe := by
  induction moves generalizing fleet with
  | nil => exact idles
  | cons move rest ih => exact ih (idles.move shut move)

theorem Idles.spent (idles : fleet.Idles place pipe) (shut : pipe.Ended) :
    fleet.Spent place pipe := by
  obtain ⟨owner, found, rfl, idle⟩ := idles
  refine ⟨owner, found, rfl, idle, fun act => ?_, fun held request => ?_⟩
  · rw [move_act found]
    exact (Owner.act_of_ended idle shut fleet.peer act).1
  · rw [move_act found, Owner.act, Owner.goOn_of_closed request shut.closed, idle, held]
    rfl

/-- Whatever is done with pipes that share a node, and whatever the node hears: between calls, a pipe
is open just when its own waiter is registered, and a pipe that is closed has nothing done for it
ever after. -/
theorem lifecycle (config : NodeConfig) (ports : Nat → UInt16) (rest : ε) (early late : List Move)
    (sparing : ((start config ports rest : Fleet ε κ).run (early ++ late)).Sparing) :
    let fleet := (start config ports rest : Fleet ε κ).run early
    fleet.Coherent ∧ ∀ (place : Nat) (owner : Owner), fleet.owners[place]? = some owner →
      owner.work = none → owner.pipe.isOpen = false → (fleet.run late).Spent place owner.pipe := by
  intro fleet
  have whole : (start config ports rest : Fleet ε κ).run (early ++ late) = fleet.run late :=
    List.foldl_append
  rw [whole] at sparing
  have before := sparing.of_prefix (opened_run fleet late)
  obtain ⟨standing, sound⟩ := (sound_start config ports rest).run early before
  refine ⟨sound.coherent before, fun place owner found idle closed => ?_⟩
  have shut := (sound.waits_idle found idle).2 closed
  have idles : fleet.Idles place owner.pipe := ⟨owner, found, rfl, idle⟩
  exact (idles.run shut late).spent shut

/-- A pipe is closed and reset for want of an acknowledgement, and only dropped and asked to flush
when another pipe has been opened in its slot. -/
theorem lifecycle_reused :
    let early : List Move := [.launch 7 97, .act 0 (.ask .close), .act 0 .step, .act 0 .step,
      .act 0 .step]
    let late : List Move := [.launch 8 98, .act 0 (.ask .flush), .act 0 .drop]
    let start : Fleet Unit Unit := start { retry := { backoffLimit := 0 } } scatteredPorts ()
    (start.run (early ++ late)).opened = [⟨0, 0⟩, ⟨0, 1⟩] ∧ (start.run (early ++ late)).Sparing ∧
      (start.run early).Coherent ∧ ∃ owner : Owner, (start.run early).owners[0]? = some owner ∧
        owner.work = none ∧ owner.pipe.isOpen = false ∧
        ((start.run early).run late).Spent 0 owner.pipe := by
  intro early late start
  have opened : (start.run (early ++ late)).opened = [⟨0, 0⟩, ⟨0, 1⟩] := by decide +kernel
  have sparing : (start.run (early ++ late)).Sparing := by
    intro index
    rw [opened]
    exact Nat.le_trans List.countP_le_length (by decide)
  have reset : ((start.run early).owners[0]?.map fun owner =>
      (owner.work.isNone, owner.pipe.isOpen)) = some (true, false) := by decide +kernel
  obtain ⟨owner, found, shut⟩ := Option.map_eq_some_iff.mp reset
  obtain ⟨idle, closed⟩ := Prod.mk.inj shut
  have none := Option.isNone_iff_eq_none.mp idle
  have lives := lifecycle { retry := { backoffLimit := 0 } } scatteredPorts () early late sparing
  exact ⟨opened, sparing, lives.1, owner, found, none, closed,
    lives.2 0 owner found none closed⟩

end Fleet

end PipeBus

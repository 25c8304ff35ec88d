import PipeBus.Proofs.PortDraw
import PipeBus.Proofs.Standing

/-! What the holders of pipes have in the tables of a node. A lease is the waiter of an output pipe
together with an input pipe, under a number that the receiver of the input pipe knows. Others have
pipes at the same node. A waiter is told by its bell, which it shares with no other that was ever
registered, so that it does not matter how often its slot is used again. Main statement: whatever
happens at the node, no waiter and no input pipe with a number is in the tables but those of the
leases that are still held (`Registry.Books`). -/

namespace PipeBus

variable {κ : Type}

/-- What belongs together: a number, the waiter of an output pipe, and an input pipe. -/
structure Lease where
  id : Nat
  ack : AckHandle
  input : SlotId

/-- What tells the elements of a list apart tells them from another one, too. -/
theorem once_concat {α : Type} {alike : α → α → Prop} {list : List α} {last : α}
    (once : ∀ one ∈ list, ∀ two ∈ list, alike one two → one = two)
    (new : ∀ one ∈ list, ¬ alike one last ∧ ¬ alike last one) :
    ∀ one ∈ list ++ [last], ∀ two ∈ list ++ [last], alike one two → one = two := by
  intro one first two second same
  rcases List.mem_append.mp first with old | final <;>
    rcases List.mem_append.mp second with before | latest
  · exact once one old two before same
  · obtain rfl := List.mem_singleton.mp latest
    exact absurd same (new one old).1
  · obtain rfl := List.mem_singleton.mp final
    exact absurd same (new two before).2
  · exact (List.mem_singleton.mp final).trans (List.mem_singleton.mp latest).symm

namespace Registry

variable {registry later : Registry κ} {ack other : AckHandle} {waiter : AckWaiter}

/-- The waiter of a handle, unless it has been given up. A waiter that is in its slot since does not
count. -/
def ownWaiter? (registry : Registry κ) (ack : AckHandle) : Option AckWaiter :=
  (registry.outputs.get? ack.slot).filter fun waiter => waiter.bell == ack.bell

theorem ownWaiter?_eq_some :
    registry.ownWaiter? ack = some waiter ↔
      registry.outputs.get? ack.slot = some waiter ∧ waiter.bell = ack.bell := by
  rw [ownWaiter?, Option.filter_eq_some_iff, beq_iff_eq]

theorem ownWaiter?_congr
    (same : ∀ waiter : AckWaiter, waiter.bell = ack.bell →
      (later.outputs.get? ack.slot = some waiter ↔ registry.outputs.get? ack.slot = some waiter)) :
    later.ownWaiter? ack = registry.ownWaiter? ack := by
  apply Option.ext
  intro waiter
  rw [ownWaiter?_eq_some, ownWaiter?_eq_some]
  exact and_congr_left (same waiter)

theorem slot_ne {held : AckWaiter} (found : registry.ownWaiter? ack = some waiter)
    (also : registry.ownWaiter? other = some held) (different : other.bell ≠ ack.bell) :
    other.slot ≠ ack.slot := by
  obtain ⟨here, mine⟩ := ownWaiter?_eq_some.mp found
  obtain ⟨there, its⟩ := ownWaiter?_eq_some.mp also
  intro same
  rw [same, here] at there
  obtain rfl := Option.some.inj there
  exact different (its.symm.trans mine)

theorem get?_registerOutput_iff {device : UInt64} (tidy : registry.outputs.Tidy)
    (registered : registry.registerOutput device = (.ok ack, later)) (id : SlotId) :
    later.outputs.get? id = some waiter ↔
      id = ack.slot ∧ ⟨device, none, ack.bell⟩ = waiter ∨ registry.outputs.get? id = some waiter :=
  tidy.get?_insert?_iff (registerOutput_inserts registered)

theorem ownWaiter?_registerOutput {device : UInt64} (tidy : registry.outputs.Tidy)
    (registered : registry.registerOutput device = (.ok ack, later))
    (old : other.bell < registry.bells.length) :
    later.ownWaiter? other = registry.ownWaiter? other := by
  obtain ⟨_, _, _, rfl, _⟩ := registerOutput_eq_ok registered
  refine ownWaiter?_congr fun waiter mine => ?_
  rw [get?_registerOutput_iff tidy registered]
  refine or_iff_right ?_
  rintro ⟨_, rfl⟩
  exact Nat.ne_of_lt old mine.symm

theorem ownWaiter?_registered {device : UInt64}
    (registered : registry.registerOutput device = (.ok ack, later)) :
    later.ownWaiter? ack = some ⟨device, none, ack.bell⟩ :=
  ownWaiter?_eq_some.mpr ⟨Arena.get?_of_insert? (registerOutput_inserts registered), rfl⟩

theorem bell_registerOutput {device : UInt64}
    (registered : registry.registerOutput device = (.ok ack, later)) :
    ack.bell = registry.bells.length ∧ later.bells.length = registry.bells.length + 1 := by
  obtain ⟨_, _, _, rfl, rfl⟩ := registerOutput_eq_ok registered
  exact ⟨rfl, by rw [List.length_append, List.length_singleton]⟩

theorem bells_unregisterOutput (registry : Registry κ) (id : SlotId) :
    (registry.unregisterOutput id).2.bells = registry.bells := by
  unfold unregisterOutput
  split <;> rfl

theorem length_bells_arm (registry : Registry κ) (id : SlotId) (crc : UInt16) :
    (registry.arm id crc).bells.length = registry.bells.length := by
  unfold arm
  split
  · rfl
  · exact List.length_modify ..

theorem get?_unregisterOutput_iff (found : registry.ownWaiter? ack = some waiter) (id : SlotId)
    (held : AckWaiter) :
    (registry.unregisterOutput ack.slot).2.outputs.get? id = some held ↔
      id ≠ ack.slot ∧ registry.outputs.get? id = some held := by
  have freed := Arena.remove?_of_get? (ownWaiter?_eq_some.mp found).1
  rw [unregisterOutput, freed]
  exact Arena.get?_remove?_iff freed

theorem tidy_unregisterOutput (tidy : registry.outputs.Tidy)
    (found : registry.ownWaiter? ack = some waiter) :
    (registry.unregisterOutput ack.slot).2.outputs.Tidy := by
  have stored := (ownWaiter?_eq_some.mp found).1
  have freed := Arena.remove?_of_get? stored
  rw [unregisterOutput, freed]
  exact tidy.remove? stored freed

/-- One table has the pipes of another one. -/
structure Unmarked (before after : Registry κ) : Prop where
  outputs : after.outputs.Tidy
  same : ∀ id, after.outputs.get? id = before.outputs.get? id
  inputs : after.inputs = before.inputs
  bells : before.bells.length ≤ after.bells.length

theorem Unmarked.refl (tidy : registry.outputs.Tidy) : registry.Unmarked registry :=
  ⟨tidy, fun _ => rfl, rfl, Nat.le_refl _⟩

/-- A waiter that is given up again, because no input pipe could be opened, leaves just its bell. -/
theorem Unmarked.of_undone {device : UInt64} {first second : Registry κ} {sink : κ}
    {error : NodeError} (tidy : registry.outputs.Tidy)
    (registered : registry.registerOutput device = (.ok ack, first))
    (failed : first.openInput sink = (.error error, second)) :
    registry.Unmarked (second.unregisterOutput ack.slot).2 := by
  have inserted := registerOutput_inserts registered
  have rest := first.openInput_rest sink
  rw [failed] at rest
  have outputs : second.outputs = first.outputs := (congrArg Registry.outputs rest :)
  have bells : second.bells = first.bells := (congrArg Registry.bells rest :)
  have found : second.ownWaiter? ack = some ⟨device, none, ack.bell⟩ := by
    rw [ownWaiter?, outputs]
    exact ownWaiter?_registered registered
  refine ⟨tidy_unregisterOutput (outputs ▸ (tidy.insert? inserted).2) found, ?_, ?_, ?_⟩
  · intro id
    apply Option.ext
    intro held
    rw [get?_unregisterOutput_iff found, outputs, get?_registerOutput_iff tidy registered]
    constructor
    · rintro ⟨different, new | old⟩
      · exact absurd new.1 different
      · exact old
    · intro old
      refine ⟨?_, .inr old⟩
      rintro rfl
      rw [tidy.fresh inserted] at old
      cases old
  · rw [inputs_unregisterOutput, openInput_eq_error failed, (registerOutput_keeps registered).1]
  · rw [bells_unregisterOutput, bells, (bell_registerOutput registered).2]
    exact Nat.le_succ _

theorem ownWaiter?_unregisterOutput (found : registry.ownWaiter? ack = some waiter)
    (different : other.bell ≠ ack.bell) :
    (registry.unregisterOutput ack.slot).2.ownWaiter? other = registry.ownWaiter? other := by
  refine ownWaiter?_congr fun held its => ?_
  rw [get?_unregisterOutput_iff found]
  exact and_iff_right_of_imp fun there =>
    slot_ne found (ownWaiter?_eq_some.mpr ⟨there, its⟩) different

theorem Shifts.ownWaiter? {pipe : OutputPipe} {standing : Standing}
    (shifts : registry.Shifts later pipe standing)
    (found : registry.ownWaiter? pipe.ack = some waiter) (different : other.bell ≠ pipe.ack.bell) :
    later.ownWaiter? other = registry.ownWaiter? other := by
  refine ownWaiter?_congr fun held its => ?_
  by_cases same : other.slot = pipe.ack.slot
  · refine iff_of_false (fun waits => ?_) fun waits =>
      slot_ne found (ownWaiter?_eq_some.mpr ⟨waits, its⟩) different same
    rw [same, shifts.waits] at waits
    cases standing <;> cases waits <;> exact different its.symm
  · rw [shifts.others _ same]

theorem closeInput_tidies (id : SlotId) (tidy : registry.inputs.Tidy) :
    (registry.closeInput id).2.inputs.Tidy ∧
      (registry.closeInput id).2.outputs = registry.outputs ∧
      (registry.closeInput id).2.bells = registry.bells := by
  rcases registry.closeInput_cases id with ⟨_, same⟩ | ⟨_, _, removed, same⟩ <;> rw [same]
  · exact ⟨tidy, rfl, rfl⟩
  · exact ⟨tidy.remove? (Arena.get?_of_remove? removed) removed, rfl, rfl⟩

theorem Shifts.own {pipe : OutputPipe} {standing : Standing}
    (shifts : registry.Shifts later pipe standing) :
    later.ownWaiter? pipe.ack = standing.waiter? pipe := by
  rw [Registry.ownWaiter?, shifts.waits]
  cases standing with
  | away => rfl
  | resting | armed => exact Option.filter_some_pos (beq_self_eq_true _)

/-- The tables of a node, the leases that are held, all that were ever made, and the waiters of
others. -/
structure Books (registry : Registry (Option Nat)) (leases made : List Lease)
    (others : List AckHandle) : Prop where
  outputs : registry.outputs.Tidy
  inputs : registry.inputs.Tidy
  known : ∀ lease ∈ leases, lease ∈ made
  /-- Leases are told apart by their numbers, and by the bells of their waiters. -/
  once : ∀ one ∈ made, ∀ two ∈ made, one.id = two.id ∨ one.ack.bell = two.ack.bell → one = two
  apart : ∀ lease ∈ made, ∀ ack ∈ others, ack.bell ≠ lease.ack.bell
  distinct : others.Nodup
  single : ∀ one ∈ others, ∀ two ∈ others, one.bell = two.bell → one = two
  hung : ∀ lease ∈ made, lease.ack.bell < registry.bells.length
  lent : ∀ ack ∈ others,
    ack.bell < registry.bells.length ∧ (registry.ownWaiter? ack).isSome = true
  /-- Every waiter belongs to a lease or to somebody else. -/
  owned : ∀ id waiter, registry.outputs.get? id = some waiter →
    (∃ lease ∈ leases, lease.ack = ⟨id, waiter.bell⟩) ∨ ⟨id, waiter.bell⟩ ∈ others
  /-- Every input pipe with a number belongs to a lease. -/
  listens : ∀ id entry number, registry.inputs.get? id = some entry → entry.sink = some number →
    ∃ lease ∈ leases, lease.id = number ∧ lease.input = id

namespace Books

variable {registry later : Registry (Option Nat)} {leases made : List Lease}
  {others : List AckHandle} {ack : AckHandle}

theorem create (inputs outputs attempts : Nat) (ports : Nat → UInt16) :
    (Registry.create inputs outputs attempts ports).Books [] [] [] where
  outputs := Arena.tidy_ofCapacity outputs
  inputs := Arena.tidy_ofCapacity inputs
  known := nofun
  once := nofun
  apart := nofun
  distinct := .nil
  single := nofun
  hung := nofun
  lent := nofun
  owned id waiter found := by
    cases (Arena.get?_ofCapacity outputs id).symm.trans found
  listens id entry number found := by
    cases (Arena.get?_ofCapacity inputs id).symm.trans found

theorem gone (books : registry.Books leases made others) {lease : Lease} (known : lease ∈ made)
    (given : lease ∉ leases) :
    (∀ id waiter, registry.outputs.get? id = some waiter → waiter.bell ≠ lease.ack.bell) ∧
      ∀ id entry, registry.inputs.get? id = some entry → entry.sink ≠ some lease.id := by
  constructor
  · intro id waiter found same
    rcases books.owned id waiter found with ⟨held, among, its⟩ | lent
    · have bells : held.ack.bell = lease.ack.bell := by rw [its, same]
      obtain rfl := books.once held (books.known held among) lease known (.inr bells)
      exact given among
    · exact books.apart lease known _ lent same
  · intro id entry found same
    obtain ⟨held, among, number, _⟩ := books.listens id entry lease.id found same
    obtain rfl := books.once held (books.known held among) lease known (.inl number)
    exact given among

/-- What leaves the waiters as they are, and brings no input pipe with a number. -/
theorem steady (books : registry.Books leases made others) (outputs : later.outputs.Tidy)
    (same : ∀ id, later.outputs.get? id = registry.outputs.get? id)
    (bells : registry.bells.length ≤ later.bells.length) (inputs : later.inputs.Tidy)
    (entries : ∀ id entry, later.inputs.get? id = some entry →
      entry.sink = none ∨ ∃ old, registry.inputs.get? id = some old ∧ old.sink = entry.sink) :
    later.Books leases made others where
  outputs
  inputs
  known := books.known
  once := books.once
  apart := books.apart
  distinct := books.distinct
  single := books.single
  hung lease member := (books.hung lease member).trans_le bells
  lent ack member := by
    obtain ⟨old, registered⟩ := books.lent ack member
    refine ⟨old.trans_le bells, ?_⟩
    rw [ownWaiter?, same]
    exact registered
  owned id waiter found := books.owned id waiter (same id ▸ found)
  listens id entry number found sink := by
    rcases entries id entry found with nobody | ⟨old, before, kept⟩
    · rw [nobody] at sink
      cases sink
    · exact books.listens id old number before (kept.trans sink)

theorem register {device : UInt64} (books : registry.Books leases made others)
    (registered : registry.registerOutput device = (.ok ack, later)) :
    later.Books leases made (others ++ [ack]) := by
  obtain ⟨fresh, bells⟩ := bell_registerOutput registered
  have inputs := (registerOutput_keeps registered).1
  have new (other : AckHandle) (member : other ∈ others) : other.bell ≠ ack.bell :=
    fresh ▸ Nat.ne_of_lt (books.lent other member).1
  have hung (lease : Lease) (member : lease ∈ made) : lease.ack.bell < ack.bell :=
    fresh ▸ books.hung lease member
  exact {
    outputs := (books.outputs.insert? (registerOutput_inserts registered)).2
    inputs := inputs ▸ books.inputs
    known := books.known
    once := books.once
    apart := fun lease member => List.forall_mem_append.mpr ⟨books.apart lease member,
      List.forall_mem_singleton.mpr (Nat.ne_of_gt (hung lease member))⟩
    distinct := List.nodup_append.mpr ⟨books.distinct, List.pairwise_singleton _ ack,
      fun other member _ last same => new other member
        (congrArg AckHandle.bell (same.trans (List.mem_singleton.mp last)))⟩
    single := once_concat books.single fun one old => ⟨new one old, (new one old).symm⟩
    hung := fun lease member => by
      have early := books.hung lease member
      omega
    lent := by
      refine List.forall_mem_append.mpr ⟨fun other old => ?_, List.forall_mem_singleton.mpr ?_⟩
      · obtain ⟨early, known⟩ := books.lent other old
        rw [ownWaiter?_registerOutput books.outputs registered early]
        exact ⟨by omega, known⟩
      · rw [ownWaiter?_registered registered]
        exact ⟨by omega, rfl⟩
    owned := fun id waiter found => by
      rcases (get?_registerOutput_iff books.outputs registered id).mp found with ⟨rfl, rfl⟩ | old
      · exact .inr (List.mem_append_right _ (List.mem_singleton_self _))
      · exact (books.owned id waiter old).imp_right (List.mem_append_left _)
    listens := inputs ▸ books.listens }

theorem unregister (books : registry.Books leases made others) (member : ack ∈ others) :
    (registry.unregisterOutput ack.slot).2.Books leases made (others.erase ack) := by
  obtain ⟨waiter, found⟩ := Option.isSome_iff_exists.mp (books.lent ack member).2
  have inputs := inputs_unregisterOutput registry ack.slot
  have bells := bells_unregisterOutput registry ack.slot
  have kept {other : AckHandle} : other ∈ others.erase ack ↔ other ≠ ack ∧ other ∈ others :=
    books.distinct.mem_erase_iff
  exact {
    outputs := tidy_unregisterOutput books.outputs found
    inputs := inputs ▸ books.inputs
    known := books.known
    once := books.once
    apart := fun lease among other rest => books.apart lease among other (kept.mp rest).2
    distinct := books.distinct.erase ack
    single := fun one first two second =>
      books.single one (kept.mp first).2 two (kept.mp second).2
    hung := bells ▸ books.hung
    lent := fun other rest => by
      obtain ⟨different, old⟩ := kept.mp rest
      rw [bells, ownWaiter?_unregisterOutput found
        fun same => different (books.single other old ack member same)]
      exact books.lent other old
    owned := fun id held still => by
      obtain ⟨elsewhere, before⟩ := (get?_unregisterOutput_iff found id held).mp still
      refine (books.owned id held before).imp_right fun lent => kept.mpr ⟨?_, lent⟩
      rintro rfl
      exact elsewhere rfl
    listens := inputs ▸ books.listens }

/-- A new lease is made: a waiter is registered, and an input pipe is opened under a new number. -/
theorem grant {device : UInt64} {first : Registry (Option Nat)} {number : Nat} {id : SlotId}
    {port : UInt16} (books : registry.Books leases made others) (more : List Lease)
    (registered : registry.registerOutput device = (.ok ack, first))
    (opened : first.openInput (some number) = (.ok (id, port), later))
    (new : ∀ lease ∈ made, lease.id ≠ number)
    (among : ∀ lease, lease ∈ more ↔ lease ∈ leases ∨ lease = ⟨number, ack, id⟩) :
    later.Books more (made ++ [⟨number, ack, id⟩]) others := by
  obtain ⟨fresh, count⟩ := bell_registerOutput registered
  obtain ⟨_, _, stored, outputs, bells⟩ := openInput_inserts opened
  have same : first.inputs = registry.inputs := (registerOutput_keeps registered).1
  have tidy : first.inputs.Tidy := same ▸ books.inputs
  have hung (lease : Lease) (old : lease ∈ made) : lease.ack.bell < ack.bell :=
    fresh ▸ books.hung lease old
  have length : later.bells.length = ack.bell + 1 := by rw [bells, count, fresh]
  exact {
    outputs := outputs ▸ (books.outputs.insert? (registerOutput_inserts registered)).2
    inputs := (tidy.insert? stored).2
    known := fun lease member => by
      rcases (among lease).mp member with old | rfl
      · exact List.mem_append_left _ (books.known lease old)
      · exact List.mem_append_right _ (List.mem_singleton_self _)
    once := once_concat books.once fun lease old =>
      ⟨not_or.mpr ⟨new lease old, Nat.ne_of_lt (hung lease old)⟩,
        not_or.mpr ⟨(new lease old).symm, Nat.ne_of_gt (hung lease old)⟩⟩
    apart := List.forall_mem_append.mpr ⟨books.apart, List.forall_mem_singleton.mpr
      fun other lent => fresh ▸ Nat.ne_of_lt (books.lent other lent).1⟩
    distinct := books.distinct
    single := books.single
    hung := length ▸ List.forall_mem_append.mpr
      ⟨fun lease old => (hung lease old).trans (Nat.lt_succ_self _),
        List.forall_mem_singleton.mpr (Nat.lt_succ_self _)⟩
    lent := fun other lent => by
      obtain ⟨early, known⟩ := books.lent other lent
      have own := ownWaiter?_registerOutput books.outputs registered early
      rw [ownWaiter?, ← outputs, ← ownWaiter?] at own
      rw [own, length, fresh]
      exact ⟨early.trans (Nat.lt_succ_self _), known⟩
    owned := fun place waiter found => by
      rw [outputs] at found
      rcases (get?_registerOutput_iff books.outputs registered place).mp found with
        ⟨rfl, rfl⟩ | old
      · exact .inl ⟨_, (among _).mpr (.inr rfl), rfl⟩
      · refine (books.owned place waiter old).imp_left ?_
        rintro ⟨lease, member, its⟩
        exact ⟨lease, (among _).mpr (.inl member), its⟩
    listens := fun place entry wanted found sink => by
      rcases (tidy.get?_insert?_iff stored).mp found with ⟨rfl, rfl⟩ | old
      · exact ⟨_, (among _).mpr (.inr rfl), Option.some.inj sink, rfl⟩
      · obtain ⟨lease, member, its⟩ := books.listens place entry wanted (same ▸ old) sink
        exact ⟨lease, (among _).mpr (.inl member), its⟩ }

theorem shift {pipe : OutputPipe} {standing : Standing} {waiter : AckWaiter} {lease : Lease}
    (books : registry.Books leases made others) (member : lease ∈ leases)
    (mine : lease.ack = pipe.ack) (found : registry.ownWaiter? pipe.ack = some waiter)
    (shifts : registry.Shifts later pipe standing) (inputs : later.inputs = registry.inputs)
    (bells : later.bells.length = registry.bells.length) : later.Books leases made others where
  outputs := shifts.tidy
  inputs := inputs ▸ books.inputs
  known := books.known
  once := books.once
  apart := books.apart
  distinct := books.distinct
  single := books.single
  hung := bells ▸ books.hung
  lent other lent := by
    have different := books.apart lease (books.known lease member) other lent
    rw [bells, shifts.ownWaiter? found (mine ▸ different)]
    exact books.lent other lent
  owned id held stored := by
    by_cases same : id = pipe.ack.slot
    · rw [same, shifts.waits] at stored
      have bell : held.bell = pipe.ack.bell := by
        cases standing <;> cases stored <;> rfl
      exact .inl ⟨lease, member, by rw [mine, same, bell]⟩
    · exact books.owned id held (shifts.others id same ▸ stored)
  listens := inputs ▸ books.listens

/-- A lease ends: its waiter has been given up, and its input pipe is closed now. -/
theorem vacate {rest : List Lease} (books : registry.Books leases made others) (ended : Lease)
    (gone : registry.ownWaiter? ended.ack = none)
    (fewer : ∀ lease, lease ∈ rest → lease ∈ leases)
    (remaining : ∀ lease ∈ leases, lease ∈ rest ∨ lease = ended) :
    (registry.closeInput ended.input).2.Books rest made others := by
  obtain ⟨tidy, outputs, bells⟩ := closeInput_tidies ended.input books.inputs
  exact {
    outputs := outputs ▸ books.outputs
    inputs := tidy
    known := fun lease member => books.known lease (fewer lease member)
    once := books.once
    apart := books.apart
    distinct := books.distinct
    single := books.single
    hung := bells ▸ books.hung
    lent := fun other lent => by
      rw [bells, ownWaiter?, outputs]
      exact books.lent other lent
    owned := fun id waiter found => by
      rw [outputs] at found
      refine (books.owned id waiter found).imp_left ?_
      rintro ⟨lease, member, its⟩
      rcases remaining lease member with still | rfl
      · exact ⟨lease, still, its⟩
      · have registered : registry.ownWaiter? lease.ack = some waiter := by
          rw [its]
          exact ownWaiter?_eq_some.mpr ⟨found, rfl⟩
        cases gone.symm.trans registered
    listens := fun id entry number found sink => by
      obtain ⟨elsewhere, before⟩ := (registry.get?_closeInput_iff ended.input).mp found
      obtain ⟨lease, member, its, here⟩ := books.listens id entry number before sink
      rcases remaining lease member with still | rfl
      · exact ⟨lease, still, its, here⟩
      · exact absurd here.symm elsewhere }

theorem congr {same : List Lease} (books : registry.Books leases made others)
    (among : ∀ lease, lease ∈ same ↔ lease ∈ leases) : registry.Books same made others :=
  { books with
    known := fun lease member => books.known lease ((among lease).mp member)
    owned := by simpa only [among] using books.owned
    listens := by simpa only [among] using books.listens }

end Books

end Registry

end PipeBus

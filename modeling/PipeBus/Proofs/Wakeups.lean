import PipeBus.Proofs.AckTable
import PipeBus.Proofs.Recall

/-! Wake-ups and acknowledgements. Which waiters are posted, and what each is armed with, can be
told from what was done with the registry and what it answered (`Wakeups.post?`), and so can whether
a bell has been called for (`Wakeups.Called`). Main statement: a wait finds a bell rung just when it
has been called for, and an acknowledgement rings the bells of the waiters that expect it and
touches nothing else (`Wakeups.heeds_log`). -/

namespace PipeBus.Wakeups

variable {κ : Type}

inductive Act where
  | register (device : UInt64)
  | unregister (id : SlotId)
  | arm (id : SlotId) (crc : UInt16)
  | disarm (id : SlotId)
  | hear (packet : Packet)
  /-- Wait for a bell without patience. -/
  | wait (bell : Nat)

inductive Answer where
  | registered (ack : AckHandle)
  | refused (error : NodeError)
  | removed (present : Bool)
  | done
  | woken (count : Nat)
  | waited (rung : Bool)
  deriving DecidableEq

/-- What a registry answers when something is done with it, and the registry afterwards. -/
def perform (registry : Registry κ) : Act → Answer × Registry κ
  | .register device =>
    match registry.registerOutput device with
    | (.error error, later) => (.refused error, later)
    | (.ok ack, later) => (.registered ack, later)
  | .unregister id =>
    let (present, later) := registry.unregisterOutput id
    (.removed present, later)
  | .arm id crc => (.done, registry.arm id crc)
  | .disarm id => (.done, registry.disarm id)
  | .hear packet =>
    let (count, later) := registry.processAck packet
    (.woken count, later)
  | .wait bell =>
    let (rung, later) := registry.wait bell
    (.waited rung, later)

/-- What was done with a registry with what it answered, the latest first. -/
abbrev Log := List (Act × Answer)

def after (empty : Registry κ) : List Act → Registry κ
  | [] => empty
  | act :: earlier => (perform (after empty earlier) act).2

def log (empty : Registry κ) : List Act → Log
  | [] => []
  | act :: earlier => (act, (perform (after empty earlier) act).1) :: log empty earlier

/-- A waiter that is registered, as the log tells it. -/
structure Post where
  slot : SlotId
  device : UInt64
  armed : Option UInt16 := none
  deriving DecidableEq

/-- The post of a handle expects another acknowledgement, or none. -/
def Post.rearm (id : SlotId) (armed : Option UInt16) (post : Post) : Post :=
  if post.slot = id then { post with armed } else post

/-- The waiter of a bell after an entry of the log, given its waiter before. -/
def note (bell : Nat) (post : Option Post) : Act × Answer → Option Post
  | (.register device, .registered ack) =>
    if ack.bell = bell then some { slot := ack.slot, device } else post
  | (.unregister id, _) => post.filter fun post => post.slot != id
  | (.arm id crc, _) => post.map (Post.rearm id (some crc))
  | (.disarm id, _) => post.map (Post.rearm id none)
  | _ => post

def post? (bell : Nat) : Log → Option Post
  | [] => none
  | entry :: earlier => note bell (post? bell earlier) entry

/-- How many waiters were ever registered. Their bells are numbered in this order. -/
def registrations (log : Log) : Nat :=
  log.countP fun entry => match entry.2 with
    | .registered _ => true
    | _ => false

/-- Whether a packet is the acknowledgement that the waiter of a bell is armed with, from the device
it is for. -/
def expects (packet : Packet) (log : Log) (bell : Nat) : Bool :=
  packet.service == ServiceNumber.crcAck && (post? bell log).any fun post =>
    post.armed == some packet.command && post.device == packet.device

def calls (bell : Nat) (earlier : Log) : Act × Answer → Bool
  | (.hear packet, _) => expects packet earlier bell
  | _ => false

/-- Whether an entry of the log forgets earlier calls: the waiter of the bell is armed, or the bell
is waited for with success. An arm whose handle finds no waiter, or another one, is none. -/
def silences (bell : Nat) (earlier : Log) : Act × Answer → Bool
  | (.arm id _, _) => (post? bell earlier).any fun post => post.slot == id
  | (.wait other, .waited true) => other == bell
  | _ => false

/-- Since its waiter was armed and since it was last waited for with success, a bell was called for:
an acknowledgement came in that its waiter expected then. -/
def Called (bell : Nat) (log : Log) : Prop :=
  ∃ newer packet answer older, log = newer ++ (.hear packet, answer) :: older ∧
    expects packet older bell = true ∧
    ∀ later entry between, newer = later ++ entry :: between →
      silences bell (between ++ (.hear packet, answer) :: older) entry = false

theorem not_called_nil (bell : Nat) : ¬ Called bell [] := by
  rintro ⟨newer, packet, answer, older, split, _⟩
  cases newer <;> cases split

theorem called_cons {bell : Nat} {entry : Act × Answer} {earlier : Log} :
    Called bell (entry :: earlier) ↔
      calls bell earlier entry = true ∨
        Called bell earlier ∧ silences bell earlier entry = false := by
  constructor
  · rintro ⟨newer, packet, answer, older, split, expected, quiet⟩
    cases newer with
    | nil =>
      cases split
      exact .inl expected
    | cons latest newer =>
      obtain ⟨rfl, rfl⟩ := List.cons.inj split
      refine .inr ⟨⟨newer, packet, answer, older, rfl, expected, ?_⟩, quiet [] entry newer rfl⟩
      intro later other between parts
      exact quiet (entry :: later) other between (congrArg (entry :: ·) parts)
  · rintro (call | ⟨⟨newer, packet, answer, older, rfl, expected, quiet⟩, kept⟩)
    · unfold calls at call
      split at call
      · refine ⟨[], _, _, earlier, rfl, call, ?_⟩
        intro later other between parts
        cases later <;> cases parts
      · cases call
    · refine ⟨entry :: newer, packet, answer, older, rfl, expected, ?_⟩
      intro later other between parts
      cases later with
      | nil =>
        obtain ⟨rfl, rfl⟩ := List.cons.inj parts
        exact kept
      | cons first later => exact quiet later other between (List.cons.inj parts).2

/-! What a registry has of its log. -/

def Post.waiter (post : Post) (bell : Nat) : AckWaiter := ⟨post.device, post.armed, bell⟩

/-- A registry holds the waiters that its log tells of, and the bells that were called for are
rung. -/
structure Told (log : Log) (registry : Registry κ) : Prop where
  tidy : registry.outputs.Tidy
  numbered : registry.bells.length = registrations log
  posts : ∀ bell post, post? bell log = some post ↔
    registry.outputs.get? post.slot = some (post.waiter bell)
  known : ∀ bell post, post? bell log = some post → bell < registry.bells.length
  rung : ∀ bell, registry.rung bell = true ↔ Called bell log

theorem Told.create (inputs outputs attempts : Nat) (ports : Nat → UInt16) :
    Told [] (Registry.create inputs outputs attempts ports : Registry κ) where
  tidy := Arena.tidy_ofCapacity outputs
  numbered := rfl
  posts bell post := by
    have vacant := Arena.get?_ofCapacity (α := AckWaiter) outputs post.slot
    simp [Registry.create, vacant, post?]
  known bell post posted := by cases posted
  rung bell := by simp [Registry.rung, Registry.wait, Registry.create, not_called_nil]

section

variable {registry : Registry κ} {log : Log} {bell : Nat} {post : Post} {id : SlotId}

theorem Told.posted (told : Told log registry) {waiter : AckWaiter}
    (found : registry.outputs.get? id = some waiter) :
    post? waiter.bell log = some ⟨id, waiter.device, waiter.armed⟩ :=
  (told.posts waiter.bell ⟨id, waiter.device, waiter.armed⟩).mpr found

theorem Told.slot_ne (told : Told log registry) (absent : registry.outputs.get? id = none)
    (posted : post? bell log = some post) : post.slot ≠ id := by
  rintro rfl
  have found := (told.posts bell post).mp posted
  rw [absent] at found
  cases found

/-- The waiters stay as they are, and the bells are as the log tells. -/
theorem Told.keep (told : Told log registry) {entry : Act × Answer} {later : Registry κ}
    (same : ∀ bell, note bell (post? bell log) entry = post? bell log)
    (other : registrations (entry :: log) = registrations log)
    (outputs : later.outputs = registry.outputs)
    (length : later.bells.length = registry.bells.length)
    (rung : ∀ bell, later.rung bell = true ↔ Called bell (entry :: log)) :
    Told (entry :: log) later where
  tidy := outputs ▸ told.tidy
  numbered := by rw [length, told.numbered, other]
  posts bell post := by rw [post?, same, outputs, told.posts]
  known bell post posted := by
    rw [post?, same] at posted
    exact length ▸ told.known bell post posted
  rung := rung

/-- Something that neither calls for a bell nor forgets a call leaves the bells as they were. -/
theorem Told.silent (told : Told log registry) {entry : Act × Answer} {later : Registry κ}
    (same : later.rung bell = registry.rung bell) (quiet : calls bell log entry = false)
    (kept : silences bell log entry = false) :
    later.rung bell = true ↔ Called bell (entry :: log) := by
  rw [called_cons, same, told.rung, quiet, kept]
  simp

/-- A new bell is silent, as are those that there are not yet. -/
theorem getD_hung (bells : List Notify) (bell : Nat) :
    (bells ++ [({} : Notify)]).getD bell {} = bells.getD bell {} := by
  rw [List.getD, List.getD, List.getElem?_append]
  split
  · rfl
  · rename_i beyond
    rw [List.getElem?_eq_none (Nat.not_lt.mp beyond)]
    cases bell - bells.length <;> rfl

theorem Told.register {device : UInt64} {ack : AckHandle} {later : Registry κ}
    (told : Told log registry) (opened : registry.registerOutput device = (.ok ack, later)) :
    Told ((.register device, .registered ack) :: log) later := by
  obtain ⟨slot, outputs, stored, rfl, rfl⟩ := Registry.registerOutput_eq_ok opened
  constructor
  · exact (told.tidy.insert? stored).2
  · simp [registrations, told.numbered]
  · intro bell post
    rw [post?, note, told.tidy.get?_insert?_iff stored, ← told.posts]
    by_cases fresh : registry.bells.length = bell
    · subst fresh
      have unknown : post? registry.bells.length log ≠ some post :=
        fun posted => Nat.lt_irrefl _ (told.known _ post posted)
      rw [if_pos rfl, or_iff_left unknown]
      constructor
      · rintro ⟨⟩
        exact ⟨rfl, rfl⟩
      · obtain ⟨place, device, armed⟩ := post
        rintro ⟨rfl, same⟩
        cases same
        rfl
    · rw [if_neg fresh, or_iff_right]
      rintro ⟨_, same⟩
      exact fresh (congrArg AckWaiter.bell same)
  · intro bell post posted
    rw [post?, note] at posted
    rw [List.length_append]
    split at posted
    · rename_i fresh
      exact fresh ▸ Nat.lt_succ_self _
    · exact Nat.lt_succ_of_lt (told.known bell post posted)
  · intro bell
    exact told.silent (congrArg Notify.pending (getD_hung _ bell)) rfl rfl

theorem Told.unregister {present : Bool} {later : Registry κ} (told : Told log registry)
    (freed : registry.unregisterOutput id = (present, later)) :
    Told ((.unregister id, .removed present) :: log) later := by
  have rung (later : Registry κ) (same : later.bells = registry.bells) (bell : Nat) :
      later.rung bell = true ↔ Called bell ((.unregister id, .removed present) :: log) :=
    told.silent (by rw [Registry.rung_eq, same, Registry.rung_eq]) rfl rfl
  unfold Registry.unregisterOutput at freed
  split at freed
  · rename_i stale
    cases freed
    have absent := Arena.get?_of_remove?_none stale
    refine told.keep (fun bell => Option.ext fun post => ?_) rfl rfl rfl (rung _ rfl)
    rw [note, Option.filter_eq_some_iff, bne_iff_ne]
    exact and_iff_left_of_imp (told.slot_ne absent)
  · rename_i waiter outputs removed
    cases freed
    constructor
    · exact told.tidy.remove? (Arena.get?_of_remove? removed) removed
    · exact told.numbered
    · intro bell post
      rw [post?, note, Option.filter_eq_some_iff, bne_iff_ne, told.posts,
        Arena.get?_remove?_iff removed, and_comm]
    · intro bell post posted
      rw [post?, note, Option.filter_eq_some_iff] at posted
      exact told.known bell post posted.1
    · exact rung _ rfl

/-- A handle's waiter is armed or disarmed, and the bells are as the log tells. -/
theorem Told.rearm {armed : Option UInt16} {entry : Act × Answer} {later : Registry κ}
    (told : Told log registry)
    (noted : ∀ bell post, note bell post entry = post.map (Post.rearm id armed))
    (other : registrations (entry :: log) = registrations log)
    (outputs : later.outputs = registry.outputs.modify id fun old => { old with armed })
    (length : later.bells.length = registry.bells.length)
    (rung : ∀ bell, later.rung bell = true ↔ Called bell (entry :: log)) :
    Told (entry :: log) later where
  tidy := outputs ▸ (Arena.perform_outcome registry.outputs (.alter id _)).tidy told.tidy
  numbered := by rw [length, told.numbered, other]
  posts bell post := by
    rw [post?, noted, outputs, Option.map_eq_some_iff]
    cases found : registry.outputs.get? id with
    | none =>
      rw [Arena.modify_of_none found, ← told.posts]
      constructor
      · rintro ⟨old, posted, rfl⟩
        rwa [Post.rearm, if_neg (told.slot_ne found posted)]
      · intro posted
        exact ⟨post, posted, if_neg (told.slot_ne found posted)⟩
    | some waiter =>
      rw [Arena.get?_modify_iff found]
      constructor
      · rintro ⟨old, posted, rfl⟩
        have held := (told.posts bell old).mp posted
        by_cases same : old.slot = id
        · rw [same, found] at held
          cases held
          exact .inl (by rw [Post.rearm, if_pos same]; exact ⟨same, rfl⟩)
        · exact .inr (by rw [Post.rearm, if_neg same]; exact ⟨same, held⟩)
      · rintro (⟨rfl, same⟩ | ⟨different, held⟩)
        · obtain ⟨slot, device, now⟩ := post
          cases same
          exact ⟨_, told.posted found, if_pos rfl⟩
        · exact ⟨post, (told.posts bell post).mpr held, if_neg different⟩
  known bell post posted := by
    rw [post?, noted] at posted
    obtain ⟨old, before, _⟩ := Option.map_eq_some_iff.mp posted
    exact length ▸ told.known bell old before
  rung := rung

theorem rung_clear (bells : List Notify) (cleared bell : Nat) :
    ((bells.modify cleared Notify.clear).getD bell {}).pending =
      (!(cleared == bell) && (bells.getD bell {}).pending) := by
  rw [List.getD, List.getD, List.getElem?_modify]
  by_cases same : cleared = bell
  · cases bells[bell]? <;> simp [same, Notify.clear]
  · simp [same]

/-- An arm forgets the calls for the one bell whose waiter its handle finds. -/
theorem Told.silences_arm (told : Told log registry) {waiter : AckWaiter}
    (found : registry.outputs.get? id = some waiter) (crc : UInt16) (bell : Nat) (answer : Answer) :
    silences bell log (.arm id crc, answer) = (waiter.bell == bell) := by
  rw [silences, Bool.eq_iff_iff, Option.any_eq_true, beq_iff_eq]
  constructor
  · rintro ⟨post, posted, same⟩
    have held := (told.posts bell post).mp posted
    rw [beq_iff_eq.mp same, found] at held
    cases held
    rfl
  · rintro rfl
    exact ⟨_, told.posted found, beq_self_eq_true id⟩

theorem Told.arm (told : Told log registry) (id : SlotId) (crc : UInt16) :
    Told ((.arm id crc, .done) :: log) (registry.arm id crc) := by
  cases found : registry.outputs.get? id with
  | none =>
    have same : registry.arm id crc = registry := by rw [Registry.arm, found]
    have unheard (bell : Nat) : silences bell log (.arm id crc, .done) = false := by
      rw [silences, Option.any_eq_false]
      intro post posted
      simpa using told.slot_ne found posted
    rw [same]
    exact told.rearm (fun _ _ => rfl) rfl (Arena.modify_of_none found _).symm rfl
      fun bell => told.silent rfl rfl (unheard bell)
  | some waiter =>
    rw [Registry.arm, found]
    refine told.rearm (fun _ _ => rfl) rfl rfl (by simp) fun bell => ?_
    rw [called_cons, told.silences_arm found, ← told.rung, Registry.rung_eq, rung_clear]
    simp [calls, Registry.rung_eq, and_comm]

theorem Told.disarm (told : Told log registry) (id : SlotId) :
    Told ((.disarm id, .done) :: log) (registry.disarm id) :=
  told.rearm (fun _ _ => rfl) rfl rfl rfl fun _ => told.silent rfl rfl rfl

theorem Told.wait (told : Told log registry) (bell : Nat) :
    Told ((.wait bell, .waited (registry.rung bell)) :: log) (registry.wait bell).2 := by
  refine told.keep (fun _ => rfl) rfl rfl (by simp [Registry.wait]) fun other => ?_
  have cleared : (registry.wait bell).2.bells = registry.bells.modify bell Notify.clear := rfl
  rw [called_cons, ← told.rung, Registry.rung_eq, cleared, rung_clear]
  by_cases same : bell = other
  · subst same
    cases rung : registry.rung bell <;> simp [calls, silences]
  · cases rung : registry.rung bell <;> simp [calls, silences, Registry.rung_eq, same]

/-- The waiters that a packet wakes, if it is an acknowledgement. -/
def woken (registry : Registry κ) (packet : Packet) : List AckWaiter :=
  (registry.outputs.toList.map Prod.snd).filter (Registry.expects packet)

/-- An acknowledgement wakes the waiters that expect it, as the log tells. -/
theorem Told.mem_woken_bell (told : Told log registry) {packet : Packet}
    (isAck : packet.service = ServiceNumber.crcAck) :
    bell ∈ (woken registry packet).map AckWaiter.bell ↔ expects packet log bell = true := by
  simp only [expects, isAck, beq_self_eq_true, Bool.true_and, Option.any_eq_true, woken,
    List.mem_map, List.mem_filter, Registry.expects, Bool.and_eq_true]
  constructor
  · rintro ⟨waiter, ⟨⟨⟨id, held⟩, stored, rfl⟩, expected⟩, rfl⟩
    exact ⟨_, told.posted (Arena.mem_toList.mp stored), expected⟩
  · rintro ⟨post, posted, expected⟩
    have stored := Arena.mem_toList.mpr ((told.posts bell post).mp posted)
    exact ⟨post.waiter bell, ⟨⟨_, stored, rfl⟩, expected⟩, rfl⟩

theorem Told.nodup_woken (told : Told log registry) (packet : Packet) :
    ((woken registry packet).map AckWaiter.bell).Nodup := by
  have apart : registry.outputs.toList.Pairwise fun first second =>
      first.2.bell ≠ second.2.bell := by
    refine List.Pairwise.imp_of_mem ?_ (Arena.pairwise_toList registry.outputs)
    intro first second found also before same
    have posted := told.posted (Arena.mem_toList.mp found)
    rw [same, told.posted (Arena.mem_toList.mp also)] at posted
    have slots := congrArg SlotId.index (congrArg Post.slot (Option.some.inj posted))
    exact Nat.ne_of_gt before slots
  have waiters : (registry.outputs.toList.map Prod.snd).Pairwise fun first second =>
      first.bell ≠ second.bell := List.pairwise_map.mpr apart
  exact List.pairwise_map.mpr (waiters.filter _)

theorem Told.expects_lt (told : Told log registry) {packet : Packet}
    (expected : expects packet log bell = true) : bell < registrations log := by
  obtain ⟨_, wanted⟩ := Bool.and_eq_true_iff.mp expected
  obtain ⟨post, posted, _⟩ := (Option.any_eq_true _ _).mp wanted
  exact told.numbered ▸ told.known bell post posted

/-- An acknowledgement rings the bells of the waiters that expect it. -/
theorem Told.bells_hear (told : Told log registry) (packet : Packet) (bell : Nat) :
    (registry.processAck packet).2.bells[bell]? =
      if expects packet log bell then some ⟨true⟩ else registry.bells[bell]? := by
  by_cases isAck : packet.service = ServiceNumber.crcAck
  · have rung : ((woken registry packet).any fun waiter => waiter.bell == bell) =
        expects packet log bell := by
      rw [Bool.eq_iff_iff, ← told.mem_woken_bell isAck, List.any_eq_true, List.mem_map]
      simp only [beq_iff_eq]
    rw [Registry.processAck, if_neg (by simp [isAck]), Registry.getElem?_ring]
    change (if (woken registry packet).any _ = true then _ else _) = _
    rw [rung]
    split
    · rename_i expected
      have inside := told.numbered ▸ told.expects_lt expected
      rw [List.getElem?_eq_getElem inside]
      rfl
    · rfl
  · rw [Registry.processAck_of_other isAck, expects, beq_false_of_ne isAck]
    rfl

theorem Told.hear (told : Told log registry) (packet : Packet) :
    Told ((.hear packet, .woken (registry.processAck packet).1) :: log)
      (registry.processAck packet).2 := by
  refine told.keep (fun _ => rfl) rfl (Registry.outputs_processAck registry packet)
    (Registry.length_bells_processAck registry packet) fun bell => ?_
  have kept : silences bell log (.hear packet, .woken (registry.processAck packet).1) = false := rfl
  rw [called_cons, ← told.rung, kept, calls, Registry.rung_eq, List.getD, told.bells_hear]
  split
  · rename_i expected
    simp [expected]
  · rename_i other
    simp [other, Registry.rung_eq]

theorem Told.count_hear (told : Told log registry) (packet : Packet) :
    (registry.processAck packet).1 =
      ((List.range (registrations log)).filter (expects packet log)).length := by
  by_cases isAck : packet.service = ServiceNumber.crcAck
  · have same : ((woken registry packet).map AckWaiter.bell).Perm
        ((List.range (registrations log)).filter (expects packet log)) := by
      rw [List.perm_ext_iff_of_nodup (told.nodup_woken packet) (List.nodup_range.filter _)]
      intro bell
      rw [told.mem_woken_bell isAck, List.mem_filter, List.mem_range]
      exact (and_iff_right_of_imp told.expects_lt).symm
    rw [← same.length_eq, List.length_map, Registry.processAck, if_neg (by simp [isAck])]
    rfl
  · have none : (List.range (registrations log)).filter (expects packet log) = [] := by
      rw [List.filter_eq_nil_iff]
      intro bell _
      simp [expects, isAck]
    rw [none, Registry.processAck, if_pos (by simpa using isAck)]
    rfl

/-- Whatever is done with the waiters, the log goes on telling of them. -/
theorem Told.perform (told : Told log registry) (act : Act) :
    Told ((act, (Wakeups.perform registry act).1) :: log) (Wakeups.perform registry act).2 := by
  cases act with
  | register device =>
    rw [Wakeups.perform]
    split
    · rename_i full
      obtain rfl := Registry.registerOutput_eq_error full
      exact told.keep (fun _ => rfl) rfl rfl rfl fun _ => told.silent rfl rfl rfl
    · rename_i opened
      exact told.register opened
  | unregister id => exact told.unregister rfl
  | arm id crc => exact told.arm id crc
  | disarm id => exact told.disarm id
  | hear packet => exact told.hear packet
  | wait bell => exact told.wait bell

end

/-- A registry after any run: what it answers next is what its log tells. -/
structure Heeds (log : Log) (registry : Registry κ) : Prop where
  waits : ∀ bell, (registry.wait bell).1 = true ↔ Called bell log
  counts : ∀ packet, (registry.processAck packet).1 =
    ((List.range (registrations log)).filter (expects packet log)).length
  /-- A packet rings the bells of the waiters that expect it, and leaves all else alone. -/
  rings : ∀ packet, ∃ bells, (registry.processAck packet).2 = { registry with bells } ∧
    ∀ bell, bells[bell]? = if expects packet log bell then some ⟨true⟩ else registry.bells[bell]?
  deaf : ∀ packet, packet.service ≠ ServiceNumber.crcAck →
    registry.processAck packet = (0, registry)

theorem told_after (inputs outputs attempts : Nat) (ports : Nat → UInt16) (acts : List Act) :
    let empty : Registry κ := Registry.create inputs outputs attempts ports
    Told (log empty acts) (after empty acts) := by
  intro empty
  induction acts with
  | nil => exact Told.create inputs outputs attempts ports
  | cons act earlier ih => exact ih.perform act

/-- Whatever was done with the waiters of a registry, its bells are rung just when the log says that
they were called for, and a packet wakes just the waiters that the log says expect it. -/
theorem heeds_log (inputs outputs attempts : Nat) (ports : Nat → UInt16) (acts : List Act) :
    let empty : Registry κ := Registry.create inputs outputs attempts ports
    Heeds (log empty acts) (after empty acts) := by
  intro empty
  have told : Told (log empty acts) (after empty acts) :=
    told_after inputs outputs attempts ports acts
  constructor
  · exact told.rung
  · exact told.count_hear
  · intro packet
    refine ⟨((after empty acts).processAck packet).2.bells, ?_, told.bells_hear packet⟩
    rw [Registry.processAck]
    split <;> rfl
  · intro packet other
    rw [Registry.processAck, if_pos (by simpa using other)]

/-- Two pipes wait for one acknowledgement, which comes twice: each is woken, and once. -/
example :
    let ack : Packet := ⟨5, 0, ServiceNumber.crcAck, 7, []⟩
    let empty : Registry Unit := Registry.create 1 2 1 fun _ => 1
    let acts := [.wait 0, .wait 0, .hear ack, .hear ack, .arm ⟨1, 0⟩ 7, .arm ⟨0, 0⟩ 7,
      .register 5, .register 5]
    (log empty acts).map Prod.snd = [.waited false, .waited true, .woken 2, .woken 2, .done, .done,
      .registered ⟨⟨1, 0⟩, 1⟩, .registered ⟨⟨0, 0⟩, 0⟩] :=
  rfl

end PipeBus.Wakeups

import PipeBus.Proofs.Course
import PipeBus.Proofs.Generations
import PipeBus.Proofs.Peer

/-! Where the waiter of an output pipe stands while a call of the pipe is under way. A call arms a
waiter that rests, sends and waits only while it is armed, and gives it up only when it rests again;
what the call returns tells where it has left the waiter. -/

namespace PipeBus

variable {α β : Type}

/-- Where the waiter of a pipe stands. -/
inductive Standing where
  | away
  | resting
  | armed (crc : UInt16)
  deriving DecidableEq

/-- What is registered for a pipe whose waiter stands somewhere. -/
def Standing.waiter? (pipe : OutputPipe) : Standing → Option AckWaiter
  | .away => none
  | .resting => some ⟨pipe.device, none, pipe.ack.bell⟩
  | .armed crc => some ⟨pipe.device, some crc, pipe.ack.bell⟩

/-- A call that minds the waiter of its pipe, whatever its waits come to. -/
inductive Call.Minds (post : Standing → α → Prop) : Standing → Call α → Prop where
  | done {standing : Standing} {value : α} (ends : post standing value) :
      Minds post standing (.done value)
  | arm {crc : UInt16} {next : Call α} (rest : Minds post (.armed crc) next) :
      Minds post .resting (.arm crc next)
  | send {crc : UInt16} {frame : Frame} {next : Call α} (expected : frame.crc = crc)
      (rest : Minds post (.armed crc) next) : Minds post (.armed crc) (.send frame next)
  | wait {crc : UInt16} {delay : Duration} {next : Bool → Call α}
      (rest : ∀ acked, Minds post (.armed crc) (next acked)) :
      Minds post (.armed crc) (.wait delay next)
  | disarm {crc : UInt16} {next : Call α} (rest : Minds post .resting next) :
      Minds post (.armed crc) (.disarm next)
  | release {next : Call α} (rest : Minds post .away next) :
      Minds post .resting (.release next)

theorem Call.Minds.bind {post : Standing → α → Prop} {further : Standing → β → Prop}
    {standing : Standing} {call : Call α} {next : α → Call β} (minds : call.Minds post standing)
    (continues : ∀ later value, post later value → (next value).Minds further later) :
    (call.bind next).Minds further standing := by
  induction minds with
  | done ends => exact continues _ _ ends
  | arm _ ih => exact .arm ih
  | send expected _ ih => exact .send expected ih
  | wait _ ih => exact .wait ih
  | disarm _ ih => exact .disarm ih
  | release _ ih => exact .release ih

theorem Call.Minds.mono {post further : Standing → α → Prop} {standing : Standing} {call : Call α}
    (minds : call.Minds post standing)
    (weaker : ∀ later value, post later value → further later value) :
    call.Minds further standing := by
  rw [← call.bind_done]
  exact minds.bind fun later value holds => .done (weaker later value holds)

theorem Call.Minds.expire {post : Standing → α → Prop} {standing : Standing} {call : Call α}
    (minds : call.Minds post standing) : call.expire.Minds post standing := by
  cases minds with
  | wait rest => exact rest false
  | done ends => exact .done ends
  | arm rest => exact .arm rest
  | send expected rest => exact .send expected rest
  | disarm rest => exact .disarm rest
  | release rest => exact .release rest

namespace OutputPipe

variable {pipe later : OutputPipe} {standing : Standing} {closing : Bool}

/-- The same pipe at a later time. -/
structure Follows (pipe later : OutputPipe) : Prop where
  handle : later.ack = pipe.ack
  target : later.device = pipe.device

/-- A pipe that is closed and holds nothing back. -/
structure Ended (pipe : OutputPipe) : Prop where
  closed : pipe.isOpen = false
  empty : pipe.staging = none

/-- What a call of an open pipe comes to: it returns well and leaves its waiter at rest, unless it
was to close the pipe, or it has closed the pipe and given its waiter up. -/
inductive Settles (pipe : OutputPipe) :
    Bool → Standing → Except NodeError Unit × OutputPipe → Prop where
  | kept {later : OutputPipe} (follows : pipe.Follows later) (isOpen : later.isOpen = true) :
      Settles pipe false .resting (.ok (), later)
  | closed {later : OutputPipe} (follows : pipe.Follows later) (shut : later.Ended) :
      Settles pipe true .away (.ok (), later)
  | reset {closing : Bool} {later : OutputPipe} (follows : pipe.Follows later)
      (shut : later.Ended) : Settles pipe closing .away (.error (.reset pipe.device), later)

/-- What sending the staged frame comes to: the waiter rests again, and the pipe is still open. -/
structure Attempts (pipe : OutputPipe) (standing : Standing)
    (value : Except NodeError Unit × OutputPipe) : Prop where
  rests : standing = .resting
  follows : pipe.Follows value.2
  isOpen : value.2.isOpen = true
  result : value.1 = .ok () ∨ value.1 = .error (.reset pipe.device)

theorem Follows.refl (pipe : OutputPipe) : pipe.Follows pipe := ⟨rfl, rfl⟩

theorem Follows.trans {last : OutputPipe} (follows : pipe.Follows later)
    (further : later.Follows last) : pipe.Follows last :=
  ⟨further.handle.trans follows.handle, further.target.trans follows.target⟩

theorem Follows.waiter? (follows : pipe.Follows later) (standing : Standing) :
    standing.waiter? later = standing.waiter? pipe := by
  cases standing with
  | away => rfl
  | resting | armed crc => rw [Standing.waiter?, Standing.waiter?, follows.target, follows.handle]

theorem Settles.of_follows {value : Except NodeError Unit × OutputPipe}
    (follows : pipe.Follows later) (settles : later.Settles closing standing value) :
    pipe.Settles closing standing value := by
  cases settles with
  | kept further isOpen => exact .kept (follows.trans further) isOpen
  | closed further shut => exact .closed (follows.trans further) shut
  | reset further shut => exact follows.target ▸ .reset (follows.trans further) shut

theorem Settles.leaves {result : Except NodeError Unit}
    (settles : pipe.Settles closing standing (result, later)) :
    pipe.Follows later ∧
      (standing = .resting ∧ later.isOpen = true ∨ standing = .away ∧ later.Ended) := by
  cases settles with
  | kept follows isOpen => exact ⟨follows, .inl ⟨rfl, isOpen⟩⟩
  | closed follows shut | reset follows shut => exact ⟨follows, .inr ⟨rfl, shut⟩⟩

/-- Copies of a frame are sent, each with a wait, while the waiter stays armed. -/
theorem resend_minds {post : Standing → α → Prop} {frame : Frame} {finish : Bool → Call α}
    (finishes : ∀ acked, (finish acked).Minds post (.armed frame.crc)) (delays : List Duration) :
    (resend frame finish delays).Minds post (.armed frame.crc) := by
  induction delays with
  | nil => exact finishes false
  | cons delay rest ih =>
    refine .send rfl (.wait fun acked => ?_)
    cases acked with
    | true => exact finishes true
    | false => exact ih

theorem flushStaging_minds (isOpen : pipe.isOpen = true) :
    pipe.flushStaging.Minds pipe.Attempts .resting := by
  rw [flushStaging]
  split
  · exact .done ⟨rfl, .refl pipe, isOpen, .inl rfl⟩
  · refine .arm (resend_minds (fun acked => .disarm (.done ⟨rfl, ⟨rfl, rfl⟩, isOpen, ?_⟩)) _)
    cases acked with
    | true => exact .inl rfl
    | false => exact .inr rfl

theorem free_minds (isOpen : pipe.isOpen = true) :
    pipe.free.Minds
      (fun standing later => standing = .away ∧ pipe.Follows later ∧ later.Ended) .resting := by
  rw [free, if_pos isOpen]
  exact .release (.done ⟨rfl, ⟨rfl, rfl⟩, ⟨rfl, rfl⟩⟩)

theorem free_of_ended (shut : pipe.Ended) : pipe.free = .done pipe := by
  rw [free, shut.closed, if_neg Bool.false_ne_true]

theorem reset_minds (follows : pipe.Follows later) (isOpen : later.isOpen = true) :
    (later.free.bind fun freed => .done (.error (.reset pipe.device), freed)).Minds
      (pipe.Settles closing) .resting := by
  apply (free_minds isOpen).bind
  rintro _ freed ⟨rfl, further, shut⟩
  exact .done (.reset (follows.trans further) shut)

theorem stage?_follows {data : Bytes} {kind : PacketKind}
    (staged : pipe.stage? data kind = some later) :
    pipe.Follows later ∧ later.isOpen = pipe.isOpen := by
  obtain ⟨frame, _, rfl⟩ := Option.map_eq_some_iff.mp staged
  exact ⟨⟨rfl, rfl⟩, rfl⟩

theorem stageWithin_minds (data : Bytes) (kind : PacketKind) (turns : Nat)
    (isOpen : pipe.isOpen = true) :
    (pipe.stageWithin data kind turns).Minds (pipe.Settles false) .resting := by
  induction turns generalizing pipe with
  | zero => exact .done (.kept (.refl pipe) isOpen)
  | succ turns ih =>
    rw [stageWithin]
    split
    · rename_i staged found
      obtain ⟨follows, same⟩ := stage?_follows found
      exact .done (.kept follows (same.trans isOpen))
    · apply (flushStaging_minds isOpen).bind
      rintro _ ⟨result, flushed⟩ ⟨rfl, follows, still, rfl | rfl⟩
      · exact (ih still).mono fun _ _ settles => settles.of_follows follows
      · exact reset_minds follows still

theorem pushPacket_minds (data : Bytes) (kind : PacketKind) (isOpen : pipe.isOpen = true) :
    (pipe.pushPacket data kind).Minds (pipe.Settles false) .resting :=
  stageWithin_minds data kind stageTurns isOpen

theorem pushAll_minds (kind : PacketKind) (chunks : List Bytes) (isOpen : pipe.isOpen = true) :
    (pipe.pushAll kind chunks).Minds (pipe.Settles false) .resting := by
  induction chunks generalizing pipe with
  | nil => exact .done (.kept (.refl pipe) isOpen)
  | cons chunk rest ih =>
    apply (pushPacket_minds chunk kind isOpen).bind
    intro standing value settles
    cases settles with
    | kept follows still =>
      exact (ih still).mono fun _ _ settles => settles.of_follows follows
    | reset follows shut => exact .done (.reset follows shut)

theorem writeKind_minds (data : Bytes) (kind : PacketKind) (isOpen : pipe.isOpen = true) :
    (pipe.writeKind data kind).Minds (pipe.Settles false) .resting := by
  rw [writeKind, if_pos isOpen]
  exact pushAll_minds kind (pieces data) isOpen

theorem flush_minds (isOpen : pipe.isOpen = true) :
    pipe.flush.Minds (pipe.Settles false) .resting := by
  rw [flush, if_pos isOpen]
  apply (flushStaging_minds isOpen).bind
  rintro _ ⟨result, flushed⟩ ⟨rfl, follows, still, rfl | rfl⟩
  · exact .done (.kept follows still)
  · exact reset_minds follows still

theorem close_minds (isOpen : pipe.isOpen = true) :
    pipe.close.Minds (pipe.Settles true) .resting := by
  rw [close, if_pos isOpen]
  apply (pushPacket_minds [] .close isOpen).bind
  intro standing value settles
  cases settles with
  | reset follows shut =>
    -- The pipe was torn down when its frame was lost, so that there is nothing left to free.
    dsimp only
    rw [free_of_ended shut]
    exact .done (.reset follows shut)
  | @kept pushed follows still =>
    apply (flushStaging_minds still).bind
    rintro _ ⟨result, flushed⟩ ⟨rfl, further, held, rfl | rfl⟩
    · apply (free_minds held).bind
      rintro _ freed ⟨rfl, last, shut⟩
      exact .done (.closed ((follows.trans further).trans last) shut)
    · rw [follows.target]
      exact reset_minds (follows.trans further) held

end OutputPipe

def Request.closes : Request → Bool
  | .close => true
  | _ => false

theorem Request.call_minds {pipe : OutputPipe} (request : Request) (isOpen : pipe.isOpen = true) :
    (request.call pipe).Minds (pipe.Settles request.closes) .resting := by
  cases request with
  | write data | metadata data => exact OutputPipe.writeKind_minds data _ isOpen
  | flush => exact OutputPipe.flush_minds isOpen
  | close => exact OutputPipe.close_minds isOpen

namespace NodeLink

variable {σ κ : Type} (link : NodeLink σ κ) (ack : AckHandle)

/-- One step of a call. A wait takes its step once its bell has been rung. -/
def advance : Call α → σ → Call α × σ
  | .done value, state => (.done value, state)
  | .arm crc next, state => (next, link.registry.modify (·.arm ack.slot crc) state)
  | .send frame next, state => (next, (link.tx.pushFrame frame state).2)
  | .wait delay next, state =>
    if link.isRung ack state then (next true, link.answer ack state) else (.wait delay next, state)
  | .disarm next, state => (next, link.registry.modify (·.disarm ack.slot) state)
  | .release next, state =>
    (next, link.registry.modify (fun registry => (registry.unregisterOutput ack.slot).2) state)

theorem perform_eq_iterate (call : Call α) (state : σ) :
    ∃ steps, link.perform ack call state =
      (fun reached => link.advance ack reached.1 reached.2)^[steps] (call, state) := by
  induction call generalizing state with
  | done value => exact ⟨0, rfl⟩
  | arm crc next ih =>
    obtain ⟨steps, same⟩ := ih (link.registry.modify (·.arm ack.slot crc) state)
    exact ⟨steps + 1, same⟩
  | send frame next ih =>
    obtain ⟨steps, same⟩ := ih (link.tx.pushFrame frame state).2
    exact ⟨steps + 1, same⟩
  | wait delay next ih =>
    cases rung : link.isRung ack state with
    | true =>
      obtain ⟨steps, same⟩ := ih true (link.answer ack state)
      refine ⟨steps + 1, ?_⟩
      rw [Function.iterate_succ_apply, advance, if_pos rung, perform, if_pos rung]
      exact same
    | false =>
      refine ⟨0, ?_⟩
      rw [perform, if_neg (ne_true_of_eq_false rung)]
      rfl
  | disarm next ih =>
    obtain ⟨steps, same⟩ := ih (link.registry.modify (·.disarm ack.slot) state)
    exact ⟨steps + 1, same⟩
  | release next ih =>
    obtain ⟨steps, same⟩ := ih
      (link.registry.modify (fun registry => (registry.unregisterOutput ack.slot).2) state)
    exact ⟨steps + 1, same⟩

end NodeLink

namespace Registry

variable {κ : Type} {before after : Registry κ} {pipe : OutputPipe} {standing later : Standing}
  {waiter : AckWaiter}

/-- What a pipe may do to the waiters of its node: its own gets into some standing, and no other is
touched. -/
structure Shifts (before after : Registry κ) (pipe : OutputPipe) (later : Standing) : Prop where
  tidy : after.outputs.Tidy
  ages : before.outputs.Ages after.outputs
  waits : after.outputs.get? pipe.ack.slot = later.waiter? pipe
  others : ∀ id, id ≠ pipe.ack.slot → after.outputs.get? id = before.outputs.get? id

theorem Shifts.of_outputs (tidy : before.outputs.Tidy)
    (waits : before.outputs.get? pipe.ack.slot = standing.waiter? pipe)
    (same : after.outputs = before.outputs) : before.Shifts after pipe standing := by
  constructor
  · rwa [same]
  · exact same ▸ .refl before.outputs
  · rwa [same]
  · intro id _
    rw [same]

theorem Shifts.trans {last : Registry κ} {between : Standing}
    (shifts : before.Shifts after pipe between) (further : after.Shifts last pipe later) :
    before.Shifts last pipe later where
  tidy := further.tidy
  ages := shifts.ages.trans further.ages
  waits := further.waits
  others id different := (further.others id different).trans (shifts.others id different)

theorem Shifts.modify (tidy : before.outputs.Tidy)
    (found : before.outputs.get? pipe.ack.slot = some waiter) (change : AckWaiter → AckWaiter)
    (becomes : later.waiter? pipe = some (change waiter))
    (written : after.outputs = before.outputs.modify pipe.ack.slot change) :
    before.Shifts after pipe later where
  tidy := written ▸ tidy.modify found change
  ages := written ▸ Arena.ages_modify found change
  waits := by rw [written, Arena.get?_modify found, becomes]
  others id different := by
    refine Option.ext fun held => ?_
    rw [written, Arena.get?_modify_iff found, or_iff_right (fun both => different both.1),
      and_iff_right different]

theorem shifts_unregisterOutput (tidy : before.outputs.Tidy)
    (found : before.outputs.get? pipe.ack.slot = some waiter) :
    before.Shifts (before.unregisterOutput pipe.ack.slot).2 pipe .away := by
  have freed := Arena.remove?_of_get? found
  rw [unregisterOutput, freed]
  refine ⟨tidy.remove? found freed, Arena.ages_remove? freed, ?_, fun id different => ?_⟩
  · refine Option.eq_none_iff_forall_ne_some.mpr fun held kept => ?_
    exact ((Arena.get?_remove?_iff freed).mp kept).1 rfl
  · refine Option.ext fun held => ?_
    rw [Arena.get?_remove?_iff freed, and_iff_right different]

theorem registerOutput_inserts {device : UInt64} {ack : AckHandle}
    (opened : before.registerOutput device = (.ok ack, after)) :
    before.outputs.insert? ⟨device, none, ack.bell⟩ = some (ack.slot, after.outputs) := by
  obtain ⟨slot, outputs, stored, rfl, rfl⟩ := registerOutput_eq_ok opened
  exact stored

end Registry

/-- A step of a call that minds its waiter touches no other waiter, and the rest of the call minds
the waiter from where the step has put it. -/
theorem Call.Minds.advance {ε κ : Type} {post : Standing → α → Prop} {standing : Standing}
    {call : Call α} {pipe : OutputPipe} {peer : Peer ε κ} (minds : call.Minds post standing)
    (tidy : peer.node.registry.outputs.Tidy)
    (waits : peer.node.registry.outputs.get? pipe.ack.slot = standing.waiter? pipe) :
    ∃ later, (Peer.link.advance pipe.ack call peer).1.Minds post later ∧
      peer.node.registry.Shifts (Peer.link.advance pipe.ack call peer).2.node.registry pipe
        later := by
  cases minds with
  | done ends => exact ⟨_, .done ends, .of_outputs tidy waits rfl⟩
  | @arm crc next rest =>
    refine ⟨.armed crc, rest, .modify tidy waits (fun old => { old with armed := some crc }) rfl ?_⟩
    change (peer.node.registry.arm pipe.ack.slot crc).outputs = _
    rw [Registry.arm, waits]
    rfl
  | @send crc frame next expected rest =>
    refine ⟨.armed crc, rest, .of_outputs tidy waits ?_⟩
    exact congrArg Registry.outputs (Peer.Transmits.pushFrame frame peer).registry
  | @wait crc delay next rest =>
    rw [NodeLink.advance]
    split
    · exact ⟨.armed crc, rest true, .of_outputs tidy waits rfl⟩
    · exact ⟨.armed crc, .wait rest, .of_outputs tidy waits rfl⟩
  | disarm rest =>
    exact ⟨.resting, rest, .modify tidy waits (fun old => { old with armed := none }) rfl rfl⟩
  | release rest => exact ⟨.away, rest, Registry.shifts_unregisterOutput tidy waits⟩

/-- The same of all steps that a call can take at once. -/
theorem Call.Minds.perform {ε κ : Type} {post : Standing → α → Prop} {standing : Standing}
    {call : Call α} {pipe : OutputPipe} {peer : Peer ε κ} (minds : call.Minds post standing)
    (tidy : peer.node.registry.outputs.Tidy)
    (waits : peer.node.registry.outputs.get? pipe.ack.slot = standing.waiter? pipe) :
    ∃ later, (Peer.link.perform pipe.ack call peer).1.Minds post later ∧
      peer.node.registry.Shifts (Peer.link.perform pipe.ack call peer).2.node.registry pipe
        later := by
  obtain ⟨steps, same⟩ := Peer.link.perform_eq_iterate pipe.ack call peer
  rw [same]
  clear same
  induction steps generalizing call peer standing with
  | zero => exact ⟨standing, minds, .of_outputs tidy waits rfl⟩
  | succ steps ih =>
    obtain ⟨middle, rest, first⟩ := minds.advance tidy waits
    obtain ⟨later, ends, further⟩ := ih rest first.tidy first.waits
    rw [Function.iterate_succ_apply]
    exact ⟨later, ends, first.trans further⟩

end PipeBus

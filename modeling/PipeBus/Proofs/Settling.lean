import PipeBus.Proofs.Capacity
import PipeBus.Proofs.Course
import PipeBus.Proofs.Handover

/-! Packets that are staged by trying again. A queue and an output pipe offer a packet to the frame
that they have staged, and begin again after a flush when the frame refuses it; nothing in the loop
says that it ends. It does because a flush leaves no frame behind and a fresh frame takes every
packet (`TxLink.Loops`, `OutputPipe.Loops`). Main statement: whatever has been asked of a queue or
of a pipe before, a packet that a frame can carry is offered at most twice, after one flush at most
(`loops_settle`). -/

namespace PipeBus

/-- What a loop goes through that stages a packet. -/
structure Laps where
  /-- The frames that the packet is offered to, one for each time the body is executed. -/
  asked : List Frame
  flushes : Nat

namespace Laps

def single (frame : Frame) : Laps := ⟨[frame], 0⟩

def refused (frame : Frame) (further : List Frame) (flushes : Nat) : Laps :=
  ⟨frame :: further, flushes + 1⟩

/-- A loop that ends soon, and in which every frame can tell how much room it has left. -/
structure Brief (laps : Laps) : Prop where
  executions : laps.asked.length ≤ 2
  flushes : laps.flushes ≤ 1
  room : ∀ frame ∈ laps.asked, frame.payload.length + frame.remaining = maxPayload

variable {frame fresh : Frame}

theorem brief_single (room : frame.payload.length ≤ maxPayload) : (single frame).Brief :=
  ⟨by simp [single], by simp [single], List.forall_mem_singleton.mpr (Nat.add_sub_of_le room)⟩

theorem brief_failed (room : frame.payload.length ≤ maxPayload) : (refused frame [] 0).Brief :=
  ⟨by simp [refused], by simp [refused], List.forall_mem_singleton.mpr (Nat.add_sub_of_le room)⟩

theorem brief_refused (room : frame.payload.length ≤ maxPayload) (empty : fresh.payload = []) :
    (refused frame [fresh] 0).Brief := by
  refine ⟨by simp [refused], by simp [refused], ?_⟩
  refine List.forall_mem_cons.mpr ⟨Nat.add_sub_of_le room, List.forall_mem_singleton.mpr ?_⟩
  rw [Frame.remaining, empty]
  rfl

end Laps

namespace Frame

/-- A frame as it stays staged between two calls. -/
structure Kept (frame : Frame) : Prop where
  filled : frame.payload ≠ []
  aligned : frame.payload.length % 4 = 0
  room : frame.payload.length ≤ maxPayload

variable {frame later : Frame} {service : UInt8} {command : UInt16} {data : Bytes}

/-- Whole words within the capacity remain so when a packet is added. -/
theorem kept_push? (aligned : frame.payload.length % 4 = 0)
    (room : frame.payload.length ≤ maxPayload)
    (pushed : frame.push? service command data = some later) : later.Kept := by
  have same : frame.handle (.push ⟨service, command, data⟩) = later := by
    simp only [handle, offer, pushed]
  refine ⟨?_, ?_, ?_⟩
  · unfold push? at pushed
    split at pushed
    · cases pushed
    · cases pushed
      exact List.append_ne_nil_of_right_ne_nil _ (List.cons_ne_nil _ _)
  · rw [← same, length_handle_mod]
    exact aligned
  · rw [← same]
    exact room_handle aligned room _

theorem push?_fresh (service : UInt8) (command : UInt16) (fresh : frame.payload = [])
    (short : data.length ≤ maxPacketData) :
    ∃ later, frame.push? service command data = some later := by
  have fits : ¬ packetHeader + data.length > frame.remaining := by
    simp only [maxPacketData, maxPayload, packetHeader] at short
    simp only [remaining, fresh, List.length_nil, maxPayload, packetHeader]
    omega
  exact ⟨_, by rw [push?, if_neg fits]⟩

end Frame

namespace TxLink

variable {σ : Type} {link : TxLink σ} {parcel : Parcel}

/-- The loop that queues a packet: as long as the staged frame refuses it, the queue is flushed. -/
inductive Loops (link : TxLink σ) (parcel : Parcel) : σ → Laps → σ → Prop where
  | stages {state : σ} {queue : TxQueue}
      (fits : (link.queue.get state).stage? parcel.service parcel.command parcel.data =
        some queue) :
      Loops link parcel state (.single (link.queue.get state).stagingFrame)
        (link.queue.set queue state)
  | flushes {state last : σ} {laps : Laps}
      (full : (link.queue.get state).stage? parcel.service parcel.command parcel.data = none)
      (again : Loops link parcel (link.flush state) laps last) :
      Loops link parcel state
        (.refused (link.queue.get state).stagingFrame laps.asked laps.flushes) last

theorem Loops.unique {state last other : σ} {laps others : Laps}
    (loops : link.Loops parcel state laps last) (also : link.Loops parcel state others other) :
    others = laps ∧ other = last := by
  induction loops generalizing others with
  | stages fits =>
    cases also with
    | stages same =>
      cases fits.symm.trans same
      exact ⟨rfl, rfl⟩
    | flushes full => cases fits.symm.trans full
  | flushes full _ ih =>
    cases also with
    | stages fits => cases fits.symm.trans full
    | flushes _ again =>
      obtain ⟨rfl, rfl⟩ := ih again
      exact ⟨rfl, rfl⟩

end TxLink

namespace Depot

variable {τ : Type} {send : Frame → Duration → τ → Bool × τ} {depot : Depot τ} {parcel : Parcel}

/-- What queuing a packet comes to: the loop ends soon, in what the call returns. -/
structure Concludes (send : Frame → Duration → τ → Bool × τ) (depot : Depot τ) (parcel : Parcel) :
    Prop where
  kept : ∀ frame, depot.queue.staging = some frame → frame.Kept
  ends : ∃ laps last, (link send).Loops parcel depot laps last
  brief : ∀ laps last, (link send).Loops parcel depot laps last →
    laps.Brief ∧ serve send (.push parcel) depot = (.pushed (.ok ()), last)

theorem Stages.kept {device : UInt64} {parcels : List Parcel}
    (stages : depot.Stages device parcels) {frame : Frame}
    (found : depot.queue.staging = some frame) : frame.Kept := by
  have holds := stagingFrame_some found ▸ stages.holds
  exact ⟨(stages.parts found).2.filled, holds.payload ▸ Frame.aligned_bytes parcels, holds.room⟩

/-- The packet is offered to the staged frame, or to that and a fresh one. -/
theorem exists_loops (send : Frame → Duration → τ → Bool × τ) {device : UInt64}
    {parcels : List Parcel} (stages : depot.Stages device parcels)
    (short : parcel.data.length ≤ maxPacketData) :
    ∃ laps last, (link send).Loops parcel depot laps last ∧ laps.Brief ∧
      ((link send).push parcel.service parcel.command parcel.data depot).2 = last := by
  have room := stages.holds.room
  by_cases fits : packetHeader + parcel.data.length ≤ depot.queue.stagingFrame.remaining
  · have staged := TxQueue.stage?_fits fits
    exact ⟨_, _, .stages staged, Laps.brief_single room, TxLink.push_fits short staged⟩
  have full := TxQueue.stage?_full (Nat.not_le.mp fits)
  cases found : depot.queue.staging with
  | none =>
    rw [TxQueue.stagingFrame, found] at fits
    exact absurd (Frame.fits_empty short) fits
  | some frame =>
    obtain ⟨accepted, transport, flushed⟩ := flush_some send found
    have fresh : ((link send).queue.get ((link send).flush depot)).stagingFrame =
        Frame.empty depot.queue.device 0 := by
      rw [flushed]
      exact stagingFrame_emptied depot frame.sealed accepted transport
    have staged := TxQueue.stage?_fits (fresh ▸ Frame.fits_empty short)
    refine ⟨_, _, .flushes full (.stages staged), ?_, ?_⟩
    · exact Laps.brief_refused room (congrArg Frame.payload fresh)
    · exact (TxLink.push_full short full staged).trans (TxLink.push_fits short staged)

theorem concludes_of_stages {device : UInt64} {parcels : List Parcel}
    (stages : depot.Stages device parcels) (short : parcel.data.length ≤ maxPacketData) :
    depot.Concludes send parcel := by
  obtain ⟨laps, last, loops, brief, pushed⟩ := exists_loops send stages short
  refine ⟨fun frame found => stages.kept found, ⟨laps, last, loops⟩, fun others other also => ?_⟩
  obtain ⟨rfl, rfl⟩ := loops.unique also
  refine ⟨brief, ?_⟩
  rw [serve, ← pushed]
  simp only [TxLink.push, if_neg (Nat.not_lt.mpr short)]

end Depot

namespace Call

variable {α β : Type}

/-- The course of one call after the other: the second one waits on where the first one has
stopped. -/
theorem course_bind (acks : Nat → Bool) (waits : Nat) (call : Call α) (next : α → Call β) :
    (call.bind next).course acks waits =
      let first := call.course acks waits
      let second := (next first.value).course acks (waits + first.marks.countP Mark.isWait)
      ⟨first.marks ++ second.marks, second.value⟩ := by
  induction call generalizing waits with
  | done value => rfl
  | arm crc rest ih | disarm rest ih | release rest ih => exact ih waits
  | send frame rest ih =>
    rw [bind, course, ih, course]
    rfl
  | wait delay rest ih =>
    have counted (marks : List Mark) : (Mark.waited (acks waits) :: marks).countP Mark.isWait =
        marks.countP Mark.isWait + 1 := List.countP_cons_of_pos rfl
    rw [bind, course, ih, course]
    simp only [counted, List.cons_append, Nat.add_assoc, Nat.add_comm 1]

end Call

namespace OutputPipe

variable {pipe : OutputPipe} {acks : Nat → Bool} {waits : Nat} {data : Bytes} {kind : PacketKind}

/-- The loop that queues a packet of a pipe, when it is given which waits are ended by the
acknowledgement: as long as the staged frame refuses the packet, it is sent, and a frame that is not
acknowledged ends the loop and the pipe. -/
inductive Loops (acks : Nat → Bool) (data : Bytes) (kind : PacketKind) :
    Nat → OutputPipe → Laps → Call.Course (Except NodeError Unit × OutputPipe) → Prop where
  | stages {waits : Nat} {pipe staged : OutputPipe} (fits : pipe.stage? data kind = some staged) :
      Loops acks data kind waits pipe (.single pipe.stagingFrame) ⟨[], (.ok (), staged)⟩
  | fails {waits : Nat} {pipe flushed : OutputPipe} {marks : List Call.Mark} {error : NodeError}
      (full : pipe.stage? data kind = none)
      (flush : pipe.flushStaging.course acks waits = ⟨marks, (.error error, flushed)⟩) :
      Loops acks data kind waits pipe (.refused pipe.stagingFrame [] 0)
        ⟨marks, (.error error, (flushed.free.course acks 0).value)⟩
  | flushes {waits : Nat} {pipe flushed : OutputPipe} {marks : List Call.Mark} {laps : Laps}
      {course : Call.Course (Except NodeError Unit × OutputPipe)}
      (full : pipe.stage? data kind = none)
      (flush : pipe.flushStaging.course acks waits = ⟨marks, (.ok (), flushed)⟩)
      (again : Loops acks data kind (waits + marks.countP Call.Mark.isWait) flushed laps course) :
      Loops acks data kind waits pipe (.refused pipe.stagingFrame laps.asked laps.flushes)
        ⟨marks ++ course.marks, course.value⟩

theorem Loops.unique {laps others : Laps}
    {course other : Call.Course (Except NodeError Unit × OutputPipe)}
    (loops : Loops acks data kind waits pipe laps course)
    (also : Loops acks data kind waits pipe others other) : others = laps ∧ other = course := by
  induction loops generalizing others other with
  | stages fits =>
    cases also with
    | stages same =>
      cases fits.symm.trans same
      exact ⟨rfl, rfl⟩
    | fails full | flushes full => cases fits.symm.trans full
  | fails full flush =>
    cases also with
    | stages fits => cases fits.symm.trans full
    | fails _ same =>
      cases flush.symm.trans same
      exact ⟨rfl, rfl⟩
    | flushes _ same => cases flush.symm.trans same
  | flushes full flush _ ih =>
    cases also with
    | stages fits => cases fits.symm.trans full
    | fails _ same => cases flush.symm.trans same
    | flushes _ same again =>
      cases flush.symm.trans same
      obtain ⟨rfl, rfl⟩ := ih again
      exact ⟨rfl, rfl⟩

/-- What a pipe stages between two calls. -/
def Tidy (pipe : OutputPipe) : Prop := ∀ frame, pipe.staging = some frame → frame.Kept

theorem tidy_of_empty (empty : pipe.staging = none) : pipe.Tidy := by
  intro frame found
  rw [empty] at found
  cases found

theorem Tidy.stagingFrame (tidy : pipe.Tidy) :
    pipe.stagingFrame.payload.length % 4 = 0 ∧ pipe.stagingFrame.payload.length ≤ maxPayload := by
  rw [OutputPipe.stagingFrame]
  cases found : pipe.staging with
  | none => exact ⟨rfl, Nat.zero_le _⟩
  | some frame => exact ⟨(tidy frame found).aligned, (tidy frame found).room⟩

theorem Tidy.stage? {later : OutputPipe} (tidy : pipe.Tidy)
    (staged : pipe.stage? data kind = some later) : later.Tidy := by
  obtain ⟨frame, pushed, rfl⟩ := Option.map_eq_some_iff.mp staged
  rintro _ ⟨⟩
  exact Frame.kept_push? tidy.stagingFrame.1 tidy.stagingFrame.2 pushed

/-- Without a staged frame every packet begins a new one. -/
theorem stage?_of_empty (kind : PacketKind) (empty : pipe.staging = none)
    (short : data.length ≤ maxPacketData) :
    ∃ later, pipe.stage? data kind = some later := by
  have fresh : pipe.stagingFrame.payload = [] := by
    rw [OutputPipe.stagingFrame, empty]
    rfl
  obtain ⟨frame, pushed⟩ := Frame.push?_fresh ServiceNumber.pipe
    (pipe.next.ofKind kind).raw fresh short
  exact ⟨_, by rw [OutputPipe.stage?, pushed]; rfl⟩

section

variable {marks : List Call.Mark}

theorem resend_ends {α : Type} {frame : Frame} {finish : Bool → Call α}
    {post : List Call.Mark → α → Prop} (delays : List Duration)
    (finishes : ∀ acked later, (finish acked).Yields later post) :
    (resend frame finish delays).Yields marks post := by
  induction delays generalizing marks with
  | nil => exact finishes false marks
  | cons delay rest ih =>
    intro acked
    cases acked with
    | true => exact finishes true _
    | false => exact ih

/-- A flush leaves no frame behind, whether it is acknowledged or not. -/
theorem flushStaging_empties (pipe : OutputPipe) :
    pipe.flushStaging.Yields marks fun _ value => value.2.staging = none := by
  rw [flushStaging]
  cases found : pipe.staging with
  | none => exact found
  | some frame => exact resend_ends pipe.retry.delays fun _ _ => rfl

theorem free_tidy (tidy : pipe.Tidy) : pipe.free.Yields marks fun _ freed => freed.Tidy := by
  rw [free]
  split
  · exact tidy_of_empty rfl
  · exact tidy

theorem stageWithin_tidy (turns : Nat) (tidy : pipe.Tidy) :
    (pipe.stageWithin data kind turns).Yields marks fun _ value => value.2.Tidy := by
  induction turns generalizing pipe marks with
  | zero => exact tidy
  | succ turns ih =>
    rw [stageWithin]
    cases staged : pipe.stage? data kind with
    | some later => exact tidy.stage? staged
    | none =>
      apply pipe.flushStaging_empties.bind
      rintro later ⟨_ | ⟨⟨⟩⟩, flushed⟩ empty
      · exact (free_tidy (tidy_of_empty empty)).bind fun _ _ freed => freed
      · exact ih (tidy_of_empty empty)

theorem pushAll_tidy (chunks : List Bytes) (tidy : pipe.Tidy) :
    (pipe.pushAll kind chunks).Yields marks fun _ value => value.2.Tidy := by
  induction chunks generalizing pipe marks with
  | nil => exact tidy
  | cons chunk rest ih =>
    apply (stageWithin_tidy stageTurns tidy).bind
    rintro later ⟨_ | ⟨⟨⟩⟩, pushed⟩ still
    · exact still
    · exact ih still

theorem writeKind_tidy (data : Bytes) (tidy : pipe.Tidy) :
    (pipe.writeKind data kind).Yields marks fun _ value => value.2.Tidy := by
  rw [writeKind]
  split
  · exact pushAll_tidy (pieces data) tidy
  · exact tidy

theorem flush_tidy (tidy : pipe.Tidy) :
    pipe.flush.Yields marks fun _ value => value.2.Tidy := by
  rw [flush]
  split
  · apply pipe.flushStaging_empties.bind
    rintro later ⟨_ | ⟨⟨⟩⟩, flushed⟩ empty
    · exact (free_tidy (tidy_of_empty empty)).bind fun _ _ freed => freed
    · exact tidy_of_empty empty
  · exact tidy

theorem close_tidy (tidy : pipe.Tidy) :
    pipe.close.Yields marks fun _ value => value.2.Tidy := by
  rw [close]
  split
  · apply (stageWithin_tidy stageTurns tidy).bind
    rintro later ⟨_ | ⟨⟨⟩⟩, pushed⟩ still
    · exact (free_tidy still).bind fun _ _ freed => freed
    · apply pushed.flushStaging_empties.bind
      rintro last ⟨result, flushed⟩ empty
      exact (free_tidy (tidy_of_empty empty)).bind fun _ _ freed => freed
  · exact tidy

/-- No request leaves a frame staged that is empty, too long or not of whole words. -/
theorem call_tidy (request : Request) (tidy : pipe.Tidy) :
    (request.call pipe).Yields marks fun _ value => value.2.Tidy := by
  cases request with
  | write data | metadata data => exact writeKind_tidy data tidy
  | flush => exact flush_tidy tidy
  | close => exact close_tidy tidy

end

/-- What queuing a packet comes to, when it is given which waits are ended by the acknowledgement:
the loop ends soon, in what the call returns. -/
structure Concludes (pipe : OutputPipe) (acks : Nat → Bool) (waits : Nat) (data : Bytes)
    (kind : PacketKind) : Prop where
  kept : ∀ frame, pipe.staging = some frame → frame.Kept
  ends : ∃ laps course, Loops acks data kind waits pipe laps course
  brief : ∀ laps course, Loops acks data kind waits pipe laps course →
    laps.Brief ∧ (pipe.pushPacket data kind).course acks waits = course

/-- Tearing a pipe down leaves nothing on record. -/
theorem course_free (pipe : OutputPipe) (acks : Nat → Bool) (waits : Nat) :
    pipe.free.course acks waits = ⟨[], (pipe.free.course acks 0).value⟩ := by
  rw [free]
  split <;> rfl

theorem exists_loops (tidy : pipe.Tidy) (acks : Nat → Bool) (waits : Nat) (kind : PacketKind)
    (short : data.length ≤ maxPacketData) :
    ∃ laps course, Loops acks data kind waits pipe laps course ∧ laps.Brief ∧
      (pipe.pushPacket data kind).course acks waits = course := by
  have room := tidy.stagingFrame.2
  rw [pushPacket, stageTurns, stageWithin]
  cases staged : pipe.stage? data kind with
  | some later => exact ⟨_, _, .stages staged, Laps.brief_single room, rfl⟩
  | none =>
    have empties : pipe.flushStaging.Yields [] fun _ value => value.2.staging = none :=
      pipe.flushStaging_empties
    have empty := empties.course acks waits
    rw [Call.course_bind]
    generalize flush : pipe.flushStaging.course acks waits = course at empty ⊢
    obtain ⟨marks, result, flushed⟩ := course
    cases result with
    | error error =>
      refine ⟨_, _, .fails staged flush, Laps.brief_failed room, ?_⟩
      dsimp only
      rw [Call.course_map, course_free, List.append_nil]
    | ok =>
      -- Nothing is staged after a flush, so the second offer is the last one.
      obtain ⟨later, again⟩ := stage?_of_empty kind empty short
      refine ⟨_, _, .flushes staged flush (.stages again), Laps.brief_refused room ?_, ?_⟩
      · rw [OutputPipe.stagingFrame, show flushed.staging = none from empty]
        rfl
      · simp only [stageWithin, again, Call.course]

theorem Tidy.concludes (tidy : pipe.Tidy) (acks : Nat → Bool) (waits : Nat) (kind : PacketKind)
    (short : data.length ≤ maxPacketData) : pipe.Concludes acks waits data kind := by
  obtain ⟨laps, course, loops, brief, pushed⟩ := exists_loops tidy acks waits kind short
  refine ⟨tidy, ⟨laps, course, loops⟩, fun others other also => ?_⟩
  obtain ⟨rfl, rfl⟩ := loops.unique also
  exact ⟨brief, pushed⟩

end OutputPipe

namespace Transcript

variable {acks : Nat → Bool} {pipe : OutputPipe}

theorem tidy_ofRequests (acks : Nat → Bool) (tidy : pipe.Tidy) (requests : List Request) :
    (ofRequests acks pipe requests).pipe.Tidy := by
  suffices later : ∀ transcript : Transcript, transcript.pipe.Tidy →
      (requests.foldl (serve acks) transcript).pipe.Tidy from later _ tidy
  induction requests with
  | nil => exact fun transcript tidy => tidy
  | cons request rest ih =>
    intro transcript tidy
    have still : (request.call transcript.pipe).Yields [] fun _ value => value.2.Tidy :=
      OutputPipe.call_tidy request tidy
    exact ih _ (still.course acks transcript.waits)

/-- The pipe when a write has queued so many of its packets. -/
def midway (acks : Nat → Bool) (transcript : Transcript) (kind : PacketKind) (written : Bytes)
    (queued : Nat) : OutputPipe :=
  let chunks := (OutputPipe.pieces written).take queued
  ((transcript.pipe.pushAll kind chunks).course acks transcript.waits).value.2

theorem tidy_midway {transcript : Transcript} (tidy : transcript.pipe.Tidy) (kind : PacketKind)
    (written : Bytes) (queued : Nat) : (transcript.midway acks kind written queued).Tidy := by
  have still (chunks : List Bytes) :
      (transcript.pipe.pushAll kind chunks).Yields [] fun _ value => value.2.Tidy :=
    OutputPipe.pushAll_tidy chunks tidy
  exact (still _).course acks transcript.waits

end Transcript

/-- Whatever a queue and an output pipe have been asked before, also when a pipe is in the middle of
a write, a packet that a frame can carry is offered to two frames at most, after one flush at most,
and what is staged in the meantime is never empty, too long or not of whole words. -/
theorem loops_settle (data : Bytes) (short : data.length ≤ maxPacketData) :
    (∀ (τ : Type) (send : Frame → Duration → τ → Bool × τ) (device : UInt64)
        (sendTimeout : Duration) (transport : τ) (orders : List Order) (service : UInt8)
        (command : UInt16),
      (Depot.run send orders (Depot.create device sendTimeout transport)).2.Concludes send
        ⟨service, command, data⟩) ∧
    ∀ (device : UInt64) (port : UInt16) (ack : AckHandle) (retry : RetryPolicy)
        (acks later : Nat → Bool) (requests : List Request) (writing kind : PacketKind)
        (written : Bytes) (queued waits : Nat),
      ((Transcript.ofRequests acks (OutputPipe.create device port ack retry) requests).midway acks
        writing written queued).Concludes later waits data kind := by
  constructor
  · intro τ send device sendTimeout transport orders service command
    obtain ⟨later, stages, -⟩ :=
      Depot.run_keeps send orders (Depot.Stages.create device sendTimeout transport)
    exact Depot.concludes_of_stages stages short
  · intro device port ack retry acks later requests writing kind written queued waits
    have fresh : (OutputPipe.create device port ack retry).Tidy := OutputPipe.tidy_of_empty rfl
    have before := Transcript.tidy_ofRequests acks fresh requests
    exact (Transcript.tidy_midway before writing written queued).concludes later waits kind short

/-- The longest packet there is, behind a short one that is staged: by a queue whose transport
refuses every second frame, and by a pipe whose flush is then in vain. -/
theorem loops_settle_longest :
    let data : Bytes := List.replicate 232 7
    let send : Frame → Duration → Nat → Bool × Nat := fun _ _ sent => (sent % 2 = 0, sent + 1)
    let queue := Depot.run send [.push ⟨1, 2, [3]⟩, .flush, .push ⟨1, 2, [3]⟩]
      (Depot.create 7 (Duration.ofMillis 50) 0)
    let transcript := Transcript.ofRequests (fun _ => true)
      (OutputPipe.create 7 97 ⟨⟨0, 0⟩, 0⟩ {}) [.write [1, 2, 3], .flush]
    data.length ≤ maxPacketData ∧ queue.2.Concludes send ⟨1, 2, data⟩ ∧
      (transcript.midway (fun _ => true) .metadata [4] 1).Concludes (fun _ => false) 0 data
        .data := by
  intro data send queue transcript
  have short : data.length ≤ maxPacketData := by
    rw [List.length_replicate]
    decide
  exact ⟨short, (loops_settle data short).1 .., (loops_settle data short).2 ..⟩

end PipeBus

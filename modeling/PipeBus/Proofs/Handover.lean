import PipeBus.Proofs.Acknowledgement

/-! A queue of packets on their way out, and the transport behind it. A depot is such a queue with a
transport that takes or refuses frames as it likes, and the record of what the transport was handed.
One call stages a packet, or hands over one frame, or does both when the packet has no room
(`Depot.Serves`). Main statement: after any calls, the staged frames that were handed over and the
frame that is staged hold just the packets that were queued, in the order of the calls, and the
queue has counted what the transport was handed (`Depot.conserves_packets`). -/

namespace PipeBus

inductive Order where
  | push (parcel : Parcel)
  | flush
  | pushFrame (frame : Frame)

inductive Answer where
  | pushed (result : Except NodeError Unit)
  | flushed
  /-- A frame went straight to the transport, which took it or refused it. -/
  | sent (accepted : Bool)

namespace Order

/-- The staged frames among those that are handed over in a call. -/
def staged (order : Order) (handed : List (Frame × Bool)) : List Frame :=
  match order with
  | push _ | flush => handed.map Prod.fst
  | pushFrame _ => []

def queued : Order → Answer → List Parcel
  | push parcel, .pushed (.ok ()) => [parcel]
  | _, _ => []

end Order

/-- A queue and its transport, with the frames that the transport was handed and whether it took
them. -/
structure Depot (τ : Type) where
  queue : TxQueue
  transport : τ
  handed : List (Frame × Bool) := []

/-- One call, with the depot before and after it. -/
structure Dealing (τ : Type) where
  order : Order
  before : Depot τ
  answer : Answer
  after : Depot τ

namespace Dealing

variable {τ : Type}

def handed (dealing : Dealing τ) : List (Frame × Bool) :=
  dealing.after.handed.drop dealing.before.handed.length

def staged (dealing : Dealing τ) : List Frame := dealing.order.staged dealing.handed

def queued (dealing : Dealing τ) : List Parcel := dealing.order.queued dealing.answer

structure Fair (dealing : Dealing τ) : Prop where
  /-- A packet that no frame carries is refused, and nothing changes. -/
  oversized : ∀ parcel, dealing.order = .push parcel → maxPacketData < parcel.data.length →
    dealing.answer = .pushed (.error (.packetTooLarge parcel.data.length)) ∧
      dealing.after = dealing.before
  /-- Every other packet is queued. -/
  queued : ∀ parcel, dealing.order = .push parcel → parcel.data.length ≤ maxPacketData →
    dealing.answer = .pushed (.ok ())
  /-- Queuing a packet hands over a frame only when the packet does not fit in it. -/
  overflow : ∀ parcel, dealing.order = .push parcel → dealing.handed ≠ [] →
    ∃ frame accepted, dealing.before.queue.staging = some frame ∧
      frame.remaining < packetHeader + parcel.data.length ∧
      dealing.handed = [(frame.sealed, accepted)]
  /-- A frame that goes straight to the transport passes by what is staged. -/
  direct : ∀ frame, dealing.order = .pushFrame frame →
    ∃ accepted, dealing.answer = .sent accepted ∧ dealing.handed = [(frame, accepted)] ∧
      dealing.after.queue.staging = dealing.before.queue.staging

end Dealing

namespace Frame

def joined (frame : Frame) (parcel : Parcel) : Frame :=
  { frame with payload := frame.payload ++ parcel.bytes }

/-- A frame as the queue of a device hands it over. -/
structure Parts (device : UInt64) (frame : Frame) : Prop where
  sealed : frame.crc = frame.computeCrc
  filled : frame.payload ≠ []
  room : frame.payload.length ≤ maxPayload
  device : frame.device = device
  flags : frame.flags = 0

theorem fits_empty {device : UInt64} {length : Nat} (short : length ≤ maxPacketData) :
    packetHeader + length ≤ (empty device 0).remaining := by
  simp only [remaining, empty, List.length_nil, maxPacketData, maxPayload, packetHeader] at short ⊢
  omega

end Frame

namespace Depot

variable {τ : Type}

/-- A transport is how it answers a frame. It knows nothing of the queue. -/
def link (send : Frame → Duration → τ → Bool × τ) : TxLink (Depot τ) where
  queue := { get := queue, set := fun queue depot => { depot with queue } }
  transmit frame timeout depot :=
    let (accepted, transport) := send frame timeout depot.transport
    (accepted, { depot with transport, handed := depot.handed ++ [(frame, accepted)] })

def create (device : UInt64) (sendTimeout : Duration) (transport : τ) : Depot τ where
  queue := { device, sendTimeout }
  transport

def serve (send : Frame → Duration → τ → Bool × τ) (order : Order) (depot : Depot τ) :
    Answer × Depot τ :=
  match order with
  | .push parcel =>
    let (result, later) := (link send).push parcel.service parcel.command parcel.data depot
    (.pushed result, later)
  | .flush => (.flushed, (link send).flush depot)
  | .pushFrame frame =>
    let (accepted, later) := (link send).pushFrame frame depot
    (.sent accepted, later)

def deal (send : Frame → Duration → τ → Bool × τ) (order : Order) (depot : Depot τ) : Dealing τ :=
  let (answer, later) := serve send order depot
  ⟨order, depot, answer, later⟩

def run (send : Frame → Duration → τ → Bool × τ) :
    List Order → Depot τ → List (Dealing τ) × Depot τ
  | [], depot => ([], depot)
  | order :: rest, depot =>
    let dealing := deal send order depot
    let (dealings, last) := run send rest dealing.after
    (dealing :: dealings, last)

/-- What calls come to that begin when nothing has happened to the queue of a device. -/
structure Conserves (device : UInt64) (dealings : List (Dealing τ)) (last : Depot τ) : Prop where
  fair : ∀ dealing ∈ dealings, dealing.Fair
  /-- The packets of the staged frames that were handed over, and then those that are still staged,
  are those that were queued. -/
  packets : (dealings.flatMap Dealing.staged ++ last.queue.staging.toList).flatMap Frame.packets =
    (dealings.flatMap Dealing.queued).map (Parcel.packet device 0)
  parts : ∀ frame ∈ dealings.flatMap Dealing.staged, frame.Parts device
  /-- No frame is handed over but in these calls. -/
  handed : last.handed = dealings.flatMap Dealing.handed
  sent : last.queue.sent = last.handed.countP (·.2)
  dropped : last.queue.dropped = last.handed.countP (!·.2)
  total : last.queue.sent + last.queue.dropped = last.handed.length

def passed (depot : Depot τ) (frame : Frame) (accepted : Bool) (transport : τ) : Depot τ where
  queue := depot.queue.count accepted
  transport
  handed := depot.handed ++ [(frame, accepted)]

def staging (depot : Depot τ) (staging : Option Frame) : Depot τ :=
  { depot with queue := { depot.queue with staging } }

/-- What one call comes to: the answer, the frames that are handed over meanwhile, and the depot
then. -/
inductive Serves (before : Depot τ) :
    Order → Answer → List (Frame × Bool) → Depot τ → Prop where
  | refused {parcel : Parcel} (long : maxPacketData < parcel.data.length) :
      Serves before (.push parcel) (.pushed (.error (.packetTooLarge parcel.data.length))) [] before
  | staged {parcel : Parcel} (short : parcel.data.length ≤ maxPacketData)
      (fits : packetHeader + parcel.data.length ≤ before.queue.stagingFrame.remaining) :
      Serves before (.push parcel) (.pushed (.ok ())) []
        (before.staging (some (before.queue.stagingFrame.joined parcel)))
  | overflowed {parcel : Parcel} {frame : Frame} {accepted : Bool} {transport : τ}
      (short : parcel.data.length ≤ maxPacketData) (found : before.queue.staging = some frame)
      (full : frame.remaining < packetHeader + parcel.data.length) :
      Serves before (.push parcel) (.pushed (.ok ())) [(frame.sealed, accepted)]
        ((before.passed frame.sealed accepted transport).staging
          (some ((Frame.empty before.queue.device 0).joined parcel)))
  | idle (empty : before.queue.staging = none) : Serves before .flush .flushed [] before
  | flushed {frame : Frame} {accepted : Bool} {transport : τ}
      (found : before.queue.staging = some frame) :
      Serves before .flush .flushed [(frame.sealed, accepted)]
        ((before.passed frame.sealed accepted transport).staging none)
  | direct {frame : Frame} {accepted : Bool} {transport : τ} :
      Serves before (.pushFrame frame) (.sent accepted) [(frame, accepted)]
        (before.passed frame accepted transport)

section

variable {send : Frame → Duration → τ → Bool × τ} {before : Depot τ} {frame : Frame}

theorem pushFrame_eq (send : Frame → Duration → τ → Bool × τ) (frame : Frame) (depot : Depot τ) :
    ∃ accepted transport, (link send).pushFrame frame depot =
      (accepted, depot.passed frame accepted transport) := ⟨_, _, rfl⟩

theorem passed_staging (depot : Depot τ) (staged : Option Frame) (frame : Frame) (accepted : Bool)
    (transport : τ) : (depot.staging staged).passed frame accepted transport =
      (depot.passed frame accepted transport).staging staged := by
  cases accepted <;> rfl

theorem flush_none (empty : before.queue.staging = none) : (link send).flush before = before := by
  have found : ((link send).queue.get before).staging = none := empty
  rw [TxLink.flush, found]

theorem flush_some (send : Frame → Duration → τ → Bool × τ)
    (found : before.queue.staging = some frame) :
    ∃ accepted transport, (link send).flush before =
      (before.passed frame.sealed accepted transport).staging none := by
  have staged : ((link send).queue.get before).staging = some frame := found
  obtain ⟨accepted, transport, pushed⟩ := pushFrame_eq send frame.sealed (before.staging none)
  refine ⟨accepted, transport, ?_⟩
  rw [TxLink.flush, staged]
  change ((link send).pushFrame frame.sealed (before.staging none)).2 = _
  rw [pushed, passed_staging]

theorem stagingFrame_some (found : before.queue.staging = some frame) :
    before.queue.stagingFrame = frame := by
  rw [TxQueue.stagingFrame, found]
  rfl

/-- A fresh frame bears the device of the queue, whatever has been counted. -/
theorem stagingFrame_emptied (depot : Depot τ) (frame : Frame) (accepted : Bool)
    (transport : τ) :
    ((depot.passed frame accepted transport).staging none).queue.stagingFrame =
      Frame.empty depot.queue.device 0 :=
  congrArg (Frame.empty · 0) (TxQueue.device_count depot.queue accepted)

/-- When a packet has no room, what is staged is handed over and the packet begins a new frame. -/
theorem serves_full {parcel : Parcel} (short : parcel.data.length ≤ maxPacketData)
    (full : before.queue.stagingFrame.remaining < packetHeader + parcel.data.length) :
    ∃ handed, Serves before (.push parcel) (.pushed (.ok ())) handed
      ((link send).push parcel.service parcel.command parcel.data before).2 := by
  cases found : before.queue.staging with
  | none =>
    rw [TxQueue.stagingFrame, found] at full
    exact absurd (Frame.fits_empty short) (Nat.not_le.mpr full)
  | some frame =>
    obtain ⟨accepted, transport, flushed⟩ := flush_some send found
    have fresh : ((link send).queue.get ((link send).flush before)).stagingFrame =
        Frame.empty before.queue.device 0 := by
      rw [flushed]
      exact stagingFrame_emptied before frame.sealed accepted transport
    have staged := TxQueue.stage?_fits (fresh ▸ Frame.fits_empty short)
    rw [TxLink.push_full short (TxQueue.stage?_full full) staged, TxLink.push_fits short staged,
      fresh, flushed]
    exact ⟨_, .overflowed short found (stagingFrame_some found ▸ full)⟩

theorem serves_push (send : Frame → Duration → τ → Bool × τ) (parcel : Parcel)
    (before : Depot τ) :
    ∃ handed, Serves before (.push parcel) (serve send (.push parcel) before).1 handed
      (serve send (.push parcel) before).2 := by
  by_cases long : maxPacketData < parcel.data.length
  · have pushed : serve send (.push parcel) before =
        (.pushed (.error (.packetTooLarge parcel.data.length)), before) := by
      simp only [serve, TxLink.push, if_pos long]
    rw [pushed]
    exact ⟨[], .refused long⟩
  have short := Nat.not_lt.mp long
  have answered : (serve send (.push parcel) before).1 = .pushed (.ok ()) := by
    simp only [serve, TxLink.push, if_neg long]
  rw [answered]
  by_cases fits : packetHeader + parcel.data.length ≤ before.queue.stagingFrame.remaining
  · have pushed : (serve send (.push parcel) before).2 = _ :=
      TxLink.push_fits short (TxQueue.stage?_fits fits)
    rw [pushed]
    exact ⟨[], .staged short fits⟩
  · exact serves_full short (Nat.not_le.mp fits)

theorem serves_serve (send : Frame → Duration → τ → Bool × τ) (order : Order)
    (before : Depot τ) :
    ∃ handed, Serves before order (serve send order before).1 handed
      (serve send order before).2 := by
  cases order with
  | push parcel => exact serves_push send parcel before
  | flush =>
    cases found : before.queue.staging with
    | none =>
      rw [serve, flush_none found]
      exact ⟨[], .idle found⟩
    | some frame =>
      obtain ⟨accepted, transport, flushed⟩ := flush_some send found
      rw [serve, flushed]
      exact ⟨_, .flushed found⟩
  | pushFrame frame =>
    obtain ⟨accepted, transport, pushed⟩ := pushFrame_eq send frame before
    rw [serve, pushed]
    exact ⟨_, .direct⟩

end

/-- A depot that has staged just these packets. -/
structure Stages (depot : Depot τ) (device : UInt64) (parcels : List Parcel) : Prop where
  own : depot.queue.device = device
  holds : depot.queue.stagingFrame.Holds device 0 parcels
  /-- No frame is staged without a packet. -/
  filled : depot.queue.staging = none ↔ parcels = []

namespace Stages

variable {before : Depot τ} {device : UInt64} {parcels : List Parcel}

theorem create (device : UInt64) (sendTimeout : Duration) (transport : τ) :
    (Depot.create device sendTimeout transport).Stages device [] :=
  ⟨rfl, Frame.holds_empty device 0, ⟨fun _ => rfl, fun _ => rfl⟩⟩

theorem passed (stages : before.Stages device parcels) (frame : Frame) (accepted : Bool)
    (transport : τ) : (before.passed frame accepted transport).Stages device parcels := by
  obtain ⟨own, holds, filled⟩ := stages
  cases accepted <;> exact ⟨own, holds, filled⟩

theorem staged (stages : before.Stages device parcels) {parcel : Parcel}
    (fits : packetHeader + parcel.data.length ≤ before.queue.stagingFrame.remaining) :
    (before.staging (some (before.queue.stagingFrame.joined parcel))).Stages device
      (parcels ++ [parcel]) :=
  ⟨stages.own, stages.holds.add fits, by simp [staging]⟩

theorem emptied (stages : before.Stages device parcels) :
    (before.staging none).Stages device [] := by
  refine ⟨stages.own, ?_, by simp [staging]⟩
  rw [← stages.own]
  exact Frame.holds_empty before.queue.device 0

theorem parts (stages : before.Stages device parcels) {frame : Frame}
    (found : before.queue.staging = some frame) :
    frame.sealed.packets = parcels.map (Parcel.packet device 0) ∧ frame.sealed.Parts device := by
  have holds := stagingFrame_some found ▸ stages.holds
  have filled : frame.payload ≠ [] := by
    cases parcels with
    | nil => exact absurd (stages.filled.mpr rfl) (by rw [found]; nofun)
    | cons first rest =>
      have some_ : first.bytes ≠ [] := nofun
      rw [holds.payload, List.flatMap_cons]
      exact List.append_ne_nil_of_left_ne_nil some_ _
  exact ⟨holds.packets, frame.crc_sealed, filled, holds.room, holds.device, holds.flags⟩

theorem packets (stages : before.Stages device parcels) :
    before.queue.staging.toList.flatMap Frame.packets =
      parcels.map (Parcel.packet device 0) := by
  cases found : before.queue.staging with
  | none =>
    rw [stages.filled.mp found]
    rfl
  | some frame =>
    have front : frame.packets = _ := (stages.parts found).1
    rw [← front]
    exact List.append_nil _

end Stages

namespace Serves

variable {before after : Depot τ} {order : Order} {answer : Answer} {handed : List (Frame × Bool)}
  {device : UInt64} {parcels : List Parcel}

theorem handed_eq (serves : Serves before order answer handed after) :
    after.handed = before.handed ++ handed := by
  cases serves with
  | refused | staged | idle => exact (List.append_nil _).symm
  | overflowed | flushed | direct => rfl

theorem counts (serves : Serves before order answer handed after) :
    after.queue.sent = before.queue.sent + handed.countP (·.2) ∧
      after.queue.dropped = before.queue.dropped + handed.countP (!·.2) := by
  cases serves with
  | refused | staged | idle => exact ⟨rfl, rfl⟩
  | @overflowed _ _ accepted | @flushed _ accepted | @direct _ accepted =>
    cases accepted <;> exact ⟨rfl, rfl⟩

/-- One call keeps all packets in their order: those that were staged and the one that it queues are
those that it hands over and those that are staged then. -/
theorem keeps (serves : Serves before order answer handed after)
    (stages : before.Stages device parcels) :
    ∃ later, after.Stages device later ∧
      (order.staged handed).flatMap Frame.packets ++ later.map (Parcel.packet device 0) =
        (parcels ++ order.queued answer).map (Parcel.packet device 0) ∧
      ∀ frame ∈ order.staged handed, frame.Parts device := by
  cases serves with
  | refused | idle =>
    exact ⟨parcels, stages, by simp [Order.staged, Order.queued], List.forall_mem_nil _⟩
  | staged short fits => exact ⟨_, stages.staged fits, rfl, List.forall_mem_nil _⟩
  | @overflowed parcel frame accepted transport short found full =>
    obtain ⟨packets, parts⟩ := stages.parts found
    have emptied := (stages.passed frame.sealed accepted transport).emptied
    have fresh := stagingFrame_emptied before frame.sealed accepted transport
    have again := emptied.staged (fresh ▸ Frame.fits_empty short)
    rw [fresh] at again
    refine ⟨[parcel], again, ?_, List.forall_mem_singleton.mpr parts⟩
    simp [Order.staged, Order.queued, packets]
  | @flushed frame accepted transport found =>
    obtain ⟨packets, parts⟩ := stages.parts found
    refine ⟨[], (stages.passed frame.sealed accepted transport).emptied, ?_, ?_⟩
    · simp [Order.staged, Order.queued, packets]
    · exact List.forall_mem_singleton.mpr parts
  | @direct frame accepted transport =>
    exact ⟨parcels, stages.passed frame accepted transport, by simp [Order.staged, Order.queued],
      List.forall_mem_nil _⟩

theorem dealing_handed (serves : Serves before order answer handed after) :
    Dealing.handed ⟨order, before, answer, after⟩ = handed := by
  rw [Dealing.handed, serves.handed_eq, List.drop_left]

theorem fair (serves : Serves before order answer handed after) :
    Dealing.Fair ⟨order, before, answer, after⟩ := by
  have same := serves.dealing_handed
  cases serves with
  | refused long =>
    refine ⟨?_, ?_, ?_, nofun⟩
    · rintro _ ⟨⟩ -
      exact ⟨rfl, rfl⟩
    · rintro _ ⟨⟩ short
      exact absurd long (Nat.not_lt.mpr short)
    · exact fun _ _ some_ => absurd same some_
  | staged short fits =>
    refine ⟨?_, fun _ _ _ => rfl, fun _ _ some_ => absurd same some_, nofun⟩
    rintro _ ⟨⟩ long
    exact absurd long (Nat.not_lt.mpr short)
  | overflowed short found full =>
    refine ⟨?_, fun _ _ _ => rfl, ?_, nofun⟩
    · rintro _ ⟨⟩ long
      exact absurd long (Nat.not_lt.mpr short)
    · rintro _ ⟨⟩ -
      exact ⟨_, _, found, full, same⟩
  | idle | flushed => exact ⟨nofun, nofun, nofun, nofun⟩
  | direct =>
    refine ⟨nofun, nofun, nofun, ?_⟩
    rintro _ ⟨⟩
    exact ⟨_, rfl, same, TxQueue.staging_count ..⟩

end Serves

section

variable (send : Frame → Duration → τ → Bool × τ) (orders : List Order)

theorem run_cons (order : Order) (rest : List Order) (start : Depot τ) :
    run send (order :: rest) start =
      (deal send order start :: (run send rest (deal send order start).after).1,
        (run send rest (deal send order start).after).2) := rfl

theorem run_fair (start : Depot τ) : ∀ dealing ∈ (run send orders start).1, dealing.Fair := by
  induction orders generalizing start with
  | nil => exact List.forall_mem_nil _
  | cons order rest ih =>
    obtain ⟨handed, serves⟩ := serves_serve send order start
    exact List.forall_mem_cons.mpr ⟨serves.fair, ih _⟩

/-- The record grows by what the calls hand over, and the counts go with it. -/
theorem run_counts (start : Depot τ) :
    let handed := (run send orders start).1.flatMap Dealing.handed
    let last := (run send orders start).2
    last.handed = start.handed ++ handed ∧
      last.queue.sent = start.queue.sent + handed.countP (·.2) ∧
      last.queue.dropped = start.queue.dropped + handed.countP (!·.2) := by
  induction orders generalizing start with
  | nil => exact ⟨(List.append_nil _).symm, rfl, rfl⟩
  | cons order rest ih =>
    obtain ⟨handed, serves⟩ := serves_serve send order start
    have front : (deal send order start).handed = handed := serves.dealing_handed
    obtain ⟨took, refused⟩ := serves.counts
    obtain ⟨record, sent, dropped⟩ := ih (deal send order start).after
    simp only [run_cons, List.flatMap_cons, front, List.countP_append, record, sent, dropped]
    refine ⟨?_, ?_, ?_⟩
    · rw [← List.append_assoc, ← serves.handed_eq]
      rfl
    · rw [← Nat.add_assoc, ← took]
      rfl
    · rw [← Nat.add_assoc, ← refused]
      rfl

/-- All calls together keep the packets in their order, as each of them does. -/
theorem run_keeps {start : Depot τ} {device : UInt64} {parcels : List Parcel}
    (stages : start.Stages device parcels) :
    let dealings := (run send orders start).1
    ∃ later, (run send orders start).2.Stages device later ∧
      (dealings.flatMap Dealing.staged).flatMap Frame.packets ++
          later.map (Parcel.packet device 0) =
        (parcels ++ dealings.flatMap Dealing.queued).map (Parcel.packet device 0) ∧
      ∀ frame ∈ dealings.flatMap Dealing.staged, frame.Parts device := by
  induction orders generalizing start parcels with
  | nil => exact ⟨parcels, stages, by simp [run], List.forall_mem_nil _⟩
  | cons order rest ih =>
    obtain ⟨handed, serves⟩ := serves_serve send order start
    have front : (deal send order start).staged = order.staged handed :=
      congrArg order.staged serves.dealing_handed
    obtain ⟨between, staged, first, parts⟩ := serves.keeps stages
    obtain ⟨later, last, others, more⟩ := ih staged
    refine ⟨later, last, ?_, ?_⟩
    · simp only [run_cons, List.flatMap_cons, front, List.flatMap_append, List.append_assoc]
      refine (congrArg _ others).trans ?_
      rw [List.map_append, ← List.append_assoc, first, ← List.map_append, List.append_assoc]
      rfl
    · simp only [run_cons, List.flatMap_cons, front]
      exact List.forall_mem_append.mpr ⟨parts, more⟩

end

/-- Whatever is asked of a queue and whatever its transport takes or refuses, no packet that was
queued is lost, repeated, moved or split on the way into the frames that are handed over, and the
queue has counted each of these frames. -/
theorem conserves_packets (send : Frame → Duration → τ → Bool × τ) (device : UInt64)
    (sendTimeout : Duration) (transport : τ) (orders : List Order) :
    let (dealings, last) := run send orders (create device sendTimeout transport)
    Conserves device dealings last := by
  obtain ⟨record, took, refused⟩ := run_counts send orders (create device sendTimeout transport)
  obtain ⟨later, stages, kept, parts⟩ :=
    run_keeps send orders (Stages.create device sendTimeout transport)
  have handed := record.trans (List.nil_append _)
  have sent := took.trans (Nat.zero_add _)
  have dropped := refused.trans (Nat.zero_add _)
  rw [← handed] at sent dropped
  refine ⟨run_fair send orders _, ?_, parts, handed, sent, dropped, ?_⟩
  · rw [List.flatMap_append, stages.packets, kept]
    rfl
  · rw [sent, dropped, List.length_eq_countP_add_countP (·.2)]
    simp

end Depot

end PipeBus

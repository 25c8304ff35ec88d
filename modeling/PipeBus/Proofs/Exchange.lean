import PipeBus.Proofs.AckTable
import PipeBus.Proofs.Reception
import PipeBus.Proofs.Trail

/-! An output pipe at one node and the input pipe that it leads to at another. Every frame that
is handed over has a fate of its own, and so has the acknowledgement of it. -/

namespace PipeBus

variable {ω κ α : Type}

inductive Fate where
  /-- The transport does not take it. -/
  | refused
  | lost
  /-- It is processed, and the acknowledgement is lost. -/
  | unanswered
  /-- It is processed, and acknowledged at once. -/
  | answered
  /-- It is processed, and acknowledged while the sender waits. -/
  | answeredLate
  deriving DecidableEq

/-- A sender, and a receiver whose input pipes are on record. -/
structure Exchange (ω κ : Type) where
  sender : Node ω
  receiver : Peer (List (κ × Delivery)) κ
  /-- What becomes of the frames handed over, in their order. -/
  fates : Nat → Fate
  sends : Nat := 0
  /-- Acknowledgements that come while the sender waits. -/
  late : List Frame := []

namespace Exchange

def record (sink : κ) (delivery : Delivery) (log : List (κ × Delivery)) : List (κ × Delivery) :=
  log ++ [(sink, delivery)]

abbrev Hosted (κ : Type) := List (Service (Peer (List (κ × Delivery)) κ))

variable (services : Hosted κ)

/-- A node whose input pipes are on record processes a frame. -/
def process (frame : Frame) (receiver : Peer (List (κ × Delivery)) κ) :
    Peer (List (κ × Delivery)) κ :=
  (Peer.station services (Peer.hearing record)).processFrame frame receiver

def arrive (frame : Frame) (exchange : Exchange ω κ) : Exchange ω κ :=
  { exchange with receiver := process services frame { exchange.receiver with outbox := [] } }

def hear (frames : List Frame) (exchange : Exchange ω κ) : Exchange ω κ :=
  { exchange with
    sender := { exchange.sender with
      registry := frames.foldl Registry.hearFrame exchange.sender.registry } }

def meet (frame : Frame) (fate : Fate) (exchange : Exchange ω κ) : Exchange ω κ :=
  let arrived := exchange.arrive services frame
  match fate with
  | .refused | .lost => { exchange with late := [] }
  | .unanswered => { arrived with late := [] }
  | .answered => { arrived.hear arrived.receiver.outbox with late := [] }
  | .answeredLate => { arrived with late := arrived.receiver.outbox }

def senderPlace : Lens (Exchange ω κ) (Node ω) where
  get := sender
  set sender exchange := { exchange with sender }

/-- The sender's node, whose frames meet their fates. -/
def link : NodeLink (Exchange ω κ) ω where
  node := senderPlace
  transmit frame _ exchange :=
    (exchange.fates exchange.sends != .refused,
    { exchange.meet services frame (exchange.fates exchange.sends) with
      sends := exchange.sends + 1 })

/-- While the sender waits, late acknowledgements come in. -/
def meanwhile (_ : Duration) (exchange : Exchange ω κ) : Exchange ω κ :=
  { exchange.hear exchange.late with late := [] }

/-- A log that holds what one receiver hears of some pieces, and nothing else. -/
def Told (log : List (κ × Delivery)) (sink : κ) (delivered : List Piece) : Prop :=
  log.map (fun entry => (entry.1, entry.2.heard)) =
    (delivered.flatMap Piece.heard).map (Prod.mk sink)

/-- A receiver that has been given some pieces on one of its pipes. -/
structure Heard (receiver : Peer (List (κ × Delivery)) κ) (device : UInt64) (port : UInt16)
    (id : SlotId) (sink : κ) (delivered : List Piece) : Prop where
  mine : receiver.node.config.device = device
  gate : receiver.node.registry.Gate port id sink delivered
  log : Told receiver.rest sink delivered

variable {receiver : Peer (List (κ × Delivery)) κ} {device : UInt64} {port : UInt16}
  {id : SlotId} {sink : κ} {accepted delivered confirmed pieces : List Piece}

theorem tellAll_record (sink : κ) (deliveries : List Delivery) (log : List (κ × Delivery)) :
    tellAll record sink deliveries log = log ++ deliveries.map (Prod.mk sink) := by
  induction deliveries generalizing log with
  | nil => simp [tellAll]
  | cons delivery rest ih =>
    have later := ih (record sink delivery log)
    simp only [tellAll, List.foldl_cons] at later ⊢
    rw [later, record, List.map_cons, List.append_assoc, List.singleton_append]

/-- A copy of the frame that follows what has been confirmed leaves its pieces delivered, whether
they were before or not. -/
theorem Heard.process (heard : Heard receiver device port id sink delivered)
    (cargo : Cargo accepted confirmed pieces) (few : pieces.length < 32)
    (either : delivered = confirmed ∨ delivered = confirmed ++ pieces) :
    Heard (process services (carrier device port confirmed.length pieces).sealed receiver) device
      port id sink (confirmed ++ pieces) := by
  obtain ⟨mine, gate, log⟩ := heard
  have sends := Peer.Transmits.acknowledge services (Peer.hearing record)
    (carrier device port confirmed.length pieces).sealed receiver
  obtain ⟨fresh, grown, received, after⟩ :=
    Peer.processFrame_copy record services mine gate cargo few either
  obtain ⟨deliveries, same, rest⟩ := received.told
  refine ⟨(congrArg NodeConfig.device (received.config.trans sends.config)).trans mine, after, ?_⟩
  rw [Told] at log ⊢
  rw [Exchange.process, rest, sends.rest, tellAll_record, List.map_append, log, ← grown,
    List.flatMap_append, List.map_append, ← same, List.map_map, List.map_map]
  rfl

/-- What a phase says of the pieces delivered so far. -/
def Tracks (exchange : Exchange ω κ) (ack : AckHandle) (accepted delivered : List Piece) :
    Phase → Prop
  | .resting confirmed => delivered = confirmed
  | .armed confirmed pieces => Cargo accepted confirmed pieces ∧ delivered = confirmed ∧
      exchange.sender.registry.rung ack.bell = false
  | .flying confirmed pieces => Cargo accepted confirmed pieces ∧
      (delivered = confirmed ∧ exchange.sender.registry.rung ack.bell = false ∧
          exchange.late = [] ∨
        delivered = confirmed ++ pieces)
  | .landed confirmed pieces => delivered = confirmed ++ pieces
  | .lost confirmed pieces | .gone confirmed pieces =>
    delivered = confirmed ∨ delivered = confirmed ++ pieces

/-- An exchange in which a pipe is in some phase. -/
structure InPhase (exchange : Exchange ω κ) (ack : AckHandle) (device : UInt64) (port : UInt16)
    (id : SlotId) (sink : κ) (accepted : List Piece) (phase : Phase) (delivered : List Piece) :
    Prop where
  heard : Heard exchange.receiver device port id sink delivered
  waits : phase.Held → ∃ armed, exchange.sender.registry.Waits ack device armed
  within : delivered <+: accepted
  tracks : exchange.Tracks ack accepted delivered phase

variable {exchange : Exchange ω κ} {ack : AckHandle} {phase : Phase}

theorem InPhase.mono {more : List Piece} (grows : accepted <+: more)
    (inPhase : exchange.InPhase ack device port id sink accepted phase delivered) :
    exchange.InPhase ack device port id sink more phase delivered := by
  have larger {confirmed pieces : List Piece} (cargo : Cargo accepted confirmed pieces) :
      Cargo more confirmed pieces := { cargo with within := cargo.within.trans grows }
  refine ⟨inPhase.heard, inPhase.waits, inPhase.within.trans grows, ?_⟩
  have tracks := inPhase.tracks
  cases phase with
  | armed confirmed pieces => exact tracks.imp_left larger
  | flying confirmed pieces => exact tracks.imp_left larger
  | _ => exact tracks

/-- A frame that is handed over for the first time, or once more. -/
theorem InPhase.meet (fate : Fate) (few : pieces.length < 32)
    (cargo : Cargo accepted confirmed pieces)
    (heard : Heard exchange.receiver device port id sink delivered)
    (waits : ∃ armed, exchange.sender.registry.Waits ack device armed)
    (within : delivered <+: accepted)
    (tracks : delivered = confirmed ∧ exchange.sender.registry.rung ack.bell = false ∨
      delivered = confirmed ++ pieces) :
    ∃ later, (exchange.meet services (carrier device port confirmed.length pieces).sealed
      fate).InPhase ack device port id sink accepted (.flying confirmed pieces) later := by
  have arrived : Heard (exchange.arrive services
      (carrier device port confirmed.length pieces).sealed).receiver device port id sink
        (confirmed ++ pieces) := by
    have hears : Heard { exchange.receiver with outbox := [] } device port id sink delivered :=
      ⟨heard.mine, heard.gate, heard.log⟩
    exact hears.process services cargo few (tracks.imp_left And.left)
  have stays : (exchange.meet services (carrier device port confirmed.length pieces).sealed
      .lost).InPhase ack device port id sink accepted (.flying confirmed pieces) delivered := by
    refine ⟨heard, fun _ => waits, within, cargo, ?_⟩
    exact tracks.imp_left fun ⟨same, unrung⟩ => ⟨same, unrung, rfl⟩
  cases fate with
  | refused => exact ⟨delivered, stays⟩
  | lost => exact ⟨delivered, stays⟩
  | unanswered => exact ⟨_, arrived, fun _ => waits, cargo.within, cargo, .inr rfl⟩
  | answered =>
    obtain ⟨armed, waits⟩ := waits
    exact ⟨_, arrived, fun _ => ⟨armed, waits.hearFrames _⟩, cargo.within, cargo, .inr rfl⟩
  | answeredLate => exact ⟨_, arrived, fun _ => waits, cargo.within, cargo, .inr rfl⟩

theorem InPhase.meanwhile (delay : Duration)
    (inPhase : exchange.InPhase ack device port id sink accepted (.flying confirmed pieces)
      delivered) :
    (exchange.meanwhile delay).InPhase ack device port id sink accepted (.flying confirmed pieces)
      delivered := by
  obtain ⟨heard, waits, within, cargo, tracks⟩ := inPhase
  obtain ⟨armed, waits⟩ := waits trivial
  refine ⟨heard, fun _ => ⟨armed, waits.hearFrames _⟩, within, cargo, ?_⟩
  refine tracks.imp_left fun ⟨same, unrung, empty⟩ => ⟨same, ?_, rfl⟩
  rw [Exchange.meanwhile, empty]
  exact unrung

theorem InPhase.answer
    (inPhase : exchange.InPhase ack device port id sink accepted (.flying confirmed pieces)
      delivered)
    (rung : (link services).isRung ack exchange = true) :
    ((link services).answer ack exchange).InPhase ack device port id sink accepted
      (.landed confirmed pieces) delivered := by
  obtain ⟨heard, waits, within, _, tracks⟩ := inPhase
  obtain ⟨armed, waits⟩ := waits trivial
  refine ⟨heard, fun _ => ⟨armed, waits.wait ack.bell⟩, within, ?_⟩
  rcases tracks with ⟨_, unrung, _⟩ | same
  · exact absurd (rung.symm.trans unrung) (by decide)
  · exact same

theorem InPhase.push (few : pieces.length < 32) (cargo : Cargo accepted confirmed pieces)
    (heard : Heard exchange.receiver device port id sink delivered)
    (waits : ∃ armed, exchange.sender.registry.Waits ack device armed)
    (within : delivered <+: accepted)
    (tracks : delivered = confirmed ∧ exchange.sender.registry.rung ack.bell = false ∨
      delivered = confirmed ++ pieces) :
    ∃ later, ((link services).tx.pushFrame (carrier device port confirmed.length pieces).sealed
      exchange).2.InPhase ack device port id sink accepted (.flying confirmed pieces) later := by
  obtain ⟨later, met⟩ := InPhase.meet services (exchange.fates exchange.sends) few cargo
    heard waits within tracks
  exact ⟨later, met.heard, met.waits, met.within, met.tracks⟩

/-- Arming makes a wake-up from before forgotten. -/
theorem InPhase.arm (crc : UInt16) (cargo : Cargo accepted confirmed pieces)
    (inPhase : exchange.InPhase ack device port id sink accepted (.resting confirmed) delivered) :
    ((link services).registry.modify (·.arm ack.slot crc) exchange).InPhase ack device port id sink
      accepted (.armed confirmed pieces) delivered := by
  obtain ⟨armed, waits⟩ := inPhase.waits trivial
  exact ⟨inPhase.heard, fun _ => ⟨_, waits.arm crc⟩, inPhase.within, cargo, inPhase.tracks,
    waits.rung_arm crc⟩

theorem InPhase.disarm {later : Phase}
    (inPhase : exchange.InPhase ack device port id sink accepted phase delivered)
    (held : phase.Held)
    (tracks : ((link services).registry.modify (·.disarm ack.slot) exchange).Tracks ack accepted
      delivered later) :
    ((link services).registry.modify (·.disarm ack.slot) exchange).InPhase ack device port id sink
      accepted later delivered := by
  obtain ⟨armed, waits⟩ := inPhase.waits held
  exact ⟨inPhase.heard, fun _ => ⟨_, waits.disarm⟩, inPhase.within, tracks⟩

theorem InPhase.release
    (inPhase : exchange.InPhase ack device port id sink accepted phase delivered)
    (tracks : delivered = confirmed ∨ delivered = confirmed ++ pieces) :
    ((link services).registry.modify (fun registry => (registry.unregisterOutput ack.slot).2)
      exchange).InPhase ack device port id sink accepted (.gone confirmed pieces) delivered :=
  ⟨inPhase.heard, fun held => held.elim, inPhase.within, tracks⟩

/-- A call that keeps to the protocol keeps the exchange in step with it, at every moment. -/
theorem InPhase.call {post : Phase → α → Prop} {call : Call α}
    (filled : ∀ piece ∈ accepted, piece.kind ≠ .close → piece.data ≠ [])
    (obeys : call.Obeys device port accepted post phase)
    (inPhase : exchange.InPhase ack device port id sink accepted phase delivered) :
    (∀ seen ∈ (link services).trail Exchange.meanwhile ack call exchange, ∃ phase delivered,
      seen.InPhase ack device port id sink accepted phase delivered) ∧
    ∃ phase delivered,
      post phase ((link services).complete Exchange.meanwhile ack call exchange).1 ∧
      ((link services).complete Exchange.meanwhile ack call exchange).2.InPhase ack device port id
        sink accepted phase delivered := by
  induction obeys generalizing exchange delivered with
  | done ends =>
    refine ⟨fun seen member => ?_, _, _, ends, inPhase⟩
    rw [List.mem_singleton.mp member]
    exact ⟨_, _, inPhase⟩
  | @arm confirmed pieces _ cargo _ ih =>
    have next := ih (inPhase.arm services
      (carrier device port confirmed.length pieces).sealed.crc cargo)
    exact ⟨List.forall_mem_cons.mpr ⟨⟨_, _, inPhase⟩, next.1⟩, next.2⟩
  | launch _ ih =>
    -- A cargo is too small for its counters to come round, so copies of it change nothing.
    obtain ⟨cargo, same, unrung⟩ := inPhase.tracks
    obtain ⟨later, pushed⟩ := InPhase.push services (cargo.length_lt filled) cargo inPhase.heard
      (inPhase.waits trivial) inPhase.within (.inl ⟨same, unrung⟩)
    have next := ih pushed
    exact ⟨List.forall_mem_cons.mpr ⟨⟨_, _, inPhase⟩, next.1⟩, next.2⟩
  | relaunch _ ih =>
    obtain ⟨cargo, tracks⟩ := inPhase.tracks
    obtain ⟨later, pushed⟩ := InPhase.push services (cargo.length_lt filled) cargo inPhase.heard
      (inPhase.waits trivial) inPhase.within
      (tracks.imp_left fun told => ⟨told.1, told.2.1⟩)
    have next := ih pushed
    exact ⟨List.forall_mem_cons.mpr ⟨⟨_, _, inPhase⟩, next.1⟩, next.2⟩
  | @wait confirmed pieces delay next _ _ rung elapsed =>
    -- Late acknowledgements only come in when the bell has not been rung before.
    have waited : (if (link services).isRung ack exchange then exchange
        else Exchange.meanwhile delay exchange).InPhase ack device port id sink accepted
          (.flying confirmed pieces) delivered := by
      split
      · exact inPhase
      · exact inPhase.meanwhile delay
    rw [NodeLink.trail, NodeLink.complete]
    generalize (if (link services).isRung ack exchange then exchange
      else Exchange.meanwhile delay exchange) = later at waited ⊢
    by_cases answered : (link services).isRung ack later = true
    · have next := rung (waited.answer services answered)
      simp only [answered, ↓reduceIte]
      exact ⟨List.forall_mem_cons.mpr ⟨⟨_, _, inPhase⟩,
        List.forall_mem_cons.mpr ⟨⟨_, _, waited⟩, next.1⟩⟩, next.2⟩
    · have next := elapsed waited
      simp only [answered]
      exact ⟨List.forall_mem_cons.mpr ⟨⟨_, _, inPhase⟩,
        List.forall_mem_cons.mpr ⟨⟨_, _, waited⟩, next.1⟩⟩, next.2⟩
  | confirm _ ih =>
    have next := ih (inPhase.disarm services trivial inPhase.tracks)
    exact ⟨List.forall_mem_cons.mpr ⟨⟨_, _, inPhase⟩, next.1⟩, next.2⟩
  | abandon _ ih =>
    have next := ih (inPhase.disarm services trivial
      (inPhase.tracks.2.imp_left And.left))
    exact ⟨List.forall_mem_cons.mpr ⟨⟨_, _, inPhase⟩, next.1⟩, next.2⟩
  | abort _ ih =>
    have next := ih (inPhase.disarm services trivial (.inl inPhase.tracks.2.1))
    exact ⟨List.forall_mem_cons.mpr ⟨⟨_, _, inPhase⟩, next.1⟩, next.2⟩
  | leave _ ih =>
    have next := ih (inPhase.release services (.inl inPhase.tracks))
    exact ⟨List.forall_mem_cons.mpr ⟨⟨_, _, inPhase⟩, next.1⟩, next.2⟩
  | giveUp _ ih =>
    have next := ih (inPhase.release services inPhase.tracks)
    exact ⟨List.forall_mem_cons.mpr ⟨⟨_, _, inPhase⟩, next.1⟩, next.2⟩

/-- A node on which one pipe has been opened for receiving. -/
def listener : InputPipe × Peer (List (Unit × Delivery)) Unit :=
  match Peer.link.openInput () { node := Node.create { device := 2 } scatteredPorts, rest := [] } with
  | (.ok input, opened) => (input, opened)
  | (.error _, unopened) => (⟨⟨0, 0⟩, 0⟩, unopened)

end Exchange

end PipeBus

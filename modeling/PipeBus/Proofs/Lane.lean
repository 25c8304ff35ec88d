import PipeBus.Proofs.Protocol
import PipeBus.Proofs.Reports

/-! The way of a pipe's frames to their receiver, and of the acknowledgements back. Frames keep
their order and any of them may be lost; a frame may also arrive when its wait has run out, but
then its acknowledgement is lost. -/

namespace PipeBus

variable {α ε κ : Type}

/-- What is on its way between the two ends of a pipe. -/
structure Lane where
  frames : List Frame := []
  /-- The wait for the last frame that was sent is still under way. -/
  current : Bool := false
  /-- Acknowledgements of that frame. -/
  acks : List Frame := []

namespace Lane

def launch (lane : Lane) (frame : Frame) : Lane where
  frames := lane.frames ++ [frame]
  current := true

def launchAll (lane : Lane) (frames : List Frame) : Lane := frames.foldl launch lane

def expire (lane : Lane) : Lane where
  frames := lane.frames

/-- The oldest frame has been answered. -/
def arrive (lane : Lane) (rest answers : List Frame) : Lane where
  frames := rest
  current := lane.current
  acks := if lane.current && rest.isEmpty then answers else lane.acks

def lose (lane : Lane) (rest : List Frame) : Lane := { lane with frames := rest }

def hear (lane : Lane) : Lane := { lane with acks := [] }

/-- Nothing but copies of one frame is on its way. -/
def Repeats (lane : Lane) (frame : Frame) : Prop := ∀ other ∈ lane.frames, other = frame

/-- What a phase says of the pieces delivered so far, and of what is on its way. Copies of a frame
are only on their way while nobody has been told that it has been delivered. -/
def Tracks (lane : Lane) (rung : Bool) (device : UInt64) (port : UInt16)
    (accepted delivered : List Piece) : Phase → Prop
  | .resting confirmed => delivered = confirmed ∧ lane.frames = []
  | .armed confirmed pieces => Cargo accepted confirmed pieces ∧ delivered = confirmed ∧
      lane.frames = [] ∧ rung = false
  | .flying confirmed pieces => Cargo accepted confirmed pieces ∧
      lane.Repeats (carrier device port confirmed.length pieces).sealed ∧
      (delivered = confirmed ∧ rung = false ∧ lane.acks = [] ∨
        delivered = confirmed ++ pieces ∧ (rung = true ∨ lane.acks ≠ [] → lane.frames = []))
  | .landed confirmed pieces => delivered = confirmed ++ pieces ∧ lane.frames = []
  | .lost confirmed pieces => Cargo accepted confirmed pieces ∧
      lane.Repeats (carrier device port confirmed.length pieces).sealed ∧
      (delivered = confirmed ∨ delivered = confirmed ++ pieces)
  | .gone confirmed pieces => pieces = [] ∧ delivered = confirmed ∧ lane.frames = [] ∨
      Cargo accepted confirmed pieces ∧
        lane.Repeats (carrier device port confirmed.length pieces).sealed ∧
        (delivered = confirmed ∨ delivered = confirmed ++ pieces)

/-- A lane and the open pipes of the sending node, the only one of which is in some phase. -/
structure Carries (lane : Lane) (sender : Registry κ) (ack : AckHandle) (device : UInt64)
    (port : UInt16) (accepted delivered : List Piece) (phase : Phase) : Prop where
  held : phase.Held → sender.outputs.size = 1 ∧ ∃ armed, sender.Waits ack device armed
  left : ¬ phase.Held → sender.outputs.size = 0
  within : delivered <+: accepted
  bare : ∀ frame ∈ lane.acks, frame.Bare
  tracks : lane.Tracks (sender.rung ack.bell) device port accepted delivered phase

namespace Carries

variable {lane : Lane} {sender : Registry κ} {ack : AckHandle} {device : UInt64} {port : UInt16}
  {accepted delivered confirmed pieces : List Piece} {phase : Phase}

theorem mono {more : List Piece} (grows : accepted <+: more)
    (carries : lane.Carries sender ack device port accepted delivered phase) :
    lane.Carries sender ack device port more delivered phase := by
  have larger {confirmed pieces : List Piece} (cargo : Cargo accepted confirmed pieces) :
      Cargo more confirmed pieces := { cargo with within := cargo.within.trans grows }
  refine ⟨carries.held, carries.left, carries.within.trans grows, carries.bare, ?_⟩
  have tracks := carries.tracks
  cases phase with
  | resting confirmed => exact tracks
  | armed confirmed pieces => exact tracks.imp_left larger
  | flying confirmed pieces => exact tracks.imp_left larger
  | landed confirmed pieces => exact tracks
  | lost confirmed pieces => exact tracks.imp_left larger
  | gone confirmed pieces => exact tracks.imp_right fun stray => stray.imp_left larger

/-- Only the waiters of the sending node and their bells count. -/
theorem of_same {other : Registry κ} (outputs : other.outputs = sender.outputs)
    (bells : other.bells = sender.bells)
    (carries : lane.Carries sender ack device port accepted delivered phase) :
    lane.Carries other ack device port accepted delivered phase := by
  have rung : other.rung ack.bell = sender.rung ack.bell := by
    rw [Registry.rung_eq, Registry.rung_eq, bells]
  refine ⟨fun held => ?_, fun gone => ?_, carries.within, carries.bare, ?_⟩
  · obtain ⟨size, armed, found, bell⟩ := carries.held held
    rw [outputs]
    exact ⟨size, armed, outputs ▸ found, bells ▸ bell⟩
  · rw [outputs]
    exact carries.left gone
  · rw [rung]
    exact carries.tracks

theorem arm (crc : UInt16) (cargo : Cargo accepted confirmed pieces)
    (carries : lane.Carries sender ack device port accepted delivered (.resting confirmed)) :
    lane.Carries (sender.arm ack.slot crc) ack device port accepted delivered
      (.armed confirmed pieces) := by
  obtain ⟨size, armed, waits⟩ := carries.held trivial
  obtain ⟨same, empty⟩ := carries.tracks
  constructor
  · intro _
    exact ⟨(Registry.size_arm sender ack.slot crc).trans size, _, waits.arm crc⟩
  · intro gone
    exact absurd trivial gone
  · exact carries.within
  · exact carries.bare
  · exact ⟨cargo, same, empty, waits.rung_arm crc⟩

theorem disarm (later : Phase)
    (carries : lane.Carries sender ack device port accepted delivered phase) (held : phase.Held)
    (still : later.Held)
    (tracks : lane.Tracks (sender.rung ack.bell) device port accepted delivered later) :
    lane.Carries (sender.disarm ack.slot) ack device port accepted delivered later := by
  obtain ⟨size, armed, waits⟩ := carries.held held
  constructor
  · intro _
    exact ⟨(Arena.size_modify ..).trans size, _, waits.disarm⟩
  · intro gone
    exact absurd still gone
  · exact carries.within
  · exact carries.bare
  · exact tracks

theorem release
    (carries : lane.Carries sender ack device port accepted delivered phase) (held : phase.Held)
    (tracks : lane.Tracks (sender.rung ack.bell) device port accepted delivered
      (.gone confirmed pieces)) :
    lane.Carries (sender.unregisterOutput ack.slot).2 ack device port accepted delivered
      (.gone confirmed pieces) := by
  obtain ⟨size, armed, waits⟩ := carries.held held
  constructor
  · intro still
    exact absurd still id
  · intro _
    rw [Registry.unregisterOutput, Arena.remove?_of_get? waits.found]
    exact congrArg (· - 1) size
  · exact carries.within
  · exact carries.bare
  · rw [Registry.unregisterOutput, Arena.remove?_of_get? waits.found]
    exact tracks

/-- A wait succeeds only when the frame has been delivered, and no copy of it is left. -/
theorem answer
    (carries : lane.Carries sender ack device port accepted delivered (.flying confirmed pieces))
    (rung : sender.rung ack.bell = true) :
    lane.Carries (sender.wait ack.bell).2 ack device port accepted delivered
      (.landed confirmed pieces) := by
  obtain ⟨size, armed, waits⟩ := carries.held trivial
  obtain ⟨_, _, ⟨_, unrung, _⟩ | ⟨same, idle⟩⟩ := carries.tracks
  · exact absurd (rung.symm.trans unrung) (by decide)
  · constructor
    · intro _
      exact ⟨size, armed, waits.wait ack.bell⟩
    · intro gone
      exact absurd trivial gone
    · exact carries.within
    · exact carries.bare
    · exact ⟨same, idle (.inl rung)⟩

/-- A copy is sent while nobody has been told that the frame has been delivered. -/
theorem launch (cargo : Cargo accepted confirmed pieces)
    (carries : lane.Carries sender ack device port accepted delivered phase) (held : phase.Held)
    (repeats : lane.Repeats (carrier device port confirmed.length pieces).sealed)
    (unrung : sender.rung ack.bell = false)
    (either : delivered = confirmed ∨ delivered = confirmed ++ pieces) :
    (lane.launch (carrier device port confirmed.length pieces).sealed).Carries sender ack device
      port accepted delivered (.flying confirmed pieces) := by
  constructor
  · intro _
    exact carries.held held
  · intro gone
    exact absurd trivial gone
  · exact carries.within
  · exact List.forall_mem_nil _
  · refine ⟨cargo, ?_, ?_⟩
    · intro other member
      rcases List.mem_append.mp member with old | new
      · exact repeats other old
      · exact List.mem_singleton.mp new
    · rcases either with same | same
      · exact .inl ⟨same, unrung, rfl⟩
      · refine .inr ⟨same, ?_⟩
        rintro (rung | some)
        · exact absurd (rung.symm.trans unrung) (by decide)
        · exact absurd rfl some

/-- A frame that arrives is a copy of the one that follows what has been confirmed, and from then on
its pieces have been delivered. -/
theorem arrive {frame : Frame} {rest : List Frame}
    (carries : lane.Carries sender ack device port accepted delivered phase)
    (oldest : lane.frames = frame :: rest) :
    ∃ confirmed pieces, frame = (carrier device port confirmed.length pieces).sealed ∧
      Cargo accepted confirmed pieces ∧
      (delivered = confirmed ∨ delivered = confirmed ++ pieces) ∧
      ∀ answers, (∀ answer ∈ answers, answer.Bare) →
        (lane.arrive rest answers).Carries sender ack device port accepted (confirmed ++ pieces)
          phase := by
  have busy : lane.frames ≠ [] := by simp [oldest]
  have front : frame ∈ lane.frames := by simp [oldest]
  have behind : ∀ other ∈ rest, other ∈ lane.frames := by
    intro other member
    simp [oldest, member]
  have bare (answers : List Frame) (bare : ∀ answer ∈ answers, answer.Bare) :
      ∀ answer ∈ (lane.arrive rest answers).acks, answer.Bare := by
    intro answer member
    simp only [Lane.arrive] at member
    split at member
    · exact bare answer member
    · exact carries.bare answer member
  have tracks := carries.tracks
  cases phase with
  | resting confirmed => exact absurd tracks.2 busy
  | armed confirmed pieces => exact absurd tracks.2.2.1 busy
  | landed confirmed pieces => exact absurd tracks.2 busy
  | flying confirmed pieces =>
    obtain ⟨cargo, repeats, state⟩ := tracks
    have quiet : sender.rung ack.bell = false ∧ lane.acks = [] := by
      rcases state with ⟨_, unrung, silent⟩ | ⟨_, idle⟩
      · exact ⟨unrung, silent⟩
      · by_contra loud
        refine busy (idle ?_)
        by_cases silent : lane.acks = []
        · left
          simpa [silent] using loud
        · exact .inr silent
    refine ⟨confirmed, pieces, repeats frame front, cargo, state.imp And.left And.left, ?_⟩
    intro answers answered
    refine ⟨carries.held, carries.left, cargo.within, bare answers answered, cargo, ?_, ?_⟩
    · intro other member
      exact repeats other (behind other member)
    · refine .inr ⟨rfl, ?_⟩
      rintro (rung | some)
      · exact absurd (rung.symm.trans quiet.1) (by decide)
      · by_contra more
        apply some
        have behind : rest ≠ [] := more
        have unheard : (lane.current && rest.isEmpty) = false := by simp [behind]
        simp [Lane.arrive, unheard, quiet.2]
  | lost confirmed pieces =>
    obtain ⟨cargo, repeats, either⟩ := tracks
    refine ⟨confirmed, pieces, repeats frame front, cargo, either, ?_⟩
    intro answers answered
    refine ⟨carries.held, carries.left, cargo.within, bare answers answered, cargo, ?_, .inr rfl⟩
    exact fun other member => repeats other (behind other member)
  | gone confirmed pieces =>
    rcases tracks with ⟨_, _, empty⟩ | ⟨cargo, repeats, either⟩
    · exact absurd empty busy
    · refine ⟨confirmed, pieces, repeats frame front, cargo, either, ?_⟩
      intro answers answered
      refine ⟨carries.held, carries.left, cargo.within, bare answers answered,
        .inr ⟨cargo, ?_, .inr rfl⟩⟩
      exact fun other member => repeats other (behind other member)

theorem lose {frame : Frame} {rest : List Frame}
    (carries : lane.Carries sender ack device port accepted delivered phase)
    (oldest : lane.frames = frame :: rest) :
    (lane.lose rest).Carries sender ack device port accepted delivered phase := by
  have busy : lane.frames ≠ [] := by simp [oldest]
  have behind : ∀ other ∈ rest, other ∈ lane.frames := by
    intro other member
    simp [oldest, member]
  refine ⟨carries.held, carries.left, carries.within, carries.bare, ?_⟩
  have tracks := carries.tracks
  cases phase with
  | resting confirmed => exact absurd tracks.2 busy
  | armed confirmed pieces => exact absurd tracks.2.2.1 busy
  | landed confirmed pieces => exact absurd tracks.2 busy
  | flying confirmed pieces =>
    obtain ⟨cargo, repeats, state⟩ := tracks
    refine ⟨cargo, fun other member => repeats other (behind other member), ?_⟩
    exact state.imp_right fun ⟨same, idle⟩ => ⟨same, fun told => absurd (idle told) busy⟩
  | lost confirmed pieces =>
    obtain ⟨cargo, repeats, either⟩ := tracks
    exact ⟨cargo, fun other member => repeats other (behind other member), either⟩
  | gone confirmed pieces =>
    rcases tracks with ⟨_, _, empty⟩ | ⟨cargo, repeats, either⟩
    · exact absurd empty busy
    · exact .inr ⟨cargo, fun other member => repeats other (behind other member), either⟩

/-- Acknowledgements are only heard of a frame that has been delivered, when no copy is left. -/
theorem hear (carries : lane.Carries sender ack device port accepted delivered phase)
    (unarmed : ∀ confirmed pieces, phase ≠ .armed confirmed pieces) :
    lane.hear.Carries (lane.acks.foldl Registry.hearFrame sender) ack device port accepted
      delivered phase := by
  have outputs := Registry.outputs_hearFrames sender lane.acks
  constructor
  · intro held
    obtain ⟨size, armed, waits⟩ := carries.held held
    exact ⟨outputs ▸ size, armed, waits.hearFrames lane.acks⟩
  · intro gone
    exact outputs ▸ carries.left gone
  · exact carries.within
  · exact List.forall_mem_nil _
  · have tracks := carries.tracks
    cases phase with
    | resting confirmed => exact tracks
    | armed confirmed pieces => exact absurd rfl (unarmed confirmed pieces)
    | landed confirmed pieces => exact tracks
    | lost confirmed pieces => exact tracks
    | gone confirmed pieces => exact tracks
    | flying confirmed pieces =>
      obtain ⟨cargo, repeats, state⟩ := tracks
      refine ⟨cargo, repeats, ?_⟩
      rcases state with ⟨same, unrung, silent⟩ | ⟨same, idle⟩
      · left
        rw [silent]
        exact ⟨same, unrung, rfl⟩
      · right
        refine ⟨same, ?_⟩
        rintro (rung | some)
        · by_cases silent : lane.acks = []
          · rw [silent] at rung
            exact idle (.inl rung)
          · exact idle (.inr silent)
        · exact absurd rfl some

/-- A wait that runs out leaves the copies on their way; what acknowledges them is lost. -/
theorem expire
    (carries : lane.Carries sender ack device port accepted delivered (.flying confirmed pieces))
    (unrung : sender.rung ack.bell = false) :
    lane.expire.Carries sender ack device port accepted delivered (.flying confirmed pieces) := by
  obtain ⟨cargo, repeats, state⟩ := carries.tracks
  refine ⟨carries.held, carries.left, carries.within, nofun, cargo, repeats, ?_⟩
  rcases state with ⟨same, _, _⟩ | ⟨same, _⟩
  · exact .inl ⟨same, unrung, rfl⟩
  · refine .inr ⟨same, ?_⟩
    rintro (rung | some)
    · exact absurd (rung.symm.trans unrung) (by decide)
    · exact absurd rfl some

end Carries

theorem launchAll_concat (lane : Lane) (frames : List Frame) (frame : Frame) :
    lane.launchAll (frames ++ [frame]) = (lane.launchAll frames).launch frame := by
  simp [launchAll]

end Lane

/-- Where a call that keeps to the protocol ends, or has to wait. -/
inductive Call.Halts (device : UInt64) (port : UInt16) (accepted : List Piece)
    (post : Phase → α → Prop) : Phase → Call α → Prop where
  | done {phase : Phase} {value : α} (ends : post phase value) :
      Halts device port accepted post phase (.done value)
  | wait {confirmed pieces : List Piece} {delay : Duration} {next : Bool → Call α}
      (obeys : (Call.wait delay next).Obeys device port accepted post
        (.flying confirmed pieces)) :
      Halts device port accepted post (.flying confirmed pieces) (.wait delay next)

namespace Peer

/-- A call of an output pipe leaves the input pipes alone, and what the services keep. -/
structure Operates (before after : Peer ε κ) : Prop where
  config : after.node.config = before.node.config
  staging : after.node.tx.staging = before.node.tx.staging
  inputs : after.node.registry.inputs = before.node.registry.inputs
  rest : after.rest = before.rest

theorem Operates.refl (peer : Peer ε κ) : Operates peer peer := ⟨rfl, rfl, rfl, rfl⟩

theorem Operates.trans {first second third : Peer ε κ} (left : Operates first second)
    (right : Operates second third) : Operates first third where
  config := right.config.trans left.config
  staging := right.staging.trans left.staging
  inputs := right.inputs.trans left.inputs
  rest := right.rest.trans left.rest

namespace Operates

variable (peer : Peer ε κ) (ack : AckHandle)

theorem arm (crc : UInt16) :
    Operates peer (peer.withRegistry (peer.node.registry.arm ack.slot crc)) :=
  ⟨rfl, rfl, Registry.inputs_arm .., rfl⟩

theorem pushFrame (frame : Frame) : Operates peer (link.tx.pushFrame frame peer).2 :=
  ⟨rfl, rfl, rfl, rfl⟩

theorem answer : Operates peer (link.answer ack peer) := ⟨rfl, rfl, rfl, rfl⟩

theorem disarm : Operates peer (peer.withRegistry (peer.node.registry.disarm ack.slot)) :=
  ⟨rfl, rfl, rfl, rfl⟩

theorem release :
    Operates peer (peer.withRegistry (peer.node.registry.unregisterOutput ack.slot).2) :=
  ⟨rfl, rfl, Registry.inputs_unregisterOutput .., rfl⟩

end Operates

end Peer

/-- Performing a call keeps the lane in step with it, up to its end or its next wait. -/
theorem Lane.Carries.perform {lane : Lane} {peer : Peer ε κ} {ack : AckHandle} {device : UInt64}
    {port : UInt16} {accepted delivered : List Piece} {phase : Phase} {post : Phase → α → Prop}
    {call : Call α} (obeys : call.Obeys device port accepted post phase)
    (carries : (lane.launchAll peer.outbox).Carries peer.node.registry ack device port accepted
      delivered phase)
    (calm : ∀ confirmed pieces, phase = .flying confirmed pieces →
      call.isWaiting = true ∨ peer.node.registry.rung ack.bell = false) :
    ∃ later, (Peer.link.perform ack call peer).1.Halts device port accepted post later ∧
      (lane.launchAll (Peer.link.perform ack call peer).2.outbox).Carries
        (Peer.link.perform ack call peer).2.node.registry ack device port accepted delivered
        later ∧
      Peer.Operates peer (Peer.link.perform ack call peer).2 := by
  -- The induction follows the protocol, whose every step takes the lane to the next phase.
  induction obeys generalizing peer with
  | done ends => exact ⟨_, .done ends, carries, .refl peer⟩
  | @arm confirmed pieces _ cargo _ ih =>
    have armed := carries.arm (carrier device port confirmed.length pieces).sealed.crc cargo
    obtain ⟨later, halts, carries, operates⟩ :=
      @ih (peer.withRegistry (peer.node.registry.arm ack.slot _)) armed nofun
    exact ⟨later, halts, carries, (Peer.Operates.arm peer ack _).trans operates⟩
  | @launch confirmed pieces _ _ ih =>
    obtain ⟨cargo, same, empty, unrung⟩ := carries.tracks
    have launched := carries.launch cargo trivial (by simp [Repeats, empty]) unrung (.inl same)
    rw [← launchAll_concat] at launched
    obtain ⟨later, halts, carries, operates⟩ := @ih
      (Peer.link.tx.pushFrame (carrier device port confirmed.length pieces).sealed peer).2
      launched fun _ _ _ => .inr unrung
    exact ⟨later, halts, carries, (Peer.Operates.pushFrame peer _).trans operates⟩
  | @relaunch confirmed pieces _ _ ih =>
    obtain ⟨cargo, repeats, tracks⟩ := carries.tracks
    -- A frame is sent again at once only when the wait before has run out.
    have unrung : peer.node.registry.rung ack.bell = false :=
      (calm _ _ rfl).resolve_left Bool.false_ne_true
    have launched := carries.launch cargo trivial repeats unrung (tracks.imp And.left And.left)
    rw [← launchAll_concat] at launched
    obtain ⟨later, halts, carries, operates⟩ := @ih
      (Peer.link.tx.pushFrame (carrier device port confirmed.length pieces).sealed peer).2
      launched fun _ _ _ => .inr unrung
    exact ⟨later, halts, carries, (Peer.Operates.pushFrame peer _).trans operates⟩
  | wait rung elapsed ihRung _ =>
    rw [NodeLink.perform]
    by_cases answered : Peer.link.isRung ack peer = true
    · rw [if_pos answered]
      obtain ⟨later, halts, carries, operates⟩ :=
        @ihRung (Peer.link.answer ack peer) (carries.answer answered) nofun
      exact ⟨later, halts, carries, (Peer.Operates.answer peer ack).trans operates⟩
    · -- The call has to wait, and its waiting leaves everything as it is.
      rw [if_neg answered]
      exact ⟨_, .wait (.wait rung elapsed), carries, .refl peer⟩
  | @confirm confirmed pieces _ _ ih =>
    have disarmed := carries.disarm (.resting (confirmed ++ pieces)) trivial trivial
      carries.tracks
    obtain ⟨later, halts, carries, operates⟩ :=
      @ih (peer.withRegistry (peer.node.registry.disarm ack.slot)) disarmed nofun
    exact ⟨later, halts, carries, (Peer.Operates.disarm peer ack).trans operates⟩
  | @abandon confirmed pieces _ _ ih =>
    obtain ⟨cargo, repeats, tracks⟩ := carries.tracks
    have disarmed := carries.disarm (.lost confirmed pieces) trivial trivial
      ⟨cargo, repeats, tracks.imp And.left And.left⟩
    obtain ⟨later, halts, carries, operates⟩ :=
      @ih (peer.withRegistry (peer.node.registry.disarm ack.slot)) disarmed nofun
    exact ⟨later, halts, carries, (Peer.Operates.disarm peer ack).trans operates⟩
  | @abort confirmed pieces _ _ ih =>
    obtain ⟨cargo, same, empty, _⟩ := carries.tracks
    have disarmed := carries.disarm (.lost confirmed pieces) trivial trivial
      ⟨cargo, by simp [Repeats, empty], .inl same⟩
    obtain ⟨later, halts, carries, operates⟩ :=
      @ih (peer.withRegistry (peer.node.registry.disarm ack.slot)) disarmed nofun
    exact ⟨later, halts, carries, (Peer.Operates.disarm peer ack).trans operates⟩
  | @leave confirmed _ _ ih =>
    obtain ⟨same, empty⟩ := carries.tracks
    obtain ⟨later, halts, carries, operates⟩ :=
      @ih (peer.withRegistry (peer.node.registry.unregisterOutput ack.slot).2)
        (carries.release trivial (.inl ⟨rfl, same, empty⟩)) nofun
    exact ⟨later, halts, carries, (Peer.Operates.release peer ack).trans operates⟩
  | @giveUp confirmed pieces _ _ ih =>
    obtain ⟨later, halts, carries, operates⟩ :=
      @ih (peer.withRegistry (peer.node.registry.unregisterOutput ack.slot).2)
        (carries.release trivial (.inr carries.tracks)) nofun
    exact ⟨later, halts, carries, (Peer.Operates.release peer ack).trans operates⟩

end PipeBus

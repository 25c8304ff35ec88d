import Mathlib.Data.List.Nodup
import Mathlib.Logic.Relation
import PipeBus.Pipe.Output
import PipeBus.Proofs.AckTable
import PipeBus.Proofs.Vouching

/-! Acknowledgements that come late. Frames and acknowledgements may be lost, doubled, delayed
and swapped at will, also beyond the flush that brought them about. A flush succeeds all the
same only when its own frame has been processed. -/

namespace PipeBus

variable {ω ε κ : Type}

/-- An output pipe, the device that it leads to, and every frame that is on its way to either. -/
structure Delayed (ω ε κ : Type) where
  sender : Registry ω
  pipe : OutputPipe
  /-- The flush that is under way. -/
  call : Option (Call (Except NodeError Unit × OutputPipe)) := none
  receiver : Peer ε κ
  /-- Frames on the network. None is ever taken off, so that each may arrive at any time, any
  number of times, or never. What the receiver has handed over stays in its outbox likewise. -/
  air : List Frame := []
  /-- Frames that were sealed for the receiver, by the pipe or by anybody else. -/
  sealed : List Frame := []
  processed : List Frame := []
  /-- The frame of the flush that is under way. -/
  target : Option Frame := none
  /-- Frames whose flush has succeeded. -/
  flushed : List Frame := []

namespace Delayed

/-- What can happen next, where nobody but the dispatcher of the receiver makes acknowledgements
that bear its device. -/
inductive Step (services : List (Service (Peer ε κ))) (tell : κ → Delivery → Peer ε κ → Peer ε κ) :
    Delayed ω ε κ → Delayed ω ε κ → Prop where
  | stage {state : Delayed ω ε κ} {data : Bytes} {kind : PacketKind} {pipe : OutputPipe}
      (idle : state.call = none) (isOpen : state.pipe.isOpen = true)
      (staged : state.pipe.stage? data kind = some pipe) :
      Step services tell state { state with pipe }
  /-- What is staged is sealed, and its flush begins. -/
  | flush {state : Delayed ω ε κ} (idle : state.call = none) (isOpen : state.pipe.isOpen = true) :
      Step services tell state { state with
        call := some state.pipe.flushStaging
        target := state.pipe.staging.map Frame.sealed
        sealed := state.sealed ++ (state.pipe.staging.map Frame.sealed).toList }
  | arm {state : Delayed ω ε κ} {crc : UInt16} {next : Call (Except NodeError Unit × OutputPipe)}
      (here : state.call = some (.arm crc next)) :
      Step services tell state { state with
        call := some next
        sender := state.sender.arm state.pipe.ack.slot crc }
  | send {state : Delayed ω ε κ} {frame : Frame}
      {next : Call (Except NodeError Unit × OutputPipe)}
      (here : state.call = some (.send frame next)) :
      Step services tell state { state with call := some next, air := state.air ++ [frame] }
  /-- A wait finds the bell rung. -/
  | answer {state : Delayed ω ε κ} {delay : Duration}
      {next : Bool → Call (Except NodeError Unit × OutputPipe)}
      (here : state.call = some (.wait delay next))
      (rung : state.sender.rung state.pipe.ack.bell = true) :
      Step services tell state { state with
        call := some (next true)
        sender := (state.sender.wait state.pipe.ack.bell).2 }
  /-- A wait runs out, no matter how long it is. -/
  | expire {state : Delayed ω ε κ} {delay : Duration}
      {next : Bool → Call (Except NodeError Unit × OutputPipe)}
      (here : state.call = some (.wait delay next)) :
      Step services tell state { state with call := some (next false) }
  | disarm {state : Delayed ω ε κ} {next : Call (Except NodeError Unit × OutputPipe)}
      (here : state.call = some (.disarm next)) :
      Step services tell state { state with
        call := some next
        sender := state.sender.disarm state.pipe.ack.slot }
  | succeed {state : Delayed ω ε κ} {pipe : OutputPipe}
      (here : state.call = some (.done (.ok (), pipe))) :
      Step services tell state { state with
        call := none
        pipe
        target := none
        flushed := state.flushed ++ state.target.toList }
  | fail {state : Delayed ω ε κ} {error : NodeError} {pipe : OutputPipe}
      (here : state.call = some (.done (.error error, pipe))) :
      Step services tell state { state with call := none, pipe, target := none }
  | free {state : Delayed ω ε κ} (idle : state.call = none) :
      Step services tell state { state with
        pipe := { state.pipe with isOpen := false, staging := none }
        sender := (state.sender.unregisterOutput state.pipe.ack.slot).2 }
  | process {state : Delayed ω ε κ} {frame : Frame} (there : frame ∈ state.air) :
      Step services tell state { state with
        receiver := (Peer.station services tell).processFrame frame state.receiver
        processed := state.processed ++ [frame] }
  | work {state : Delayed ω ε κ} {service : Service (Peer ε κ)} (hosted : service ∈ services) :
      Step services tell state { state with receiver := service.process state.receiver }
  /-- The receiver sends the reports that it has staged. -/
  | report {state : Delayed ω ε κ} :
      Step services tell state { state with receiver := Peer.link.flush state.receiver }
  /-- The sender dispatches a frame, from the receiver or from somebody else. -/
  | hear {state : Delayed ω ε κ} {frame : Frame}
      (there : frame ∈ state.receiver.outbox ∨ frame ∈ state.air) :
      Step services tell state { state with sender := state.sender.hearFrame frame }
  | inject {state : Delayed ω ε κ} {frame : Frame}
      (foreign : ∀ packet ∈ frame.walk, packet.service = ServiceNumber.crcAck →
        packet.device ≠ state.receiver.node.config.device) :
      Step services tell state { state with
        air := state.air ++ [frame]
        sealed := state.sealed ++
          if Station.mustAck state.receiver.node.config.device frame then [frame] else [] }

inductive Stage where
  | begun
  | flying
  | acked
  /-- Disarmed after the acknowledgement. -/
  | kept
  | failed

inductive Flushes (ack : AckHandle) (frame : Frame) :
    Stage → Call (Except NodeError Unit × OutputPipe) → Prop where
  | arm {next : Call (Except NodeError Unit × OutputPipe)} (rest : Flushes ack frame .flying next) :
      Flushes ack frame .begun (.arm frame.crc next)
  | send {next : Call (Except NodeError Unit × OutputPipe)}
      (rest : Flushes ack frame .flying next) : Flushes ack frame .flying (.send frame next)
  | wait {delay : Duration} {next : Bool → Call (Except NodeError Unit × OutputPipe)}
      (rung : Flushes ack frame .acked (next true))
      (elapsed : Flushes ack frame .flying (next false)) :
      Flushes ack frame .flying (.wait delay next)
  | confirm {next : Call (Except NodeError Unit × OutputPipe)}
      (rest : Flushes ack frame .kept next) : Flushes ack frame .acked (.disarm next)
  | abandon {next : Call (Except NodeError Unit × OutputPipe)}
      (rest : Flushes ack frame .failed next) : Flushes ack frame .flying (.disarm next)
  | ok {pipe : OutputPipe} (handle : pipe.ack = ack) (empty : pipe.staging = none) :
      Flushes ack frame .kept (.done (.ok (), pipe))
  | error {error : NodeError} {pipe : OutputPipe} (handle : pipe.ack = ack)
      (empty : pipe.staging = none) : Flushes ack frame .failed (.done (.error error, pipe))

theorem flushes_flushStaging {pipe : OutputPipe} {frame : Frame}
    (staged : pipe.staging = some frame) :
    Flushes pipe.ack frame.sealed .begun pipe.flushStaging := by
  rw [OutputPipe.flushStaging, staged]
  refine .arm ?_
  induction pipe.retry.delays with
  | nil => exact .abandon (.error rfl rfl)
  | cons delay rest ih => exact .send (.wait (.confirm (.ok rfl rfl)) ih)

/-- Checksums of the frames that the receiver has processed and had to acknowledge. -/
def Claims (state : Delayed ω ε κ) (crc : UInt16) : Prop :=
  ∃ frame ∈ state.processed,
    Station.mustAck state.receiver.node.config.device frame = true ∧ frame.crc = crc

def Reached (state : Delayed ω ε κ) (ack : AckHandle) (frame : Frame) : Stage → Prop
  | .begun | .failed => True
  | .flying => state.sender.Waits ack state.receiver.node.config.device (some frame.crc) ∧
      (state.sender.rung ack.bell = true → state.Claims frame.crc)
  | .acked | .kept => state.Claims frame.crc

def Flushing (state : Delayed ω ε κ) (ack : AckHandle)
    (call : Call (Except NodeError Unit × OutputPipe)) : Option Frame → Prop
  | none => ∃ pipe : OutputPipe, call = .done (.ok (), pipe) ∧ pipe.staging = none ∧ pipe.ack = ack
  | some frame => frame ∈ state.sealed ∧
      (∀ packet ∈ frame.walk, packet.service = ServiceNumber.pipe) ∧
      ∃ stage, Flushes ack frame stage call ∧ state.Reached ack frame stage

/-- What holds in every state: acknowledgements are vouched for by frames that were processed, and
so is a bell that has been rung since the pipe has armed for the frame that it flushes. -/
structure Sound (state : Delayed ω ε κ) (ack : AckHandle) : Prop where
  handle : state.pipe.ack = ack
  vouched : state.receiver.Vouched state.Claims
  air : ∀ frame ∈ state.air,
    (Station.mustAck state.receiver.node.config.device frame = true → frame ∈ state.sealed) ∧
      ∀ packet ∈ frame.walk, packet.service = ServiceNumber.crcAck →
        packet.device ≠ state.receiver.node.config.device
  processed : ∀ frame ∈ state.processed, frame ∈ state.air
  staged : ∀ frame, state.pipe.staging = some frame →
    frame.Built fun service _ => service = ServiceNumber.pipe
  flushed : ∀ frame ∈ state.flushed, frame ∈ state.sealed ∧ state.Claims frame.crc
  calling : ∀ call, state.call = some call → state.pipe.isOpen = true
  waiter : state.pipe.isOpen = true → state.sender.Alone ack ∧
    ∃ armed, state.sender.Waits ack state.receiver.node.config.device armed
  flushing : ∀ call, state.call = some call → state.Flushing ack call state.target

variable {services : List (Service (Peer ε κ))} {tell : κ → Delivery → Peer ε κ → Peer ε κ}
  {state later : Delayed ω ε κ} {ack : AckHandle}

/-- What a stage says stays true when more frames are processed. -/
theorem Reached.mono {frame : Frame} {stage : Stage} (reached : state.Reached ack frame stage)
    (sender : later.sender = state.sender)
    (device : later.receiver.node.config.device = state.receiver.node.config.device)
    (grows : ∀ crc, state.Claims crc → later.Claims crc) : later.Reached ack frame stage := by
  cases stage with
  | begun => trivial
  | flying =>
    obtain ⟨waits, rung⟩ := reached
    rw [Reached, sender, device]
    exact ⟨waits, fun ringing => grows _ (rung ringing)⟩
  | acked => exact grows _ reached
  | kept => exact grows _ reached
  | failed => trivial

theorem Sound.receive (sound : state.Sound ack) (receiver : Peer ε κ) (more : List Frame)
    (config : receiver.node.config = state.receiver.node.config)
    (vouched : receiver.Vouched { state with processed := state.processed ++ more }.Claims)
    (there : ∀ frame ∈ more, frame ∈ state.air) :
    { state with receiver, processed := state.processed ++ more }.Sound ack := by
  have device := congrArg NodeConfig.device config
  have same : { state with receiver, processed := state.processed ++ more }.Claims =
      { state with processed := state.processed ++ more }.Claims := by
    unfold Claims
    simp only [device]
  have grows : ∀ crc, state.Claims crc →
      { state with receiver, processed := state.processed ++ more }.Claims crc := by
    rintro crc ⟨frame, member, must, rfl⟩
    exact ⟨frame, List.mem_append_left _ member, device ▸ must, rfl⟩
  refine {
    handle := sound.handle
    vouched := same ▸ vouched
    air := fun frame member => ?_
    processed := fun frame member => ?_
    staged := sound.staged
    flushed := fun frame member => (sound.flushed frame member).imp_right (grows _)
    calling := sound.calling
    waiter := fun isOpen => ?_
    flushing := fun call here => ?_ }
  · simp only [device]
    exact sound.air frame member
  · rcases List.mem_append.mp member with old | new
    · exact sound.processed frame old
    · exact there frame new
  · simp only [device]
    exact sound.waiter isOpen
  · have flushing := sound.flushing call here
    cases target : state.target with
    | none =>
      rw [target] at flushing
      exact flushing
    | some frame =>
      rw [target] at flushing
      obtain ⟨inside, plain, stage, flushes, reached⟩ := flushing
      exact ⟨inside, plain, stage, flushes, reached.mono rfl device grows⟩

/-- A frame that the sender hears rings the bell of the pipe only for a frame that was processed. -/
theorem Sound.hear {frame : Frame} (sound : state.Sound ack)
    (there : frame ∈ state.receiver.outbox ∨ frame ∈ state.air) :
    { state with sender := state.sender.hearFrame frame }.Sound ack := by
  refine { sound with waiter := fun isOpen => ?_, flushing := fun call here => ?_ }
  · obtain ⟨alone, armed, waits⟩ := sound.waiter isOpen
    exact ⟨alone.of_outputs (Registry.outputs_hearFrame _ frame), armed, waits.hearFrame frame⟩
  · have flushing := sound.flushing call here
    have alone := (sound.waiter (sound.calling call here)).1
    cases target : state.target with
    | none =>
      rw [target] at flushing
      exact flushing
    | some goal =>
      rw [target] at flushing
      obtain ⟨inside, plain, stage, flushes, reached⟩ := flushing
      refine ⟨inside, plain, stage, flushes, ?_⟩
      cases stage with
      | flying =>
        obtain ⟨waits, rung⟩ := reached
        refine ⟨waits.hearFrame frame, ?_⟩
        intro ringing
        rcases waits.rung_hearFrame alone ringing with before | ⟨packet, member, isAck, crc, bears⟩
        · exact rung before
        · rw [Option.some_inj.mp crc]
          rcases there with sent | passing
          · exact sound.vouched.outbox frame sent packet member isAck
          · exact absurd bears.symm ((sound.air frame passing).2 packet member isAck)
      | begun => trivial
      | acked => exact reached
      | kept => exact reached
      | failed => trivial

theorem Sound.seal (sound : state.Sound ack) (more : List Frame) :
    { state with sealed := state.sealed ++ more }.Sound ack := by
  refine { sound with
    air := fun frame member => (sound.air frame member).imp_left fun sealed must => ?_
    flushed := fun frame member => (sound.flushed frame member).imp_left fun sealed => ?_
    flushing := fun call here => ?_ }
  · exact List.mem_append_left _ (sealed must)
  · exact List.mem_append_left _ sealed
  · have flushing := sound.flushing call here
    cases target : state.target with
    | none =>
      rw [target] at flushing
      exact flushing
    | some frame =>
      rw [target] at flushing
      exact flushing.imp_left fun sealed => List.mem_append_left _ sealed

structure Underway (state : Delayed ω ε κ) (ack : AckHandle) (frame : Frame) : Prop where
  isOpen : state.pipe.isOpen = true
  alone : state.sender.Alone ack
  waiter : ∃ armed, state.sender.Waits ack state.receiver.node.config.device armed
  target : state.target = some frame
  inside : frame ∈ state.sealed
  plain : ∀ packet ∈ frame.walk, packet.service = ServiceNumber.pipe

/-- The flush that is under way has a frame, unless it ends at once. -/
theorem Sound.underway {call : Call (Except NodeError Unit × OutputPipe)} (sound : state.Sound ack)
    (here : state.call = some call) (more : ∀ pipe, call ≠ .done (.ok (), pipe)) :
    ∃ frame stage, state.Underway ack frame ∧ Flushes ack frame stage call ∧
      state.Reached ack frame stage := by
  have flushing := sound.flushing call here
  have isOpen := sound.calling call here
  obtain ⟨alone, waiter⟩ := sound.waiter isOpen
  cases target : state.target with
  | none =>
    rw [target] at flushing
    obtain ⟨pipe, elapsed, _⟩ := flushing
    exact absurd elapsed (more pipe)
  | some frame =>
    rw [target] at flushing
    obtain ⟨inside, plain, stage, flushes, reached⟩ := flushing
    exact ⟨frame, stage, ⟨isOpen, alone, waiter, target, inside, plain⟩, flushes, reached⟩

theorem Sound.success {pipe : OutputPipe} (sound : state.Sound ack)
    (here : state.call = some (.done (.ok (), pipe))) :
    pipe.ack = ack ∧ pipe.staging = none ∧
      ∀ frame, state.target = some frame → frame ∈ state.sealed ∧ state.Claims frame.crc := by
  have flushing := sound.flushing _ here
  cases target : state.target with
  | none =>
    rw [target] at flushing
    obtain ⟨other, same, empty, handle⟩ := flushing
    cases same
    exact ⟨handle, empty, fun _ impossible => nomatch impossible⟩
  | some frame =>
    rw [target] at flushing
    obtain ⟨inside, _, stage, flushes, reached⟩ := flushing
    cases flushes with
    | ok handle empty =>
      refine ⟨handle, empty, ?_⟩
      intro other same
      cases same
      exact ⟨inside, reached⟩

theorem Sound.advance {call : Call (Except NodeError Unit × OutputPipe)} {sender : Registry ω}
    {frame : Frame} {stage : Stage} (sound : state.Sound ack)
    (underway : state.Underway ack frame) (alone : sender.Alone ack)
    (waits : ∃ armed, sender.Waits ack state.receiver.node.config.device armed)
    (flushes : Flushes ack frame stage call)
    (reached : { state with call := some call, sender }.Reached ack frame stage) :
    { state with call := some call, sender }.Sound ack := by
  refine { sound with
    calling := fun _ _ => underway.isOpen
    waiter := fun _ => ⟨alone, waits⟩
    flushing := fun other same => ?_ }
  cases same
  simp only [underway.target]
  exact ⟨underway.inside, underway.plain, stage, flushes, reached⟩

theorem Sound.stage {data : Bytes} {kind : PacketKind} {pipe : OutputPipe}
    (sound : state.Sound ack) (staged : state.pipe.stage? data kind = some pipe) :
    { state with pipe }.Sound ack := by
  obtain ⟨frame, pushed, rfl⟩ := Option.map_eq_some_iff.mp staged
  refine { sound with handle := sound.handle, staged := fun other same => ?_ }
  cases same
  refine Frame.Built.push? ?_ rfl pushed
  unfold OutputPipe.stagingFrame
  cases before : state.pipe.staging with
  | none => exact .empty _ _
  | some old => exact sound.staged old before

theorem Sound.begin (sound : state.Sound ack) (isOpen : state.pipe.isOpen = true) :
    { state with
      call := some state.pipe.flushStaging
      target := state.pipe.staging.map Frame.sealed
      sealed := state.sealed ++ (state.pipe.staging.map Frame.sealed).toList }.Sound ack := by
  refine { sound.seal _ with
    calling := fun _ _ => isOpen
    flushing := fun call here => ?_ }
  cases here
  cases staged : state.pipe.staging with
  | none =>
    refine ⟨state.pipe, ?_, staged, sound.handle⟩
    rw [OutputPipe.flushStaging, staged]
  | some frame =>
    have walked := (sound.staged frame staged).walk
    have flushes := flushes_flushStaging staged
    rw [sound.handle] at flushes
    refine ⟨List.mem_append_right _ ?_, walked, .begun, flushes, trivial⟩
    exact List.mem_singleton_self _

theorem Sound.send {frame : Frame} {next : Call (Except NodeError Unit × OutputPipe)}
    (sound : state.Sound ack) (here : state.call = some (.send frame next)) :
    { state with call := some next, air := state.air ++ [frame] }.Sound ack := by
  obtain ⟨_, stage, underway, flushes, reached⟩ := sound.underway here nofun
  cases flushes with
  | send rest =>
    have moved := sound.advance underway underway.alone underway.waiter rest reached
    refine { moved with
      air := fun other member => ?_
      processed := fun other member => List.mem_append_left _ (sound.processed other member) }
    rcases List.mem_append.mp member with old | new
    · exact sound.air other old
    · -- A pipe stages nothing but packets for pipes, so its frames acknowledge nothing.
      rw [List.mem_singleton.mp new]
      refine ⟨fun _ => underway.inside, ?_⟩
      intro packet met isAck
      rw [underway.plain packet met] at isAck
      exact absurd isAck (by decide)

theorem Sound.finish {pipe : OutputPipe} {call : Call (Except NodeError Unit × OutputPipe)}
    {more : List Frame} (sound : state.Sound ack) (here : state.call = some call)
    (handle : pipe.ack = ack) (empty : pipe.staging = none)
    (done : ∀ frame ∈ more, frame ∈ state.sealed ∧ state.Claims frame.crc) :
    { state with call := none, pipe, target := none, flushed := state.flushed ++ more }.Sound
      ack := by
  refine { sound with
    handle
    staged := fun frame same => nomatch empty.symm.trans same
    flushed := fun frame member => ?_
    calling := fun _ same => nomatch same
    waiter := fun _ => sound.waiter (sound.calling _ here)
    flushing := fun _ same => nomatch same }
  rcases List.mem_append.mp member with old | new
  · exact sound.flushed frame old
  · exact done frame new

theorem Sound.process {frame : Frame} (discreet : Peer.Discreet services tell)
    (sound : state.Sound ack) (there : frame ∈ state.air) :
    { state with
      receiver := (Peer.station services tell).processFrame frame state.receiver
      processed := state.processed ++ [frame] }.Sound ack := by
  have grows : ∀ crc, state.Claims crc →
      { state with processed := state.processed ++ [frame] }.Claims crc := by
    rintro crc ⟨one, member, must, rfl⟩
    exact ⟨one, List.mem_append_left _ member, must, rfl⟩
  obtain ⟨vouched, config⟩ := discreet.processFrame frame (sound.vouched.mono grows)
    (fun must => ⟨frame, List.mem_append_right _ (List.mem_singleton_self _), must, rfl⟩)
  apply sound.receive _ [frame] config vouched
  intro one member
  rwa [List.mem_singleton.mp member]

/-- A frame of somebody else's comes on the network. -/
theorem Sound.inject {frame : Frame} (sound : state.Sound ack)
    (foreign : ∀ packet ∈ frame.walk, packet.service = ServiceNumber.crcAck →
      packet.device ≠ state.receiver.node.config.device) :
    { state with
      air := state.air ++ [frame]
      sealed := state.sealed ++
        if Station.mustAck state.receiver.node.config.device frame then [frame] else [] }.Sound
          ack := by
  refine { sound.seal _ with
    air := fun other member => ?_
    processed := fun other member => List.mem_append_left _ (sound.processed other member) }
  rcases List.mem_append.mp member with old | new
  · exact (sound.seal _).air other old
  · rw [List.mem_singleton.mp new]
    refine ⟨fun must => List.mem_append_right _ ?_, foreign⟩
    rw [if_pos must]
    exact List.mem_singleton_self _

/-- Every step keeps the state sound. -/
theorem Sound.step (discreet : Peer.Discreet services tell) (sound : state.Sound ack)
    (step : Step services tell state later) : later.Sound ack := by
  cases step with
  | stage _ _ staged => exact sound.stage staged
  | flush _ isOpen => exact sound.begin isOpen
  | arm here =>
    obtain ⟨frame, stage, underway, flushes, _⟩ := sound.underway here nofun
    obtain ⟨armed, waits⟩ := underway.waiter
    rw [sound.handle]
    cases flushes with
    | arm rest =>
      -- Arming silences the bell, whatever has rung it before.
      refine sound.advance underway (underway.alone.arm waits _) ⟨_, waits.arm _⟩ rest ?_
      refine ⟨waits.arm _, ?_⟩
      intro rung
      exact absurd (rung.symm.trans (waits.rung_arm _)) (by decide)
  | send here => exact sound.send here
  | answer here rung =>
    obtain ⟨frame, stage, underway, flushes, reached⟩ := sound.underway here nofun
    obtain ⟨armed, waits⟩ := underway.waiter
    rw [sound.handle] at rung ⊢
    cases flushes with
    | wait next _ =>
      exact sound.advance underway underway.alone ⟨_, waits.wait _⟩ next (reached.2 rung)
  | expire here =>
    obtain ⟨frame, stage, underway, flushes, reached⟩ := sound.underway here nofun
    cases flushes with
    | wait _ next => exact sound.advance underway underway.alone underway.waiter next reached
  | disarm here =>
    obtain ⟨frame, stage, underway, flushes, reached⟩ := sound.underway here nofun
    obtain ⟨armed, waits⟩ := underway.waiter
    rw [sound.handle]
    cases flushes with
    | confirm rest =>
      exact sound.advance underway (underway.alone.disarm waits) ⟨_, waits.disarm⟩ rest reached
    | abandon rest =>
      exact sound.advance underway (underway.alone.disarm waits) ⟨_, waits.disarm⟩ rest trivial
  | succeed here =>
    obtain ⟨handle, empty, ended⟩ := sound.success here
    exact sound.finish here handle empty fun frame member =>
      ended frame (Option.mem_toList.mp member)
  | fail here =>
    obtain ⟨frame, stage, _, flushes, _⟩ := sound.underway here nofun
    cases flushes with
    | error handle empty =>
      have finished := sound.finish here handle empty (List.forall_mem_nil _)
      rwa [List.append_nil] at finished
  | free idle =>
    refine { sound with
      handle := sound.handle
      staged := fun _ same => nomatch same
      calling := fun call same => nomatch idle.symm.trans same
      waiter := fun isOpen => nomatch isOpen
      flushing := fun call same => nomatch idle.symm.trans same }
  | process there => exact sound.process discreet there
  | @work service hosted =>
    obtain ⟨vouched, config⟩ := discreet.process service hosted _ _ sound.vouched
    have received := sound.receive (service.process state.receiver) [] config
    rw [List.append_nil] at received
    exact received vouched (List.forall_mem_nil _)
  | report =>
    have received := sound.receive (Peer.link.flush state.receiver) []
      (Peer.Transmits.flush state.receiver).config
    rw [List.append_nil] at received
    exact received sound.vouched.flush (List.forall_mem_nil _)
  | hear there => exact sound.hear there
  | inject foreign => exact sound.inject foreign

theorem Sound.reach (discreet : Peer.Discreet services tell) (sound : state.Sound ack)
    (reach : Relation.ReflTransGen (Step services tell) state later) : later.Sound ack := by
  induction reach with
  | refl => exact sound
  | tail _ step ih => exact ih.step discreet step

theorem Sound.opened {before sender : Registry ω} {receiver : Peer ε κ} {port : UInt16}
    {retry : RetryPolicy} (orderly : before.Orderly)
    (registered : before.registerOutput receiver.node.config.device = (.ok ack, sender))
    (silent : receiver.Vouched fun _ => False) :
    ({ sender, pipe := OutputPipe.create receiver.node.config.device port ack retry, receiver } :
      Delayed ω ε κ).Sound ack where
  handle := rfl
  vouched := silent.mono fun _ never => never.elim
  air := List.forall_mem_nil _
  processed := List.forall_mem_nil _
  staged := fun _ same => nomatch same
  flushed := List.forall_mem_nil _
  calling := fun _ same => nomatch same
  waiter := fun _ => ⟨.registered orderly registered, none, .registered registered⟩
  flushing := fun _ same => nomatch same

/-- In every state that can be reached, whatever is lost, doubled, delayed or swapped, a flush has
succeeded only if its very frame has been processed. What it takes is that no two frames sealed for
the receiver have the same checksum. -/
theorem flush_processed {before sender : Registry ω} {receiver : Peer ε κ} {port : UInt16}
    {retry : RetryPolicy} (discreet : Peer.Discreet services tell) (orderly : before.Orderly)
    (registered : before.registerOutput receiver.node.config.device = (.ok ack, sender))
    (silent : receiver.Vouched fun _ => False)
    (reach : Relation.ReflTransGen (Step services tell)
      { sender, pipe := OutputPipe.create receiver.node.config.device port ack retry, receiver }
      state)
    (distinct : (state.sealed.map Frame.crc).Nodup) :
    ∀ frame ∈ state.flushed, frame ∈ state.processed := by
  have sound := (Sound.opened orderly registered silent).reach discreet reach
  intro frame member
  obtain ⟨sealed, other, processed, must, same⟩ := sound.flushed frame member
  have known := (sound.air other (sound.processed other processed)).1 must
  rwa [← List.inj_on_of_nodup_map distinct known sealed same]

/-! A run in which an acknowledgement comes too late. -/

/-- A flush without an answer sends its frame again when its first wait has run out. -/
theorem reaches_second_send (services : List (Service (Peer ε κ)))
    (tell : κ → Delivery → Peer ε κ → Peer ε κ) (state : Delayed ω ε κ) {frame : Frame}
    {delay second : Duration} {rest : List Duration} (idle : state.call = none)
    (isOpen : state.pipe.isOpen = true)
    (staged : state.pipe.staging = some frame)
    (patient : state.pipe.retry.delays = delay :: second :: rest) :
    ∃ next, next true = .disarm (.done (.ok (), { state.pipe with staging := none })) ∧
      Relation.ReflTransGen (Step services tell) state { state with
        sender := state.sender.arm state.pipe.ack.slot frame.sealed.crc
        call := some (.wait second next)
        air := state.air ++ [frame.sealed] ++ [frame.sealed]
        sealed := state.sealed ++ [frame.sealed]
        target := some frame.sealed } := by
  obtain ⟨again, next, begins, resends, ends⟩ : ∃ again next,
      state.pipe.flushStaging =
        .arm frame.sealed.crc (.send frame.sealed (.wait delay again)) ∧
      again false = .send frame.sealed (.wait second next) ∧
      next true = .disarm (.done (.ok (), { state.pipe with staging := none })) := by
    rw [OutputPipe.flushStaging, staged, patient]
    exact ⟨_, _, rfl, rfl, rfl⟩
  have flush : Step services tell state _ := .flush idle isOpen
  rw [staged] at flush
  have sent := Relation.ReflTransGen.single flush |>.tail (.arm (congrArg some begins))
    |>.tail (.send rfl)
  exact ⟨next, ends, sent.tail (.expire rfl) |>.tail (.send (congrArg some resends))⟩

theorem reaches_success {pipe : OutputPipe} {delay : Duration}
    {next : Bool → Call (Except NodeError Unit × OutputPipe)}
    (waits : state.call = some (.wait delay next))
    (ends : next true = .disarm (.done (.ok (), pipe)))
    (rung : state.sender.rung state.pipe.ack.bell = true) :
    Relation.ReflTransGen (Step services tell) state { state with
      sender := (state.sender.wait state.pipe.ack.bell).2.disarm state.pipe.ack.slot
      pipe
      call := none
      target := none
      flushed := state.flushed ++ state.target.toList } := by
  have answered : Step services tell state _ := .answer waits rung
  exact Relation.ReflTransGen.single answered |>.tail (.disarm (congrArg some ends))
    |>.tail (.succeed rfl)

def device (frames : List Frame) : Peer Unit Unit :=
  frames.foldl (fun peer frame => (Peer.station [] fun _ _ peer => peer).processFrame frame peer)
    { node := Node.create { device := 2 } scatteredPorts, rest := () }

/-- The frame of one packet. -/
def single (number : Nat) (byte : UInt8) : Frame :=
  (carrier 2 97 number [⟨.data, [byte]⟩]).sealed

def reply (frame : Frame) : Frame :=
  { Frame.empty 2 0 with
    payload := Frame.packetBytes ServiceNumber.crcAck frame.crc [] }.sealed

/-- A waiter for acknowledgements of that device. -/
def waiting : Registry Unit :=
  ((Registry.create 8 8 64 scatteredPorts).registerOutput 2).2

/-- That waiter when the first flush has succeeded. -/
def rested : Registry Unit :=
  (((waiting.arm ⟨0, 0⟩ (single 0 1).crc).hearFrame (reply (single 0 1))).wait 0).2.disarm ⟨0, 0⟩

/-- A pipe to the device that has not staged anything. -/
def unloaded : Delayed Unit Unit Unit where
  sender := waiting
  pipe := OutputPipe.create 2 97 ⟨⟨0, 0⟩, 0⟩ {}
  receiver := device []

/-- That pipe when it has staged just the packet with a number. -/
def loaded (number : Nat) (byte : UInt8) : OutputPipe :=
  { unloaded.pipe with
    staging := some (carrier 2 97 number [⟨.data, [byte]⟩])
    next := PipeWord.numbered 97 (number + 1) }

/-- What the first flush comes to, when its frame has been processed again and the next packet is
staged. -/
def between : Delayed Unit Unit Unit where
  sender := rested
  pipe := loaded 1 2
  receiver := device [single 0 1, single 0 1]
  air := [single 0 1, single 0 1]
  sealed := [single 0 1]
  processed := [single 0 1, single 0 1]
  flushed := [single 0 1]

/-- Two flushes, each with a wait that runs out and a second send. The first frame is processed
again later, and its acknowledgement comes while the second frame is waited for. -/
theorem flush_processed_late : ∃ state,
    Relation.ReflTransGen (Step [] fun _ _ peer => peer) unloaded state ∧
      state.flushed = [single 0 1, single 1 2] ∧
      state.processed = [single 0 1, single 0 1, single 1 2] ∧
      ∀ frame ∈ state.flushed, frame ∈ state.processed := by
  have registered : (Registry.create 8 8 64 scatteredPorts : Registry Unit).registerOutput 2 =
      (.ok ⟨⟨0, 0⟩, 0⟩, waiting) := rfl
  have silent : (device []).Vouched fun _ => False :=
    ⟨List.forall_mem_nil _, fun _ same => (nomatch same)⟩
  have discreet : Peer.Discreet [] fun (_ : Unit) (_ : Delivery) (peer : Peer Unit Unit) => peer :=
    ⟨List.forall_mem_nil _, List.forall_mem_nil _,
      List.forall_mem_nil _, fun _ _ _ _ vouched => ⟨vouched, rfl⟩⟩
  have distinct : ([single 0 1, single 1 2].map Frame.crc).Nodup := by decide +kernel
  obtain ⟨delay, second, rest, patient⟩ :
      ∃ delay second rest, unloaded.pipe.retry.delays = delay :: second :: rest :=
    ⟨_, _, _, by rw [RetryPolicy.delays, RetryPolicy.doublings, RetryPolicy.doublings]; rfl⟩
  have early : reply (single 0 1) ∈ (device [single 0 1]).outbox := by decide +kernel
  have rung : ((waiting.arm ⟨0, 0⟩ (single 0 1).crc).hearFrame (reply (single 0 1))).rung 0 =
      true := by decide +kernel
  have late : reply (single 0 1) ∈ (device [single 0 1, single 0 1]).outbox := by decide +kernel
  have later : reply (single 1 2) ∈ (device [single 0 1, single 0 1, single 1 2]).outbox := by
    decide +kernel
  have again : (((rested.arm ⟨0, 0⟩ (single 1 2).crc).hearFrame (reply (single 0 1))).hearFrame
      (reply (single 1 2))).rung 0 = true := by decide +kernel
  have fits : unloaded.pipe.stage? [1] .data = some (loaded 0 1) := by rfl
  have further : { loaded 0 1 with staging := none }.stage? [2] .data = some (loaded 1 2) := by rfl
  have staged : Step [] (fun _ _ peer => peer) unloaded _ := .stage rfl rfl fits
  obtain ⟨next, ends, sends⟩ := reaches_second_send [] (fun _ _ peer => peer)
    { unloaded with pipe := loaded 0 1 } rfl rfl rfl patient
  have first := (Relation.ReflTransGen.single staged).trans sends
    |>.tail (.process (List.mem_cons_self ..)) |>.tail (.hear (.inl early))
    |>.trans (reaches_success rfl ends rung)
  have repeated : Relation.ReflTransGen (Step [] fun _ _ peer => peer) unloaded between :=
    first.tail (.process (List.mem_cons_self ..)) |>.tail (.stage rfl rfl further)
  obtain ⟨last, succeeds, resends⟩ := reaches_second_send [] (fun _ _ peer => peer) between rfl
    rfl rfl patient
  have reach := repeated.trans resends |>.tail (.hear (.inl late))
    |>.tail (.process (List.mem_append_right _ (List.mem_singleton_self _)))
    |>.tail (.hear (.inl later)) |>.trans (reaches_success rfl succeeds again)
  refine ⟨_, reach, rfl, rfl, ?_⟩
  exact flush_processed discreet (.create 8 8 64 scatteredPorts) registered silent reach distinct

end Delayed

end PipeBus

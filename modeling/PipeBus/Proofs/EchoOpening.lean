import PipeBus.Proofs.EchoLedger
import PipeBus.Proofs.Opening

/-! How client and server of an echo trial are connected. The open command finds the service by its
class, and the reply brings the client the port that the server listens on. -/

namespace PipeBus

namespace Echo

/-- The packet of an open command, with the number of the service that it is for. -/
def opening (service : UInt8) (data : Bytes) : Packet where
  device := serviceClass.toUInt64
  flags := Flag.command ||| Flag.serviceClass
  service
  command := openCommand
  data

theorem addressed?_opening (device : UInt64) (data : Bytes) :
    Node.addressed? device station.classes (opening 0 data) = some (opening 1 data) := by
  have number : Node.classNumber? station.classes (opening 0 data) = some 1 := by
    simp [Node.classNumber?, Packet.targetsClass, opening]
    decide
  rw [Node.addressed?, number]
  rfl

theorem handlePacket_opening (data : Bytes) (peer : Peer Echo Nat) :
    station.handlePacket (opening 0 data) peer = (host.openConnection (opening 1 data) peer).2 := by
  have other : (opening 0 data).service ≠ ServiceNumber.crcAck := by
    change (0 : UInt8) ≠ ServiceNumber.crcAck
    decide
  have command : (opening 0 data).isCommand = true := by
    change Flag.has (Flag.command ||| Flag.serviceClass) Flag.command = true
    decide
  have leads : Node.destination? [host.service].length (opening 1 data).service =
      some (.hosted 0) := rfl
  exact Peer.handlePacket_command other command
    (addressed?_opening peer.node.config.device data) leads

def openingFrame (port : UInt16) : Frame :=
  Frame.sealed {
    device := serviceClass.toUInt64
    flags := Flag.command ||| Flag.serviceClass
    payload := Frame.packetBytes 0 openCommand (PipeOpen.encode ⟨Simulation.clientDevice, port⟩) }

theorem length_opening (port : UInt16) :
    (PipeOpen.encode ⟨Simulation.clientDevice, port⟩).length = 12 := by
  simp [PipeOpen.encode, Wire.word64, Wire.word16]

theorem processFrame_opening (port : UInt16) (peer : Peer Echo Nat) :
    station.processFrame (openingFrame port) peer =
      (host.openConnection (opening 1 (PipeOpen.encode ⟨Simulation.clientDevice, port⟩)) peer).2 := by
  have unasked : station.acknowledge (openingFrame port) peer = peer := by
    have quiet : (openingFrame port).ackRequested = false := by
      change Flag.has (Flag.command ||| Flag.serviceClass) Flag.ackRequested = false
      decide
    simp [Station.acknowledge, Station.mustAck, quiet]
  have walk : (openingFrame port).walk =
      [opening 0 (PipeOpen.encode ⟨Simulation.clientDevice, port⟩)] :=
    Frame.walk_single _ _ _ _ _ (by rw [length_opening]; decide)
  rw [Station.processFrame_eq, unasked, walk]
  exact handlePacket_opening _ peer

/-- The frame of a reply to an open command, before it is sealed. -/
def reply (device : UInt64) (port : UInt16) : Frame where
  device
  flags := 0
  payload := Frame.packetBytes 1 openCommand (Wire.word16 port)

/-- A connection is opened with both pipes and a staged reply, or nothing is staged at all. -/
theorem openConnection_cases {data : Bytes} {wanted : PipeOpen} {peer : Peer Echo Nat}
    (read : PipeOpen.parse data = .ok wanted) (idle : peer.node.tx.staging = none) :
    (∃ registry rest, (host.openConnection (opening 1 data) peer).2 =
      { peer.withRegistry registry with rest }) ∨
    ∃ ack first input registry,
      peer.node.registry.registerOutput wanted.device = (.ok ack, first) ∧
      first.openInput peer.rest.nextId = (.ok (input.id, input.port), registry) ∧
      (host.openConnection (opening 1 data) peer).2 = { peer with
        node := { peer.node with
          registry
          tx := { peer.node.tx with staging := some (reply peer.node.tx.device input.port) } }
        rest := { peer.rest with
          nextId := peer.rest.nextId + 1
          connections := peer.rest.connections ++ [⟨peer.rest.nextId,
            OutputPipe.create wanted.device wanted.port ack peer.node.config.retry, input⟩] } } := by
  have output : Peer.link.openOutputFor (opening 1 data) peer =
      Peer.link.openOutput wanted.device wanted.port peer := by
    unfold NodeLink.openOutputFor
    split
    · rename_i failed
      cases read.symm.trans failed
    · rename_i found
      cases read.symm.trans found
      rfl
  generalize same : (host.openConnection (opening 1 data) peer).2 = after
  obtain ⟨outputs, set⟩ := Peer.link.openOutput_state wanted.device wanted.port peer
  rcases opened : Peer.link.openOutput wanted.device wanted.port peer with ⟨_ | pipe, middle⟩
  · have failed : host.link.openOutputFor (opening 1 data) peer = _ := output.trans opened
    rw [EchoHost.openConnection, failed] at same
    rw [opened] at set
    left
    exact ⟨outputs, peer.rest, same.symm.trans set⟩
  · obtain ⟨ack, first, registered, rfl, rfl⟩ := NodeLink.openOutput_eq_ok opened
    have succeeded : host.link.openOutputFor (opening 1 data) peer = _ := output.trans opened
    rw [EchoHost.openConnection, succeeded] at same
    dsimp only at same
    obtain ⟨inputs, kept⟩ := Peer.link.openInput_state peer.rest.nextId
      (host.echo.modify (fun echo => { echo with nextId := peer.rest.nextId + 1 })
        (Peer.link.registry.set first peer))
    rcases drawn : host.link.openInput
      (host.sink (host.echo.get (Peer.link.registry.set first peer)).nextId)
      (host.echo.modify (fun echo => { echo with
        nextId := (host.echo.get (Peer.link.registry.set first peer)).nextId + 1 })
          (Peer.link.registry.set first peer)) with ⟨_ | input, later⟩
    · -- Without an input pipe the output pipe is given up again.
      rw [drawn] at same
      left
      refine ⟨(inputs.unregisterOutput ack.slot).2,
        { peer.rest with nextId := peer.rest.nextId + 1 }, same.symm.trans ?_⟩
      have moved : later = _ := (congrArg Prod.snd drawn).symm.trans kept
      rw [moved]
      rfl
    · obtain ⟨registry, found, rfl⟩ := NodeLink.openInput_eq_ok drawn
      rw [drawn] at same
      right
      refine ⟨ack, first, input, registry, registered, found, same.symm.trans ?_⟩
      obtain ⟨⟨config, tx, rx, _⟩, outbox, rest⟩ := peer
      obtain ⟨device, timeout, staging, sent, dropped⟩ := tx
      cases idle
      rfl

theorem processFrame_reply (port : UInt16) {peer : Peer EchoClient Unit}
    (waiting : peer.rest.port? = none) :
    EchoClient.station.processFrame (reply Simulation.serverDevice port).sealed peer =
      { peer with rest := { peer.rest with port? := some port } } := by
  have narrow : (Wire.word16 port).length = 2 := Wire.length_encode ..
  have report : (reply Simulation.serverDevice port).sealed.isCommand = false := by
    change Flag.has 0 Flag.command = false
    decide
  have unasked : EchoClient.station.acknowledge (reply Simulation.serverDevice port).sealed peer =
      peer := by
    simp [Station.acknowledge, Station.mustAck, report]
  have walk : (reply Simulation.serverDevice port).sealed.walk =
      [⟨Simulation.serverDevice, 0, 1, openCommand, Wire.word16 port⟩] :=
    Frame.walk_single _ _ _ _ _ (by rw [narrow]; decide)
  have other : (⟨Simulation.serverDevice, 0, 1, openCommand, Wire.word16 port⟩ : Packet).service ≠
      ServiceNumber.crcAck := by
    change (1 : UInt8) ≠ ServiceNumber.crcAck
    decide
  have plain : Packet.isCommand
      ⟨Simulation.serverDevice, 0, 1, openCommand, Wire.word16 port⟩ = false := by
    change Flag.has 0 Flag.command = false
    decide
  have seen : Simulation.replyPort? (.observed Simulation.client Simulation.watcherClass
      ⟨Simulation.serverDevice, 0, 1, openCommand, Wire.word16 port⟩) = some port := by
    simp [Simulation.replyPort?, narrow, Frame.toWord16_word16]
  have told : peer.rest.observe ⟨Simulation.serverDevice, 0, 1, openCommand, Wire.word16 port⟩ =
      { peer.rest with port? := some port } := by
    simp [EchoClient.observe, waiting, seen]
  have handled : EchoClient.station.handlePacket
      ⟨Simulation.serverDevice, 0, 1, openCommand, Wire.word16 port⟩ peer = _ :=
    Peer.handlePacket_report other plain
  rw [Station.processFrame_eq, unasked, walk, Station.handleAll, List.foldl_cons, List.foldl_nil,
    handled]
  exact congrArg (fun rest => { peer with rest }) told

end Echo

namespace EchoTrial

variable {settings : Settings} {payload : Bytes} {size : Nat} {trial : EchoTrial}

theorem ask?_eq_some {client asked : Peer EchoClient Unit} (found : ask? client = some asked) :
    ∃ (input : InputPipe) (registry : Registry Unit),
      client.node.registry.openInput () = (.ok (input.id, input.port), registry) ∧
      asked = { client with
        node := { client.node with registry, tx := client.node.tx.count true }
        outbox := client.outbox ++ [Echo.openingFrame input.port] } := by
  unfold ask? at found
  rcases drawn : Peer.link.openInput () client with ⟨_ | input, listening⟩
  · rw [drawn] at found
    cases found
  · obtain ⟨registry, opened, rfl⟩ := NodeLink.openInput_eq_ok drawn
    rw [drawn] at found
    have fits : ¬ packetHeader + (PipeOpen.encode ⟨Simulation.clientDevice, input.port⟩).length >
        (Frame.empty Echo.serviceClass.toUInt64
          (Flag.command ||| Flag.serviceClass)).remaining := by
      rw [Echo.length_opening]
      decide
    have sent : Peer.link.sendClassCommand Echo.serviceClass Echo.openCommand
        (PipeOpen.encode ⟨Simulation.clientDevice, input.port⟩)
        (Peer.link.registry.set registry client) = (.ok (), { client with
          node := { client.node with registry, tx := client.node.tx.count true }
          outbox := client.outbox ++ [Echo.openingFrame input.port] }) := by
      rw [NodeLink.sendClassCommand, NodeLink.sendFrame, Frame.push?, if_neg fits]
      rfl
    simp only [sent] at found
    cases found
    exact ⟨input, registry, opened, rfl⟩

/-- The server answers an open command with the port of a pipe that it has opened, or with nothing
at all. -/
theorem answer_cases (settings : Settings) (port : UInt16) :
    (Peer.link.flush (takeAll Echo.station [Echo.openingFrame port] settings.freshServer)).outbox =
      [] ∨
    ∃ ack first input registry,
      settings.freshServer.node.registry.registerOutput Simulation.clientDevice = (.ok ack, first) ∧
      first.openInput 1 = (.ok (input.id, input.port), registry) ∧
      Peer.link.flush (takeAll Echo.station [Echo.openingFrame port] settings.freshServer) =
        { settings.freshServer with
          node := { settings.freshServer.node with
            registry
            tx := settings.freshServer.node.tx.count true }
          outbox := [(Echo.reply Simulation.serverDevice input.port).sealed]
          rest := { settings.freshServer.rest with
            nextId := 2
            connections := [⟨1, OutputPipe.create Simulation.clientDevice port ack
              settings.server.retry, input⟩] } } := by
  have taken : takeAll Echo.station [Echo.openingFrame port] settings.freshServer =
      (Echo.host.openConnection (Echo.opening 1 (PipeOpen.encode
        ⟨Simulation.clientDevice, port⟩)) settings.freshServer).2 :=
    Echo.processFrame_opening port settings.freshServer
  have idle : settings.freshServer.node.tx.staging = none := rfl
  rw [taken]
  rcases Echo.openConnection_cases (PipeOpen.parse_encode _) idle
    with ⟨registry, rest, same⟩ | ⟨ack, first, input, registry, registered, drawn, same⟩
  · left
    rw [same]
    rfl
  · right
    exact ⟨ack, first, input, registry, registered, drawn, same ▸ rfl⟩

theorem connect?_eq_some (connected : connect? settings payload size = some trial) :
    ∃ asked answered port pipe client, ask? settings.freshClient = some asked ∧
      Peer.link.flush (takeAll Echo.station asked.outbox settings.freshServer) = answered ∧
      (takeAll EchoClient.station answered.outbox { asked with outbox := [] }).rest.port? =
        some port ∧
      Peer.link.openOutput Simulation.serverDevice port
        (takeAll EchoClient.station answered.outbox { asked with outbox := [] }) =
          (.ok pipe, client) ∧
      trial = {
        client
        server := { answered with outbox := [] }
        ack := pipe.ack
        writer := .idle pipe
        chunks := payload.chunks size } := by
  unfold connect? at connected
  split at connected
  · cases connected
  · rename_i asked sent
    dsimp only at connected
    split at connected
    · cases connected
    · rename_i port read
      split at connected
      · cases connected
      · rename_i pipe client opened
        cases connected
        exact ⟨asked, _, port, pipe, client, sent, rfl, read, opened, rfl⟩

theorem connect_sound (connected : connect? settings payload size = some trial) :
    ∃ link ledger, Sound link (payload.chunks size) ledger trial := by
  obtain ⟨asked, answered, port, pipe, client, sent, replied, read, chosen, rfl⟩ :=
    connect?_eq_some connected
  obtain ⟨input, inputs, opened, rfl⟩ := ask?_eq_some sent
  rcases answer_cases settings input.port with
    silent | ⟨ack, first, inner, registry, registered, drawn, same⟩
  · -- Without a reply the client never learns of a port.
    have nothing : answered.outbox = [] := (congrArg Peer.outbox replied).symm.trans silent
    rw [nothing] at read
    cases read
  · obtain rfl : answered = _ := replied.symm.trans same
    dsimp only [takeAll, List.foldl_cons, List.foldl_nil] at read chosen
    rw [Echo.processFrame_reply inner.port rfl] at read chosen
    cases read
    obtain ⟨handle, outputs, waiter, rfl, rfl⟩ := NodeLink.openOutput_eq_ok chosen
    obtain ⟨unused, _, _⟩ := Registry.openInput_keeps opened
    obtain ⟨listening, one⟩ := Registry.registerOutput_keeps waiter
    obtain ⟨fresh, single⟩ := Registry.registerOutput_keeps registered
    obtain ⟨waiters, bells, pipes⟩ := Registry.openInput_keeps drawn
    have alone : outputs.outputs.size = 1 :=
      one.trans (congrArg (fun outputs => outputs.size + 1) unused)
    have listed : registry.inputs.size = 1 := by
      rw [pipes, fresh]
      rfl
    refine ⟨⟨⟨1, OutputPipe.create Simulation.clientDevice input.port ack settings.server.retry,
      inner⟩, input⟩, { worker := .idle _ }, {
        split := rfl
        ended := nofun
        forth := .opened _ alone (.registered waiter)
        back := (Lane.Serves.opened _ single (.registered registered)).of_same waiters bells
        client := ⟨rfl, rfl, rfl, (Registry.Gate.opened opened).of_inputs listening⟩
        log := rfl
        server := ⟨rfl, rfl, rfl, .opened drawn⟩
        inputs := listed
        works := .resting rfl rfl rfl rfl
        unmarked := ⟨rfl, rfl⟩
        queue := ⟨[], rfl, rfl⟩ }⟩

end EchoTrial

end PipeBus

import PipeBus.Proofs.Acknowledgement
import PipeBus.Proofs.EchoLeases

/-! How a connection comes to its pipes. The waiter of its output pipe is registered first, and is
given up again when there is no input pipe to be had. An attempt brings both pipes, and a reply that
names the port of the input pipe, or it leaves the tables as they were. -/

namespace PipeBus

namespace Peer

variable {ε κ : Type}

theorem send_stages (service : UInt8) (command : UInt16) {data : Bytes}
    (short : data.length ≤ maxPacketData) (peer : Peer ε κ) :
    (link.send service command data peer).1 = .ok () ∧ ∃ frame payload,
      (link.send service command data peer).2.node.tx.staging = some frame ∧
      frame.payload = payload ++ Frame.packetBytes service command data := by
  have sent : (link.send service command data peer).1 = .ok () := by
    rw [NodeLink.send, TxLink.push, if_neg (Nat.not_lt.mpr short)]
  refine ⟨sent, ?_⟩
  let parcel : Parcel := ⟨service, command, data⟩
  have fitting (later : Peer ε κ)
      (fits : packetHeader + parcel.data.length ≤
        (link.tx.queue.get later).stagingFrame.remaining) :
      ∃ queue frame payload,
        (link.tx.queue.get later).stage? service command data = some queue ∧
        (link.send service command data later).2.node.tx.staging = some frame ∧
        frame.payload = payload ++ parcel.bytes := by
    have staged := TxQueue.stage?_fits fits
    let old := (link.tx.queue.get later).stagingFrame
    refine ⟨_, { old with payload := old.payload ++ parcel.bytes }, old.payload, staged, ?_, rfl⟩
    rw [NodeLink.send, TxLink.push_fits short staged]
    rfl
  rcases (link.tx.queue.get peer).stagingFrame.offer_cases parcel with ⟨fits, _⟩ | ⟨full, _⟩
  · obtain ⟨_, frame, payload, _, found, ends⟩ := fitting peer fits
    exact ⟨frame, payload, found, ends⟩
  · -- There is no room left, and what is staged goes first.
    let alone : Station (Peer ε κ) κ := station [] fun _ _ peer => peer
    have lawful : alone.node.Lawful := ⟨fun _ _ => rfl, fun _ => rfl, fun _ _ _ => rfl⟩
    have aloof : alone.tx.Aloof := ⟨fun _ _ _ empty => empty, fun _ _ _ => rfl⟩
    have empty := (Station.flush_empties lawful aloof peer).1
    have room : packetHeader + parcel.data.length ≤
        (link.tx.queue.get (link.tx.flush peer)).stagingFrame.remaining := by
      have none : (link.tx.queue.get (link.tx.flush peer)).staging = none := empty
      rw [TxQueue.stagingFrame, none]
      change packetHeader + data.length ≤ maxPayload
      simp only [maxPacketData, maxPayload, packetHeader] at short ⊢
      omega
    obtain ⟨queue, frame, payload, staged, found, ends⟩ := fitting _ room
    refine ⟨frame, payload, ?_, ends⟩
    rw [NodeLink.send, TxLink.push_full short (TxQueue.stage?_full full) staged]
    exact found

end Peer

namespace Tenancy

/-- The service with one more connection, and the tables with its pipes. -/
def admitted (peer : Peer Echo (Option Nat)) (registry : Registry (Option Nat))
    (connection : EchoConnection) : Peer Echo (Option Nat) :=
  { peer.withRegistry registry with
    rest := { peer.rest with
      nextId := peer.rest.nextId + 1
      connections := peer.rest.connections ++ [connection] } }

/-- The ways that an attempt to open a connection can go. -/
inductive Attempt (peer : Peer Echo (Option Nat)) (packet : Packet) :
    Except NodeError Unit → Peer Echo (Option Nat) → Prop where
  | refused {error : NodeError} : Attempt peer packet (.error error) peer
  /-- No input pipe can be opened, and the waiter is given up again. -/
  | backedOut {error : NodeError} {device : UInt64} {ack : AckHandle}
      {first second : Registry (Option Nat)}
      (registered : peer.node.registry.registerOutput device = (.ok ack, first))
      (failed : first.openInput (some peer.rest.nextId) = (.error error, second)) :
      Attempt peer packet (.error error)
        { peer.withRegistry (second.unregisterOutput ack.slot).2 with
          rest := { peer.rest with nextId := peer.rest.nextId + 1 } }
  | opened {wanted : PipeOpen} {ack : AckHandle} {first second : Registry (Option Nat)}
      (connection : EchoConnection) (parsed : PipeOpen.parse packet.data = .ok wanted)
      (registered : peer.node.registry.registerOutput wanted.device = (.ok ack, first))
      (drawn : first.openInput (some peer.rest.nextId) =
        (.ok (connection.input.id, connection.input.port), second))
      (numbered : connection.id = peer.rest.nextId)
      (leads : connection.output =
        OutputPipe.create wanted.device wanted.port ack peer.node.config.retry)
      {answer : Except NodeError Unit} {after : Peer Echo (Option Nat)}
      (sent : Peer.link.send packet.service packet.command (Wire.word16 connection.input.port)
        (admitted peer second connection) = (answer, after)) : Attempt peer packet answer after

variable {peer after : Peer Echo (Option Nat)} {packet : Packet} {answer : Except NodeError Unit}

theorem word_fits (port : UInt16) : (Wire.word16 port).length ≤ maxPacketData := by
  rw [Wire.word16, Wire.length_encode]
  decide

theorem attempts (packet : Packet) (peer : Peer Echo (Option Nat)) :
    Attempt peer packet (host.openConnection packet peer).1
      (host.openConnection packet peer).2 := by
  rw [EchoHost.openConnection]
  have link : host.link = Peer.link := rfl
  rw [link, NodeLink.openOutputFor]
  cases parsed : PipeOpen.parse packet.data with
  | error error => exact .refused
  | ok wanted =>
    dsimp only
    rw [NodeLink.openOutput]
    rcases registered : (Peer.link.registry.get peer).registerOutput wanted.device with
      ⟨error | ack, first⟩
    · obtain rfl := Registry.registerOutput_eq_error registered
      exact .refused
    · dsimp only
      rw [NodeLink.openInput]
      have same : (Peer.link.registry.get (host.echo.modify
          (fun echo => { echo with nextId := (host.echo.get
            (Peer.link.registry.set first peer)).nextId + 1 })
          (Peer.link.registry.set first peer))).openInput
            (host.sink (host.echo.get (Peer.link.registry.set first peer)).nextId) =
          first.openInput (some peer.rest.nextId) := rfl
      rw [same]
      rcases drawn : first.openInput (some peer.rest.nextId) with ⟨error | ⟨id, port⟩, second⟩
      · exact .backedOut registered drawn
      · exact .opened ⟨_, _, ⟨id, port⟩⟩ parsed registered drawn rfl rfl rfl

theorem Attempt.failed (attempt : Attempt peer packet answer after)
    (outputs : peer.node.registry.outputs.Tidy) {error : NodeError}
    (failed : answer = .error error) :
    after.rest.connections = peer.rest.connections ∧ after.rest.task = peer.rest.task ∧
      peer.rest.nextId ≤ after.rest.nextId ∧
      peer.node.registry.Unmarked after.node.registry := by
  cases attempt with
  | refused => exact ⟨rfl, rfl, Nat.le_refl _, .refl outputs⟩
  | backedOut registered refused =>
    exact ⟨rfl, rfl, Nat.le_succ _, .of_undone outputs registered refused⟩
  | @opened wanted ack first second connection _ _ _ _ _ _ _ sent =>
    have sends := Peer.send_stages packet.service packet.command
      (word_fits connection.input.port) (admitted peer second connection)
    rw [sent] at sends
    cases sends.1.symm.trans failed

theorem Attempt.answers (attempt : Attempt peer packet answer after)
    (outputs : peer.node.registry.outputs.Tidy) (inputs : peer.node.registry.inputs.Tidy) :
    Answers peer packet answer after where
  failed error failed := by
    obtain ⟨connections, _, _, unmarked⟩ := attempt.failed outputs failed
    refine ⟨connections, fun id => ?_, unmarked.same⟩
    rw [unmarked.inputs]
  opened success := by
    cases attempt with
    | refused | backedOut => cases success
    | @opened wanted ack first second connection parsed registered drawn numbered leads _ _ sent =>
      have sends := Peer.Transmits.send packet.service packet.command
        (Wire.word16 connection.input.port) (admitted peer second connection)
      have stages := Peer.send_stages packet.service packet.command
        (word_fits connection.input.port) (admitted peer second connection)
      rw [sent] at sends stages
      obtain ⟨_, frame, payload, staged, ends⟩ := stages
      obtain ⟨masked, _, stored, same, _⟩ := Registry.openInput_inserts drawn
      have registry : after.node.registry = second := sends.registry
      have kept : first.inputs = peer.node.registry.inputs :=
        (Registry.registerOutput_keeps registered).1
      refine ⟨wanted, connection, parsed, ?_, ?_, ?_, ?_, ?_, ?_, frame, payload, staged, ends⟩
      · exact congrArg Echo.connections sends.rest
      · rw [leads, OutputPipe.create]
      · rw [leads, OutputPipe.create]
      · rw [leads, OutputPipe.create]
      · rw [registry, same, leads]
        exact outputs.gains (Registry.registerOutput_inserts registered)
      · rw [registry, numbered]
        refine ⟨PipeWord.ofPort connection.input.port, ?_, ?_⟩
        · rw [PipeWord.port_ofPort, masked]
        · rw [← kept]
          exact (kept ▸ inputs : first.inputs.Tidy).gains stored

variable {tenancy : Tenancy}

theorem Sound.refused (sound : tenancy.Sound) {error : NodeError}
    (attempt : Attempt tenancy.server packet answer after) (failed : answer = .error error) :
    { tenancy with server := after }.Sound := by
  obtain ⟨connections, task, numbers, unmarked⟩ := attempt.failed sound.books.outputs failed
  refine sound.steady connections task numbers rfl rfl unmarked.outputs unmarked.same
    unmarked.bells (unmarked.inputs ▸ sound.books.inputs) ?_
  intro id entry found
  exact .inr ⟨entry, unmarked.inputs ▸ found, rfl⟩

theorem present_admitted (peer : Peer Echo (Option Nat)) (registry : Registry (Option Nat))
    (connection : EchoConnection) :
    (admitted peer registry connection).rest.present.Perm (connection :: peer.rest.present) := by
  have here : (admitted peer registry connection).rest.present =
      (peer.rest.connections ++ [connection]) ++ peer.rest.leaving := rfl
  rw [here, List.append_assoc, List.singleton_append]
  exact List.perm_middle

section

variable {wanted : PipeOpen} {ack : AckHandle} {first second : Registry (Option Nat)}
  {connection : EchoConnection}
  (registered : tenancy.registry.registerOutput wanted.device = (.ok ack, first))
  (drawn : first.openInput (some tenancy.echo.nextId) =
    (.ok (connection.input.id, connection.input.port), second))
  (leads : connection.output =
    OutputPipe.create wanted.device wanted.port ack tenancy.server.node.config.retry)
include registered drawn leads

theorem Minded.admitted (sound : tenancy.Sound)
    (new : connection.id ∉ tenancy.echo.present.map EchoConnection.id) :
    Minded second (Tenancy.admitted tenancy.server second connection).rest := by
  obtain ⟨books, minded, _⟩ := sound
  have present := present_admitted tenancy.server second connection
  have outputs := (Registry.openInput_inserts drawn).2.2.2.1
  have own (lease : Lease) (member : lease ∈ tenancy.echo.leases) :
      second.ownWaiter? lease.ack = tenancy.registry.ownWaiter? lease.ack := by
    rw [Registry.ownWaiter?, outputs]
    exact Registry.ownWaiter?_registerOutput books.outputs registered
      (books.hung lease (books.known lease member))
  refine ⟨?_, ?_, ?_, ?_⟩
  · exact (present.map EchoConnection.id).nodup_iff.mpr (List.nodup_cons.mpr ⟨new, minded.ids⟩)
  · exact fun task found => present.mem_iff.mpr (List.mem_cons_of_mem _ (minded.among task found))
  · exact fun task found => (minded.busy task found).congr
      (own _ (List.mem_map_of_mem (minded.among task found)))
  · intro other member idle
    rcases List.mem_append.mp member with old | last
    · obtain ⟨isOpen, waits⟩ := minded.rests other old idle
      have held : other ∈ tenancy.echo.present := List.mem_append_left _ old
      exact ⟨isOpen, (own _ (List.mem_map_of_mem held)).trans waits⟩
    · obtain rfl := List.mem_singleton.mp last
      rw [Rests, leads, Registry.ownWaiter?, outputs]
      exact ⟨rfl, Registry.ownWaiter?_registered registered⟩

/-- The table has a new connection, with a number that no other one has ever had. -/
theorem Sound.admitted (sound : tenancy.Sound) (numbered : connection.id = tenancy.echo.nextId)
    {later : Peer Echo (Option Nat)} (registry : later.node.registry = second)
    (rest : later.rest = (Tenancy.admitted tenancy.server second connection).rest) :
    { tenancy with server := later, made := tenancy.made ++ [connection.lease] }.Sound := by
  have present := present_admitted tenancy.server second connection
  have lease : connection.lease = ⟨tenancy.echo.nextId, ack, connection.input.id⟩ := by
    rw [EchoConnection.lease, numbered, leads, OutputPipe.create]
  have unused (lease : Lease) (member : lease ∈ tenancy.made) : lease.id ≠ tenancy.echo.nextId :=
    Nat.ne_of_lt (sound.numbered lease member)
  have new : connection.id ∉ tenancy.echo.present.map EchoConnection.id := by
    intro member
    obtain ⟨other, held, same⟩ := List.mem_map.mp member
    exact unused other.lease (sound.books.known _ (List.mem_map_of_mem held))
      (same.trans numbered)
  refine ⟨?_, ?_, ?_⟩
  · have books := sound.books.grant (Tenancy.admitted tenancy.server second connection).rest.leases
      registered drawn unused fun one => by
        rw [Echo.leases, (present.map EchoConnection.lease).mem_iff, List.map_cons, List.mem_cons,
          or_comm, lease]
        rfl
    rw [← lease] at books
    rw [Tenancy.registry, Tenancy.echo, registry, rest]
    exact books
  · rw [Tenancy.registry, Tenancy.echo, registry, rest]
    exact Minded.admitted registered drawn leads sound new
  · intro one member
    rw [Tenancy.echo, rest]
    rcases List.mem_append.mp member with old | last
    · exact (sound.numbered one old).trans (Nat.lt_succ_self _)
    · rw [List.mem_singleton.mp last, lease]
      exact Nat.lt_succ_self _

end

theorem Sound.connect (sound : tenancy.Sound) (packet : Packet) :
    (tenancy.move (.connect packet)).Sound := by
  have attempt := attempts packet tenancy.server
  rw [move]
  generalize host.openConnection packet tenancy.server = reached at attempt ⊢
  obtain ⟨answer, later⟩ := reached
  change { tenancy with
    server := later
    made := tenancy.made ++ (later.rest.connections.drop tenancy.echo.connections.length).map
      EchoConnection.lease }.Sound
  by_cases refused : ∃ error, answer = .error error
  · obtain ⟨error, failed⟩ := refused
    have connections := (attempt.failed sound.books.outputs failed).1
    rw [connections, ← Tenancy.echo, List.drop_length, List.map_nil, List.append_nil]
    exact sound.refused attempt failed
  · cases attempt with
    | refused | backedOut => exact absurd ⟨_, rfl⟩ refused
    | @opened wanted ack first second connection parsed registered drawn numbered leads _ _ sent =>
      have sends := Peer.Transmits.send packet.service packet.command
        (Wire.word16 connection.input.port) (Tenancy.admitted tenancy.server second connection)
      rw [sent] at sends
      have last : (Tenancy.admitted tenancy.server second connection).rest.connections.drop
          tenancy.echo.connections.length = [connection] := List.drop_left
      rw [sends.rest, last]
      exact sound.admitted registered drawn leads numbered sends.registry sends.rest

end Tenancy

end PipeBus

import PipeBus.Proofs.EchoAccount
import PipeBus.Proofs.Leases

/-! The pipes of an echo service on a node that others use as well. A connection has a pipe in each
direction, which make up its lease. It leaves the table before its pipes are given up, since the
worker may have to wait for an acknowledgement meanwhile. What is said of the tables and of the
worker at every moment (`Tenancy.Sound`) is kept by all that others do, and by what the service is
told. -/

namespace PipeBus

/-- What a connection has at its node. -/
def EchoConnection.lease (connection : EchoConnection) : Lease :=
  ⟨connection.id, connection.output.ack, connection.input.id⟩

def EchoStage.closes : EchoStage → Bool
  | .closing => true
  | .echoing _ | .reporting => false

namespace Echo

/-- The connection that the worker is closing, which is off the table already. -/
def leaving (echo : Echo) : List EchoConnection :=
  match echo.task with
  | none => []
  | some task => if task.stage.closes then [task.connection] else []

/-- All connections that may have pipes. -/
def present (echo : Echo) : List EchoConnection := echo.connections ++ echo.leaving

def leases (echo : Echo) : List Lease := echo.present.map EchoConnection.lease

variable {echo next : Echo}

theorem present_of_idle (idle : echo.task = none) : echo.present = echo.connections := by
  rw [Echo.present, Echo.leaving, idle, List.append_nil]

theorem present_congr (connections : next.connections = echo.connections)
    (task : next.task = echo.task) : next.present = echo.present := by
  rw [Echo.present, Echo.leaving, connections, task, Echo.present, Echo.leaving]

theorem leases_congr (connections : next.connections = echo.connections)
    (task : next.task = echo.task) : next.leases = echo.leases :=
  congrArg (List.map EchoConnection.lease) (present_congr connections task)

end Echo

/-- An echo service on a node that others use as well. -/
structure Tenancy where
  server : Peer Echo (Option Nat)
  /-- The leases of all connections that have ever been opened. -/
  made : List Lease := []
  /-- The waiters that others have registered and not given up. -/
  others : List AckHandle := []

namespace Tenancy

/-- The receiver of a connection's input pipe knows the number of the connection. -/
def host : EchoHost (Peer Echo (Option Nat)) (Option Nat) where
  link := Peer.link
  echo := Peer.restPlace
  sink := some

/-- A receiver that is told something. Those of others do what they do by moves of their own. -/
def hear : Option Nat → Delivery → Echo → Echo
  | none, _, echo => echo
  | some id, delivery, echo => echo.tell id delivery

inductive Move where
  | connect (packet : Packet)
  | route (packet : Packet)
  | hear (packet : Packet)
  /-- The node stages a report of somebody else. -/
  | send (service : UInt8) (command : UInt16) (data : Bytes)
  | flush
  /-- The worker takes a step; the idle callback follows every job. -/
  | work
  /-- The worker takes up a job that the idle callback does not follow. -/
  | job
  /-- The idle callback alone. -/
  | idle
  /-- The wait that the worker is in runs out. -/
  | lapse
  /-- Somebody else registers the waiter of an output pipe. -/
  | register (device : UInt64)
  | unregister (ack : AckHandle)
  /-- Somebody else opens an input pipe. -/
  | openInput
  /-- Somebody else closes an input pipe, which is none of the service's. -/
  | closeInput (id : SlotId)

def registry (tenancy : Tenancy) : Registry (Option Nat) := tenancy.server.node.registry

def echo (tenancy : Tenancy) : Echo := tenancy.server.rest

def start (config : NodeConfig) (ports : Nat → UInt16) (depth : Nat) : Tenancy where
  server := { node := Node.create config ports, rest := Echo.start depth }

def withRegistry (tenancy : Tenancy) (registry : Registry (Option Nat)) : Tenancy :=
  { tenancy with server := tenancy.server.withRegistry registry }

def withEcho (tenancy : Tenancy) (rest : Echo) : Tenancy :=
  { tenancy with server := { tenancy.server with rest } }

def move (tenancy : Tenancy) : Move → Tenancy
  | .connect packet =>
    let server := (host.openConnection packet tenancy.server).2
    let new := server.rest.connections.drop tenancy.echo.connections.length
    { tenancy with server, made := tenancy.made ++ new.map EchoConnection.lease }
  | .route packet =>
    { tenancy with
      server := (Registry.handlePacket Peer.link.registry (Peer.hearing hear) packet
        tenancy.server).2 }
  | .hear packet => tenancy.withRegistry (tenancy.registry.processAck packet).2
  | .send service command data =>
    { tenancy with server := (Peer.link.send service command data tenancy.server).2 }
  | .flush => { tenancy with server := Peer.link.flush tenancy.server }
  | .work =>
    match host.step tenancy.server with
    | none => tenancy
    | some server => { tenancy with server }
  | .job =>
    match tenancy.echo.takeJob? with
    | none => tenancy
    | some rest => tenancy.withEcho rest
  | .idle => if tenancy.echo.isFree then tenancy.withEcho tenancy.echo.collect else tenancy
  | .lapse => { tenancy with server := host.expire tenancy.server }
  | .register device =>
    match tenancy.registry.registerOutput device with
    | (.error _, _) => tenancy
    | (.ok ack, registry) =>
      { tenancy.withRegistry registry with others := tenancy.others ++ [ack] }
  | .unregister ack =>
    if ack ∈ tenancy.others then
      { tenancy.withRegistry (tenancy.registry.unregisterOutput ack.slot).2 with
        others := tenancy.others.erase ack }
    else tenancy
  | .openInput => tenancy.withRegistry (tenancy.registry.openInput none).2
  | .closeInput id =>
    match tenancy.registry.inputs.get? id with
    | some ⟨_, none⟩ => tenancy.withRegistry (tenancy.registry.closeInput id).2
    | _ => tenancy

def run (tenancy : Tenancy) (moves : List Move) : Tenancy := moves.foldl move tenancy

/-- What an attempt to open a connection comes to. -/
structure Answers (before : Peer Echo (Option Nat)) (packet : Packet)
    (answer : Except NodeError Unit) (after : Peer Echo (Option Nat)) : Prop where
  /-- A failure leaves the table and the open pipes as they were. -/
  failed : ∀ error, answer = .error error →
    after.rest.connections = before.rest.connections ∧
    (∀ id, after.node.registry.inputs.get? id = before.node.registry.inputs.get? id) ∧
    ∀ id, after.node.registry.outputs.get? id = before.node.registry.outputs.get? id
  /-- A success adds one connection, whose pipe leads where the payload says, and whose input pipe
  has the port that the packet staged last names. -/
  opened : answer = .ok () → ∃ wanted connection,
    PipeOpen.parse packet.data = .ok wanted ∧
    after.rest.connections = before.rest.connections ++ [connection] ∧
    connection.output.isOpen = true ∧ connection.output.device = wanted.device ∧
    connection.output.port = wanted.port ∧
    before.node.registry.outputs.Gains connection.output.ack.slot
      ⟨wanted.device, none, connection.output.ack.bell⟩ after.node.registry.outputs ∧
    (∃ word, word.port = connection.input.port ∧ before.node.registry.inputs.Gains
      connection.input.id ⟨word, some connection.id⟩ after.node.registry.inputs) ∧
    ∃ frame payload, after.node.tx.staging = some frame ∧ frame.payload = payload ++
      Frame.packetBytes packet.service packet.command (Wire.word16 connection.input.port)

/-- A service that has the pipes of the connections in its table, and no others. -/
structure Settled (tenancy : Tenancy) : Prop where
  listed : ∀ connection ∈ tenancy.echo.connections,
    connection.lease ∈ tenancy.made ∧ connection.output.isOpen = true
  distinct : tenancy.echo.ids.Nodup
  /-- A connection that has left the table has no waiter and no input pipe any more, unless it is
  the one that the worker is closing. -/
  left : ∀ lease ∈ tenancy.made, lease.id ∉ tenancy.echo.ids →
    (∀ connection ∈ tenancy.echo.leaving, connection.id ≠ lease.id) →
    (∀ id waiter, tenancy.registry.outputs.get? id = some waiter →
      waiter.bell ≠ lease.ack.bell) ∧
    ∀ id entry, tenancy.registry.inputs.get? id = some entry → entry.sink ≠ some lease.id
  /-- Between two jobs no connection is being closed, and all those listed have their waiters. -/
  between : tenancy.echo.task = none → tenancy.echo.leaving = [] ∧
    ∀ connection ∈ tenancy.echo.connections,
      tenancy.registry.outputs.get? connection.output.ack.slot =
        some ⟨connection.output.device, none, connection.output.ack.bell⟩

/-- Where the waiter stands of the connection that the worker is busy with. -/
inductive Busy (registry : Registry (Option Nat)) (task : EchoTask) : Prop where
  | calling {standing : Standing} (isOpen : task.connection.output.isOpen = true)
      (minds : task.call.Minds (task.connection.output.Settles task.stage.closes) standing)
      (here : standing ≠ .away)
      (own : registry.ownWaiter? task.connection.output.ack =
        standing.waiter? task.connection.output)
  /-- A pipe that was torn down when its report was lost has nothing left to close. -/
  | ended (closing : task.stage = .closing) (shut : task.connection.output.Ended)
      (call : task.call = .done (.ok (), task.connection.output))
      (gone : registry.ownWaiter? task.connection.output.ack = none)

/-- A connection that no call is made of. -/
def Rests (registry : Registry (Option Nat)) (connection : EchoConnection) : Prop :=
  connection.output.isOpen = true ∧ registry.ownWaiter? connection.output.ack =
    some ⟨connection.output.device, none, connection.output.ack.bell⟩

/-- A service whose worker minds the waiters of its connections. -/
structure Minded (registry : Registry (Option Nat)) (echo : Echo) : Prop where
  ids : (echo.present.map EchoConnection.id).Nodup
  among : ∀ task, echo.task = some task → task.connection ∈ echo.present
  busy : ∀ task, echo.task = some task → Busy registry task
  rests : ∀ connection ∈ echo.connections,
    (∀ task, echo.task = some task → task.connection.id ≠ connection.id) →
    Rests registry connection

/-- What holds between two moves. -/
structure Sound (tenancy : Tenancy) : Prop where
  books : tenancy.registry.Books tenancy.echo.leases tenancy.made tenancy.others
  minded : Minded tenancy.registry tenancy.echo
  numbered : ∀ lease ∈ tenancy.made, lease.id < tenancy.echo.nextId

variable {tenancy : Tenancy} {registry later : Registry (Option Nat)} {echo next : Echo}

theorem echo_withEcho (tenancy : Tenancy) (echo : Echo) : (tenancy.withEcho echo).echo = echo :=
  rfl

theorem Busy.congr {task : EchoTask} (busy : Busy registry task)
    (same : later.ownWaiter? task.connection.output.ack =
      registry.ownWaiter? task.connection.output.ack) : Busy later task := by
  cases busy with
  | calling isOpen minds here own => exact .calling isOpen minds here (same.trans own)
  | ended closing shut call gone => exact .ended closing shut call (same.trans gone)

/-- A worker between two jobs minds connections that all rest. -/
theorem Minded.of_idle (idle : echo.task = none)
    (ids : (echo.connections.map EchoConnection.id).Nodup)
    (rests : ∀ connection ∈ echo.connections, Rests registry connection) :
    Minded registry echo where
  ids := by rwa [Echo.present_of_idle idle]
  among task found := by cases idle.symm.trans found
  busy task found := by cases idle.symm.trans found
  rests connection member _ := rests connection member

/-- A worker that makes a call of a connection minds it when all others rest. -/
theorem Minded.of_task {task : EchoTask} (found : echo.task = some task)
    (ids : (echo.present.map EchoConnection.id).Nodup) (among : task.connection ∈ echo.present)
    (busy : Busy registry task)
    (rests : ∀ connection ∈ echo.connections, connection.id ≠ task.connection.id →
      Rests registry connection) : Minded registry echo where
  ids
  among other same := by
    obtain rfl := Option.some.inj (found.symm.trans same)
    exact among
  busy other same := by
    obtain rfl := Option.some.inj (found.symm.trans same)
    exact busy
  rests connection member elsewhere := rests connection member (elsewhere task found).symm

theorem Minded.congr (minded : Minded registry echo)
    (connections : next.connections = echo.connections) (task : next.task = echo.task)
    (own : ∀ lease ∈ echo.leases, later.ownWaiter? lease.ack = registry.ownWaiter? lease.ack) :
    Minded later next := by
  have present := Echo.present_congr connections task
  refine ⟨?_, ?_, ?_, ?_⟩
  · rw [present]
    exact minded.ids
  · rw [task, present]
    exact minded.among
  · rw [task]
    intro busy found
    exact (minded.busy busy found).congr
      (own _ (List.mem_map_of_mem (minded.among busy found)))
  · rw [connections, task]
    intro connection member idle
    obtain ⟨isOpen, waits⟩ := minded.rests connection member idle
    have held := List.mem_append_left echo.leaving member
    exact ⟨isOpen, (own _ (List.mem_map_of_mem held)).trans waits⟩

/-- What the service has no part in. -/
theorem Sound.elsewhere {after : Tenancy} (sound : tenancy.Sound)
    (connections : after.echo.connections = tenancy.echo.connections)
    (task : after.echo.task = tenancy.echo.task)
    (numbers : tenancy.echo.nextId ≤ after.echo.nextId) (made : after.made = tenancy.made)
    (books : after.registry.Books tenancy.echo.leases tenancy.made after.others)
    (own : ∀ lease ∈ tenancy.echo.leases,
      after.registry.ownWaiter? lease.ack = tenancy.registry.ownWaiter? lease.ack) :
    after.Sound where
  books := by
    rw [Echo.leases_congr connections task, made]
    exact books
  minded := sound.minded.congr connections task own
  numbered lease member := (sound.numbered lease (made ▸ member)).trans_le numbers

/-- What leaves the waiters as they are, and brings no input pipe with a number. -/
theorem Sound.steady {after : Tenancy} (sound : tenancy.Sound)
    (connections : after.echo.connections = tenancy.echo.connections)
    (task : after.echo.task = tenancy.echo.task)
    (numbers : tenancy.echo.nextId ≤ after.echo.nextId) (made : after.made = tenancy.made)
    (others : after.others = tenancy.others) (outputs : after.registry.outputs.Tidy)
    (same : ∀ id, after.registry.outputs.get? id = tenancy.registry.outputs.get? id)
    (bells : tenancy.registry.bells.length ≤ after.registry.bells.length)
    (inputs : after.registry.inputs.Tidy)
    (entries : ∀ id entry, after.registry.inputs.get? id = some entry →
      entry.sink = none ∨ ∃ old, tenancy.registry.inputs.get? id = some old ∧
        old.sink = entry.sink) : after.Sound := by
  refine sound.elsewhere connections task numbers made ?_ fun lease _ => ?_
  · rw [others]
    exact sound.books.steady outputs same bells inputs entries
  · rw [Registry.ownWaiter?, same, Registry.ownWaiter?]

theorem Sound.inputs (sound : tenancy.Sound) {registry : Registry (Option Nat)}
    (outputs : registry.outputs = tenancy.registry.outputs)
    (bells : registry.bells.length = tenancy.registry.bells.length)
    (inputs : registry.inputs.Tidy)
    (entries : ∀ id entry, registry.inputs.get? id = some entry →
      entry.sink = none ∨ ∃ old, tenancy.registry.inputs.get? id = some old ∧
        old.sink = entry.sink) : (tenancy.withRegistry registry).Sound :=
  sound.steady rfl rfl (Nat.le_refl _) rfl rfl (outputs ▸ sound.books.outputs)
    (fun id => congrArg (Arena.get? · id) outputs) (Nat.le_of_eq bells.symm) inputs entries

theorem Sound.hear (sound : tenancy.Sound) (packet : Packet) :
    (tenancy.move (.hear packet)).Sound := by
  have inputs := Registry.inputs_processAck tenancy.registry packet
  refine sound.inputs (Registry.outputs_processAck ..) (Registry.length_bells_processAck ..) ?_ ?_
  · exact inputs ▸ sound.books.inputs
  · intro id entry found
    exact .inr ⟨entry, inputs ▸ found, rfl⟩

theorem Sound.transmits (sound : tenancy.Sound) {after : Peer Echo (Option Nat)}
    (transmits : tenancy.server.Transmits after) : { tenancy with server := after }.Sound := by
  obtain ⟨tx, outbox, rfl⟩ := transmits
  exact sound.elsewhere rfl rfl (Nat.le_refl _) rfl sound.books fun _ _ => rfl

theorem Sound.openInput (sound : tenancy.Sound) : (tenancy.move .openInput).Sound := by
  have rest := tenancy.registry.openInput_rest none
  have outputs : (tenancy.registry.openInput none).2.outputs = tenancy.registry.outputs := by
    rw [rest]
  have bells : (tenancy.registry.openInput none).2.bells = tenancy.registry.bells := by rw [rest]
  rw [Tenancy.move]
  rcases opened : tenancy.registry.openInput none with ⟨error | ⟨slot, port⟩, registry⟩ <;>
    rw [opened] at outputs bells
  · have inputs := Registry.openInput_eq_error opened
    refine sound.inputs outputs (congrArg List.length bells) (inputs ▸ sound.books.inputs) ?_
    intro id entry found
    exact .inr ⟨entry, inputs ▸ found, rfl⟩
  · obtain ⟨_, _, stored, _⟩ := Registry.openInput_inserts opened
    refine sound.inputs outputs (congrArg List.length bells)
      (sound.books.inputs.insert? stored).2 ?_
    intro id entry found
    rcases (sound.books.inputs.get?_insert?_iff stored).mp found with ⟨_, rfl⟩ | old
    · exact .inl rfl
    · exact .inr ⟨entry, old, rfl⟩

theorem Sound.closed (sound : tenancy.Sound) (id : SlotId) :
    (tenancy.withRegistry (tenancy.registry.closeInput id).2).Sound := by
  obtain ⟨tidy, outputs, bells⟩ := Registry.closeInput_tidies id sound.books.inputs
  refine sound.inputs outputs (congrArg List.length bells) tidy ?_
  intro other entry found
  exact .inr ⟨entry, ((Registry.get?_closeInput_iff _ id).mp found).2, rfl⟩

theorem Sound.closeInput (sound : tenancy.Sound) (id : SlotId) :
    (tenancy.move (.closeInput id)).Sound := by
  rw [Tenancy.move]
  split
  · exact sound.closed id
  · exact sound

theorem Sound.idle (sound : tenancy.Sound) : (tenancy.move .idle).Sound := by
  rw [Tenancy.move]
  split
  · exact sound.elsewhere rfl rfl (Nat.le_refl _) rfl sound.books fun _ _ => rfl
  · exact sound

/-- A receiver takes what it is told into its queue, or marks its connection. -/
theorem hear_keeps (sink : Option Nat) (delivery : Delivery) (echo : Echo) :
    (Tenancy.hear sink delivery echo).connections = echo.connections ∧
      (Tenancy.hear sink delivery echo).task = echo.task ∧
      (Tenancy.hear sink delivery echo).nextId = echo.nextId := by
  cases sink with
  | none => exact ⟨rfl, rfl, rfl⟩
  | some id =>
    rcases Echo.tell_cases delivery echo with same | same <;> rw [Tenancy.hear, same]
    · exact ⟨rfl, rfl, rfl⟩
    · rw [Echo.markOverrun]
      split <;> exact ⟨rfl, rfl, rfl⟩

theorem Sound.told (sound : tenancy.Sound) (sink : Option Nat) (delivery : Delivery) :
    (tenancy.withEcho (Tenancy.hear sink delivery tenancy.echo)).Sound := by
  obtain ⟨connections, task, nextId⟩ := hear_keeps sink delivery tenancy.echo
  exact sound.elsewhere connections task (Nat.le_of_eq nextId.symm) rfl sound.books fun _ _ => rfl

/-- An input pipe that takes a packet expects the next one. -/
theorem Sound.advanced (sound : tenancy.Sound) {id : SlotId} {entry : InputEntry (Option Nat)}
    (stored : tenancy.registry.inputs.get? id = some entry) :
    (tenancy.withRegistry (tenancy.registry.advanced id)).Sound := by
  refine sound.inputs rfl rfl (sound.books.inputs.modify stored _) ?_
  intro other held found
  rcases (tenancy.registry.get?_advanced_iff stored other held).mp found with
    ⟨rfl, rfl⟩ | ⟨_, old⟩
  · exact .inr ⟨entry, stored, rfl⟩
  · exact .inr ⟨held, old, rfl⟩

theorem Sound.route (sound : tenancy.Sound) (packet : Packet) :
    (tenancy.move (.route packet)).Sound := by
  rw [Tenancy.move]
  rcases tenancy.registry.accept?_cases packet with refused | ⟨id, entry, found, _, accepted⟩
  · rw [Peer.handlePacket_refused refused]
    exact sound
  · have advanced := sound.advanced (Registry.listener?_eq_some.mp found).1
    rw [Peer.handlePacket_taken accepted]
    dsimp only
    split
    · exact ((advanced.told entry.sink _).told entry.sink .eof).closed id
    · exact advanced.told entry.sink _

theorem Sound.register (sound : tenancy.Sound) (device : UInt64) :
    (tenancy.move (.register device)).Sound := by
  rw [Tenancy.move]
  rcases registered : tenancy.registry.registerOutput device with ⟨error | ack, registry⟩
  · exact sound
  · refine sound.elsewhere rfl rfl (Nat.le_refl _) rfl (sound.books.register registered) ?_
    intro lease member
    exact Registry.ownWaiter?_registerOutput sound.books.outputs registered
      (sound.books.hung lease (sound.books.known lease member))

theorem Sound.unregister (sound : tenancy.Sound) (ack : AckHandle) :
    (tenancy.move (.unregister ack)).Sound := by
  rw [Tenancy.move]
  split
  · rename_i member
    refine sound.elsewhere rfl rfl (Nat.le_refl _) rfl (sound.books.unregister member) ?_
    intro lease held
    obtain ⟨waiter, found⟩ := Option.isSome_iff_exists.mp (sound.books.lent ack member).2
    exact Registry.ownWaiter?_unregisterOutput found
      (sound.books.apart lease (sound.books.known lease held) ack member).symm
  · exact sound

theorem sound_start (config : NodeConfig) (ports : Nat → UInt16) (depth : Nat) :
    (start config ports depth).Sound where
  books := .create config.maxInputs config.maxOutputs config.portAttempts ports
  minded := .of_idle rfl .nil nofun
  numbered := nofun

end Tenancy

end PipeBus

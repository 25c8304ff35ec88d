import PipeBus.Proofs.EchoQueue
import PipeBus.Proofs.EchoTrial
import PipeBus.Proofs.Listening

/-! The books of an echo trial. What the client has written is on its way, delivered, queued,
being written back, on its way back or delivered there, and every move keeps the account. -/

namespace PipeBus

/-- What an echo service with one connection is doing. -/
inductive Echo.Works (echo : Echo) (conn : EchoConnection) (echoes : List Bytes) : Usage → Prop where
  | resting {output : OutputPipe} (handle : output.ack = conn.output.ack)
      (task : echo.task = none) (listed : echo.connections = [{ conn with output }])
      (echoed : echo.echoed = echoes.flatten.length) : Works echo conn echoes (.idle output)
  | echoing {output : OutputPipe} {before : List Bytes} {data : Bytes}
      {call : Call (Except NodeError Unit × OutputPipe)} (same : echoes = before ++ [data])
      (handle : output.ack = conn.output.ack)
      (task : echo.task = some ⟨{ conn with output }, .echoing data.length, true, call⟩)
      (listed : echo.connections = [{ conn with output }])
      (echoed : echo.echoed = before.flatten.length) : Works echo conn echoes (.busy false call)
  | closing {output : OutputPipe} {call : Call (Except NodeError Unit × OutputPipe)}
      (handle : output.ack = conn.output.ack)
      (task : echo.task = some ⟨{ conn with output }, .closing, true, call⟩)
      (listed : echo.connections = []) (echoed : echo.echoed = echoes.flatten.length) :
      Works echo conn echoes (.busy true call)
  | closed (task : echo.task = none) (listed : echo.connections = [])
      (echoed : echo.echoed = echoes.flatten.length) : Works echo conn echoes .closed

/-- More jobs in the queue change nothing of what the worker is doing. -/
theorem Echo.Works.queued {echo : Echo} {conn : EchoConnection} {echoes : List Bytes}
    {usage : Usage} (works : echo.Works conn echoes usage) (id : Nat)
    (requests : List EchoRequest) : (echo.queued id requests).Works conn echoes usage := by
  cases works with
  | resting handle task listed echoed => exact .resting handle task listed echoed
  | echoing same handle task listed echoed => exact .echoing same handle task listed echoed
  | closing handle task listed echoed => exact .closing handle task listed echoed
  | closed task listed echoed => exact .closed task listed echoed

theorem Echo.Works.busy {echo : Echo} {conn : EchoConnection} {echoes : List Bytes}
    {closing : Bool} {call : Call (Except NodeError Unit × OutputPipe)}
    (works : echo.Works conn echoes (.busy closing call)) :
    ∃ task, echo.task = some task ∧ task.connection.output.ack = conn.output.ack ∧
      task.call = call ∧ ∀ call, { echo with task := some { task with call } }.Works conn echoes
        (.busy closing call) := by
  cases works with
  | echoing same handle task listed echoed =>
    exact ⟨_, task, handle, rfl, fun _ => .echoing same handle rfl listed echoed⟩
  | closing handle task listed echoed =>
    exact ⟨_, task, handle, rfl, fun _ => .closing handle rfl listed echoed⟩

/-- The watcher has no use for reports without data. -/
theorem EchoClient.indifferent : Service.Indifferent [EchoClient.watcher] := by
  intro service member packet peer bare
  obtain rfl := List.mem_singleton.mp member
  simp [EchoClient.watcher, EchoClient.observe, Simulation.replyPort?, bare]

theorem EchoClient.tellAll_hear (deliveries : List Delivery) (client : EchoClient) :
    tellAll EchoClient.hear () deliveries client =
      { client with log := client.log ++ deliveries } := by
  induction deliveries generalizing client with
  | nil => simp [tellAll]
  | cons delivery rest ih =>
    have later := ih (client.hear () delivery)
    simp only [tellAll, List.foldl_cons] at later ⊢
    rw [later]
    simp [EchoClient.hear]

theorem Echo.indifferent : Service.Indifferent [Echo.host.service] := by
  intro service member packet peer _
  obtain rfl := List.mem_singleton.mp member
  rfl

namespace EchoTrial

structure Link where
  /-- The connection at the server, with its output pipe as it was opened. -/
  conn : EchoConnection
  input : InputPipe

structure Ledger where
  /-- Chunks that the client has begun to write. -/
  written : List Bytes := []
  /-- Pieces that the server has been given. -/
  forth : List Piece := []
  /-- Data that the worker has begun to write back. -/
  echoes : List Bytes := []
  /-- Pieces that the client has been given. -/
  back : List Piece := []
  worker : Usage

def runs (writes : List Bytes) : List Bytes := writes.flatMap OutputPipe.pieces

/-- The books are in order. -/
structure Sound (link : Link) (chunks : List Bytes) (ledger : Ledger) (trial : EchoTrial) :
    Prop where
  split : ledger.written ++ trial.chunks = chunks
  ended : trial.writer.ends = true → trial.chunks = []
  forth : trial.forth.Serves trial.client.node.registry trial.ack Simulation.serverDevice
    link.conn.input.port (OutputPipe.sent (runs ledger.written) trial.writer.ends) ledger.forth
    trial.writer
  back : trial.back.Serves trial.server.node.registry link.conn.output.ack Simulation.clientDevice
    link.input.port (OutputPipe.sent (runs ledger.echoes) ledger.worker.ends) ledger.back
    ledger.worker
  client : trial.client.Listens Simulation.clientDevice link.input.port link.input.id ()
    ledger.back
  log : trial.client.rest.log.map Delivery.heard = ledger.back.flatMap Piece.heard
  server : trial.server.Listens Simulation.serverDevice link.conn.input.port link.conn.input.id
    link.conn.id ledger.forth
  inputs : trial.server.node.registry.inputs.size =
    1 - ledger.forth.countP fun piece => piece.kind = .close
  works : trial.server.rest.Works link.conn ledger.echoes ledger.worker
  unmarked : trial.server.rest.overruns = [] ∧ trial.server.rest.reports = []
  queue : ∃ queue, trial.server.rest.worker.waiting = queue.map (EchoJob.mk link.conn.id) ∧
    Piece.requests ledger.forth = Echo.asked ledger.echoes ledger.worker.ends ++ queue

variable {link : Link} {chunks : List Bytes} {ledger : Ledger} {trial later : EchoTrial}

/-- A node only hears what frames of reports without data acknowledge. -/
theorem takeAll_bare {ε κ : Type} {services : List (Service (Peer ε κ))}
    {tell : κ → Delivery → Peer ε κ → Peer ε κ} (indifferent : Service.Indifferent services)
    (frames : List Frame) (bare : ∀ frame ∈ frames, frame.Bare) (peer : Peer ε κ) :
    takeAll (Peer.station services tell) frames peer =
      peer.withRegistry (frames.foldl Registry.hearFrame peer.node.registry) := by
  induction frames generalizing peer with
  | nil => rfl
  | cons frame rest ih =>
    obtain ⟨front, others⟩ := List.forall_mem_cons.mp bare
    rw [takeAll, List.foldl_cons, Peer.processFrame_bare indifferent front]
    exact ih others _

theorem runs_append (writes : List Bytes) (data : Bytes) :
    runs (writes ++ [data]) = runs writes ++ OutputPipe.pieces data := by
  simp [runs]

theorem flatten_runs (writes : List Bytes) : (runs writes).flatten = writes.flatten := by
  induction writes with
  | nil => rfl
  | cons data writes ih =>
    have front := OutputPipe.flatten_pieces data
    simp only [runs] at ih
    simp [runs, front, ih]

theorem filled_runs {writes : List Bytes} (filled : ∀ data ∈ writes, data ≠ []) :
    ∀ run ∈ runs writes, run ≠ [] := by
  intro run member
  obtain ⟨data, inside, found⟩ := List.mem_flatMap.mp member
  exact OutputPipe.ne_nil_of_mem_pieces (filled data inside) found

namespace Sound

theorem filled_written (sound : Sound link chunks ledger trial)
    (filled : ∀ chunk ∈ chunks, chunk ≠ []) : ∀ run ∈ runs ledger.written, run ≠ [] := by
  apply filled_runs
  intro data member
  apply filled
  rw [← sound.split]
  exact List.mem_append_left _ member

theorem asked_prefix (sound : Sound link chunks ledger trial)
    (filled : ∀ chunk ∈ chunks, chunk ≠ []) {queue : List EchoRequest}
    (account : Piece.requests ledger.forth =
      Echo.asked ledger.echoes ledger.worker.ends ++ queue) :
    Echo.asked ledger.echoes ledger.worker.ends ++ queue <+:
      Echo.asked (runs ledger.written) trial.writer.ends := by
  rw [← account, ← Echo.requests_sent (sound.filled_written filled)]
  exact Echo.requests_prefix sound.forth.within

theorem filled_echoes (sound : Sound link chunks ledger trial)
    (filled : ∀ chunk ∈ chunks, chunk ≠ []) : ∀ run ∈ runs ledger.echoes, run ≠ [] := by
  apply filled_runs
  intro data member
  obtain ⟨queue, _, account⟩ := sound.queue
  have inside : EchoRequest.echo data ∈ Echo.asked ledger.echoes ledger.worker.ends ++ queue := by
    simp [Echo.asked, member]
  rcases Echo.mem_asked ((sound.asked_prefix filled account).subset inside) with
    ⟨run, found, same⟩ | other
  · cases same
    exact sound.filled_written filled data found
  · cases other

/-- The client begins to write a chunk, or to close its pipe. -/
theorem start (sound : Sound link chunks ledger trial) (moved : trial.start? = some later) :
    ∃ next, Sound link chunks next later := by
  obtain ⟨client, server, ack, writer, remaining, forth, back⟩ := trial
  cases writer with
  | idle pipe =>
    have serves : forth.Serves client.node.registry ack Simulation.serverDevice
        link.conn.input.port (OutputPipe.sent (runs ledger.written) false) ledger.forth
        (.idle pipe) := sound.forth
    have split := sound.split
    cases remaining with
    | nil =>
      cases moved
      have closes := serves.close fun piece => OutputPipe.opens_of_mem_sent
      rw [← OutputPipe.sent_close] at closes
      exact ⟨ledger, { sound with ended := fun _ => rfl, forth := closes }⟩
    | cons chunk remaining =>
      cases moved
      have writes := serves.write chunk fun piece => OutputPipe.opens_of_mem_sent
      rw [← OutputPipe.sent_append, ← runs_append] at writes
      refine ⟨{ ledger with written := ledger.written ++ [chunk] }, { sound with
        split := ?_
        ended := nofun
        forth := writes }⟩
      rw [← split, List.append_assoc, List.singleton_append]
  | busy => cases moved
  | closed => cases moved

theorem advance (sound : Sound link chunks ledger trial) (moved : trial.advance? = some later) :
    Sound link chunks ledger later := by
  obtain ⟨client, server, ack, writer, remaining, forth, back⟩ := trial
  cases writer with
  | idle => cases moved
  | closed => cases moved
  | busy closing call =>
    simp only [advance?] at moved
    split at moved
    · cases moved
    · obtain ⟨writer, well, rfl⟩ := Option.map_eq_some_iff.mp moved
      obtain ⟨serves, operates, ends, _⟩ := sound.forth.perform sound.client.empty well
      refine { sound with
        ended := fun ended => ?_
        forth := ?_
        client := sound.client.operates operates
        log := ?_ }
      · exact sound.ended (ends.symm.trans ended)
      · rw [ends]
        exact serves
      · exact operates.rest ▸ sound.log

theorem expire (sound : Sound link chunks ledger trial) (moved : trial.expire? = some later) :
    Sound link chunks ledger later := by
  obtain ⟨client, server, ack, writer, remaining, forth, back⟩ := trial
  cases writer with
  | idle => cases moved
  | closed => cases moved
  | busy closing call =>
    simp only [expire?] at moved
    split at moved
    · rename_i lapses
      cases moved
      simp only [Bool.and_eq_true, Bool.not_eq_true'] at lapses
      exact { sound with forth := sound.forth.expire lapses.1 lapses.2 }
    · cases moved

theorem loseForth (sound : Sound link chunks ledger trial)
    (moved : trial.loseForth? = some later) : Sound link chunks ledger later := by
  unfold loseForth? at moved
  split at moved
  · cases moved
  · rename_i oldest
    cases moved
    exact { sound with forth := sound.forth.lose oldest }

theorem loseBack (sound : Sound link chunks ledger trial)
    (moved : trial.loseBack? = some later) : Sound link chunks ledger later := by
  unfold loseBack? at moved
  split at moved
  · cases moved
  · rename_i oldest
    cases moved
    exact { sound with back := sound.back.lose oldest }

/-- A frame reaches the server, whose worker is given what it asks for. -/
theorem arriveForth (sound : Sound link chunks ledger trial)
    (filled : ∀ chunk ∈ chunks, chunk ≠ []) (moved : trial.arriveForth? = some later) :
    ∃ next, Sound link chunks next later := by
  unfold arriveForth? at moved
  split at moved
  · cases moved
  · rename_i frame rest oldest
    obtain ⟨confirmed, pieces, rfl, cargo, either, serves⟩ := sound.forth.arrive oldest
    have few := cargo.length_lt fun piece =>
      OutputPipe.filled_of_mem_sent (sound.filled_written filled)
    obtain ⟨fresh, grown, takes, listens⟩ :=
      sound.server.arrive Echo.tell [Echo.host.service] cargo few either
    have processed : (Peer.station [Echo.host.service] (Peer.hearing Echo.tell)).processFrame
        (carrier Simulation.serverDevice link.conn.input.port confirmed.length pieces).sealed
        trial.server = Echo.station.processFrame (carrier Simulation.serverDevice
          link.conn.input.port confirmed.length pieces).sealed trial.server := rfl
    rw [processed] at takes listens
    generalize Echo.station.processFrame (carrier Simulation.serverDevice link.conn.input.port
      confirmed.length pieces).sealed trial.server = server at moved takes listens
    simp only at moved
    split at moved
    · rename_i kept
      cases moved
      obtain ⟨deliveries, same, told⟩ := takes.told
      -- No job has been refused, so the queue has grown by all that the new pieces ask for.
      have queued : server.rest =
          trial.server.rest.queued link.conn.id (Piece.requests fresh) := by
        rw [told] at kept ⊢
        rw [Echo.tellAll_kept (List.isEmpty_iff.mp kept), same]
        rfl
      obtain ⟨queue, waiting, account⟩ := sound.queue
      refine ⟨{ ledger with forth := confirmed ++ pieces }, { sound with
        forth := serves server.outbox takes.answers
        back := sound.back.of_same takes.outputs takes.bells
        server := listens
        inputs := ?_
        works := ?_
        unmarked := ?_
        queue := ⟨queue ++ Piece.requests fresh, ?_, ?_⟩ }⟩
      · simp only
        rw [takes.size, sound.inputs, ← grown, List.countP_append, Nat.sub_sub]
      · simp only [queued]
        exact sound.works.queued ..
      · simp only [queued]
        exact sound.unmarked
      · simp only [queued, Echo.queued, waiting, List.map_append]
      · simp only [← grown, Piece.requests, List.flatMap_append, List.filterMap_append]
        rw [← List.append_assoc]
        exact congrArg (· ++ _) account
    · cases moved

theorem arriveBack (sound : Sound link chunks ledger trial)
    (filled : ∀ chunk ∈ chunks, chunk ≠ []) (moved : trial.arriveBack? = some later) :
    ∃ next, Sound link chunks next later := by
  unfold arriveBack? at moved
  split at moved
  · cases moved
  · rename_i frame rest oldest
    cases moved
    obtain ⟨confirmed, pieces, rfl, cargo, either, serves⟩ := sound.back.arrive oldest
    have few := cargo.length_lt fun piece =>
      OutputPipe.filled_of_mem_sent (sound.filled_echoes filled)
    obtain ⟨fresh, grown, takes, listens⟩ :=
      sound.client.arrive EchoClient.hear [EchoClient.watcher] cargo few either
    obtain ⟨deliveries, same, told⟩ := takes.told
    rw [EchoClient.tellAll_hear] at told
    refine ⟨{ ledger with back := confirmed ++ pieces }, { sound with
      forth := sound.forth.of_same takes.outputs takes.bells
      back := serves _ takes.answers
      client := listens
      log := (congrArg (fun rest : EchoClient => rest.log.map Delivery.heard) told).trans ?_ }⟩
    rw [List.map_append, sound.log, same, ← List.flatMap_append, grown]

theorem answerForth (sound : Sound link chunks ledger trial) :
    Sound link chunks ledger trial.answerForth := by
  have hears : takeAll EchoClient.station trial.forth.acks trial.client = _ :=
    takeAll_bare EchoClient.indifferent trial.forth.acks sound.forth.bare trial.client
  rw [EchoTrial.answerForth, hears]
  exact { sound with
    forth := sound.forth.hear
    client := sound.client.hears trial.forth.acks
    log := sound.log }

theorem answerBack (sound : Sound link chunks ledger trial) :
    Sound link chunks ledger trial.answerBack := by
  have hears : takeAll Echo.station trial.back.acks trial.server = _ :=
    takeAll_bare Echo.indifferent trial.back.acks sound.back.bare trial.server
  rw [EchoTrial.answerBack, hears]
  exact { sound with
    back := sound.back.hear
    server := sound.server.hears trial.back.acks
    inputs := (congrArg Arena.size (Registry.inputs_hearFrames ..)).trans sound.inputs }

end Sound

end EchoTrial

end PipeBus

import Mathlib.Data.List.Nodup
import PipeBus.Proofs.EchoAdmission

/-! How the worker of an echo service looks after the pipes of the connections. A call that it makes
touches no waiter but that of the pipe, and when it is through with a connection it has given both
pipes up. Main statement: an attempt to open a connection brings both pipes or none, and a
connection that has left the table has no pipe any more, unless it is just being closed
(`Tenancy.leaks_nothing`). -/

namespace PipeBus

namespace Peer

variable {α ε κ : Type}

/-- A call of an output pipe leaves the input pipes alone, and brings no waiter. -/
theorem registry_perform (ack : AckHandle) (call : Call α) (peer : Peer ε κ) :
    (link.perform ack call peer).2.node.registry.inputs = peer.node.registry.inputs ∧
      (link.perform ack call peer).2.node.registry.bells.length =
        peer.node.registry.bells.length := by
  induction call generalizing peer with
  | done value => exact ⟨rfl, rfl⟩
  | arm crc next ih =>
    obtain ⟨inputs, bells⟩ := ih (link.registry.modify (·.arm ack.slot crc) peer)
    refine ⟨inputs.trans (Registry.inputs_arm _ ack.slot crc), bells.trans ?_⟩
    exact Registry.length_bells_arm _ ack.slot crc
  | send frame next ih =>
    obtain ⟨inputs, bells⟩ := ih (link.tx.pushFrame frame peer).2
    have same := (Transmits.pushFrame frame peer).registry
    exact ⟨inputs.trans (congrArg Registry.inputs same),
      bells.trans (congrArg (List.length ∘ Registry.bells) same)⟩
  | wait delay next ih =>
    rw [NodeLink.perform]
    split
    · obtain ⟨inputs, bells⟩ := ih true (link.answer ack peer)
      exact ⟨inputs, bells.trans (List.length_modify ..)⟩
    · exact ⟨rfl, rfl⟩
  | disarm next ih => exact ih _
  | release next ih =>
    obtain ⟨inputs, bells⟩ := ih
      (link.registry.modify (fun registry => (registry.unregisterOutput ack.slot).2) peer)
    refine ⟨inputs.trans (Registry.inputs_unregisterOutput _ ack.slot), bells.trans ?_⟩
    exact congrArg List.length (Registry.bells_unregisterOutput _ ack.slot)

end Peer

namespace NodeLink

variable {σ κ α : Type}

/-- A call is performed to its end, or until it has to wait. -/
theorem perform_stops (link : NodeLink σ κ) (ack : AckHandle) (call : Call α) (state : σ) :
    (∃ value, (link.perform ack call state).1 = .done value) ∨
      ∃ delay next, (link.perform ack call state).1 = .wait delay next := by
  induction call generalizing state with
  | done value => exact .inl ⟨value, rfl⟩
  | arm crc next ih | send frame next ih | disarm next ih | release next ih => exact ih _
  | wait delay next ih =>
    rw [perform]
    split
    · exact ih true _
    · exact .inr ⟨delay, next, rfl⟩

end NodeLink

namespace OutputPipe

variable {pipe : OutputPipe}

theorem writeThrough_minds (data : Bytes) (isOpen : pipe.isOpen = true) :
    (pipe.writeThrough data).Minds (pipe.Settles false) .resting := by
  apply (writeKind_minds data .data isOpen).bind
  intro standing value settles
  cases settles with
  | kept follows still =>
    exact (flush_minds still).mono fun _ _ settles => settles.of_follows follows
  | reset follows shut => exact .done (.reset follows shut)

end OutputPipe

namespace Echo

variable {echo : Echo} {connection : EchoConnection} {task : EchoTask}

theorem mem_remove {id : Nat} {other : EchoConnection} :
    other ∈ (echo.remove id).connections ↔ other ∈ echo.connections ∧ other.id ≠ id := by
  rw [Echo.remove, List.mem_filter, bne_iff_ne]

theorem perm_remove (ids : (echo.connections.map EchoConnection.id).Nodup)
    (member : connection ∈ echo.connections) :
    echo.connections.Perm (connection :: (echo.remove connection.id).connections) := by
  have once : echo.connections.Nodup := .of_map EchoConnection.id ids
  have rest : (connection :: (echo.remove connection.id).connections).Nodup :=
    List.nodup_cons.mpr ⟨fun held => (mem_remove.mp held).2 rfl, once.filter _⟩
  refine (List.perm_ext_iff_of_nodup once rest).mpr fun other => ?_
  rw [List.mem_cons, mem_remove]
  constructor
  · intro held
    by_cases same : other.id = connection.id
    · exact .inl (List.inj_on_of_nodup_map ids held member same)
    · exact .inr ⟨held, same⟩
  · rintro (rfl | ⟨held, _⟩)
    · exact member
    · exact held

theorem present_of_task (found : echo.task = some task) :
    echo.present = echo.connections ++ if task.stage.closes then [task.connection] else [] := by
  rw [Echo.present, Echo.leaving, found]

theorem present_of_stays (found : echo.task = some task)
    (stays : task.stage.closes = false) : echo.present = echo.connections := by
  rw [present_of_task found, stays, if_neg Bool.false_ne_true, List.append_nil]

theorem remove_of_closes (found : echo.task = some task)
    (closes : task.stage.closes = true) (ids : (echo.present.map EchoConnection.id).Nodup) :
    (echo.remove task.connection.id).connections = echo.connections := by
  rw [present_of_task found, if_pos closes, List.map_append, List.map_singleton,
    List.nodup_append] at ids
  refine List.filter_eq_self.mpr fun other member => bne_iff_ne.mpr ?_
  exact ids.2.2 _ (List.mem_map_of_mem member) _ (List.mem_singleton_self _)

end Echo

namespace Tenancy

variable {tenancy : Tenancy} {connection : EchoConnection} {standing : Standing}

/-- The service as it is while something is done with the pipe of one of the connections. Nothing is
said of the task of the worker but which connections it has. -/
structure Holding (tenancy : Tenancy) (connection : EchoConnection) (standing : Standing) :
    Prop where
  books : tenancy.registry.Books tenancy.echo.leases tenancy.made tenancy.others
  numbered : ∀ lease ∈ tenancy.made, lease.id < tenancy.echo.nextId
  ids : (tenancy.echo.present.map EchoConnection.id).Nodup
  parts : tenancy.echo.present.Perm (connection :: (tenancy.echo.remove connection.id).connections)
  rests : ∀ other ∈ (tenancy.echo.remove connection.id).connections,
    Rests tenancy.registry other
  own : tenancy.registry.ownWaiter? connection.output.ack = standing.waiter? connection.output

theorem Sound.rests_idle (sound : tenancy.Sound) (idle : tenancy.echo.task = none)
    (member : connection ∈ tenancy.echo.connections) : Rests tenancy.registry connection :=
  sound.minded.rests connection member fun task found => by cases idle.symm.trans found

theorem Sound.holding_listed (sound : tenancy.Sound) (idle : tenancy.echo.task = none)
    (member : connection ∈ tenancy.echo.connections) : tenancy.Holding connection .resting where
  books := sound.books
  numbered := sound.numbered
  ids := sound.minded.ids
  parts := by
    have ids := sound.minded.ids
    rw [Echo.present_of_idle idle] at ids ⊢
    exact Echo.perm_remove ids member
  rests other held := sound.rests_idle idle (Echo.mem_remove.mp held).1
  own := (sound.rests_idle idle member).2

/-- Whatever the worker is busy with is a connection from the table, or has left it. -/
theorem Sound.parts_busy (sound : tenancy.Sound) {task : EchoTask}
    (found : tenancy.echo.task = some task) :
    tenancy.echo.present.Perm
      (task.connection :: (tenancy.echo.remove task.connection.id).connections) := by
  have ids := sound.minded.ids
  cases closes : task.stage.closes with
  | false =>
    have among := sound.minded.among task found
    rw [Echo.present_of_stays found closes] at ids among ⊢
    exact Echo.perm_remove ids among
  | true =>
    rw [Echo.remove_of_closes found closes ids, Echo.present_of_task found, if_pos closes]
    exact List.perm_append_singleton ..

theorem Sound.rests_besides (sound : tenancy.Sound) {task : EchoTask}
    (found : tenancy.echo.task = some task) {other : EchoConnection}
    (member : other ∈ (tenancy.echo.remove task.connection.id).connections) :
    Rests tenancy.registry other := by
  obtain ⟨listed, different⟩ := Echo.mem_remove.mp member
  refine sound.minded.rests other listed fun busy same => ?_
  obtain rfl := Option.some.inj (found.symm.trans same)
  exact different.symm

theorem Sound.holding_busy (sound : tenancy.Sound) {task : EchoTask} (standing : Standing)
    (found : tenancy.echo.task = some task)
    (own : tenancy.registry.ownWaiter? task.connection.output.ack =
      standing.waiter? task.connection.output) : tenancy.Holding task.connection standing where
  books := sound.books
  numbered := sound.numbered
  ids := sound.minded.ids
  parts := sound.parts_busy found
  rests _ := sound.rests_besides found
  own := own

namespace Holding

theorem held (holding : tenancy.Holding connection standing) :
    connection.lease ∈ tenancy.echo.leases :=
  List.mem_map_of_mem (holding.parts.mem_iff.mpr (List.mem_cons_self ..))

theorem bell_ne (holding : tenancy.Holding connection standing) {other : EchoConnection}
    (member : other ∈ (tenancy.echo.remove connection.id).connections) :
    other.output.ack.bell ≠ connection.output.ack.bell := by
  have among : other.lease ∈ tenancy.echo.leases :=
    List.mem_map_of_mem (holding.parts.mem_iff.mpr (List.mem_cons_of_mem _ member))
  intro same
  have alike := holding.books.once _ (holding.books.known _ among) _
    (holding.books.known _ holding.held) (.inr same)
  exact (Echo.mem_remove.mp member).2 (congrArg Lease.id alike)

theorem found (holding : tenancy.Holding connection standing) (here : standing ≠ .away) :
    ∃ waiter, standing.waiter? connection.output = some waiter ∧
      tenancy.registry.ownWaiter? connection.output.ack = some waiter := by
  cases standing with
  | away => exact absurd rfl here
  | resting | armed => exact ⟨_, rfl, holding.own⟩

theorem shift (holding : tenancy.Holding connection standing) (here : standing ≠ .away)
    {after : Peer Echo (Option Nat)} {later : Standing} (rest : after.rest = tenancy.echo)
    (shifts : tenancy.registry.Shifts after.node.registry connection.output later)
    (inputs : after.node.registry.inputs = tenancy.registry.inputs)
    (bells : after.node.registry.bells.length = tenancy.registry.bells.length) :
    { tenancy with server := after }.Holding connection later := by
  obtain ⟨node, outbox, echo⟩ := after
  obtain rfl : echo = tenancy.echo := rest
  obtain ⟨waiter, _, found⟩ := holding.found here
  exact {
    books := holding.books.shift holding.held rfl found shifts inputs bells
    numbered := holding.numbered
    ids := holding.ids
    parts := holding.parts
    rests := fun other member =>
      ⟨(holding.rests other member).1,
        (shifts.ownWaiter? found (holding.bell_ne member)).trans (holding.rests other member).2⟩
    own := shifts.own }

theorem perform {post : Standing → Except NodeError Unit × OutputPipe → Prop}
    {call : Call (Except NodeError Unit × OutputPipe)}
    (holding : tenancy.Holding connection standing) (here : standing ≠ .away)
    (minds : call.Minds post standing) : ∃ later,
    (Peer.link.perform connection.output.ack call tenancy.server).1.Minds post later ∧
      { tenancy with
        server := (Peer.link.perform connection.output.ack call tenancy.server).2
      }.Holding connection later := by
  obtain ⟨waiter, waits, found⟩ := holding.found here
  have stored := (Registry.ownWaiter?_eq_some.mp found).1
  obtain ⟨later, rest, shifts⟩ := minds.perform holding.books.outputs (stored.trans waits.symm)
  obtain ⟨inputs, bells⟩ :=
    Peer.registry_perform connection.output.ack call tenancy.server
  exact ⟨later, rest, holding.shift here (Peer.rest_perform ..) shifts inputs bells⟩

theorem calls (holding : tenancy.Holding connection standing) (task : EchoTask)
    (mine : task.connection = connection) (busy : Busy tenancy.registry task)
    (same : { tenancy.echo with task := some task }.present = tenancy.echo.present) :
    (tenancy.withEcho { tenancy.echo with task := some task }).Sound := by
  have leases : { tenancy.echo with task := some task }.leases = tenancy.echo.leases :=
    congrArg (List.map EchoConnection.lease) same
  refine ⟨?_, .of_task rfl ?_ ?_ busy fun other member elsewhere => ?_, holding.numbered⟩
  · rw [echo_withEcho, leases]
    exact holding.books
  · rw [echo_withEcho, same]
    exact holding.ids
  · rw [echo_withEcho, same]
    exact holding.parts.mem_iff.mpr (mine ▸ List.mem_cons_self ..)
  · exact holding.rests other (Echo.mem_remove.mpr ⟨member, mine ▸ elsewhere⟩)

theorem closes (holding : tenancy.Holding connection standing) {output : OutputPipe}
    (queued : Bool) (handle : output.ack = connection.output.ack)
    (busy : Busy tenancy.registry
      ⟨{ connection with output }, .closing, queued, output.close⟩) :
    (tenancy.withEcho (tenancy.echo.closing queued { connection with output })).Sound := by
  have present : (tenancy.echo.closing queued { connection with output }).present =
      (tenancy.echo.remove connection.id).connections ++ [{ connection with output }] := rfl
  have ids : ((tenancy.echo.closing queued { connection with output }).present.map
      EchoConnection.id).Perm (tenancy.echo.present.map EchoConnection.id) := by
    rw [present, List.map_append]
    exact (List.perm_append_singleton ..).trans (holding.parts.map EchoConnection.id).symm
  have leases : (tenancy.echo.closing queued { connection with output }).leases.Perm
      tenancy.echo.leases := by
    have same : ({ connection with output } : EchoConnection).lease = connection.lease := by
      rw [EchoConnection.lease, handle]
      rfl
    rw [Echo.leases, present, List.map_append, List.map_singleton, same]
    exact (List.perm_append_singleton ..).trans (holding.parts.map EchoConnection.lease).symm
  have last : { connection with output } ∈
      (tenancy.echo.closing queued { connection with output }).present :=
    present ▸ List.mem_append_right _ (List.mem_singleton_self _)
  exact ⟨holding.books.congr fun lease => leases.mem_iff,
    .of_task rfl (ids.nodup_iff.mpr holding.ids) last busy
      fun other member _ => holding.rests other member, holding.numbered⟩

theorem stores (holding : tenancy.Holding connection .resting) {output : OutputPipe}
    (follows : connection.output.Follows output) (isOpen : output.isOpen = true)
    (listed : tenancy.echo.present = tenancy.echo.connections) (next : Echo)
    (stored : next.connections = (tenancy.echo.store connection.id output).connections)
    (idle : next.task = none) (numbers : next.nextId = tenancy.echo.nextId) :
    (tenancy.withEcho next).Sound := by
  -- Only the connection itself has its number, so that all leases stay as they are.
  have cases (other : EchoConnection) (member : other ∈ tenancy.echo.connections) :
      other = connection ∨ other ∈ (tenancy.echo.remove connection.id).connections :=
    List.mem_cons.mp (holding.parts.mem_iff.mp (listed ▸ member))
  have leases : next.leases = tenancy.echo.leases := by
    rw [Echo.leases, Echo.present_of_idle idle, stored, Echo.store, List.map_map, Echo.leases,
      listed]
    refine List.map_congr_left fun other member => ?_
    rw [Function.comp_apply]
    split
    · rename_i mine
      rcases cases other member with rfl | besides
      · rw [EchoConnection.lease, follows.handle]
        rfl
      · exact absurd mine (Echo.mem_remove.mp besides).2
    · rfl
  refine ⟨?_, .of_idle idle ?_ fun kept member => ?_, ?_⟩
  · rw [echo_withEcho, leases]
    exact holding.books
  · rw [echo_withEcho, stored]
    have ids := holding.ids
    rw [listed, ← Echo.ids, ← Echo.ids_store _ connection.id output] at ids
    exact ids
  · have inside : kept ∈ (tenancy.echo.store connection.id output).connections := stored ▸ member
    obtain ⟨other, among, rfl⟩ := List.mem_map.mp inside
    rcases cases other among with rfl | besides
    · rw [if_pos rfl]
      refine ⟨isOpen, ?_⟩
      rw [follows.handle, follows.target]
      exact holding.own
    · rw [if_neg (Echo.mem_remove.mp besides).2]
      exact holding.rests other besides
  · exact fun lease member => (holding.numbered lease member).trans_eq numbers.symm

theorem leaves (holding : tenancy.Holding connection .away) (next : Echo)
    (remaining : next.connections = (tenancy.echo.remove connection.id).connections)
    (idle : next.task = none) (numbers : next.nextId = tenancy.echo.nextId) :
    ((tenancy.withEcho next).withRegistry
      (tenancy.registry.closeInput connection.input.id).2).Sound := by
  have present : next.present = (tenancy.echo.remove connection.id).connections :=
    (Echo.present_of_idle idle).trans remaining
  have among (lease : Lease) :
      lease ∈ tenancy.echo.leases ↔ lease = connection.lease ∨ lease ∈ next.leases := by
    rw [Echo.leases, (holding.parts.map EchoConnection.lease).mem_iff, List.map_cons,
      List.mem_cons, Echo.leases, present]
  have outputs := (Registry.closeInput_tidies connection.input.id holding.books.inputs).2.1
  refine ⟨?_, .of_idle idle ?_ fun other member => ?_, ?_⟩
  · exact holding.books.vacate connection.lease holding.own
      (fun lease member => (among lease).mpr (.inr member))
      (fun lease member => ((among lease).mp member).symm)
  · have ids := (holding.parts.map EchoConnection.id).nodup_iff.mp holding.ids
    exact remaining ▸ (List.nodup_cons.mp ids).2
  · obtain ⟨isOpen, own⟩ := holding.rests other (remaining ▸ member)
    refine ⟨isOpen, Eq.trans ?_ own⟩
    exact congrArg (fun outputs => (Arena.get? outputs _).filter _) outputs
  · exact fun lease member => (holding.numbered lease member).trans_eq numbers.symm

end Holding

theorem Sound.queues (sound : tenancy.Sound) (next : Echo)
    (connections : next.connections = tenancy.echo.connections)
    (task : next.task = tenancy.echo.task) (numbers : next.nextId = tenancy.echo.nextId) :
    (tenancy.withEcho next).Sound :=
  sound.elsewhere connections task (Nat.le_of_eq numbers.symm) rfl sound.books fun _ _ => rfl

theorem Sound.rested (sound : tenancy.Sound) (idle : tenancy.echo.task = none) (queued : Bool) :
    (tenancy.withEcho (tenancy.echo.rest queued)).Sound := by
  cases queued with
  | true | false => exact sound.queues _ rfl idle.symm rfl

theorem Sound.takeOn (sound : tenancy.Sound) (idle : tenancy.echo.task = none) (queued : Bool)
    (job : EchoJob) : (tenancy.withEcho (tenancy.echo.takeOn queued job)).Sound := by
  cases found : tenancy.echo.connection? job.connection with
  | none =>
    rw [Echo.takeOn_gone found]
    exact sound.rested idle queued
  | some connection =>
    have member := List.mem_of_find?_eq_some found
    have holding := sound.holding_listed idle member
    have isOpen := (sound.rests_idle idle member).1
    have same (task : EchoTask) (stays : task.stage.closes = false) :
        { tenancy.echo with task := some task }.present = tenancy.echo.present :=
      (Echo.present_of_stays rfl stays).trans (Echo.present_of_idle idle).symm
    rw [Echo.takeOn, found]
    dsimp only
    split
    · rename_i data _
      exact holding.calls _ rfl
        (.calling isOpen (OutputPipe.writeThrough_minds data isOpen) (by rintro ⟨⟩) holding.own)
        (same _ rfl)
    · rename_i error _
      exact holding.calls _ rfl
        (.calling isOpen (OutputPipe.writeKind_minds _ _ isOpen) (by rintro ⟨⟩) holding.own)
        (same _ rfl)
    · exact holding.closes queued rfl
        (.calling isOpen (OutputPipe.close_minds isOpen) (by rintro ⟨⟩) holding.own)

theorem Sound.takeUp (sound : tenancy.Sound) (idle : tenancy.echo.task = none) {later : Echo}
    (taken : tenancy.echo.takeUp? = some later) : (tenancy.withEcho later).Sound := by
  unfold Echo.takeUp? at taken
  split at taken
  · rename_i id reports _
    obtain rfl := Option.some.inj taken
    exact (sound.queues { tenancy.echo with reports } rfl rfl rfl).takeOn idle false _
  · split at taken
    · rename_i job worker _
      have queued := sound.queues { tenancy.echo with worker } rfl rfl rfl
      obtain rfl := Option.some.inj taken
      split
      · exact queued.rested idle true
      · exact queued.takeOn idle true job
    · split at taken
      · cases taken
      · obtain rfl := Option.some.inj taken
        exact sound.queues _ rfl rfl rfl

theorem Sound.job (sound : tenancy.Sound) : (tenancy.move .job).Sound := by
  rw [move]
  split
  · exact sound
  · rename_i later taken
    obtain ⟨idle, job, jobs, _, _, rfl⟩ := Echo.takeJob?_eq_some taken
    have queued := sound.queues
      { tenancy.echo with worker := { tenancy.echo.worker with waiting := jobs } } rfl rfl rfl
    split
    · exact queued.rested idle false
    · exact queued.takeOn idle false job

theorem discard_ended {output : OutputPipe} (shut : output.Ended)
    (peer : Peer Echo (Option Nat)) :
    host.discard connection output peer =
      peer.withRegistry (peer.node.registry.closeInput connection.input.id).2 := by
  have dropped : host.link.dropOutput output peer = peer := by
    rw [NodeLink.dropOutput, shut.closed, if_neg Bool.false_ne_true]
  rw [EchoHost.discard, dropped]
  rfl

/-- A connection that had left the table already has been closed. -/
theorem Holding.closed {task : EchoTask} (holding : tenancy.Holding task.connection .away)
    (found : tenancy.echo.task = some task) (closing : task.stage = .closing) :
    ((tenancy.withEcho (tenancy.echo.rest task.queued)).withRegistry
      (tenancy.registry.closeInput task.connection.input.id).2).Sound := by
  refine holding.leaves _ ?_ (Echo.task_rest ..) (Echo.nextId_rest ..)
  rw [Echo.remove_of_closes found (congrArg EchoStage.closes closing) holding.ids]
  cases task.queued <;> rfl

theorem Holding.concludes {task : EchoTask} {result : Except NodeError Unit} {output : OutputPipe}
    (holding : tenancy.Holding task.connection standing) (found : tenancy.echo.task = some task)
    (settles : task.connection.output.Settles task.stage.closes standing (result, output)) :
    { tenancy with server := host.conclude task result output tenancy.server }.Sound := by
  obtain ⟨connection, stage, queued, call⟩ := task
  cases stage with
  | echoing bytes =>
    have listed := Echo.present_of_stays found rfl
    cases settles with
    | kept follows isOpen =>
      refine holding.stores follows isOpen listed (({ tenancy.echo.store connection.id output with
        echoed := tenancy.echo.echoed + bytes } : Echo).rest queued) ?_ ?_ ?_
      · cases queued <;> rfl
      · exact Echo.task_rest ..
      · exact Echo.nextId_rest ..
    | reset follows shut =>
      have failed : host.conclude ⟨connection, .echoing bytes, queued, call⟩
          (.error (.reset connection.output.device)) output tenancy.server =
            host.discard connection output (tenancy.withEcho
              ((tenancy.echo.remove connection.id).rest queued)).server := rfl
      rw [failed, discard_ended shut]
      refine holding.leaves ((tenancy.echo.remove connection.id).rest queued) ?_ ?_ ?_
      · cases queued <;> rfl
      · exact Echo.task_rest ..
      · exact Echo.nextId_rest ..
  | reporting =>
    obtain ⟨follows, left⟩ := settles.leaves
    refine holding.closes queued follows.handle ?_
    rcases left with ⟨rfl, still⟩ | ⟨rfl, shut⟩
    · refine .calling still (OutputPipe.close_minds still) (by rintro ⟨⟩) ?_
      dsimp only
      rw [follows.waiter?, follows.handle]
      exact holding.own
    · refine .ended rfl shut ?_ ?_
      · dsimp only
        rw [OutputPipe.close, shut.closed, if_neg Bool.false_ne_true]
      · dsimp only
        rw [follows.handle]
        exact holding.own
  | closing =>
    have ended : host.conclude ⟨connection, .closing, queued, call⟩ result output tenancy.server =
        host.discard connection output (tenancy.withEcho (tenancy.echo.rest queued)).server := rfl
    rw [ended]
    cases settles with
    | closed _ shut | reset _ shut =>
      rw [discard_ended shut]
      exact holding.closed found rfl

theorem Sound.resume (sound : tenancy.Sound) {task : EchoTask}
    (found : tenancy.echo.task = some task) :
    { tenancy with server := host.resume task tenancy.server }.Sound := by
  cases sound.minded.busy task found with
  | ended closing shut call gone =>
    obtain ⟨connection, stage, queued, _⟩ := task
    dsimp only at closing shut call gone
    obtain rfl := closing
    obtain rfl := call
    have resumed : host.resume ⟨connection, .closing, queued, .done (.ok (), connection.output)⟩
        tenancy.server = host.discard connection connection.output
          (tenancy.withEcho (tenancy.echo.rest queued)).server := rfl
    rw [resumed, discard_ended shut]
    exact (sound.holding_busy .away found gone).closed found rfl
  | calling isOpen minds here own =>
    obtain ⟨later, rest, holding⟩ := (sound.holding_busy _ found own).perform here minds
    have kept := Peer.rest_perform task.connection.output.ack task.call tenancy.server
    rw [EchoHost.resume]
    have link : host.link = Peer.link := rfl
    rw [link]
    have stops := Peer.link.perform_stops task.connection.output.ack task.call tenancy.server
    rcases performed : Peer.link.perform task.connection.output.ack task.call tenancy.server
      with ⟨call, after⟩
    rw [performed] at rest holding kept stops
    have still : { tenancy with server := after }.echo.task = some task :=
      (congrArg Echo.task kept).trans found
    rcases stops with ⟨⟨result, output⟩, ended⟩ | ⟨delay, next, waits⟩
    · dsimp only at ended rest
      obtain rfl := ended
      cases rest with
      | done settles => exact holding.concludes still settles
    · dsimp only at waits rest
      obtain rfl := waits
      cases rest with
      | wait rest =>
        refine holding.calls { task with call := .wait delay next } rfl
          (.calling isOpen (.wait rest) (by rintro ⟨⟩) holding.own) ?_
        rw [Echo.present_of_task rfl, Echo.present_of_task still]

theorem Sound.work (sound : tenancy.Sound) : (tenancy.move .work).Sound := by
  rw [move]
  split
  · exact sound
  · rename_i server steps
    unfold EchoHost.step at steps
    split at steps
    · rename_i task found
      split at steps
      · cases steps
      · obtain rfl := Option.some.inj steps
        exact sound.resume found
    · rename_i idle
      obtain ⟨later, taken, rfl⟩ := Option.map_eq_some_iff.mp steps
      exact sound.takeUp idle taken

theorem Sound.lapse (sound : tenancy.Sound) : (tenancy.move .lapse).Sound := by
  have same : tenancy.move .lapse = tenancy.withEcho { tenancy.echo with
      task := tenancy.echo.task.map fun task => { task with call := task.call.expire } } := rfl
  rw [same]
  cases found : tenancy.echo.task with
  | none => exact sound.queues _ rfl found.symm rfl
  | some task =>
    cases sound.minded.busy task found with
    | calling isOpen minds here own =>
      refine (sound.holding_busy _ found own).calls _ rfl (.calling isOpen minds.expire here own) ?_
      rw [Echo.present_of_task rfl, Echo.present_of_task found]
    | ended closing shut call gone =>
      refine (sound.holding_busy .away found gone).calls _ rfl
        (.ended closing shut ?_ gone) ?_
      · dsimp only
        rw [call]
        rfl
      · rw [Echo.present_of_task rfl, Echo.present_of_task found]

theorem Sound.move (sound : tenancy.Sound) (move : Move) : (tenancy.move move).Sound := by
  cases move with
  | connect packet => exact sound.connect packet
  | route packet => exact sound.route packet
  | hear packet => exact sound.hear packet
  | send service command data => exact sound.transmits (.send service command data _)
  | flush => exact sound.transmits (.flush _)
  | work => exact sound.work
  | job => exact sound.job
  | idle => exact sound.idle
  | lapse => exact sound.lapse
  | register device => exact sound.register device
  | unregister ack => exact sound.unregister ack
  | openInput => exact sound.openInput
  | closeInput id => exact sound.closeInput id

theorem Sound.run (sound : tenancy.Sound) (moves : List Move) : (tenancy.run moves).Sound := by
  induction moves generalizing tenancy with
  | nil => exact sound
  | cons move moves ih => exact ih (sound.move move)

/-- Every connection in the table has an open pipe, also the one that the worker is busy with. -/
theorem Sound.isOpen (sound : tenancy.Sound) (member : connection ∈ tenancy.echo.connections) :
    connection.output.isOpen = true := by
  obtain ⟨_, minded, _⟩ := sound
  by_cases mine : ∃ task, tenancy.echo.task = some task ∧ task.connection.id = connection.id
  · obtain ⟨task, found, same⟩ := mine
    cases closes : task.stage.closes with
    | true =>
      rw [← Echo.remove_of_closes found closes minded.ids] at member
      exact absurd same.symm (Echo.mem_remove.mp member).2
    | false =>
      have listed := Echo.present_of_stays found closes
      have among := minded.among task found
      have ids := minded.ids
      rw [listed] at among ids
      obtain rfl := List.inj_on_of_nodup_map ids among member same
      cases minded.busy task found with
      | calling isOpen => exact isOpen
      | ended closing =>
        rw [closing] at closes
        cases closes
  · exact (minded.rests connection member fun task found same => mine ⟨task, found, same⟩).1

theorem Sound.settled (sound : tenancy.Sound) : tenancy.Settled where
  listed connection member :=
    ⟨sound.books.known _ (List.mem_map_of_mem (List.mem_append_left _ member)),
      sound.isOpen member⟩
  distinct := by
    have ids := sound.minded.ids
    rw [Echo.present, List.map_append] at ids
    exact (List.nodup_append.mp ids).1
  left lease made away closed := by
    refine sound.books.gone made fun held => ?_
    obtain ⟨connection, member, rfl⟩ := List.mem_map.mp held
    rcases List.mem_append.mp member with listed | leaving
    · exact away (List.mem_map_of_mem listed)
    · exact closed connection leaving rfl
  between idle := by
    refine ⟨?_, fun connection member => ?_⟩
    · rw [Echo.leaving, idle]
    · exact (Registry.ownWaiter?_eq_some.mp (sound.rests_idle idle member).2).1

/-- Whatever has happened, an attempt to open a connection brings the two pipes that it is about, or
it leaves the table and the open pipes as they were. The connections in the table have open pipes
and numbers of their own. Those that have left it have no pipes any more, but for the one that the
worker may be closing. -/
theorem leaks_nothing (config : NodeConfig) (ports : Nat → UInt16) (depth : Nat)
    (moves : List Move) :
    let tenancy := (start config ports depth).run moves
    (∀ packet, Answers tenancy.server packet (host.openConnection packet tenancy.server).1
      (host.openConnection packet tenancy.server).2) ∧ tenancy.Settled := by
  intro tenancy
  have sound := (sound_start config ports depth).run moves
  refine ⟨fun packet => ?_, sound.settled⟩
  exact (attempts packet tenancy.server).answers sound.books.outputs sound.books.inputs

/-- With room for one input pipe the second connection cannot be opened. The first one is closed by
its client, and leaves no pipe when the close is never acknowledged. -/
example :
    let config : NodeConfig := { maxInputs := 1, retry := { backoffLimit := Duration.ofMillis 15 } }
    let connect : Move := .connect ⟨1, 1, 1, Echo.openCommand, PipeOpen.encode ⟨7, 9⟩⟩
    let close : Move := .route ⟨1, 1, 1, (PipeWord.ofPort 97).withClose.raw, []⟩
    let tenancy := (start config scatteredPorts 1).run [connect, connect]
    let later := tenancy.run [close, .work, .work, .lapse, .work]
    (tenancy.echo.ids, tenancy.registry.openOutputs) = ([1], 1) ∧
      (later.echo.ids, later.registry.openInputs, later.registry.openOutputs) = ([], 0, 0) := by
  decide +kernel

end Tenancy

end PipeBus

import PipeBus.Proofs.EchoLedger

/-! What one step of the echo worker does to the books. -/

namespace PipeBus

namespace Echo

variable {echo : Echo} {id : Nat} {request : EchoRequest} {jobs : List EchoJob}

theorem takeUp?_job (unmarked : echo.overruns = [] ∧ echo.reports = [])
    (waiting : echo.worker.waiting = ⟨id, request⟩ :: jobs) :
    echo.takeUp? =
      some ({ echo with worker := { echo.worker with waiting := jobs } }.takeOn true
        ⟨id, request⟩) := by
  simp [takeUp?, unmarked, Worker.take?, waiting]

theorem takeUp?_idle (unmarked : echo.overruns = [] ∧ echo.reports = [])
    (waiting : echo.worker.waiting = []) : echo.takeUp? = none := by
  simp [takeUp?, unmarked, Worker.take?, waiting]

end Echo

/-- A call has come to an error or ended well, or it is still under way. -/
theorem Usage.after_cases (closing : Bool) (call : Call (Except NodeError Unit × OutputPipe)) :
    (∃ error pipe, call = .done (.error error, pipe)) ∨ (∃ pipe, call = .done (.ok (), pipe)) ∨
      Usage.after closing call = some (.busy closing call) ∧ ∀ value, call ≠ .done value := by
  cases call with
  | done value =>
    obtain ⟨_ | ⟨⟨⟩⟩, pipe⟩ := value
    · exact .inl ⟨_, pipe, rfl⟩
    · exact .inr (.inl ⟨pipe, rfl⟩)
  | arm | send | wait | disarm | release => exact .inr (.inr ⟨rfl, nofun⟩)

namespace EchoTrial

variable {link : Link} {chunks : List Bytes} {ledger : Ledger} {trial later : EchoTrial}

theorem work?_resting (task : trial.server.rest.task = none) :
    trial.work? = trial.server.rest.takeUp?.map fun rest =>
      { trial with
        server := { trial.server with rest, outbox := [] }
        back := trial.back.launchAll trial.server.outbox } := by
  have steps : Echo.host.step trial.server =
      trial.server.rest.takeUp?.map fun rest => { trial.server with rest } := by
    unfold EchoHost.step
    split
    · rename_i found
      cases task.symm.trans found
    · rfl
  rw [work?, failing, task, steps, if_neg Bool.false_ne_true, Option.map_map]
  rfl

/-- A call of the worker goes on to what `resume` makes of it, which is no error. -/
theorem work?_busy {task : EchoTask} (here : trial.server.rest.task = some task)
    (moved : trial.work? = some later) :
    (Peer.link.perform task.connection.output.ack task.call trial.server).1.failed = false ∧
      later = { trial with
        server := { Echo.host.resume task trial.server with outbox := [] }
        back := trial.back.launchAll (Echo.host.resume task trial.server).outbox } := by
  have steps : Echo.host.step trial.server =
      if task.call.isWaiting && !Peer.link.isRung task.connection.output.ack trial.server
        then none else some (Echo.host.resume task trial.server) := by
    unfold EchoHost.step
    split
    · rename_i found
      cases here.symm.trans found
      rfl
    · rename_i idle
      cases here.symm.trans idle
  rw [work?, failing, here, steps] at moved
  simp only at moved
  split at moved
  · cases moved
  · rename_i well
    refine ⟨Bool.eq_false_iff.mpr well, ?_⟩
    split at moved
    · cases moved
    · cases moved
      rfl

theorem resume_done (task : EchoTask) {server after : Peer Echo Nat}
    {result : Except NodeError Unit} {output : OutputPipe}
    (ended : Peer.link.perform task.connection.output.ack task.call server =
      (.done (result, output), after)) :
    Echo.host.resume task server = Echo.host.conclude task result output after := by
  have same : Echo.host.link.perform task.connection.output.ack task.call server = _ := ended
  rw [EchoHost.resume, same]

theorem resume_waits (task : EchoTask) {server after : Peer Echo Nat}
    {call : Call (Except NodeError Unit × OutputPipe)}
    (paused : Peer.link.perform task.connection.output.ack task.call server = (call, after))
    (waits : ∀ value, call ≠ .done value) :
    Echo.host.resume task server =
      { after with rest := { after.rest with task := some { task with call } } } := by
  have same : Echo.host.link.perform task.connection.output.ack task.call server = _ := paused
  rw [EchoHost.resume, same]
  cases call with
  | done value => exact absurd rfl (waits value)
  | arm | send | wait | disarm | release => rfl

theorem expire_eq {server : Peer Echo Nat} {task : EchoTask}
    (here : server.rest.task = some task) :
    Echo.host.expire server = { server with
      rest := { server.rest with task := some { task with call := task.call.expire } } } := by
  obtain ⟨node, outbox, rest⟩ := server
  obtain ⟨worker, connections, overruns, reports, _, nextId, echoed⟩ := rest
  cases here
  rfl

namespace Sound

/-- A call of the worker has gone on, and the service has taken note of it. -/
theorem resumed (sound : Sound link chunks ledger trial) (after : Peer Echo Nat) (rest : Echo)
    {usage : Usage} (operates : Peer.Operates trial.server after)
    (serves : (trial.back.launchAll after.outbox).Serves after.node.registry link.conn.output.ack
      Simulation.clientDevice link.input.port
      (OutputPipe.sent (runs ledger.echoes) ledger.worker.ends) ledger.back usage)
    (ends : usage.ends = ledger.worker.ends) (works : rest.Works link.conn ledger.echoes usage)
    (unmarked : rest.overruns = [] ∧ rest.reports = [])
    (worker : rest.worker = trial.server.rest.worker) :
    Sound link chunks { ledger with worker := usage } { trial with
      server := { after with rest, outbox := [] }
      back := trial.back.launchAll after.outbox } := by
  have same : after.node.registry.inputs = trial.server.node.registry.inputs := operates.inputs
  refine { sound with
    forth := sound.forth
    back := ?_
    server := (sound.server.operates operates).keep rest
    inputs := ?_
    works
    unmarked
    queue := ?_ }
  · simp only [ends]
    exact serves
  · simp only [same]
    exact sound.inputs
  · simp only [ends, worker]
    exact sound.queue

variable {written echoes : List Bytes} {forth back : List Piece} {output : OutputPipe}
  {closing : Bool} {call : Call (Except NodeError Unit × OutputPipe)}

theorem paused {task : EchoTask} {result : Call (Except NodeError Unit × OutputPipe)}
    {after : Peer Echo Nat}
    (sound : Sound link chunks ⟨written, forth, echoes, back, .busy closing call⟩ trial)
    (here : trial.server.rest.task = some task)
    (performed : Peer.link.perform task.connection.output.ack task.call trial.server =
      (result, after)) (goes : Usage.after closing result = some (.busy closing result))
    (waits : ∀ value, result ≠ .done value) :
    Sound link chunks ⟨written, forth, echoes, back, .busy closing result⟩ { trial with
      server := { Echo.host.resume task trial.server with outbox := [] }
      back := trial.back.launchAll (Echo.host.resume task trial.server).outbox } := by
  obtain ⟨same, found, handle, rfl, again⟩ := sound.works.busy
  obtain rfl : task = same := Option.some.inj (here.symm.trans found)
  have called := performed
  rw [handle] at called
  obtain ⟨serves, operates, ends, _⟩ :=
    sound.back.perform sound.server.empty ((congrArg _ (congrArg Prod.fst called)).trans goes)
  simp only [called] at serves operates
  rw [resume_waits task performed waits, operates.rest]
  exact sound.resumed after _ operates serves ends (again result) sound.unmarked rfl

theorem takeUp (sound : Sound link chunks ⟨written, forth, echoes, back, .idle output⟩ trial)
    (filled : ∀ chunk ∈ chunks, chunk ≠ []) (handle : output.ack = link.conn.output.ack)
    (task : trial.server.rest.task = none)
    (listed : trial.server.rest.connections = [{ link.conn with output }])
    (echoed : trial.server.rest.echoed = echoes.flatten.length)
    (moved : trial.work? = some later) : ∃ next, Sound link chunks next later := by
  obtain ⟨queue, waiting, account⟩ := sound.queue
  have serves : trial.back.Serves trial.server.node.registry link.conn.output.ack
      Simulation.clientDevice link.input.port (OutputPipe.sent (runs echoes) false) back
      (.idle output) := sound.back
  have silent : trial.back.launchAll trial.server.outbox = trial.back := by
    rw [sound.server.empty]
    rfl
  rw [work?_resting task] at moved
  cases queue with
  | nil =>
    rw [Echo.takeUp?_idle sound.unmarked waiting] at moved
    cases moved
  | cons request queue =>
    have asked : request ∈ Echo.asked echoes false ++ request :: queue := by simp
    rw [Echo.takeUp?_job sound.unmarked waiting, Option.map_some, silent] at moved
    have found : ({ trial.server.rest with worker := { trial.server.rest.worker with
        waiting := queue.map (EchoJob.mk link.conn.id) } }).connection? link.conn.id =
          some { link.conn with output } := by
      simp [Echo.connection?, listed]
    rw [Echo.takeOn] at moved
    simp only [found] at moved
    -- A job asks for nothing that the client has not written, and so never for a report.
    rcases Echo.mem_asked ((sound.asked_prefix filled account).subset asked) with
      ⟨run, _, rfl⟩ | rfl
    · cases moved
      have writes := serves.write run fun piece => OutputPipe.opens_of_mem_sent
      rw [← OutputPipe.sent_append, ← runs_append] at writes
      refine ⟨⟨written, forth, echoes ++ [run], back,
        .busy false (output.writeThrough run)⟩, { sound with
          back := writes
          server := ⟨sound.server.mine, sound.server.idle, rfl, sound.server.gate⟩
          works := .echoing rfl handle rfl listed echoed
          queue := ⟨queue, rfl, ?_⟩ }⟩
      apply account.trans
      simp only [Usage.ends, Echo.asked_append]
      simp
    · cases moved
      have closes := serves.close fun piece => OutputPipe.opens_of_mem_sent
      rw [← OutputPipe.sent_close] at closes
      refine ⟨⟨written, forth, echoes, back, .busy true output.close⟩, { sound with
        back := closes
        server := ⟨sound.server.mine, sound.server.idle, rfl, sound.server.gate⟩
        works := .closing handle rfl ?_ echoed
        queue := ⟨queue, rfl, ?_⟩ }⟩
      · simp [Echo.closing, Echo.remove, listed]
      · apply account.trans
        simp only [Usage.ends, Echo.asked_close]
        simp

theorem echo {before : List Bytes} {data : Bytes}
    (sound : Sound link chunks ⟨written, forth, before ++ [data], back, .busy false call⟩ trial)
    (handle : output.ack = link.conn.output.ack)
    (task : trial.server.rest.task =
      some ⟨{ link.conn with output }, .echoing data.length, true, call⟩)
    (listed : trial.server.rest.connections = [{ link.conn with output }])
    (echoed : trial.server.rest.echoed = before.flatten.length)
    (moved : trial.work? = some later) : ∃ next, Sound link chunks next later := by
  obtain ⟨well, rfl⟩ := work?_busy task moved
  have back := sound.back
  rcases performed : Peer.link.perform output.ack call trial.server with ⟨result, after⟩
  simp only [performed] at well
  have called := performed
  rw [handle] at called
  rcases Usage.after_cases false result with ⟨error, pipe, rfl⟩ | ⟨pipe, rfl⟩ | ⟨goes, waits⟩
  · cases well
  · obtain ⟨serves, operates, ends, kept⟩ :=
      back.perform sound.server.empty (congrArg _ (congrArg Prod.fst called))
    simp only [called] at serves operates kept
    have concluded : Echo.host.resume ⟨{ link.conn with output }, .echoing data.length, true,
        call⟩ trial.server =
          { after with rest := ({ after.rest.store link.conn.id pipe with
            echoed := after.rest.echoed + data.length }).rest true } :=
      (resume_done _ performed).trans rfl
    rw [concluded, operates.rest]
    refine ⟨_, sound.resumed after _ operates serves ends
      (.resting (kept pipe rfl).1 rfl ?_ ?_) ?_ rfl⟩
    · simp [Echo.rest, Echo.collect, Echo.store, listed]
    · simp [Echo.rest, Echo.collect, Echo.store, echoed]
    · simp [Echo.rest, Echo.collect, Echo.store, sound.unmarked]
  · exact ⟨_, sound.paused task performed goes waits⟩

theorem close
    (sound : Sound link chunks ⟨written, forth, echoes, back, .busy true call⟩ trial)
    (handle : output.ack = link.conn.output.ack)
    (task : trial.server.rest.task = some ⟨{ link.conn with output }, .closing, true, call⟩)
    (listed : trial.server.rest.connections = [])
    (echoed : trial.server.rest.echoed = echoes.flatten.length)
    (moved : trial.work? = some later) : ∃ next, Sound link chunks next later := by
  obtain ⟨well, rfl⟩ := work?_busy task moved
  have back := sound.back
  rcases performed : Peer.link.perform output.ack call trial.server with ⟨result, after⟩
  simp only [performed] at well
  have called := performed
  rw [handle] at called
  rcases Usage.after_cases true result with ⟨error, pipe, rfl⟩ | ⟨pipe, rfl⟩ | ⟨goes, waits⟩
  · cases well
  · obtain ⟨serves, operates, ends, kept⟩ :=
      back.perform sound.server.empty (congrArg _ (congrArg Prod.fst called))
    simp only [called] at serves operates kept
    -- The input pipe went off the table when the client's close came in.
    have away : after.node.registry.inputs.get? link.conn.input.id = none := by
      obtain ⟨queue, _, account⟩ := sound.queue
      rw [operates.inputs]
      apply sound.server.gate.away
      apply Echo.closes_of_finish
      rw [account]
      simp [Echo.asked, Usage.ends]
    have dropped (rest : Echo) : Peer.link.dropOutput pipe { after with rest } =
        { after with rest } := by
      rw [NodeLink.dropOutput, (kept pipe rfl).2 trivial, if_neg Bool.false_ne_true]
    have closed (rest : Echo) : Peer.link.closeInput link.conn.input { after with rest } =
        { after with rest } :=
      congrArg (Peer.withRegistry { after with rest }) (Registry.closeInput_of_away away)
    have concluded : Echo.host.resume ⟨{ link.conn with output }, .closing, true, call⟩
        trial.server = { after with rest := after.rest.rest true } := by
      apply (resume_done _ performed).trans
      change Peer.link.closeInput link.conn.input (Peer.link.dropOutput pipe
        { after with rest := after.rest.rest true }) = _
      rw [dropped, closed]
    rw [concluded, operates.rest]
    refine ⟨_, sound.resumed after _ operates serves ends (.closed rfl listed echoed) ?_ rfl⟩
    simp [Echo.rest, Echo.collect, sound.unmarked]
  · exact ⟨_, sound.paused task performed goes waits⟩

theorem work (sound : Sound link chunks ledger trial) (filled : ∀ chunk ∈ chunks, chunk ≠ [])
    (moved : trial.work? = some later) : ∃ next, Sound link chunks next later := by
  obtain ⟨written, forth, echoes, back, worker⟩ := ledger
  cases sound.works with
  | resting handle task listed echoed =>
    exact sound.takeUp filled handle task listed echoed moved
  | echoing same handle task listed echoed =>
    subst same
    exact sound.echo handle task listed echoed moved
  | closing handle task listed echoed => exact sound.close handle task listed echoed moved
  | closed task listed echoed =>
    obtain ⟨queue, waiting, account⟩ := sound.queue
    obtain ⟨_, _, rfl⟩ := Echo.asked_ends (sound.asked_prefix filled account)
    rw [work?_resting task, Echo.takeUp?_idle sound.unmarked waiting] at moved
    cases moved

theorem lapse (sound : Sound link chunks ledger trial) (moved : trial.lapse? = some later) :
    ∃ next, Sound link chunks next later := by
  obtain ⟨written, forth, echoes, back, worker⟩ := ledger
  have serves := sound.back
  cases worker with
  | idle output =>
    cases sound.works with
    | resting _ task =>
      rw [lapse?, task] at moved
      cases moved
  | closed =>
    cases sound.works with
    | closed task =>
      rw [lapse?, task] at moved
      cases moved
  | busy closing call =>
    obtain ⟨task, here, handle, rfl, again⟩ := sound.works.busy
    simp only [lapse?, here, handle] at moved
    split at moved
    · rename_i lapses
      cases moved
      simp only [Bool.and_eq_true, Bool.not_eq_true'] at lapses
      rw [expire_eq here]
      exact ⟨⟨written, forth, echoes, back, .busy closing task.call.expire⟩, { sound with
        back := serves.expire lapses.1 lapses.2
        server := sound.server.keep _
        works := again task.call.expire }⟩
    · cases moved

theorem move (sound : Sound link chunks ledger trial) (filled : ∀ chunk ∈ chunks, chunk ≠ [])
    {move : Move} (moved : trial.move? move = some later) :
    ∃ next, Sound link chunks next later := by
  cases move with
  | start => exact sound.start moved
  | advance => exact ⟨ledger, sound.advance moved⟩
  | expire => exact ⟨ledger, sound.expire moved⟩
  | work => exact sound.work filled moved
  | lapse => exact sound.lapse moved
  | arriveForth => exact sound.arriveForth filled moved
  | arriveBack => exact sound.arriveBack filled moved
  | loseForth => exact ⟨ledger, sound.loseForth moved⟩
  | loseBack => exact ⟨ledger, sound.loseBack moved⟩
  | answerForth =>
    cases moved
    exact ⟨ledger, sound.answerForth⟩
  | answerBack =>
    cases moved
    exact ⟨ledger, sound.answerBack⟩

theorem run (moves : List Move) (sound : Sound link chunks ledger trial)
    (filled : ∀ chunk ∈ chunks, chunk ≠ []) (ran : trial.run? moves = some later) :
    ∃ last, Sound link chunks last later := by
  induction moves generalizing trial ledger with
  | nil =>
    cases ran
    exact ⟨ledger, sound⟩
  | cons move moves ih =>
    obtain ⟨moved, made, rest⟩ := Option.bind_eq_some_iff.mp ran
    obtain ⟨next, sound⟩ := sound.move filled made
    exact ih sound rest

end Sound

end EchoTrial

end PipeBus

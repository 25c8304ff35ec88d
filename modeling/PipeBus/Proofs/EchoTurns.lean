import PipeBus.Proofs.EchoAudit
import PipeBus.Proofs.EchoWork
import PipeBus.Proofs.Opening

/-! The turns that an echo service can take. Whatever a move of an audit is, it comes to one of a
few changes of the table, the queue, the marks and the errand of the worker. -/

namespace PipeBus

namespace Peer

variable {α ε κ : Type}

/-- Performing a call leaves alone what the services of a node keep. -/
theorem rest_perform (ack : AckHandle) (call : Call α) (peer : Peer ε κ) :
    (link.perform ack call peer).2.rest = peer.rest := by
  induction call generalizing peer with
  | done value => rfl
  | arm crc next ih => exact ih _
  | send frame next ih => exact (ih _).trans (Transmits.pushFrame frame peer).rest
  | wait delay next ih =>
    rw [NodeLink.perform]
    split
    · exact ih true _
    · rfl
  | disarm next ih => exact ih _
  | release next ih => exact ih _

variable {peer later : Peer ε κ}

theorem rest_openOutputFor {packet : Packet} {opened : Except NodeError OutputPipe}
    (opens : link.openOutputFor packet peer = (opened, later)) : later.rest = peer.rest := by
  unfold NodeLink.openOutputFor at opens
  split at opens
  · cases opens
    rfl
  · rename_i wanted _
    obtain ⟨registry, same⟩ := link.openOutput_state wanted.device wanted.port peer
    rw [opens] at same
    exact (congrArg rest same).trans rfl

theorem rest_openInput {sink : κ} {opened : Except NodeError InputPipe}
    (opens : link.openInput sink peer = (opened, later)) : later.rest = peer.rest := by
  obtain ⟨registry, same⟩ := link.openInput_state sink peer
  rw [opens] at same
  exact (congrArg rest same).trans rfl

theorem rest_dropOutput (output : OutputPipe) (peer : Peer ε κ) :
    (link.dropOutput output peer).rest = peer.rest := by
  unfold NodeLink.dropOutput
  split <;> rfl

end Peer

namespace Echo

variable {echo : Echo} {id : Nat} {delivery : Delivery} {connection : EchoConnection}
  {job : EchoJob} {jobs : List EchoJob} {queued : Bool}

/-- A packet whose job finds no room marks its connection. -/
theorem tell_refused (refused : echo.refuses id delivery = true) :
    echo.tell id delivery = echo.markOverrun id := by
  unfold refuses at refused
  unfold tell
  cases asks : request? delivery with
  | none =>
    rw [asks] at refused
    cases refused
  | some request =>
    simp only [asks] at refused
    simp only [defer, Option.isNone_iff_eq_none.mp refused]

/-- A packet that is not refused is queued as the job that it asks for, if it asks for one. -/
theorem tell_taken (taken : echo.refuses id delivery = false) :
    echo.tell id delivery = echo.queued id (request? delivery).toList := by
  unfold refuses at taken
  unfold tell
  cases asks : request? delivery with
  | none => simp [Echo.queued]
  | some request =>
    simp only [asks, Worker.run?] at taken
    split at taken
    · rename_i room
      simp only [defer, Worker.run?, if_pos room]
      rfl
    · cases taken

theorem task_rest (echo : Echo) (queued : Bool) : (echo.rest queued).task = none := by
  cases queued <;> rfl

theorem takeOn_gone (gone : echo.connection? job.connection = none) :
    echo.takeOn queued job = echo.rest queued := by
  rw [takeOn, gone]

/-- A job is taken on by starting the call that it asks for; only a close takes the connection off
the table at once. -/
theorem takeOn_found (found : echo.connection? job.connection = some connection) :
    echo.takeOn queued job =
      { (if job.request = .finish then echo.remove connection.id else echo) with
        task := some ((EchoErrand.begin connection job.request).task queued) } := by
  obtain ⟨id, request⟩ := job
  rw [takeOn, found, EchoErrand.begin, EchoErrand.task, EchoRequest.tally_outcome]
  cases request <;> rfl

/-- The job that is taken up next, and the service without it. -/
inductive Next (echo : Echo) : EchoJob → Echo → Prop where
  | report {id : Nat} {reports : List Nat} (first : echo.reports = id :: reports) :
      Next echo ⟨id, .fail overrun⟩ { echo with reports }
  | job {job : EchoJob} {jobs : List EchoJob} (reported : echo.reports = [])
      (first : echo.worker.waiting = job :: jobs)
      (unmarked : echo.overruns.contains job.connection = false) :
      Next echo job { echo with worker := { echo.worker with waiting := jobs } }

/-- What becomes of the service when an errand has ended. -/
def concluded (errand : EchoErrand) (tally : Tally) (queued : Bool) (echo : Echo) : Echo :=
  match errand.request, tally.result with
  | .echo data, .ok () =>
    ({ echo.store errand.connection.id tally.pipe with
      echoed := echo.echoed + data.length }).rest queued
  | .echo _, .error _ => (echo.remove errand.connection.id).rest queued
  | .fail _, _ => echo.closing queued { errand.connection with output := tally.pipe }
  | .finish, _ => echo.rest queued

theorem rest_discard (connection : EchoConnection) (output : OutputPipe) (peer : Peer Echo Nat) :
    (host.discard connection output peer).rest = peer.rest := Peer.rest_dropOutput output peer

theorem rest_conclude (errand : EchoErrand) (tally : Tally) (queued : Bool)
    (peer : Peer Echo Nat) :
    (host.conclude (errand.task queued) tally.result tally.pipe peer).rest =
      peer.rest.concluded errand tally queued := by
  obtain ⟨connection, request, call⟩ := errand
  obtain ⟨taken, result, pipe⟩ := tally
  cases request with
  | echo data =>
    cases result with
    | ok => rfl
    | error => exact rest_discard ..
  | fail error => rfl
  | finish => exact rest_discard ..

/-- A connection is opened under the next number, or a number is used up, or nothing changes. -/
theorem rest_openConnection (packet : Packet) (peer : Peer Echo Nat) :
    (host.openConnection packet peer).2.rest = peer.rest ∨
    (host.openConnection packet peer).2.rest =
      { peer.rest with nextId := peer.rest.nextId + 1 } ∨
    ∃ output input, (host.openConnection packet peer).2.rest =
      { peer.rest with
        nextId := peer.rest.nextId + 1
        connections := peer.rest.connections ++ [⟨peer.rest.nextId, output, input⟩] } := by
  unfold EchoHost.openConnection
  rcases opens : host.link.openOutputFor packet peer with ⟨_ | output, opened⟩
  · left
    exact Peer.rest_openOutputFor opens
  · right
    have same : host.echo.get opened = peer.rest := Peer.rest_openOutputFor opens
    dsimp only
    rw [same]
    generalize numbering : host.echo.modify (fun echo => { echo with
      nextId := peer.rest.nextId + 1 }) opened = numbered
    have counted : numbered.rest = { peer.rest with nextId := peer.rest.nextId + 1 } := by
      rw [← numbering, ← same]
      rfl
    rcases drawn : host.link.openInput (host.sink peer.rest.nextId) numbered
      with ⟨_ | input, later⟩
    · left
      exact (Peer.rest_dropOutput ..).trans ((Peer.rest_openInput drawn).trans counted)
    · right
      refine ⟨output, input, (Peer.Transmits.send ..).rest.trans ?_⟩
      have listed : (host.echo.modify (fun echo => { echo with
          connections := echo.connections ++ [⟨peer.rest.nextId, output, input⟩] }) later).rest =
          { later.rest with
            connections := later.rest.connections ++ [⟨peer.rest.nextId, output, input⟩] } := rfl
      rw [listed, Peer.rest_openInput drawn, counted]

end Echo

/-- One turn of an echo service: what becomes of it and of the errand of its worker, and what is
taken down. -/
inductive EchoTurn (echo : Echo) :
    Option EchoErrand → Echo → Option EchoErrand → List EchoEntry → Prop where
  | numbered {errand : Option EchoErrand} (nextId : Nat) (grows : echo.nextId ≤ nextId) :
      EchoTurn echo errand { echo with nextId } errand []
  | opened {errand : Option EchoErrand} (output : OutputPipe) (input : InputPipe) :
      EchoTurn echo errand
        { echo with
          nextId := echo.nextId + 1
          connections := echo.connections ++ [⟨echo.nextId, output, input⟩] }
        errand []
  | heard {errand : Option EchoErrand} (id : Nat) (delivery : Delivery)
      (known : id < echo.nextId) :
      EchoTurn echo errand (echo.tell id delivery) errand
        [.given id delivery (echo.refuses id delivery)]
  | collected {errand : Option EchoErrand} : EchoTurn echo errand echo.collect errand []
  | skipped {job : EchoJob} {jobs : List EchoJob} {queued : Bool}
      (first : echo.worker.waiting = job :: jobs)
      (marked : echo.overruns.contains job.connection = true) :
      EchoTurn echo none
        ({ echo with worker := { echo.worker with waiting := jobs } }.rest queued) none []
  | taken {job : EchoJob} {later : Echo} {queued : Bool} (next : echo.Next job later) :
      EchoTurn echo none (later.takeOn queued job) (echo.errand? job) []
  | waits {errand : EchoErrand} (call : Call Tally) (queued : Bool)
      (ends : ∀ tally, call.Ends tally → errand.call.Ends tally) :
      EchoTurn echo (some errand)
        { echo with task := some (EchoErrand.task queued { errand with call }) }
        (some { errand with call }) []
  | ended {errand : EchoErrand} {tally : Tally} {queued : Bool} (ends : errand.call.Ends tally) :
      EchoTurn echo (some errand) (echo.concluded errand tally queued) (errand.next? tally)
        (tally.taken.map (.wrote errand.connection.id))

namespace Echo

/-- The worker is busy with an errand, as far as it knows of it. -/
def Couples (echo : Echo) (errand : Option EchoErrand) : Prop :=
  ∃ queued, echo.task = errand.map (EchoErrand.task queued)

variable {echo later : Echo} {job : EchoJob} {jobs : List EchoJob}

theorem Next.upcoming? (next : echo.Next job later) : echo.upcoming? = some job := by
  cases next with
  | report first => rw [Echo.upcoming?, first]
  | job reported first unmarked =>
    rw [Echo.upcoming?, reported, first]
    exact if_neg (Bool.eq_false_iff.mp unmarked)

theorem Next.connection? (next : echo.Next job later) (id : Nat) :
    later.connection? id = echo.connection? id := by
  cases next <;> rfl

theorem turn_job (reported : echo.reports = []) (first : echo.worker.waiting = job :: jobs)
    (queued : Bool) :
    EchoTurn echo none
      (if echo.overruns.contains job.connection then
        { echo with worker := { echo.worker with waiting := jobs } }.rest queued
      else { echo with worker := { echo.worker with waiting := jobs } }.takeOn queued job)
      (echo.upcoming?.bind echo.errand?) [] := by
  split
  · rename_i marked
    have nothing : echo.upcoming? = none := by
      rw [upcoming?, reported, first]
      exact if_pos marked
    rw [nothing]
    exact .skipped first marked
  · rename_i unmarked
    have next := Next.job reported first (Bool.eq_false_iff.mpr unmarked)
    rw [next.upcoming?]
    exact .taken next

theorem turn_takeUp (taken : echo.takeUp? = some later) :
    EchoTurn echo none later (echo.upcoming?.bind echo.errand?) [] := by
  unfold takeUp? at taken
  split at taken
  · rename_i id reports first
    cases taken
    have next := Next.report first
    rw [next.upcoming?]
    exact .taken next
  · rename_i reported
    cases first : echo.worker.waiting with
    | cons job jobs =>
      have take : echo.worker.take? = some (job, { echo.worker with waiting := jobs }) := by
        rw [Worker.take?, first]
      rw [take] at taken
      obtain rfl := Option.some.inj taken
      exact turn_job reported first true
    | nil =>
      have nothing : echo.upcoming? = none := by rw [upcoming?, reported, first]
      have take : echo.worker.take? = none := by rw [Worker.take?, first]
      rw [take] at taken
      dsimp only at taken
      split at taken
      · cases taken
      · obtain rfl := Option.some.inj taken
        rw [nothing]
        exact .collected

/-- The errand is the worker's task, turn by turn. -/
theorem Couples.turn {errand next : Option EchoErrand} {entries : List EchoEntry}
    (couples : echo.Couples errand) (turn : EchoTurn echo errand later next entries) :
    later.Couples next := by
  cases turn with
  | numbered | opened | collected => exact couples
  | heard id delivery =>
    obtain ⟨queued, task⟩ := couples
    refine ⟨queued, Eq.trans ?_ task⟩
    rcases tell_cases delivery echo with same | same
    · rw [same]
      rfl
    · rw [same, markOverrun]
      split <;> rfl
  | skipped => exact ⟨true, task_rest ..⟩
  | @taken job rest queued upcoming =>
    cases found : echo.connection? job.connection with
    | none =>
      rw [takeOn_gone ((upcoming.connection? _).trans found), errand?, found]
      exact ⟨true, task_rest ..⟩
    | some connection =>
      rw [takeOn_found ((upcoming.connection? _).trans found), errand?, found]
      exact ⟨queued, rfl⟩
  | waits call queued => exact ⟨queued, rfl⟩
  | @ended errand tally queued =>
    obtain ⟨connection, request, call⟩ := errand
    obtain ⟨taken, result, pipe⟩ := tally
    cases request with
    | echo data =>
      cases result with
      | ok | error => exact ⟨true, task_rest ..⟩
    | fail error =>
      refine ⟨queued, congrArg some ?_⟩
      rw [EchoErrand.begin, EchoErrand.task, EchoRequest.tally_outcome]
      rfl
    | finish => exact ⟨true, task_rest ..⟩

theorem takeJob?_eq_some (taken : echo.takeJob? = some later) :
    echo.task = none ∧ ∃ job jobs, echo.reports = [] ∧ echo.worker.waiting = job :: jobs ∧
      later =
        if echo.overruns.contains job.connection then
          { echo with worker := { echo.worker with waiting := jobs } }.rest false
        else { echo with worker := { echo.worker with waiting := jobs } }.takeOn false job := by
  unfold takeJob? at taken
  split at taken
  · rename_i free
    obtain ⟨idle, reported⟩ := Bool.and_eq_true_iff.mp free
    refine ⟨Option.isNone_iff_eq_none.mp idle, ?_⟩
    cases first : echo.worker.waiting with
    | nil =>
      rw [Worker.take?, first] at taken
      cases taken
    | cons job jobs =>
      rw [Worker.take?, first] at taken
      exact ⟨job, jobs, List.isEmpty_iff.mp reported, rfl, (Option.some.inj taken).symm⟩
  · cases taken

theorem step_idle {before after : Peer Echo Nat} (idle : before.rest.task = none)
    (steps : host.step before = some after) :
    ∃ later, before.rest.takeUp? = some later ∧ after = { before with rest := later } := by
  unfold EchoHost.step at steps
  split at steps
  · rename_i busy
    cases idle.symm.trans busy
  · obtain ⟨later, taken, same⟩ := Option.map_eq_some_iff.mp steps
    exact ⟨later, taken, same.symm⟩

theorem step_busy {before after : Peer Echo Nat} {task : EchoTask}
    (busy : before.rest.task = some task) (steps : host.step before = some after) :
    after = host.resume task before := by
  unfold EchoHost.step at steps
  split at steps
  · rename_i other
    cases busy.symm.trans other
    split at steps
    · cases steps
    · exact (Option.some.inj steps).symm
  · rename_i idle
    cases busy.symm.trans idle

end Echo

namespace EchoAudit

/-- A move changes nothing, or it is a turn of the service that is taken down. -/
inductive Turns (audit : EchoAudit) : EchoAudit → Prop where
  | still : Turns audit audit
  | turn {server : Peer Echo Nat} {errand : Option EchoErrand} {entries : List EchoEntry}
      (turn : EchoTurn audit.server.rest audit.errand server.rest errand entries) :
      Turns audit (audit.note server errand entries)

variable {audit : EchoAudit}

theorem turns_connect (packet : Packet) : audit.Turns (audit.move (.connect packet)) := by
  refine .turn ?_
  rcases Echo.rest_openConnection packet audit.server with same | same | ⟨output, input, same⟩
  · rw [same]
    exact .numbered _ (Nat.le_refl _)
  · rw [same]
    exact .numbered _ (Nat.le_succ _)
  · rw [same]
    exact .opened output input

theorem turns_give (id : Nat) (delivery : Delivery)
    (known : .opened id ∈ audit.log → id < audit.server.rest.nextId) :
    audit.Turns (audit.move (.give id delivery)) := by
  rw [move]
  split
  · rename_i found
    obtain ⟨entry, member, opens⟩ := List.any_eq_true.mp found
    refine .turn (.heard id delivery (known ?_))
    cases entry with
    | opened other =>
      obtain rfl := beq_iff_eq.mp opens
      exact member
    | given | wrote | left => cases opens
  · exact .still

/-- The call of an errand goes on until it has to wait, or to its end. -/
theorem turns_resume {errand : EchoErrand} {queued : Bool} (busy : audit.errand = some errand) :
    audit.Turns (audit.goOn (Echo.host.resume (errand.task queued) audit.server) errand
      (Peer.link.perform errand.connection.output.ack errand.call audit.server).1) := by
  have kept := Peer.rest_perform errand.connection.output.ack errand.call audit.server
  have ends (tally : Tally) : (Peer.link.perform errand.connection.output.ack errand.call
      audit.server).1.Ends tally → errand.call.Ends tally := Call.Ends.of_perform _ _
  have called : Peer.link.perform (errand.task queued).connection.output.ack
      (errand.task queued).call audit.server =
        ((Peer.link.perform errand.connection.output.ack errand.call audit.server).1.map
          Tally.outcome,
        (Peer.link.perform errand.connection.output.ack errand.call audit.server).2) :=
    Call.perform_map ..
  rcases performed : Peer.link.perform errand.connection.output.ack errand.call audit.server
    with ⟨call, after⟩
  rw [performed] at kept ends called
  cases call with
  | done tally =>
    refine .turn ?_
    rw [busy, EchoTrial.resume_done _ called, ← kept]
    exact Echo.rest_conclude errand tally queued after ▸ .ended (ends tally (.done tally))
  | arm | send | wait | disarm | release =>
    refine .turn ?_
    rw [busy, EchoTrial.resume_waits _ called nofun, ← kept]
    exact .waits _ queued ends

variable (couples : audit.server.rest.Couples audit.errand)
include couples

theorem turns_lapse : audit.Turns (audit.move .lapse) := by
  obtain ⟨queued, task⟩ := couples
  rw [move]
  split
  · exact .still
  · rename_i errand busy
    split
    · exact .still
    · refine .turn ?_
      rw [busy] at task ⊢
      rw [EchoTrial.expire_eq task]
      have lapses : EchoErrand.task queued { errand with call := errand.call.expire } =
          { errand.task queued with call := (errand.task queued).call.expire } :=
        congrArg _ (Call.expire_map ..).symm
      exact lapses ▸ .waits errand.call.expire queued fun tally => Call.Ends.of_expire

theorem turns_work : audit.Turns (audit.move .work) := by
  obtain ⟨queued, task⟩ := couples
  rw [move]
  split
  · exact .still
  · rename_i server steps
    split
    · rename_i idle
      rw [idle] at task
      refine .turn ?_
      rw [idle]
      obtain ⟨later, taken, rfl⟩ := Echo.step_idle task steps
      exact Echo.turn_takeUp taken
    · rename_i errand busy
      rw [busy] at task
      obtain rfl := Echo.step_busy task steps
      exact turns_resume busy

theorem turns_job : audit.Turns (audit.move .job) := by
  obtain ⟨queued, task⟩ := couples
  rw [move]
  split
  · exact .still
  · rename_i later taken
    refine .turn ?_
    obtain ⟨free, job, jobs, reported, first, rfl⟩ := Echo.takeJob?_eq_some taken
    obtain idle : audit.errand = none := by
      rw [free] at task
      exact Option.map_eq_none_iff.mp task.symm
    rw [idle]
    exact Echo.turn_job reported first false

theorem turns_move
    (known : ∀ id, .opened id ∈ audit.log → id < audit.server.rest.nextId) (move : Move) :
    audit.Turns (audit.move move) := by
  cases move with
  | connect packet => exact turns_connect packet
  | give id delivery => exact turns_give id delivery (known id)
  | hear packet => exact .turn (.numbered _ (Nat.le_refl _))
  | work => exact turns_work couples
  | job => exact turns_job couples
  | idle =>
    rw [EchoAudit.move]
    split
    · exact .turn .collected
    · exact .still
  | lapse => exact turns_lapse couples

end EchoAudit

end PipeBus

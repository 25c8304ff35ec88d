import PipeBus.Worker.Thread

/-! What becomes of the jobs of a worker. A run is any order in which jobs are offered, the thread
takes its steps and the worker is let go of, by a job of its own or by somebody who then waits for
the thread. Main statement: a job is accepted just when there is room, the thread runs the accepted
jobs in their order and no other ones, and once the worker has been let go of it comes to an end,
with every accepted job run (`WorkerThread.runs_in_order`). -/

namespace PipeBus.WorkerThread

variable {α ι : Type}

inductive Event (α : Type) where
  | run (job : α) (answer : Except NodeError Unit)
  | setIdle
  /-- The worker is let go of, from inside of its thread or from elsewhere. -/
  | drop (inside : Bool)
  | turn
  /-- Whoever waited for the end of the thread goes on. -/
  | join

/-- Jobs can be offered, and the worker let go of, only by somebody who holds it; a job or a callback
that does so is inside of the thread. -/
inductive Moves (before : WorkerThread α ι) : Event α → WorkerThread α ι → Prop where
  | run (job : α) (held : before.tenure = .held) :
      Moves before (.run job (before.run job).1) (before.run job).2
  | setIdle (idle : Option ι) (held : before.tenure = .held) :
      Moves before .setIdle (before.setIdle idle)
  | drop (inside : Bool) (held : before.tenure = .held)
      (place : inside = true → before.stage.isInside = true) :
      Moves before (.drop inside) (before.drop inside)
  | turn {after : WorkerThread α ι} (turned : before.turn? = some after) :
      Moves before .turn after
  | join {after : WorkerThread α ι} (joined : before.join? = some after) :
      Moves before .join after

/-- One event after the other. -/
inductive Runs (first : WorkerThread α ι) : List (Event α) → WorkerThread α ι → Prop where
  | nil : Runs first [] first
  | snoc {events : List (Event α)} {event : Event α} {before after : WorkerThread α ι}
      (runs : Runs first events before) (moves : Moves before event after) :
      Runs first (events ++ [event]) after

def Event.offered? : Event α → Option α
  | .run job _ => some job
  | _ => none

def Event.accepted? : Event α → Option α
  | .run job (.ok ()) => some job
  | _ => none

def Event.refused? : Event α → Option α
  | .run job (.error _) => some job
  | _ => none

/-- The accepted jobs, in the order in which they were offered. -/
def accepted (events : List (Event α)) : List α := events.filterMap Event.accepted?

def turns (events : List (Event α)) : Nat :=
  events.countP fun event => match event with
    | .turn => true
    | _ => false

/-- A worker after any run. -/
structure Dutiful (config : WorkerConfig) (events : List (Event α))
    (thread : WorkerThread α ι) : Prop where
  /-- A job is accepted just when there is room for it. -/
  answers : ∀ job, (thread.run job).1 =
    if thread.worker.pending < max config.depth 1 then .ok () else .error .workerQueueFull
  /-- The jobs that were run, and then those that wait, are those that were accepted. -/
  ordered : thread.ran ++ thread.worker.waiting = accepted events
  refused : (events.filterMap Event.offered?).Nodup →
    ∀ job ∈ events.filterMap Event.refused?, job ∉ thread.ran
  /-- Whatever happens meanwhile, an accepted job is run once the thread has taken enough steps. -/
  prompt : ∀ more later, Runs thread more later →
    5 * thread.worker.pending ≤ turns more → accepted events <+: later.ran
  ended : thread.stage = .ended → thread.ran = accepted events
  /-- Whoever waited for the end of the thread goes on when all accepted jobs have been run. -/
  joined : .join ∈ events → thread.ran = accepted events
  /-- After the worker has been let go of there are few steps left to take. -/
  bounded : thread.tenure ≠ .held → ∀ more later, Runs thread more later →
    more.length ≤ 2 * thread.worker.pending + 6
  /-- Nothing stops these steps before all accepted jobs have been run and nobody waits. -/
  completed : (∀ event later, ¬Moves thread event later) →
    thread.stage = .ended ∧ thread.tenure = .released ∧ thread.ran = accepted events

/-! ### Steps of the thread -/

/-- The thread goes from one stage to another with a job that it takes off the queue. -/
inductive Begins (job : α) : WorkerStage α ι → WorkerStage α ι → Prop where
  | running (idle : Option ι) : Begins job (.waiting idle) (.running job idle)
  | finishing : Begins job .emptying (.finishing job)

/-- The thread goes to another stage without taking a job. -/
inductive Passes (thread : WorkerThread α ι) : WorkerStage α ι → WorkerStage α ι → Prop where
  | told (stopped : thread.tenure ≠ .held) : Passes thread .looking .emptying
  | untold (held : thread.tenure = .held) : Passes thread .looking .fetching
  | fetched : Passes thread .fetching (.waiting thread.idle)
  | overdue (idle : Option ι) (empty : thread.worker.waiting = []) :
      Passes thread (.waiting idle) (.afterWait idle)
  | done (job : α) (idle : Option ι) : Passes thread (.running job idle) (.afterWait idle)
  | idled (idle : ι) : Passes thread (.idling idle) .looking
  | finished (job : α) : Passes thread (.finishing job) .emptying
  | ended (empty : thread.worker.waiting = []) : Passes thread .emptying .ended

inductive Turns (before : WorkerThread α ι) : WorkerThread α ι → Prop where
  | begun {job : α} {rest : List α} {stage : WorkerStage α ι}
      (first : before.worker.waiting = job :: rest) (begins : Begins job before.stage stage) :
      Turns before { before with
        worker := { before.worker with waiting := rest }, stage, ran := before.ran ++ [job] }
  | passed {stage : WorkerStage α ι} (passes : Passes before before.stage stage) :
      Turns before { before with stage }

section

variable {before after thread later : WorkerThread α ι} {event : Event α} {config : WorkerConfig}
  {events more : List (Event α)}

theorem turns_begin {stage : α → WorkerStage α ι} {otherwise : WorkerStage α ι}
    (begins : ∀ job, Begins job before.stage (stage job))
    (passes : before.worker.waiting = [] → Passes before before.stage otherwise) :
    Turns before ((before.begin? stage).getD { before with stage := otherwise }) := by
  unfold begin? Worker.take?
  cases waiting : before.worker.waiting with
  | nil => exact .passed (passes waiting)
  | cons job rest => exact .begun waiting (begins job)

theorem isStopped_iff : thread.isStopped = true ↔ thread.tenure ≠ .held := bne_iff_ne

theorem turns_of_turn? (turned : before.turn? = some after) : Turns before after := by
  unfold turn? at turned
  have passed {stage : WorkerStage α ι} (passes : Passes before before.stage stage) :
      Turns before { before with stage } := .passed passes
  cases stage : before.stage with
  | looking =>
    rw [stage] at turned passed
    cases turned
    by_cases stopped : before.isStopped = true
    · rw [if_pos stopped]
      exact passed (.told (isStopped_iff.mp stopped))
    · rw [if_neg stopped]
      exact passed (.untold (Decidable.not_not.mp (mt isStopped_iff.mpr stopped)))
  | fetching =>
    rw [stage] at turned passed
    cases turned
    exact passed .fetched
  | waiting idle =>
    rw [stage] at turned
    cases turned
    exact turns_begin (fun job => stage ▸ .running idle) fun empty => stage ▸ .overdue idle empty
  | running job idle =>
    rw [stage] at turned passed
    cases turned
    exact passed (.done job idle)
  | idling idle =>
    rw [stage] at turned passed
    cases turned
    exact passed (.idled idle)
  | emptying =>
    rw [stage] at turned
    cases turned
    exact turns_begin (fun job => stage ▸ .finishing) fun empty => stage ▸ .ended empty
  | finishing job =>
    rw [stage] at turned passed
    cases turned
    exact passed (.finished job)
  | ended =>
    rw [stage] at turned
    cases turned

theorem turn?_eq_none (none : before.turn? = none) : before.stage = .ended := by
  unfold turn? at none
  cases stage : before.stage with
  | ended => rfl
  | _ =>
    rw [stage] at none
    cases none

theorem join?_eq_some (joined : before.join? = some after) :
    before.tenure = .awaited ∧ before.stage = .ended ∧
      after = { before with tenure := .released } := by
  unfold join? at joined
  split at joined
  · rename_i awaited ended
    cases joined
    exact ⟨awaited, ended, rfl⟩
  · cases joined

theorem run_eq (thread : WorkerThread α ι) (job : α) :
    thread.run job =
      if thread.worker.waiting.length < thread.worker.depth then
        (.ok (), { thread with
          worker := { thread.worker with waiting := thread.worker.waiting ++ [job] } })
      else (.error .workerQueueFull, thread) := by
  unfold run Worker.run?
  by_cases room : thread.worker.waiting.length < thread.worker.depth
  · rw [if_pos room, if_pos room]
  · rw [if_neg room, if_neg room]

/-! ### The stages of the thread -/

/-- The thread has seen that it is to stop. -/
def isLast : WorkerStage α ι → Prop
  | .emptying | .finishing _ | .ended => True
  | _ => False

variable {job : α} {former stage : WorkerStage α ι}

theorem not_isLast_afterWait (idle : Option ι) : ¬isLast (α := α) (.afterWait idle) := by
  cases idle <;> exact id

theorem Begins.isLast (begins : Begins job former stage) (last : isLast stage) : isLast former := by
  cases begins with
  | running idle => exact last
  | finishing => trivial

theorem Begins.ne_ended (begins : Begins job former stage) : former ≠ .ended ∧ stage ≠ .ended := by
  cases begins <;> exact ⟨nofun, nofun⟩

theorem Passes.isLast (passes : Passes thread former stage) (last : isLast stage) :
    isLast former ∨ thread.tenure ≠ .held := by
  cases passes with
  | told stopped => exact .inr stopped
  | untold | fetched | idled => exact absurd last id
  | overdue idle | done job idle => exact absurd last (not_isLast_afterWait idle)
  | finished | ended => exact .inl trivial

theorem Passes.ne_ended (passes : Passes thread former stage) : former ≠ .ended := by
  cases passes <;> exact nofun

theorem Passes.empty (passes : Passes thread former stage) (ended : stage = .ended) :
    thread.worker.waiting = [] := by
  cases passes with
  | ended empty => exact empty
  | overdue idle empty => exact empty
  | done job idle => cases idle <;> cases ended
  | _ => cases ended

/-! ### What holds after any run -/

/-- A worker after any run. -/
structure Sound (config : WorkerConfig) (events : List (Event α))
    (thread : WorkerThread α ι) : Prop where
  depth : thread.worker.depth = max config.depth 1
  ordered : thread.ran ++ thread.worker.waiting = accepted events
  stopped : isLast thread.stage → thread.tenure ≠ .held
  empty : thread.stage = .ended → thread.worker.waiting = []
  joined : .join ∈ events → thread.stage = .ended

theorem accepted_append (events more : List (Event α)) :
    accepted (events ++ more) = accepted events ++ accepted more := List.filterMap_append ..

theorem accepted_snoc (quiet : event.accepted? = none) :
    accepted (events ++ [event]) = accepted events := by
  rw [accepted_append]
  change accepted events ++ [event].filterMap Event.accepted? = accepted events
  rw [List.filterMap_cons_none quiet]
  exact List.append_nil _

/-- Nobody goes on yet who waits for the end of a thread that has not ended. -/
theorem Sound.unjoined (sound : Sound config events before) (going : before.stage ≠ .ended)
    (other : event ≠ .join) : .join ∉ events ++ [event] := by
  intro member
  rcases List.mem_append.mp member with early | late
  · exact going (sound.joined early)
  · exact other (List.mem_singleton.mp late).symm

theorem Sound.turn (sound : Sound config events before) (turns : Turns before after) :
    Sound config (events ++ [.turn]) after := by
  have same : accepted (events ++ [.turn]) = accepted events := accepted_snoc rfl
  cases turns with
  | @begun job rest stage first begins =>
    obtain ⟨going, still⟩ := begins.ne_ended
    refine ⟨sound.depth, ?_, fun last => sound.stopped (begins.isLast last),
      fun ended => absurd ended still, fun joined => absurd joined (sound.unjoined going nofun)⟩
    rw [same, ← sound.ordered, first]
    exact List.append_assoc ..
  | @passed stage passes =>
    exact ⟨sound.depth, sound.ordered.trans same.symm,
      fun last => (passes.isLast last).elim sound.stopped id, passes.empty,
      fun joined => absurd joined (sound.unjoined passes.ne_ended nofun)⟩

theorem Sound.going (sound : Sound config events before) (held : before.tenure = .held) :
    before.stage ≠ .ended := by
  intro ended
  refine sound.stopped ?_ held
  rw [ended]
  trivial

theorem Sound.run (sound : Sound config events before) (held : before.tenure = .held) (job : α) :
    Sound config (events ++ [.run job (before.run job).1]) (before.run job).2 := by
  have unjoined : .join ∉ events ++ [.run job (before.run job).1] :=
    sound.unjoined (sound.going held) nofun
  rw [run_eq] at unjoined ⊢
  by_cases room : before.worker.waiting.length < before.worker.depth
  · rw [if_pos room] at unjoined ⊢
    refine ⟨sound.depth, ?_, sound.stopped, fun ended => absurd ended (sound.going held),
      fun joined => absurd joined unjoined⟩
    rw [accepted_append, ← sound.ordered]
    exact (List.append_assoc ..).symm
  · rw [if_neg room] at unjoined ⊢
    refine ⟨sound.depth, ?_, sound.stopped, sound.empty, fun joined => absurd joined unjoined⟩
    rw [accepted_append, sound.ordered]
    exact (List.append_nil _).symm

theorem Sound.move (sound : Sound config events before) (moves : Moves before event after) :
    Sound config (events ++ [event]) after := by
  have silent (quiet : event.accepted? = none) :
      before.ran ++ before.worker.waiting = accepted (events ++ [event]) :=
    sound.ordered.trans (accepted_snoc quiet).symm
  cases moves with
  | run job held => exact sound.run held job
  | setIdle idle held =>
    exact ⟨sound.depth, silent rfl, sound.stopped, sound.empty,
      fun joined => absurd joined (sound.unjoined (sound.going held) nofun)⟩
  | drop inside held place =>
    refine ⟨sound.depth, silent rfl, fun last => absurd held (sound.stopped last), sound.empty,
      fun joined => absurd joined (sound.unjoined (sound.going held) nofun)⟩
  | turn turned => exact sound.turn (turns_of_turn? turned)
  | join joined =>
    obtain ⟨awaited, ended, rfl⟩ := join?_eq_some joined
    exact ⟨sound.depth, silent rfl, fun _ => nofun, sound.empty, fun _ => ended⟩

theorem Sound.start (config : WorkerConfig) :
    Sound config [] (WorkerThread.start config : WorkerThread α ι) :=
  ⟨rfl, rfl, fun last => absurd last id, fun _ => rfl, fun member => absurd member List.not_mem_nil⟩

theorem sound_of_runs (runs : Runs (start config) events thread) :
    Sound config events thread := by
  induction runs with
  | nil => exact .start config
  | snoc _ moves ih => exact ih.move moves

theorem Sound.runs (sound : Sound config events thread) (runs : Runs thread more later) :
    Sound config (events ++ more) later := by
  induction runs with
  | nil => rwa [List.append_nil]
  | snoc _ moves ih =>
    rw [← List.append_assoc]
    exact ih.move moves

/-! ### How far the thread has come -/

/-- Steps since the thread last began a job, if every wait has brought one. -/
def strides : WorkerStage α ι → Nat
  | .running .. | .finishing _ => 0
  | .idling _ => 1
  | .looking => 2
  | .fetching => 3
  | .waiting _ | .emptying | .ended => 4

/-- As long as a job waits, this grows with every step. -/
def headway (thread : WorkerThread α ι) : Nat := 5 * thread.ran.length + strides thread.stage

/-- Steps to the end of a thread that is to stop and finds no job, at the most. -/
def stepsLeft : WorkerStage α ι → Nat
  | .ended => 0
  | .emptying => 1
  | .looking | .finishing _ => 2
  | .idling _ => 3
  | .running .. | .waiting _ => 4
  | .fetching => 5

/-- Events that are left once nobody holds the worker, at the most: two steps for every job, and the
end of the wait for the thread. -/
def left (thread : WorkerThread α ι) : Nat :=
  2 * thread.worker.waiting.length + stepsLeft thread.stage +
    if thread.tenure = .awaited then 1 else 0

theorem left_le (thread : WorkerThread α ι) : thread.left ≤ 2 * thread.worker.pending + 6 := by
  have few : stepsLeft thread.stage ≤ 5 := by
    cases thread.stage <;> simp [stepsLeft]
  unfold left Worker.pending
  split <;> omega

theorem Begins.strides (begins : Begins job former stage) : strides former = 4 := by
  cases begins <;> rfl

theorem Begins.stepsLeft (begins : Begins job former stage) :
    WorkerThread.stepsLeft stage < WorkerThread.stepsLeft former + 2 := by
  cases begins <;> simp [WorkerThread.stepsLeft]

theorem Passes.strides (passes : Passes thread former stage) (some_ : thread.worker.waiting ≠ []) :
    WorkerThread.strides former < WorkerThread.strides stage := by
  cases passes with
  | overdue idle empty => exact absurd empty some_
  | ended empty => exact absurd empty some_
  | done job idle => cases idle <;> simp [WorkerThread.strides, WorkerStage.afterWait]
  | _ => simp [WorkerThread.strides]

theorem Passes.stepsLeft (passes : Passes thread former stage) (stopped : thread.tenure ≠ .held) :
    WorkerThread.stepsLeft stage < WorkerThread.stepsLeft former := by
  cases passes with
  | untold held => exact absurd held stopped
  | overdue idle | done job idle =>
    cases idle <;> simp [WorkerThread.stepsLeft, WorkerStage.afterWait]
  | _ => simp [WorkerThread.stepsLeft]

/-- With a job waiting, every step brings the thread on. -/
theorem Turns.headway (turns : Turns before after) (some_ : before.worker.waiting ≠ []) :
    before.headway < after.headway := by
  cases turns with
  | begun first begins =>
    simp only [WorkerThread.headway, List.length_append, List.length_singleton, begins.strides]
    omega
  | passed passes =>
    have further := passes.strides some_
    simp only [WorkerThread.headway]
    omega

theorem Turns.ran_kept (turns : Turns before after) : before.ran <+: after.ran := by
  cases turns with
  | begun => exact List.prefix_append ..
  | passed => exact List.prefix_rfl

/-- Without the worker held, every step of the thread brings its end nearer. -/
theorem Turns.left (turns : Turns before after) (stopped : before.tenure ≠ .held) :
    after.left < before.left ∧ after.tenure = before.tenure := by
  cases turns with
  | begun first begins =>
    have fewer := begins.stepsLeft
    refine ⟨?_, rfl⟩
    simp only [WorkerThread.left, first, List.length_cons]
    omega
  | passed passes =>
    have fewer := passes.stepsLeft stopped
    refine ⟨?_, rfl⟩
    simp only [WorkerThread.left]
    omega

theorem turns_append (events more : List (Event α)) :
    turns (events ++ more) = turns events + turns more := List.countP_append

/-- Only the thread itself brings itself on. -/
theorem Moves.headway_eq (moves : Moves before event after) (other : event ≠ .turn) :
    after.headway = before.headway ∧ after.ran = before.ran ∧ turns [event] = 0 := by
  cases moves with
  | run job held =>
    rw [run_eq]
    split <;> exact ⟨rfl, rfl, rfl⟩
  | setIdle | drop => exact ⟨rfl, rfl, rfl⟩
  | turn => exact absurd rfl other
  | join joined =>
    obtain ⟨-, -, rfl⟩ := join?_eq_some joined
    exact ⟨rfl, rfl, rfl⟩

theorem Moves.ran_kept (moves : Moves before event after) : before.ran <+: after.ran := by
  by_cases turn : event = .turn
  · subst turn
    cases moves with
    | turn turned => exact (turns_of_turn? turned).ran_kept
  · have same := (moves.headway_eq turn).2.1
    exact same ▸ List.prefix_refl _

/-- Whatever happens, so many of the accepted jobs have been run in the end, or the thread has come
on with every one of its steps. -/
theorem Sound.headway (sound : Sound config events thread) (runs : Runs thread more later)
    {target : Nat} (within : target ≤ (accepted events).length) :
    target ≤ later.ran.length ∨ thread.headway + turns more ≤ later.headway := by
  induction runs with
  | nil => exact .inr (Nat.le_refl _)
  | @snoc more event before after runs moves ih =>
    by_cases reached : target ≤ before.ran.length
    · exact .inl (Nat.le_trans reached moves.ran_kept.length_le)
    have further := ih.resolve_left reached
    rw [turns_append]
    by_cases turn : event = .turn
    · subst turn
      cases moves with
      | turn turned =>
        have ordered := (sound.runs runs).ordered
        have some_ : before.worker.waiting ≠ [] := by
          intro empty
          rw [empty, List.append_nil, accepted_append] at ordered
          rw [ordered, List.length_append] at reached
          omega
        have next := (turns_of_turn? turned).headway some_
        have one : turns [Event.turn (α := α)] = 1 := rfl
        exact .inr (by omega)
    · obtain ⟨same, -, none⟩ := moves.headway_eq turn
      exact .inr (by omega)

/-- An accepted job is run once the thread has taken five steps for every job that waits. -/
theorem Sound.prompt (sound : Sound config events thread) (runs : Runs thread more later)
    (enough : 5 * thread.worker.pending ≤ turns more) : accepted events <+: later.ran := by
  have ordered := sound.ordered
  have target : (accepted events).length = thread.ran.length + thread.worker.pending := by
    rw [← ordered, List.length_append]
    rfl
  have reached : (accepted events).length ≤ later.ran.length := by
    rcases sound.headway runs (Nat.le_refl _) with reached | further
    · exact reached
    · have short : strides later.stage ≤ 4 := by
        cases later.stage <;> simp [strides]
      simp only [WorkerThread.headway] at further
      omega
  have whole := (sound.runs runs).ordered
  rw [accepted_append] at whole
  have left : accepted events <+: later.ran ++ later.worker.waiting := ⟨_, whole.symm⟩
  exact List.prefix_of_prefix_length_le left (List.prefix_append ..) reached

/-- Without the worker held, every event brings the end nearer. -/
theorem Moves.left (moves : Moves before event after) (stopped : before.tenure ≠ .held) :
    after.left < before.left ∧ after.tenure ≠ .held := by
  cases moves with
  | run job held => exact absurd held stopped
  | setIdle idle held => exact absurd held stopped
  | drop inside held => exact absurd held stopped
  | turn turned =>
    obtain ⟨fewer, same⟩ := (turns_of_turn? turned).left stopped
    exact ⟨fewer, same ▸ stopped⟩
  | join joined =>
    obtain ⟨awaited, ended, rfl⟩ := join?_eq_some joined
    refine ⟨?_, nofun⟩
    simp [WorkerThread.left, awaited]

theorem left_of_runs (stopped : thread.tenure ≠ .held) (runs : Runs thread more later) :
    more.length + later.left ≤ thread.left ∧ later.tenure ≠ .held := by
  induction runs with
  | nil => exact ⟨by simp, stopped⟩
  | snoc _ moves ih =>
    obtain ⟨fewer, still⟩ := ih
    obtain ⟨next, last⟩ := moves.left still
    refine ⟨?_, last⟩
    rw [List.length_append, List.length_singleton]
    omega

/-! ### The answers -/

theorem mem_offered_of_accepted (member : job ∈ accepted events) :
    job ∈ events.filterMap Event.offered? := by
  obtain ⟨event, here, found⟩ := List.mem_filterMap.mp member
  refine List.mem_filterMap.mpr ⟨event, here, ?_⟩
  unfold Event.accepted? at found
  split at found
  · exact found
  · cases found

theorem mem_offered_of_refused (member : job ∈ events.filterMap Event.refused?) :
    job ∈ events.filterMap Event.offered? := by
  obtain ⟨event, here, found⟩ := List.mem_filterMap.mp member
  refine List.mem_filterMap.mpr ⟨event, here, ?_⟩
  unfold Event.refused? at found
  split at found
  · exact found
  · cases found

/-- Of jobs that can be told apart, none is both accepted and refused. -/
theorem not_accepted_of_refused (distinct : (events.filterMap Event.offered?).Nodup)
    (refused : job ∈ events.filterMap Event.refused?) : job ∉ accepted events := by
  induction events with
  | nil => exact absurd refused List.not_mem_nil
  | cons event events ih =>
    match event with
    | .run first (.ok ()) =>
      obtain ⟨fresh, others⟩ := List.nodup_cons.mp distinct
      intro member
      rcases List.mem_cons.mp member with rfl | later
      · exact fresh (mem_offered_of_refused refused)
      · exact ih others refused later
    | .run first (.error error) =>
      obtain ⟨fresh, others⟩ := List.nodup_cons.mp distinct
      intro member
      rcases List.mem_cons.mp refused with rfl | later
      · exact fresh (mem_offered_of_accepted member)
      · exact ih others later member
    | .setIdle | .drop _ | .turn | .join => exact ih distinct refused

/-- When the thread has ended, all accepted jobs have been run. -/
theorem Sound.ran_eq (sound : Sound config events thread) (ended : thread.stage = .ended) :
    thread.ran = accepted events := by
  rw [← sound.ordered, sound.empty ended, List.append_nil]

/-- Where nothing can happen any more, the thread has ended and nobody waits for it. -/
theorem Sound.completed (sound : Sound config events thread)
    (stuck : ∀ event later, ¬Moves thread event later) :
    thread.stage = .ended ∧ thread.tenure = .released := by
  have ended : thread.stage = .ended := by
    refine turn?_eq_none (Option.eq_none_iff_forall_ne_some.mpr fun later turned => ?_)
    exact stuck .turn later (.turn turned)
  refine ⟨ended, ?_⟩
  cases tenure : thread.tenure with
  | held => exact absurd ended (sound.going tenure)
  | awaited =>
    have joined : thread.join? = some { thread with tenure := .released } := by
      simp only [join?, tenure, ended]
    exact absurd (.join joined) (stuck .join _)
  | released => rfl

end

/-- However jobs are offered, steps of the thread and the end of the worker fall together, a job is
accepted just when there is room, and the accepted jobs are run, each of them once and in their
order, also those that still wait when the worker is let go of. -/
theorem runs_in_order (config : WorkerConfig) (events : List (Event α)) (thread : WorkerThread α ι)
    (runs : Runs (start config) events thread) : Dutiful config events thread := by
  have sound := sound_of_runs runs
  constructor
  · intro job
    rw [run_eq, sound.depth, Worker.pending]
    split <;> rfl
  · exact sound.ordered
  · intro distinct job refused member
    refine not_accepted_of_refused distinct refused ?_
    rw [← sound.ordered]
    exact List.mem_append_left _ member
  · intro more later runs enough
    exact sound.prompt runs enough
  · exact sound.ran_eq
  · exact fun joined => sound.ran_eq (sound.joined joined)
  · intro stopped more later runs
    have few := (left_of_runs stopped runs).1
    have bound := thread.left_le
    omega
  · intro stuck
    obtain ⟨ended, released⟩ := sound.completed stuck
    exact ⟨ended, released, sound.ran_eq ended⟩

/-- The first job offers two more, for one of which there is room, and lets go of the worker. The one
that was accepted is run all the same. -/
theorem runs_in_order_forsaken :
    let first : WorkerThread Nat Unit := start { depth := 0 }
    let events : List (Event Nat) := [.run 1 (.ok ()), .turn, .turn, .turn, .run 2 (.ok ()),
      .run 3 (.error .workerQueueFull), .drop true, .turn, .turn, .turn, .turn, .turn]
    let last : WorkerThread Nat Unit :=
      { first with tenure := .released, stage := .ended, ran := [1, 2] }
    Runs first events last ∧ Dutiful { depth := 0 } events last := by
  intro first events last
  have offered := (Runs.nil : Runs first [] first).snoc (.run 1 rfl)
  have begun := ((offered.snoc (.turn rfl)).snoc (.turn rfl)).snoc (.turn rfl)
  have dropped := ((begun.snoc (.run 2 rfl)).snoc (.run 3 rfl)).snoc (.drop true rfl fun _ => rfl)
  have emptied := ((dropped.snoc (.turn rfl)).snoc (.turn rfl)).snoc (.turn rfl)
  have runs : Runs first events last := (emptied.snoc (.turn rfl)).snoc (.turn rfl)
  exact ⟨runs, runs_in_order { depth := 0 } events last runs⟩

end PipeBus.WorkerThread

import PipeBus.Proofs.EchoTurns
import PipeBus.Proofs.EchoView

/-! The books of an echo service: the account of every connection is in order, and what has left the
table is written no more data. Every turn of the service keeps them, and so does every run.

Main statement: `EchoAudit.never_skips`. -/

namespace PipeBus

namespace Echo

variable {echo : Echo} {errand : Option EchoErrand} {log : List EchoEntry} {id : Nat}
  {connection : EchoConnection}

def view (echo : Echo) (errand : Option EchoErrand) (log : List EchoEntry) (id : Nat) :
    EchoView where
  listed := echo.ids.contains id
  jobs := (echo.worker.waiting.filter fun job => job.connection == id).map EchoJob.request
  marked := echo.overruns.contains id || echo.reports.contains id
  errand := (errand.filter fun errand => errand.connection.id == id).map EchoErrand.request
  given := log.filterMap (EchoEntry.given? id)
  written := log.filterMap (EchoEntry.wrote? id)

theorem mem_ids (found : echo.connection? id = some connection) :
    connection.id = id ∧ id ∈ echo.ids := by
  have same := beq_iff_eq.mp (List.find?_some found :)
  exact ⟨same, List.mem_map.mpr ⟨connection, List.mem_of_find?_eq_some found, same⟩⟩

theorem not_mem_ids (gone : echo.connection? id = none) : id ∉ echo.ids := by
  intro member
  obtain ⟨connection, listed, same⟩ := List.mem_map.mp member
  exact List.find?_eq_none.mp gone connection listed (beq_iff_eq.mpr same)

theorem ids_remove (echo : Echo) (id : Nat) :
    (echo.remove id).ids = echo.ids.filter fun other => other != id := by
  rw [ids, ids, List.filter_map]
  rfl

theorem ids_store (echo : Echo) (id : Nat) (output : OutputPipe) :
    (echo.store id output).ids = echo.ids := by
  refine List.map_map.trans (List.map_congr_left fun connection _ => ?_)
  rw [Function.comp_apply]
  split <;> rfl

theorem nextId_rest (echo : Echo) (queued : Bool) : (echo.rest queued).nextId = echo.nextId := by
  cases queued <;> rfl

theorem ids_rest (echo : Echo) (queued : Bool) : (echo.rest queued).ids = echo.ids := by
  cases queued <;> rfl

theorem view_collect (echo : Echo) : echo.collect.view errand log id = echo.view errand log id := by
  simp [view, collect, ids, Bool.or_comm]

theorem view_rest (echo : Echo) (queued : Bool) :
    (echo.rest queued).view errand log id = echo.view errand log id := by
  cases queued with
  | false => rfl
  | true => exact view_collect _

theorem not_wrote_mem_changes {before after : Echo} {piece : Piece} :
    .wrote id piece ∉ changes before after := by
  simp [changes]

theorem opened_mem_changes {before after : Echo} :
    .opened id ∈ changes before after ↔ id ∈ after.ids ∧ id ∉ before.ids := by
  simp [changes]

theorem left_mem_changes {before after : Echo} :
    .left id ∈ changes before after ↔ id ∈ before.ids ∧ id ∉ after.ids := by
  simp [changes]

theorem view_changes (before after : Echo) :
    echo.view errand (log ++ changes before after) id = echo.view errand log id := by
  have given : (changes before after).filterMap (EchoEntry.given? id) = [] := by
    simp [changes, List.filterMap_eq_nil_iff, EchoEntry.given?]
  have wrote : (changes before after).filterMap (EchoEntry.wrote? id) = [] := by
    simp [changes, List.filterMap_eq_nil_iff, EchoEntry.wrote?]
  rw [view, view, List.filterMap_append, List.filterMap_append, given, wrote, List.append_nil,
    List.append_nil]

namespace Next

variable {later : Echo} {job : EchoJob}

theorem table (next : echo.Next job later) :
    later.ids = echo.ids ∧ later.nextId = echo.nextId := by
  cases next <;> exact ⟨rfl, rfl⟩

theorem view_ne (next : echo.Next job later) (log : List EchoEntry) :
    echo.view none log job.connection ≠ {} := by
  intro blank
  cases next with
  | @report id reports first =>
    have unmarked : (echo.overruns.contains id || echo.reports.contains id) = false :=
      congrArg EchoView.marked blank
    simp [first] at unmarked
  | job reported first unmarked =>
    have idle := congrArg EchoView.jobs blank
    simp [view, first] at idle

/-- A connection either has an error to report, or the job is the first of those that it has
waiting and it is not marked. -/
theorem view_self (next : echo.Next job later) (log : List EchoEntry) :
    ∃ jobs marked, later.view none log job.connection =
        { echo.view none log job.connection with jobs, marked } ∧
      ((∃ error, job.request = .fail error) ∨
        (echo.view none log job.connection).marked = false ∧ marked = false ∧
          (echo.view none log job.connection).jobs = job.request :: jobs) := by
  cases next with
  | report first => exact ⟨_, _, rfl, .inl ⟨overrun, rfl⟩⟩
  | job reported first unmarked =>
    have quiet : (echo.view none log job.connection).marked = false := by
      rw [view, unmarked, reported]
      rfl
    exact ⟨_, _, rfl, .inr ⟨quiet, quiet, by simp [view, first]⟩⟩

theorem view_other (next : echo.Next job later) (log : List EchoEntry)
    (apart : id ≠ job.connection) : later.view none log id = echo.view none log id := by
  cases next with
  | report first => simp [view, ids, first, apart]
  | job reported first => simp [view, ids, first, apart.symm]

end Next

section

variable {job : EchoJob} {queued : Bool}

theorem takeOn_table (queued : Bool) (found : echo.connection? job.connection = some connection) :
    (∀ id ∈ (echo.takeOn queued job).ids, id ∈ echo.ids) ∧
      (echo.takeOn queued job).nextId = echo.nextId := by
  rw [takeOn_found found]
  split
  · refine ⟨fun id member => ?_, rfl⟩
    have inside : id ∈ (echo.remove connection.id).ids := member
    rw [ids_remove] at inside
    exact (List.mem_filter.mp inside).1
  · exact ⟨fun _ => id, rfl⟩

theorem view_busy (errand : EchoErrand) :
    echo.view (some errand) log errand.connection.id =
      { echo.view none log errand.connection.id with errand := some errand.request } := by
  simp [view, Option.filter_some]

theorem view_busy_other {errand : EchoErrand} (apart : id ≠ errand.connection.id) :
    echo.view (some errand) log id = echo.view none log id := by
  simp [view, Option.filter_some, apart.symm]

theorem view_remove (echo : Echo) (id : Nat) :
    (echo.remove id).view errand log id = { echo.view errand log id with listed := false } := by
  rw [view, ids_remove]
  simp [view, remove]

theorem view_remove_other {other : Nat} (apart : id ≠ other) :
    (echo.remove other).view errand log id = echo.view errand log id := by
  rw [view, ids_remove]
  simp [view, remove, apart]

theorem view_takeOn (found : echo.connection? job.connection = some connection) :
    (echo.takeOn queued job).view (some (.begin connection job.request)) log job.connection =
      { echo.view none log job.connection with
        listed := job.request != .finish
        errand := some job.request } := by
  obtain ⟨same, member⟩ := mem_ids found
  have listed : (echo.view none log connection.id).listed = true :=
    List.contains_iff_mem.mpr (same ▸ member)
  rw [takeOn_found found, ← same]
  split
  · rename_i closes
    have started : (echo.remove connection.id).view (some (.begin connection job.request)) log
        connection.id = _ := view_busy (.begin connection job.request)
    refine started.trans ?_
    rw [closes]
    exact congrArg (fun view : EchoView => { view with errand := some .finish })
      (view_remove echo connection.id)
  · rename_i stays
    have started : echo.view (some (.begin connection job.request)) log connection.id = _ :=
      view_busy (.begin connection job.request)
    refine started.trans ?_
    have kept : (job.request != .finish) = true := bne_iff_ne.mpr stays
    rw [kept, ← listed]
    rfl

theorem view_takeOn_other (found : echo.connection? job.connection = some connection)
    (apart : id ≠ job.connection) :
    (echo.takeOn queued job).view (some (.begin connection job.request)) log id =
      echo.view none log id := by
  have other : id ≠ connection.id := (mem_ids found).1 ▸ apart
  rw [takeOn_found found]
  split
  · exact (view_busy_other other).trans (view_remove_other other)
  · exact view_busy_other other

end

section

variable {busy : EchoErrand} {tally : Tally} {queued : Bool}

theorem view_store (echo : Echo) (id : Nat) (output : OutputPipe) {connection : Nat} :
    (echo.store id output).view errand log connection = echo.view errand log connection := by
  rw [view, ids_store]
  rfl

theorem view_wrote (echo : Echo) (taken : List Piece) :
    echo.view errand (log ++ taken.map (.wrote id)) id =
      { echo.view errand log id with written := (echo.view errand log id).written ++ taken } := by
  simp [view, List.filterMap_map, Function.comp_def, EchoEntry.given?, EchoEntry.wrote?]

theorem view_wrote_other {other : Nat} (taken : List Piece) (apart : id ≠ other) :
    echo.view errand (log ++ taken.map (.wrote other)) id = echo.view errand log id := by
  simp [view, List.filterMap_map, Function.comp_def, EchoEntry.given?, EchoEntry.wrote?, apart.symm]

theorem concluded_table (echo : Echo) (busy : EchoErrand) (tally : Tally) (queued : Bool) :
    (∀ id ∈ (echo.concluded busy tally queued).ids, id ∈ echo.ids) ∧
      (echo.concluded busy tally queued).nextId = echo.nextId := by
  have removed (id : Nat) : ∀ other ∈ (echo.remove id).ids, other ∈ echo.ids := by
    intro other member
    rw [ids_remove] at member
    exact (List.mem_filter.mp member).1
  obtain ⟨connection, request, call⟩ := busy
  obtain ⟨taken, result, pipe⟩ := tally
  cases request with
  | echo data =>
    cases result with
    | ok =>
      refine ⟨fun id member => ?_, nextId_rest ..⟩
      rw [concluded, ids_rest] at member
      exact echo.ids_store connection.id pipe ▸ member
    | error =>
      refine ⟨fun id member => ?_, nextId_rest ..⟩
      rw [concluded, ids_rest] at member
      exact removed _ id member
  | fail error => exact ⟨removed connection.id, rfl⟩
  | finish =>
    refine ⟨fun id member => ?_, nextId_rest ..⟩
    rw [concluded, ids_rest] at member
    exact member

theorem view_concluded_other (apart : id ≠ busy.connection.id) :
    (echo.concluded busy tally queued).view (busy.next? tally) log id =
      echo.view none log id := by
  obtain ⟨connection, request, call⟩ := busy
  obtain ⟨taken, result, pipe⟩ := tally
  cases request with
  | echo data =>
    cases result with
    | ok => exact (view_rest ..).trans (view_store ..)
    | error => exact (view_rest ..).trans (view_remove_other apart)
  | fail error =>
    have closes : (echo.remove connection.id).view
        (some (.begin { connection with output := pipe } .finish)) log id = _ :=
      view_busy_other apart
    exact closes.trans (view_remove_other apart)
  | finish => exact view_rest ..

theorem view_concluded :
    (echo.concluded busy tally queued).view (busy.next? tally) log busy.connection.id =
      (echo.view (some busy) log busy.connection.id).ended busy.request tally.result := by
  rw [view_busy]
  obtain ⟨connection, request, call⟩ := busy
  obtain ⟨taken, result, pipe⟩ := tally
  cases request with
  | echo data =>
    cases result with
    | ok => exact (view_rest ..).trans (view_store ..)
    | error => exact (view_rest ..).trans (view_remove ..)
  | fail error =>
    have closes : (echo.remove connection.id).view
        (some (.begin { connection with output := pipe } .finish)) log connection.id = _ :=
      view_busy (.begin { connection with output := pipe } .finish)
    refine closes.trans ?_
    exact congrArg (fun view : EchoView => { view with errand := some .finish })
      (view_remove echo connection.id)
  | finish => exact view_rest ..

end

section

variable {delivery : Delivery} {other : Nat}

theorem tell_table (id : Nat) (delivery : Delivery) (echo : Echo) :
    (echo.tell id delivery).ids = echo.ids ∧ (echo.tell id delivery).nextId = echo.nextId := by
  rcases tell_cases delivery echo with same | same
  · rw [same]
    exact ⟨rfl, rfl⟩
  · rw [same, markOverrun]
    split <;> exact ⟨rfl, rfl⟩

theorem view_taken (taken : echo.refuses id delivery = false) :
    (echo.tell id delivery).view errand (log ++ [.given id delivery false]) id =
      { echo.view errand log id with
        given := (echo.view errand log id).given ++ [(delivery, false)]
        jobs := (echo.view errand log id).jobs ++ (request? delivery).toList } := by
  rw [tell_taken taken]
  cases request? delivery <;>
    simp [view, Echo.queued, ids, EchoEntry.given?, EchoEntry.wrote?]

theorem view_refused (refused : echo.refuses id delivery = true) :
    (echo.tell id delivery).view errand (log ++ [.given id delivery true]) id =
      { echo.view errand log id with
        given := (echo.view errand log id).given ++ [(delivery, true)]
        marked := true } := by
  rw [tell_refused refused, markOverrun]
  split
  · rename_i marked
    simp [view, ids, EchoEntry.given?, EchoEntry.wrote?, List.contains_iff_mem.mp marked]
  · simp [view, ids, EchoEntry.given?, EchoEntry.wrote?]

theorem view_tell_other (apart : other ≠ id) :
    (echo.tell id delivery).view errand
      (log ++ [.given id delivery (echo.refuses id delivery)]) other =
        echo.view errand log other := by
  rcases tell_cases delivery echo with same | same
  · rw [same]
    simp [view, Echo.queued, ids, EchoEntry.given?, EchoEntry.wrote?, apart.symm]
  · rw [same, markOverrun]
    split
    · simp [view, ids, EchoEntry.given?, EchoEntry.wrote?, apart.symm]
    · simp [view, ids, EchoEntry.given?, EchoEntry.wrote?, apart, apart.symm]

end

end Echo

namespace EchoEntry

/-- After a connection has left, nothing but the packet that closes it is written. -/
def Parts (earlier later : EchoEntry) : Prop :=
  ∀ id piece, earlier = .left id → later = .wrote id piece → piece = OutputPipe.closing

/-- What can be taken down of a service in one turn, apart from how its table has changed. -/
inductive Allowed (echo : Echo) : EchoEntry → Prop where
  | given (id : Nat) (delivery : Delivery) (refused : Bool) :
      Allowed echo (.given id delivery refused)
  | wrote {id : Nat} {piece : Piece} (stays : id ∈ echo.ids ∨ piece = OutputPipe.closing) :
      Allowed echo (.wrote id piece)

end EchoEntry

/-- The books of a service are in order. -/
structure EchoBooks (echo : Echo) (errand : Option EchoErrand) (log : List EchoEntry) : Prop where
  fair : ∀ busy, errand = some busy → ∀ tally, busy.call.Ends tally → busy.request.Fair tally
  honest : ∀ id, (echo.view errand log id).Honest
  /-- Nothing is known of the connections that are yet to come. -/
  blank : ∀ id, echo.nextId ≤ id → echo.view errand log id = {}
  known : ∀ id, .opened id ∈ log ∨ .left id ∈ log → id < echo.nextId
  away : ∀ id, .left id ∈ log → id ∉ echo.ids
  silent : log.Pairwise EchoEntry.Parts

namespace EchoBooks

variable {echo later : Echo} {errand next : Option EchoErrand} {log entries : List EchoEntry}

/-- A connection of which something is known has a number that has been given out. -/
theorem lt_nextId (blank : ∀ id, echo.nextId ≤ id → echo.view errand log id = {}) {id : Nat}
    (seen : echo.view errand log id ≠ {}) : id < echo.nextId :=
  Nat.lt_of_not_le fun fresh => seen (blank id fresh)

theorem view_ne_of_mem_ids {id : Nat} (member : id ∈ echo.ids) : echo.view errand log id ≠ {} := by
  intro blank
  have unlisted : echo.ids.contains id = false := congrArg EchoView.listed blank
  rw [List.contains_iff_mem.mpr member] at unlisted
  cases unlisted

/-- A connection that has left is written nothing but its close in one more turn. -/
theorem silent_concat (books : EchoBooks echo errand log) (plain : ∀ id, .left id ∉ entries)
    (allowed : ∀ entry ∈ entries, entry.Allowed echo) (later : Echo) :
    (log ++ entries ++ Echo.changes echo later).Pairwise EchoEntry.Parts := by
  have unwritten {earlier other : EchoEntry} (member : other ∈ Echo.changes echo later) :
      earlier.Parts other := by
    rintro id piece - rfl
    exact absurd member Echo.not_wrote_mem_changes
  refine List.pairwise_append.mpr ⟨List.pairwise_append.mpr ⟨books.silent, ?_, ?_⟩, ?_, ?_⟩
  · refine List.pairwise_of_forall_mem_list fun earlier member _ _ id _ same => ?_
    exact absurd (same ▸ member) (plain id)
  · rintro earlier old _ new id piece rfl rfl
    cases allowed _ new with
    | wrote stays => exact stays.resolve_left (books.away id old)
  · exact List.pairwise_of_forall_mem_list fun _ _ _ member => unwritten member
  · exact fun _ _ _ member => unwritten member

/-- A turn that keeps the account of every connection keeps the books. -/
theorem note (books : EchoBooks echo errand log) (grows : echo.nextId ≤ later.nextId)
    (fair : ∀ busy, next = some busy → ∀ tally, busy.call.Ends tally → busy.request.Fair tally)
    (views : ∀ id, later.view next (log ++ entries) id = echo.view errand log id ∨
      id < later.nextId ∧ (later.view next (log ++ entries) id).Honest)
    (lists : ∀ id ∈ later.ids, id ∈ echo.ids ∨ echo.nextId ≤ id)
    (allowed : ∀ entry ∈ entries, entry.Allowed echo) :
    EchoBooks later next (log ++ entries ++ Echo.changes echo later) := by
  have blank (id : Nat) (fresh : later.nextId ≤ id) :
      later.view next (log ++ entries ++ Echo.changes echo later) id = {} := by
    rw [Echo.view_changes]
    rcases views id with same | ⟨old, _⟩
    · exact same.trans (books.blank id (grows.trans fresh))
    · exact absurd fresh (Nat.not_le.mpr old)
  have plain (id : Nat) : .opened id ∉ entries ∧ .left id ∉ entries :=
    ⟨fun member => (nomatch allowed _ member), fun member => (nomatch allowed _ member)⟩
  refine ⟨fair, ?_, blank, ?_, ?_, ?_⟩
  · intro id
    rw [Echo.view_changes]
    rcases views id with same | ⟨_, honest⟩
    · exact same ▸ books.honest id
    · exact honest
  · intro id
    simp only [List.mem_append, Echo.opened_mem_changes, Echo.left_mem_changes, plain, or_false]
    rintro ((old | ⟨new, _⟩) | (old | ⟨gone, _⟩))
    · exact (books.known id (.inl old)).trans_le grows
    · exact lt_nextId blank (view_ne_of_mem_ids new)
    · exact (books.known id (.inr old)).trans_le grows
    · exact (lt_nextId books.blank (view_ne_of_mem_ids gone)).trans_le grows
  · intro id
    simp only [List.mem_append, Echo.left_mem_changes, plain, or_false]
    rintro (old | ⟨_, gone⟩)
    · intro member
      rcases lists id member with listed | fresh
      · exact books.away id old listed
      · exact absurd fresh (Nat.not_le.mpr (books.known id (.inr old)))
    · exact gone
  · exact books.silent_concat (fun id => (plain id).2) allowed later

theorem opened (books : EchoBooks echo errand log) (output : OutputPipe) (input : InputPipe) :
    let later := { echo with
      nextId := echo.nextId + 1
      connections := echo.connections ++ [⟨echo.nextId, output, input⟩] }
    EchoBooks later errand (log ++ [] ++ Echo.changes echo later) := by
  intro later
  have ids : later.ids = echo.ids ++ [echo.nextId] := List.map_append
  refine books.note (Nat.le_succ _) books.fair ?_ ?_ (List.forall_mem_nil _)
  · intro id
    rw [List.append_nil]
    by_cases new : id = echo.nextId
    · subst new
      refine .inr ⟨Nat.lt_succ_self _, .inl ⟨[], ?_⟩⟩
      have view : later.view errand log echo.nextId =
          { echo.view errand log echo.nextId with listed := true } := by
        simp [Echo.view, ids, later]
      rw [view, books.blank _ (Nat.le_refl _)]
      exact EchoView.live_opened
    · left
      simp [Echo.view, ids, later, new]
  · intro id member
    rw [ids] at member
    rcases List.mem_append.mp member with old | new
    · exact .inl old
    · exact .inr (List.mem_singleton.mp new).ge

theorem noteOne (books : EchoBooks echo errand log) (id : Nat)
    (numbered : later.nextId = echo.nextId) (within : ∀ other ∈ later.ids, other ∈ echo.ids)
    (fair : ∀ busy, next = some busy → ∀ tally, busy.call.Ends tally → busy.request.Fair tally)
    (known : id < echo.nextId) (honest : (later.view next (log ++ entries) id).Honest)
    (others : ∀ other, other ≠ id →
      later.view next (log ++ entries) other = echo.view errand log other)
    (allowed : ∀ entry ∈ entries, entry.Allowed echo) :
    EchoBooks later next (log ++ entries ++ Echo.changes echo later) := by
  refine books.note numbered.ge fair ?_ (fun other member => .inl (within other member)) allowed
  intro other
  by_cases mine : other = id
  · exact .inr ⟨mine ▸ numbered ▸ known, mine ▸ honest⟩
  · exact .inl (others other mine)

theorem heard (books : EchoBooks echo errand log) {id : Nat} (delivery : Delivery)
    (known : id < echo.nextId) :
    EchoBooks (echo.tell id delivery) errand
      (log ++ [.given id delivery (echo.refuses id delivery)] ++
        Echo.changes echo (echo.tell id delivery)) := by
  obtain ⟨same, numbered⟩ := Echo.tell_table id delivery echo
  refine books.noteOne id numbered (fun _ member => same ▸ member) books.fair known ?_
    (fun other apart => Echo.view_tell_other apart) ?_
  · cases fits : echo.refuses id delivery with
    | true =>
      rw [Echo.view_refused fits]
      exact (books.honest id).refused delivery
    | false =>
      rw [Echo.view_taken fits]
      exact (books.honest id).queued delivery
  · intro entry member
    rw [List.mem_singleton.mp member]
    exact .given ..

theorem skipped (books : EchoBooks echo none log) {job : EchoJob} {jobs : List EchoJob}
    (queued : Bool) (first : echo.worker.waiting = job :: jobs)
    (marked : echo.overruns.contains job.connection = true) :
    let later := { echo with worker := { echo.worker with waiting := jobs } }.rest queued
    EchoBooks later none (log ++ [] ++ Echo.changes echo later) := by
  intro later
  have ids : later.ids = echo.ids := Echo.ids_rest ..
  have seen : echo.view none log job.connection ≠ {} := fun blank => by
    have waits := congrArg EchoView.jobs blank
    simp [Echo.view, first] at waits
  refine books.noteOne job.connection (Echo.nextId_rest ..) (fun _ member => ids ▸ member)
    books.fair (lt_nextId books.blank seen) ?_ ?_ (List.forall_mem_nil _)
  · rw [List.append_nil, Echo.view_rest]
    exact (books.honest job.connection).skipped (Bool.or_eq_true_iff.mpr (.inl marked))
      ((jobs.filter fun other => other.connection == job.connection).map EchoJob.request)
  · intro other apart
    rw [List.append_nil, Echo.view_rest]
    simp [Echo.view, Echo.ids, first, apart.symm]

section

variable {job : EchoJob} {rest : Echo} {connection : EchoConnection}

theorem turnedDown (books : EchoBooks echo none log) (queued : Bool)
    (upcoming : echo.Next job rest) (gone : echo.connection? job.connection = none) :
    EchoBooks (rest.rest queued) none (log ++ [] ++ Echo.changes echo (rest.rest queued)) := by
  obtain ⟨ids, number⟩ := upcoming.table
  obtain ⟨jobs, marked, self, _⟩ := upcoming.view_self log
  have unlisted : (echo.view none log job.connection).listed = false := by
    simpa [Echo.view] using Echo.not_mem_ids gone
  refine books.noteOne job.connection ((Echo.nextId_rest ..).trans number) ?_ books.fair
    (lt_nextId books.blank (upcoming.view_ne log)) ?_ ?_ (List.forall_mem_nil _)
  · intro id member
    rw [Echo.ids_rest, ids] at member
    exact member
  · rw [List.append_nil, Echo.view_rest, self]
    exact .inr (((books.honest _).settled unlisted).change jobs marked (List.prefix_refl _))
  · intro other apart
    rw [List.append_nil, Echo.view_rest]
    exact upcoming.view_other log apart

theorem takenOn (books : EchoBooks echo none log) (queued : Bool) (upcoming : echo.Next job rest)
    (found : echo.connection? job.connection = some connection) :
    EchoBooks (rest.takeOn queued job) (some (.begin connection job.request))
      (log ++ [] ++ Echo.changes echo (rest.takeOn queued job)) := by
  obtain ⟨ids, number⟩ := upcoming.table
  obtain ⟨jobs, marked, self, fits⟩ := upcoming.view_self log
  have here : rest.connection? job.connection = some connection :=
    (upcoming.connection? _).trans found
  have listed := List.contains_iff_mem.mpr (Echo.mem_ids found).2
  obtain ⟨within, numbered⟩ := Echo.takeOn_table queued here
  refine books.noteOne job.connection (numbered.trans number) (ids ▸ within) ?_
    (lt_nextId books.blank (upcoming.view_ne log)) ?_ ?_ (List.forall_mem_nil _)
  · intro errand begun tally ends
    obtain rfl := Option.some.inj begun
    exact EchoRequest.tally_fair ends
  · rw [List.append_nil, Echo.view_takeOn here, self]
    exact (books.honest _).takenUp listed rfl jobs marked fits
  · intro other apart
    rw [List.append_nil]
    exact (Echo.view_takeOn_other here apart).trans (upcoming.view_other log apart)

theorem taken (books : EchoBooks echo none log) (queued : Bool) (upcoming : echo.Next job rest) :
    EchoBooks (rest.takeOn queued job) (echo.errand? job)
      (log ++ [] ++ Echo.changes echo (rest.takeOn queued job)) := by
  cases found : echo.connection? job.connection with
  | none =>
    rw [Echo.takeOn_gone ((upcoming.connection? _).trans found), Echo.errand?, found]
    exact books.turnedDown queued upcoming found
  | some connection =>
    rw [Echo.errand?, found]
    exact books.takenOn queued upcoming found

end

theorem ended {errand : EchoErrand} (books : EchoBooks echo (some errand) log) {tally : Tally}
    (queued : Bool) (ends : errand.call.Ends tally) :
    let later := echo.concluded errand tally queued
    EchoBooks later (errand.next? tally)
      (log ++ tally.taken.map (.wrote errand.connection.id) ++ Echo.changes echo later) := by
  intro later
  obtain ⟨within, numbered⟩ := echo.concluded_table errand tally queued
  have fair := books.fair errand rfl tally ends
  have honest := books.honest errand.connection.id
  have busy : (echo.view (some errand) log errand.connection.id).errand =
      some errand.request := by rw [Echo.view_busy]
  have seen : echo.view (some errand) log errand.connection.id ≠ {} := fun blank => by
    rw [blank] at busy
    cases busy
  refine books.noteOne errand.connection.id numbered within ?_ (lt_nextId books.blank seen) ?_ ?_ ?_
  · intro follows next tally ends
    unfold EchoErrand.next? at next
    split at next
    · obtain rfl := Option.some.inj next
      exact EchoRequest.tally_fair ends
    · cases next
    · cases next
  · rw [Echo.view_wrote, Echo.view_concluded]
    exact honest.ended busy fair
  · intro other apart
    rw [Echo.view_wrote_other _ apart]
    exact (Echo.view_concluded_other apart).trans (Echo.view_busy_other apart).symm
  · intro entry member
    obtain ⟨piece, accepted, rfl⟩ := List.mem_map.mp member
    refine .wrote ?_
    by_cases closes : errand.request = .finish
    · have last := fair.within.subset accepted
      rw [closes] at last
      exact .inr (List.mem_singleton.mp last)
    · exact .inl (List.contains_iff_mem.mp (honest.listed busy closes))

theorem turn (books : EchoBooks echo errand log) (turn : EchoTurn echo errand later next entries) :
    EchoBooks later next (log ++ entries ++ Echo.changes echo later) := by
  cases turn with
  | numbered nextId grows =>
    refine books.note grows books.fair ?_ (fun _ => .inl) (List.forall_mem_nil _)
    intro id
    exact .inl (congrArg (Echo.view _ _ · id) (List.append_nil log))
  | opened output input => exact books.opened output input
  | heard id delivery known => exact books.heard delivery known
  | collected =>
    refine books.note (Nat.le_refl _) books.fair ?_ (fun _ => .inl) (List.forall_mem_nil _)
    intro id
    rw [List.append_nil]
    exact .inl (Echo.view_collect echo)
  | skipped first marked => exact books.skipped _ first marked
  | taken upcoming => exact books.taken _ upcoming
  | @waits errand call queued ends =>
    refine books.note (Nat.le_refl _) ?_ ?_ (fun _ => .inl) (List.forall_mem_nil _)
    · intro busy same tally further
      obtain rfl := Option.some.inj same
      exact books.fair errand rfl tally (ends tally further)
    · intro id
      rw [List.append_nil]
      left
      by_cases mine : errand.connection.id = id <;>
        simp [Echo.view, Echo.ids, Option.filter_some, mine]
  | ended ends => exact books.ended _ ends

end EchoBooks

namespace EchoAudit

variable {audit : EchoAudit}

/-- The books are in order, and the worker is busy with what they say. -/
structure Sound (audit : EchoAudit) : Prop where
  couples : audit.server.rest.Couples audit.errand
  books : EchoBooks audit.server.rest audit.errand audit.log

theorem start_sound (config : NodeConfig) (ports : Nat → UInt16) (depth : Nat) :
    (start config ports depth).Sound where
  couples := ⟨false, rfl⟩
  books := ⟨nofun, fun _ => .inr EchoView.settled_blank, fun _ _ => rfl, nofun, nofun, .nil⟩

theorem Sound.move (sound : audit.Sound) (move : Move) : (audit.move move).Sound := by
  have turns := turns_move sound.couples (fun id opened => sound.books.known id (.inl opened)) move
  generalize audit.move move = later at turns ⊢
  cases turns with
  | still => exact sound
  | turn turn => exact ⟨sound.couples.turn turn, sound.books.turn turn⟩

theorem Sound.run (moves : List Move) (sound : audit.Sound) : (audit.run moves).Sound := by
  induction moves generalizing audit with
  | nil => exact sound
  | cons move moves ih => exact ih (sound.move move)

theorem underWay_eq (id : Nat) :
    audit.underWay id = (audit.server.rest.view audit.errand audit.log id).underWay := by
  unfold underWay EchoView.underWay
  cases busy : audit.errand with
  | none => rfl
  | some errand => by_cases mine : errand.connection.id = id <;>
      simp [Echo.view, Option.filter_some, mine]

theorem waitingFor_eq (id : Nat) :
    audit.waitingFor id =
      (audit.server.rest.view audit.errand audit.log id).jobs.flatMap EchoRequest.bytes :=
  (List.flatMap_map ..).symm

theorem errand_of_view {id : Nat} {request : EchoRequest}
    (busy : (audit.server.rest.view audit.errand audit.log id).errand = some request) :
    ∃ errand, audit.errand = some errand ∧ errand.connection.id = id ∧
      errand.request = request := by
  obtain ⟨errand, kept, same⟩ := Option.map_eq_some_iff.mp busy
  obtain ⟨found, mine⟩ := Option.filter_eq_some_iff.mp kept
  exact ⟨errand, found, beq_iff_eq.mp mine, same⟩

/-- Whatever moves are made, and in whatever order: what is written to a connection is a front of
the data that it was given before anything of it was refused, then one report at most, then the
close. What is under way comes next in what it was given, and as long as nothing was refused nothing
is missing: all the rest waits. Once the connection has left the table, only the close is written,
and what is taken down of the worker is what it does. -/
theorem never_skips (config : NodeConfig) (ports : Nat → UInt16) (depth : Nat)
    (moves : List Move) (id : Nat) :
    let audit := (start config ports depth).run moves
    (∃ runs reports closings,
      audit.writtenTo id =
        OutputPipe.ofKind .data runs ++ OutputPipe.ofKind .metadata reports ++ closings ∧
      runs.flatten ++ audit.underWay id <+: heeded (audit.givenTo id) ∧
      reports.length ≤ 1 ∧ closings <+: [OutputPipe.closing]) ∧
    heeded (audit.givenTo id) <+: (audit.givenTo id).flatMap (fun one => one.1.bytes) ∧
    (id ∈ audit.server.rest.ids → (∀ one ∈ audit.givenTo id, one.2 = false) →
      (∀ errand, audit.errand = some errand → errand.connection.id = id →
        ∃ data, errand.request = .echo data) →
      ∃ runs, audit.writtenTo id = OutputPipe.ofKind .data runs ∧
        runs.flatten ++ audit.underWay id ++ audit.waitingFor id =
          (audit.givenTo id).flatMap fun one => one.1.bytes) ∧
    (∀ before after, audit.log = before ++ .left id :: after →
      ∀ piece, .wrote id piece ∈ after → piece = OutputPipe.closing) ∧
    audit.server.rest.Couples audit.errand := by
  intro audit
  obtain ⟨couples, books⟩ := (start_sound config ports depth).run moves
  refine ⟨?_, heeded_prefix _, fun listed fine echoing => ?_, ?_, couples⟩
  · rw [underWay_eq]
    exact (books.honest id).faithful
  · rw [underWay_eq, waitingFor_eq]
    refine (books.honest id).complete (List.contains_iff_mem.mpr listed) ?_ fine
    rintro _ busy
    obtain ⟨errand, found, mine, rfl⟩ := errand_of_view busy
    exact echoing errand found mine
  · intro before after split piece member
    have silent := split ▸ books.silent
    exact List.rel_of_pairwise_cons (List.pairwise_append.mp silent).2.1 member id piece rfl rfl

/-- With room for one job the third packet is refused: the first one is written back, the second one
is skipped, and the connection is closed with a report. -/
example :
    let give (byte : UInt8) : Move := .give 1 (.data ⟨7, 0, 0, 0, [byte]⟩)
    let acknowledge (crc : UInt16) : Move := .hear ⟨7, 0, ServiceNumber.crcAck, crc, []⟩
    let audit := (start {} scatteredPorts 1).run
      [.connect ⟨1, 1, 1, Echo.openCommand, PipeOpen.encode ⟨7, 9⟩⟩, give 1, .work, give 2, give 3,
        .work, acknowledge 59961, .work, .work, .work, .work, acknowledge 176, .work]
    audit.writtenTo 1 =
        [⟨.data, [1]⟩, ⟨.metadata, EchoStatus.encode ⟨0, Echo.overrun⟩⟩, OutputPipe.closing] ∧
      heeded (audit.givenTo 1) = [1, 2] := by
  decide +kernel

end EchoAudit

end PipeBus

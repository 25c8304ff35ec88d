import Mathlib.Data.List.Infix
import PipeBus.Proofs.EchoAudit

/-! The account of one connection of an echo service: what it was given, what waits for it, what the
worker is doing for it and what has been written to it. As long as nothing has been refused, all
data that was given is written back, under way or waiting. -/

namespace PipeBus

/-- The data of what a connection was given before anything of it was refused. -/
def heeded (given : List (Delivery × Bool)) : Bytes :=
  (given.takeWhile fun one => !one.2).flatMap fun one => one.1.bytes

theorem heeded_cons (delivery : Delivery) (given : List (Delivery × Bool)) :
    heeded ((delivery, false) :: given) = delivery.bytes ++ heeded given := by
  rw [heeded, List.takeWhile_cons_of_pos rfl, List.flatMap_cons, heeded]

theorem heeded_append (given more : List (Delivery × Bool)) :
    heeded given <+: heeded (given ++ more) := by
  induction given with
  | nil => exact List.nil_prefix
  | cons one rest ih =>
    obtain ⟨delivery, refused⟩ := one
    cases refused with
    | true => exact List.nil_prefix
    | false =>
      rw [List.cons_append, heeded_cons, heeded_cons]
      exact (List.prefix_append_right_inj _).mpr ih

/-- Without a refused packet in front nothing gets in the way of what follows. -/
theorem heeded_fine_append {given : List (Delivery × Bool)} (fine : ∀ one ∈ given, one.2 = false)
    (more : List (Delivery × Bool)) :
    heeded (given ++ more) = (given.flatMap fun one => one.1.bytes) ++ heeded more := by
  have kept : ∀ one ∈ given, (!one.2) = true := fun one member => by
    rw [fine one member]
    rfl
  rw [heeded, List.takeWhile_append_of_pos kept, List.flatMap_append, heeded]

theorem heeded_fine {given : List (Delivery × Bool)} (fine : ∀ one ∈ given, one.2 = false) :
    heeded given = given.flatMap fun one => one.1.bytes := by
  have whole := heeded_fine_append fine []
  have nothing : heeded [] = [] := rfl
  rwa [List.append_nil, nothing, List.append_nil] at whole

theorem heeded_queued {given : List (Delivery × Bool)} (fine : ∀ one ∈ given, one.2 = false)
    (delivery : Delivery) : heeded (given ++ [(delivery, false)]) =
      heeded given ++ delivery.bytes := by
  rw [heeded_fine_append fine, heeded_fine fine]
  exact congrArg _ ((heeded_cons delivery []).trans (List.append_nil _))

theorem heeded_prefix (given : List (Delivery × Bool)) :
    heeded given <+: given.flatMap fun one => one.1.bytes :=
  (List.takeWhile_prefix _).flatMap _

/-- All that there is of one connection. -/
structure EchoView where
  listed : Bool := false
  /-- What its jobs in the queue ask for. -/
  jobs : List EchoRequest := []
  /-- It has lost a packet, which has not been reported. -/
  marked : Bool := false
  /-- What the worker is doing for it. -/
  errand : Option EchoRequest := none
  given : List (Delivery × Bool) := []
  written : List Piece := []

namespace EchoView

/-- What the end of an errand makes of the account of its connection. -/
def ended (request : EchoRequest) (result : Except NodeError Unit) (view : EchoView) : EchoView :=
  match request, result with
  | .echo _, .error _ => { view with listed := false, errand := none }
  | .echo _, .ok () | .finish, _ => { view with errand := none }
  | .fail _, _ => { view with listed := false, errand := some .finish }

def underWay (view : EchoView) : Bytes := (view.errand.map EchoRequest.bytes).getD []

/-- Nothing was refused, and what was given has been written back, is under way or waits. -/
structure Whole (view : EchoView) (runs : List Bytes) : Prop where
  unmarked : view.marked = false
  fine : ∀ one ∈ view.given, one.2 = false
  sum : runs.flatten ++ view.underWay ++ view.jobs.flatMap EchoRequest.bytes = heeded view.given

/-- A packet was lost, and what comes after it will not be written back. -/
structure Marked (view : EchoView) (runs : List Bytes) : Prop where
  marked : view.marked = true
  lost : ∃ one ∈ view.given, one.2 = true
  within : runs.flatten ++ view.underWay <+: heeded view.given

/-- A connection that so much data has been written back to, and nothing else. -/
structure Live (view : EchoView) (runs : List Bytes) : Prop where
  listed : view.listed = true
  written : view.written = OutputPipe.ofKind .data runs
  errand : ∀ request, view.errand = some request → ∃ data, request = .echo data
  sums : view.Whole runs ∨ view.Marked runs

/-- A connection that no more data is written back to. -/
inductive Settled (view : EchoView) : Prop where
  | reporting (runs : List Bytes) (error : Int32) (listed : view.listed = true)
      (errand : view.errand = some (.fail error))
      (written : view.written = OutputPipe.ofKind .data runs)
      (within : runs.flatten <+: heeded view.given)
  | closing (runs reports : List Bytes) (listed : view.listed = false)
      (errand : view.errand = some .finish)
      (written : view.written = OutputPipe.ofKind .data runs ++ OutputPipe.ofKind .metadata reports)
      (few : reports.length ≤ 1) (within : runs.flatten <+: heeded view.given)
  | gone (runs reports : List Bytes) (closings : List Piece) (listed : view.listed = false)
      (errand : view.errand = none)
      (written : view.written =
        OutputPipe.ofKind .data runs ++ OutputPipe.ofKind .metadata reports ++ closings)
      (few : reports.length ≤ 1) (last : closings <+: [OutputPipe.closing])
      (within : runs.flatten <+: heeded view.given)

/-- No hole is in what is written to a connection, whatever comes. -/
def Honest (view : EchoView) : Prop := (∃ runs, view.Live runs) ∨ view.Settled

variable {view : EchoView} {runs : List Bytes}

theorem settled_blank : Settled {} :=
  .gone [] [] [] rfl rfl rfl (Nat.zero_le _) List.nil_prefix List.nil_prefix

theorem live_opened : Live { listed := true } [] :=
  ⟨rfl, rfl, nofun, .inl ⟨rfl, List.forall_mem_nil _, rfl⟩⟩

theorem Live.within (live : view.Live runs) :
    runs.flatten ++ view.underWay <+: heeded view.given := by
  rcases live.sums with ⟨_, _, sum⟩ | ⟨_, _, within⟩
  · exact sum ▸ List.prefix_append ..
  · exact within

theorem Live.idle_within (live : view.Live runs) : runs.flatten <+: heeded view.given :=
  (List.prefix_append ..).trans live.within

theorem Honest.settled (honest : view.Honest) (unlisted : view.listed = false) : view.Settled := by
  refine honest.resolve_left ?_
  rintro ⟨runs, live⟩
  rw [live.listed] at unlisted
  cases unlisted

theorem Honest.listed {request : EchoRequest} (honest : view.Honest)
    (errand : view.errand = some request) (stays : request ≠ .finish) : view.listed = true := by
  rcases honest with ⟨runs, live⟩ | settled
  · exact live.listed
  · cases settled with
    | reporting _ _ listed => exact listed
    | closing _ _ _ other =>
      rw [errand] at other
      exact absurd (Option.some.inj other) stays
    | gone _ _ _ _ other =>
      rw [errand] at other
      cases other

/-- What else is given to such a connection, what waits for it and whether it is marked does not
count. -/
theorem Settled.change (settled : view.Settled) (jobs : List EchoRequest) (marked : Bool)
    {given : List (Delivery × Bool)} (grows : heeded view.given <+: heeded given) :
    Settled { view with jobs, marked, given } := by
  cases settled with
  | reporting runs error listed errand written within =>
    exact .reporting runs error listed errand written (within.trans grows)
  | closing runs reports listed errand written few within =>
    exact .closing runs reports listed errand written few (within.trans grows)
  | gone runs reports closings listed errand written few last within =>
    exact .gone runs reports closings listed errand written few last (within.trans grows)

/-- What a packet asks for has the data of the packet written back. -/
theorem bytes_request? (delivery : Delivery) :
    (Echo.request? delivery).toList.flatMap EchoRequest.bytes = delivery.bytes := by
  cases delivery with
  | data packet =>
    rw [Echo.request?, Delivery.bytes, Delivery.heard, Heard.bytes]
    split
    · rename_i empty
      rw [List.isEmpty_iff.mp empty]
      rfl
    · exact List.append_nil _
  | metadata packet => rfl
  | eof => rfl

theorem Honest.queued (honest : view.Honest) (delivery : Delivery) :
    Honest { view with
      given := view.given ++ [(delivery, false)]
      jobs := view.jobs ++ (Echo.request? delivery).toList } := by
  have grows := heeded_append view.given [(delivery, false)]
  rcases honest with ⟨runs, listed, written, errand, whole | marked⟩ | settled
  · refine .inl ⟨runs, listed, written, errand, .inl ⟨whole.unmarked, ?_, ?_⟩⟩
    · exact List.forall_mem_append.mpr ⟨whole.fine, List.forall_mem_singleton.mpr rfl⟩
    · rw [heeded_queued whole.fine, ← whole.sum, List.flatMap_append, bytes_request?,
        ← List.append_assoc]
      rfl
  · obtain ⟨one, member, refused⟩ := marked.lost
    exact .inl ⟨runs, listed, written, errand, .inr
      ⟨marked.marked, ⟨one, List.mem_append_left _ member, refused⟩, marked.within.trans grows⟩⟩
  · exact .inr (settled.change _ _ grows)

theorem Honest.refused (honest : view.Honest) (delivery : Delivery) :
    Honest { view with given := view.given ++ [(delivery, true)], marked := true } := by
  have grows := heeded_append view.given [(delivery, true)]
  rcases honest with ⟨runs, live⟩ | settled
  · have lost : ∃ one ∈ view.given ++ [(delivery, true)], one.2 = true :=
      ⟨_, List.mem_append_right _ (List.mem_singleton_self _), rfl⟩
    exact .inl ⟨runs, live.listed, live.written, live.errand,
      .inr ⟨rfl, lost, live.within.trans grows⟩⟩
  · exact .inr (settled.change _ _ grows)

theorem Honest.skipped (honest : view.Honest) (marked : view.marked = true)
    (jobs : List EchoRequest) : Honest { view with jobs } := by
  rcases honest with ⟨runs, live⟩ | settled
  · have sums := live.sums.resolve_left fun whole => by
      rw [whole.unmarked] at marked
      cases marked
    exact .inl ⟨runs, live.listed, live.written, live.errand, .inr ⟨marked, sums.lost, sums.within⟩⟩
  · exact .inr (settled.change jobs _ (List.prefix_refl _))

/-- The worker has nothing to do for a connection, and turns to what is to be done next. -/
theorem Honest.takenUp {request : EchoRequest} (honest : view.Honest) (listed : view.listed = true)
    (idle : view.errand = none) (jobs : List EchoRequest) (marked : Bool)
    (next : (∃ error, request = .fail error) ∨
      view.marked = false ∧ marked = false ∧ view.jobs = request :: jobs) :
    Honest { view with
      jobs, marked
      listed := request != .finish
      errand := some request } := by
  obtain ⟨runs, live⟩ : ∃ runs, view.Live runs := by
    refine honest.resolve_right fun settled => ?_
    cases settled with
    | reporting _ _ _ errand => rw [idle] at errand; cases errand
    | closing _ _ away | gone _ _ _ away => rw [listed] at away; cases away
  cases request with
  | fail error => exact .inr (.reporting runs error rfl rfl live.written live.idle_within)
  | finish =>
    refine .inr (.closing runs [] rfl rfl ?_ (Nat.zero_le _) live.idle_within)
    exact live.written.trans (List.append_nil _).symm
  | echo data =>
    obtain ⟨unmarked, rfl, waits⟩ := next.resolve_left nofun
    refine .inl ⟨runs, rfl, live.written, ?_, .inl ?_⟩
    · rintro _ ⟨⟩
      exact ⟨data, rfl⟩
    · rcases live.sums with ⟨_, fine, sum⟩ | ⟨marked, _⟩
      · refine ⟨rfl, fine, ?_⟩
        rw [← sum, underWay, underWay, idle, waits]
        simp only [Option.map_some, Option.getD_some, Option.map_none, Option.getD_none,
          List.flatMap_cons, List.append_nil, List.append_assoc]
      · rw [unmarked] at marked
        cases marked

theorem ofKind_of_prefix {kind : PacketKind} {chunks : List Bytes} {taken : List Piece}
    (within : taken <+: OutputPipe.ofKind kind chunks) :
    ∃ front, front <+: chunks ∧ taken = OutputPipe.ofKind kind front := by
  refine ⟨chunks.take taken.length, List.take_prefix .., ?_⟩
  rw [OutputPipe.ofKind, List.map_take]
  exact List.prefix_iff_eq_take.mp within

theorem ofKind_append (kind : PacketKind) (first second : List Bytes) :
    OutputPipe.ofKind kind (first ++ second) =
      OutputPipe.ofKind kind first ++ OutputPipe.ofKind kind second :=
  List.map_append

theorem Honest.live {data : Bytes} (honest : view.Honest)
    (errand : view.errand = some (.echo data)) : ∃ runs, view.Live runs := by
  refine honest.resolve_right fun settled => ?_
  cases settled with
  | reporting _ _ _ other | closing _ _ _ other | gone _ _ _ _ other =>
    rw [errand] at other
    cases other

theorem underWay_echo {data : Bytes} (errand : view.errand = some (.echo data)) :
    view.underWay = data := by
  rw [underWay, errand]
  rfl

theorem Live.echoed {data : Bytes} (live : view.Live runs)
    (errand : view.errand = some (.echo data)) :
    Live { view with
      errand := none
      written := view.written ++ OutputPipe.ofKind .data (OutputPipe.pieces data) }
      (runs ++ OutputPipe.pieces data) := by
  have more : (runs ++ OutputPipe.pieces data).flatten = runs.flatten ++ view.underWay := by
    rw [List.flatten_append, OutputPipe.flatten_pieces, underWay_echo errand]
  refine ⟨live.listed, ?_, nofun, ?_⟩
  · rw [ofKind_append, ← live.written]
  · rcases live.sums with ⟨unmarked, fine, sum⟩ | ⟨marked, lost, within⟩
    · refine .inl ⟨unmarked, fine, ?_⟩
      rw [← sum, more]
      exact congrArg (· ++ _) (List.append_nil _)
    · refine .inr ⟨marked, lost, ?_⟩
      rw [more]
      exact (List.append_nil _).symm ▸ within

theorem Live.broke {data : Bytes} {taken : List Piece} (live : view.Live runs)
    (errand : view.errand = some (.echo data))
    (within : taken <+: OutputPipe.ofKind .data (OutputPipe.pieces data)) :
    Settled { view with
      listed := false
      errand := none
      written := view.written ++ taken } := by
  obtain ⟨front, early, rfl⟩ := ofKind_of_prefix within
  obtain ⟨late, pieces⟩ := early
  have cut : front.flatten ++ late.flatten = view.underWay := by
    rw [← List.flatten_append, pieces, OutputPipe.flatten_pieces, underWay_echo errand]
  refine .gone (runs ++ front) [] [] rfl rfl ?_ (Nat.zero_le _) List.nil_prefix ?_
  · have written : view.written ++ OutputPipe.ofKind .data front =
        OutputPipe.ofKind .data (runs ++ front) := by
      rw [live.written, ofKind_append]
    exact written.trans ((List.append_nil _).trans (List.append_nil _)).symm
  · refine List.IsPrefix.trans ?_ live.within
    rw [List.flatten_append, ← cut]
    exact (List.prefix_append_right_inj _).mpr (List.prefix_append ..)

/-- A report has ended, in whatever way: now the connection is closed. -/
theorem Honest.reported {error : Int32} {status : Bytes} {taken : List Piece}
    (honest : view.Honest) (errand : view.errand = some (.fail error))
    (within : taken <+: OutputPipe.ofKind .metadata [status]) :
    Honest { view with
      listed := false
      errand := some .finish
      written := view.written ++ taken } := by
  obtain ⟨reports, few, rfl⟩ := ofKind_of_prefix within
  rcases honest with ⟨runs, live⟩ | settled
  · obtain ⟨data, same⟩ := live.errand _ errand
    cases same
  · cases settled with
    | reporting runs _ listed _ written within =>
      exact .inr (.closing runs reports rfl rfl (congrArg (· ++ _) written) few.length_le within)
    | closing _ _ _ other | gone _ _ _ _ other =>
      rw [errand] at other
      cases other

theorem Honest.closed {taken : List Piece} (honest : view.Honest)
    (errand : view.errand = some .finish) (within : taken <+: [OutputPipe.closing]) :
    Honest { view with errand := none, written := view.written ++ taken } := by
  rcases honest with ⟨runs, live⟩ | settled
  · obtain ⟨data, same⟩ := live.errand _ errand
    cases same
  · cases settled with
    | closing runs reports listed _ written few inside =>
      exact .inr (.gone runs reports taken listed rfl (congrArg (· ++ _) written) few within inside)
    | reporting _ _ _ other | gone _ _ _ _ other =>
      rw [errand] at other
      cases other

/-- However an errand ends, its account stays in order. -/
theorem Honest.ended {request : EchoRequest} {tally : Tally} (honest : view.Honest)
    (errand : view.errand = some request) (fair : request.Fair tally) :
    Honest { view.ended request tally.result with
      written := (view.ended request tally.result).written ++ tally.taken } := by
  obtain ⟨taken, result, pipe⟩ := tally
  cases request with
  | echo data =>
    obtain ⟨runs, live⟩ := honest.live errand
    cases result with
    | ok =>
      obtain rfl : taken = _ := fair.whole rfl nofun
      exact .inl ⟨_, live.echoed errand⟩
    | error => exact .inr (live.broke errand fair.within)
  | fail error => exact honest.reported errand fair.within
  | finish => exact honest.closed errand fair.within

/-- What is written to a connection is a front of the data that it was given, then one report at
most, then the close; what is under way is the data that comes next. -/
theorem Honest.faithful (honest : view.Honest) :
    ∃ runs reports closings,
      view.written =
        OutputPipe.ofKind .data runs ++ OutputPipe.ofKind .metadata reports ++ closings ∧
      runs.flatten ++ view.underWay <+: heeded view.given ∧
      reports.length ≤ 1 ∧ closings <+: [OutputPipe.closing] := by
  have idle {runs : List Bytes} (nothing : view.underWay = [])
      (within : runs.flatten <+: heeded view.given) :
      runs.flatten ++ view.underWay <+: heeded view.given := by
    rw [nothing, List.append_nil]
    exact within
  rcases honest with ⟨runs, live⟩ | settled
  · refine ⟨runs, [], [], ?_, live.within, Nat.zero_le _, List.nil_prefix⟩
    exact live.written.trans ((List.append_nil _).trans (List.append_nil _)).symm
  · cases settled with
    | reporting runs error _ errand written within =>
      refine ⟨runs, [], [], ?_, idle ?_ within, Nat.zero_le _, List.nil_prefix⟩
      · exact written.trans ((List.append_nil _).trans (List.append_nil _)).symm
      · rw [underWay, errand]
        rfl
    | closing runs reports _ errand written few within =>
      refine ⟨runs, reports, [], ?_, idle ?_ within, few, List.nil_prefix⟩
      · exact written.trans (List.append_nil _).symm
      · rw [underWay, errand]
        rfl
    | gone runs reports closings _ errand written few last within =>
      refine ⟨runs, reports, closings, written, idle ?_ within, few, last⟩
      rw [underWay, errand]
      rfl

/-- As long as no packet has been refused, all data that a connection was given is written back,
under way or waiting. -/
theorem Honest.complete (honest : view.Honest) (listed : view.listed = true)
    (echoing : ∀ request, view.errand = some request → ∃ data, request = .echo data)
    (fine : ∀ one ∈ view.given, one.2 = false) :
    ∃ runs, view.written = OutputPipe.ofKind .data runs ∧
      runs.flatten ++ view.underWay ++ view.jobs.flatMap EchoRequest.bytes =
        view.given.flatMap fun one => one.1.bytes := by
  obtain ⟨runs, live⟩ : ∃ runs, view.Live runs := by
    refine honest.resolve_right fun settled => ?_
    cases settled with
    | reporting _ _ _ errand =>
      obtain ⟨data, same⟩ := echoing _ errand
      cases same
    | closing _ _ away | gone _ _ _ away =>
      rw [listed] at away
      cases away
  refine ⟨runs, live.written, ?_⟩
  rw [← heeded_fine fine]
  refine (live.sums.resolve_right fun marked => ?_).sum
  obtain ⟨one, member, refused⟩ := marked.lost
  rw [fine one member] at refused
  cases refused

end EchoView

end PipeBus

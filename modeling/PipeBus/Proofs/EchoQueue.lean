import PipeBus.Echo.Basic
import PipeBus.Proofs.Intake
import PipeBus.Proofs.Operations

/-! What the packets of a connection ask of the echo worker, and how they are queued. While no job
is refused, the queue grows by just what the packets ask for, in their order. -/

namespace PipeBus

/-- What a worker is asked for by something that is heard. -/
def Heard.request? : Heard → Option EchoRequest
  | .data bytes => if bytes.isEmpty then none else some (.echo bytes)
  | .metadata bytes =>
    some (.fail (if bytes.length < Echo.tagLength then Echo.malformedCommand
      else Echo.unknownCommand))
  | .eof => some .finish

/-- What a worker is asked for by pieces that have been delivered. -/
def Piece.requests (pieces : List Piece) : List EchoRequest :=
  (pieces.flatMap Piece.heard).filterMap Heard.request?

namespace OutputPipe

/-- The pieces of a pipe that has taken data and may have been closed. -/
def sent (runs : List Bytes) (ended : Bool) : List Piece :=
  ofKind .data runs ++ if ended then [closing] else []

theorem sent_append (runs more : List Bytes) :
    sent (runs ++ more) false = sent runs false ++ ofKind .data more := by
  simp [sent, ofKind]

theorem sent_close (runs : List Bytes) : sent runs true = sent runs false ++ [closing] := by
  simp [sent]

theorem closing_mem_sent (runs : List Bytes) : closing ∈ sent runs true := by
  simp [sent]

theorem kind_of_mem_ofKind {kind : PacketKind} {runs : List Bytes} {piece : Piece}
    (member : piece ∈ ofKind kind runs) : piece.kind = kind ∧ piece.data ∈ runs := by
  obtain ⟨run, inside, rfl⟩ := List.mem_map.mp member
  exact ⟨rfl, inside⟩

theorem opens_of_mem_sent {runs : List Bytes} {piece : Piece} (member : piece ∈ sent runs false) :
    piece.kind ≠ .close := by
  have inside : piece ∈ ofKind .data runs := by simpa [sent] using member
  rw [(kind_of_mem_ofKind inside).1]
  decide

theorem filled_of_mem_sent {runs : List Bytes} {ended : Bool} (filled : ∀ run ∈ runs, run ≠ [])
    {piece : Piece} (member : piece ∈ sent runs ended) (opens : piece.kind ≠ .close) :
    piece.data ≠ [] := by
  rcases List.mem_append.mp member with inside | last
  · exact filled _ (kind_of_mem_ofKind inside).2
  · cases ended with
    | false => cases last
    | true =>
      rw [List.mem_singleton.mp last] at opens
      exact absurd rfl opens

theorem heard_sent (runs : List Bytes) (ended : Bool) :
    (sent runs ended).flatMap Piece.heard =
      runs.map Heard.data ++ if ended then [.data [], .eof] else [] := by
  have plain : (ofKind .data runs).flatMap Piece.heard = runs.map Heard.data := by
    induction runs with
    | nil => rfl
    | cons run runs ih => simpa [ofKind, Piece.heard] using ih
  rw [sent, List.flatMap_append, plain]
  cases ended <;> rfl

end OutputPipe

namespace Echo

/-- Requests to write data back, and then to close the connection. -/
def asked (runs : List Bytes) (ended : Bool) : List EchoRequest :=
  runs.map .echo ++ if ended then [.finish] else []

theorem asked_append (runs : List Bytes) (run : Bytes) :
    asked (runs ++ [run]) false = asked runs false ++ [.echo run] := by
  simp [asked]

theorem asked_close (runs : List Bytes) : asked runs true = asked runs false ++ [.finish] := by
  simp [asked]

/-- Every packet of a pipe that has data asks to have it written back. -/
theorem requests_sent {runs : List Bytes} (filled : ∀ run ∈ runs, run ≠ []) (ended : Bool) :
    Piece.requests (OutputPipe.sent runs ended) = asked runs ended := by
  have plain : (runs.map Heard.data).filterMap Heard.request? = runs.map .echo := by
    induction runs with
    | nil => rfl
    | cons run runs ih =>
      obtain ⟨front, others⟩ := List.forall_mem_cons.mp filled
      simp [Heard.request?, front, ih others]
  rw [Piece.requests, OutputPipe.heard_sent, List.filterMap_append, plain, asked]
  cases ended <;> rfl

theorem requests_prefix {before after : List Piece} (grows : before <+: after) :
    Piece.requests before <+: Piece.requests after := by
  obtain ⟨more, rfl⟩ := grows
  rw [Piece.requests, Piece.requests, List.flatMap_append, List.filterMap_append]
  exact List.prefix_append ..

theorem asked_ends {echoes runs : List Bytes} {queue : List EchoRequest} {ended : Bool}
    (within : asked echoes true ++ queue <+: asked runs ended) :
    ended = true ∧ echoes = runs ∧ queue = [] := by
  induction echoes generalizing runs with
  | nil =>
    cases runs with
    | nil =>
      cases ended with
      | false => simp [asked] at within
      | true => simpa [asked] using within
    | cons run runs => simp [asked] at within
  | cons echo echoes ih =>
    cases runs with
    | nil => cases ended <;> simp [asked] at within
    | cons run runs =>
      have split : echo = run ∧ asked echoes true ++ queue <+: asked runs ended := by
        simpa [asked] using within
      obtain ⟨last, same, empty⟩ := ih split.2
      exact ⟨last, by rw [split.1, same], empty⟩

theorem mem_asked {runs : List Bytes} {ended : Bool} {request : EchoRequest}
    (member : request ∈ asked runs ended) :
    (∃ run ∈ runs, request = .echo run) ∨ request = .finish := by
  rcases List.mem_append.mp member with inside | last
  · obtain ⟨run, found, rfl⟩ := List.mem_map.mp inside
    exact .inl ⟨run, found, rfl⟩
  · cases ended with
    | false => cases last
    | true => exact .inr (List.mem_singleton.mp last)

theorem closes_of_finish {pieces : List Piece} (member : EchoRequest.finish ∈ Piece.requests pieces) :
    ∃ piece ∈ pieces, piece.kind = .close := by
  obtain ⟨heard, inside, asks⟩ := List.mem_filterMap.mp member
  obtain ⟨⟨kind, data⟩, found, told⟩ := List.mem_flatMap.mp inside
  refine ⟨⟨kind, data⟩, found, ?_⟩
  cases kind with
  | close => rfl
  | data =>
    rw [List.mem_singleton.mp told, Heard.request?] at asks
    split at asks <;> cases asks
  | metadata =>
    rw [List.mem_singleton.mp told] at asks
    cases asks

/-- The service with more jobs of a connection in its queue. -/
def queued (echo : Echo) (id : Nat) (requests : List EchoRequest) : Echo :=
  { echo with
    worker := { echo.worker with waiting := echo.worker.waiting ++ requests.map (EchoJob.mk id) } }

variable {echo : Echo} {id : Nat}

theorem request?_eq (delivery : Delivery) : request? delivery = delivery.heard.request? := by
  cases delivery <;> rfl

theorem overruns_markOverrun (echo : Echo) (id : Nat) :
    echo.overruns <+: (echo.markOverrun id).overruns ∧ (echo.markOverrun id).overruns ≠ [] := by
  unfold markOverrun
  split
  · rename_i marked
    refine ⟨List.prefix_refl _, ?_⟩
    intro none
    rw [none] at marked
    cases marked
  · exact ⟨List.prefix_append .., List.append_ne_nil_of_right_ne_nil _ (List.cons_ne_nil _ _)⟩

/-- A packet is queued as a job, unless its connection is marked as overrun. -/
theorem tell_cases (delivery : Delivery) (echo : Echo) :
    echo.tell id delivery = echo.queued id (request? delivery).toList ∨
      echo.tell id delivery = echo.markOverrun id := by
  unfold tell
  cases asks : request? delivery with
  | none => left; simp [queued]
  | some request =>
    simp only [defer, Worker.run?]
    split
    · rename_i worker accepted
      split at accepted
      · cases accepted
        exact .inl rfl
      · cases accepted
    · exact .inr rfl

theorem overruns_tell (delivery : Delivery) (echo : Echo) :
    echo.overruns <+: (echo.tell id delivery).overruns := by
  rcases tell_cases delivery echo with queued | marked
  · rw [queued]
    exact List.prefix_refl _
  · rw [marked]
    exact (overruns_markOverrun echo id).1

theorem overruns_tellAll (deliveries : List Delivery) (echo : Echo) :
    echo.overruns <+: (tellAll tell id deliveries echo).overruns := by
  induction deliveries generalizing echo with
  | nil => exact List.prefix_refl _
  | cons delivery rest ih => exact (overruns_tell delivery echo).trans (ih _)

/-- While no connection is marked, everything that the packets ask for is queued. -/
theorem tellAll_kept {deliveries : List Delivery}
    (kept : (tellAll tell id deliveries echo).overruns = []) :
    tellAll tell id deliveries echo =
      echo.queued id ((deliveries.map Delivery.heard).filterMap Heard.request?) := by
  induction deliveries generalizing echo with
  | nil => simp [tellAll, queued]
  | cons delivery rest ih =>
    have first : echo.tell id delivery = echo.queued id (request? delivery).toList := by
      rcases tell_cases delivery echo with queued | marked
      · exact queued
      · have unmarked := List.prefix_nil.mp (kept ▸ overruns_tellAll rest (echo.tell id delivery))
        rw [marked] at unmarked
        exact absurd unmarked (overruns_markOverrun echo id).2
    have later : tellAll tell id rest (echo.tell id delivery) = _ := ih kept
    rw [tellAll, List.foldl_cons]
    apply later.trans
    rw [first, request?_eq, List.map_cons, List.filterMap_cons]
    cases delivery.heard.request? <;> simp [queued]

end Echo

end PipeBus

import PipeBus.Proofs.Chunks
import PipeBus.Proofs.EchoOpening
import PipeBus.Proofs.EchoWork

/-! The round trip. However the moves of client, server and the frames between them follow one
another, a payload that the client has streamed comes back to it whole. -/

namespace PipeBus

namespace Delivery

variable {log : List Delivery} {runs : List Bytes}

theorem flatMap_bytes (heard : log.map Delivery.heard = runs.map Heard.data ++ [.data [], .eof]) :
    log.flatMap bytes = runs.flatten := by
  have read : (log.map Delivery.heard).flatMap Heard.bytes = log.flatMap bytes := List.flatMap_map ..
  rw [← read, heard]
  simp [Heard.bytes, List.flatMap_map]

theorem metadata_not_mem
    (heard : log.map Delivery.heard = runs.map Heard.data ++ [.data [], .eof]) (packet : Packet) :
    .metadata packet ∉ log := by
  intro member
  have inside := List.mem_map_of_mem (f := Delivery.heard) member
  rw [heard] at inside
  simp [Delivery.heard] at inside

theorem ends_once (heard : log.map Delivery.heard = runs.map Heard.data ++ [.data [], .eof]) :
    ∃ before, log = before ++ [.eof] ∧ .eof ∉ before := by
  have last : log.map Delivery.heard = (runs.map Heard.data ++ [.data []]) ++ [.eof] := by
    rw [heard, List.append_assoc]
    rfl
  obtain ⟨before, final, rfl, front, closes⟩ := List.map_eq_append_iff.mp last
  obtain ⟨delivery, rfl, ends⟩ := List.map_eq_singleton_iff.mp closes
  refine ⟨before, ?_, fun member => ?_⟩
  · cases delivery with
    | eof => rfl
    | data | metadata => cases ends
  · have inside := List.mem_map_of_mem (f := Delivery.heard) member
    rw [front] at inside
    simp [Delivery.heard] at inside

end Delivery

namespace EchoTrial

/-- What is left of a trial when all has gone well. -/
structure RoundTrip (payload : Bytes) (trial : EchoTrial) : Prop where
  returned : trial.client.rest.log.flatMap Delivery.bytes = payload
  plain : ∀ packet, .metadata packet ∉ trial.client.rest.log
  /-- The end is told once, after everything else. -/
  ended : ∃ before, trial.client.rest.log = before ++ [.eof] ∧ .eof ∉ before
  echoed : trial.server.rest.echoed = payload.length
  connections : trial.server.rest.connections = []
  inputs : trial.server.node.registry.inputs.size = 0
  outputs : trial.server.node.registry.outputs.size = 0

variable {settings : Settings} {payload : Bytes} {size : Nat} {trial later : EchoTrial}
  {link : Link} {chunks : List Bytes} {ledger : Ledger}

/-- When all is done, the worker has written back what the client has written, and has closed its
pipe. -/
theorem Sound.finished (sound : Sound link chunks ledger trial)
    (filled : ∀ chunk ∈ chunks, chunk ≠ []) (finished : trial.Finished) :
    ledger.worker = .closed ∧ ledger.echoes = runs ledger.written := by
  obtain ⟨queue, waiting, account⟩ := sound.queue
  obtain rfl : queue = [] := List.map_eq_nil_iff.mp (waiting.symm.trans finished.drained)
  have serves := sound.forth
  rw [finished.closed] at serves
  have everything := serves.ended.1
  have asked : Echo.asked (runs ledger.written) true =
      Echo.asked ledger.echoes ledger.worker.ends ++ [] := by
    rw [← account, everything]
    exact (Echo.requests_sent (sound.filled_written filled) true).symm
  -- The client's close was the last request, and the worker has nothing left to do.
  have same : ledger.worker.ends = true ∧ runs ledger.written = ledger.echoes := by
    have within : Echo.asked (runs ledger.written) true ++ [] <+:
        Echo.asked ledger.echoes ledger.worker.ends := by
      simp [asked]
    obtain ⟨ends, same, _⟩ := Echo.asked_ends within
    exact ⟨ends, same⟩
  refine ⟨?_, same.2.symm⟩
  have ends := same.1
  have works := sound.works
  generalize ledger.worker = worker at works ends ⊢
  cases works with
  | resting => cases ends
  | echoing => cases ends
  | closing _ task => cases finished.resting.symm.trans task
  | closed => rfl

/-- Client and server are connected as a simulation connects them. The client streams a payload in
chunks, and closes its pipe; the server writes back all it is given. Whatever the order of their
moves and whichever frames and acknowledgements are lost, when all calls have ended well the whole
payload has come back, and the server has let go of everything. -/
theorem round_trip {moves : List Move} (connected : connect? settings payload size = some trial)
    (ran : trial.run? moves = some later) (finished : later.Finished) :
    RoundTrip payload later := by
  have filled : ∀ chunk ∈ payload.chunks size, chunk ≠ [] := fun chunk member =>
    (Bytes.length_of_mem_chunks member).1
  obtain ⟨link, first, sound⟩ := connect_sound connected
  obtain ⟨ledger, sound⟩ := sound.run moves filled ran
  obtain ⟨closed, echoes⟩ := sound.finished filled finished
  have written : ledger.written.flatten = payload := by
    have split := sound.split
    rw [sound.ended (by rw [finished.closed]; rfl), List.append_nil] at split
    rw [split, Bytes.flatten_chunks]
  have streamed : ledger.echoes.flatten = payload := by rw [echoes, flatten_runs, written]
  have forth := sound.forth
  have back := sound.back
  have works := sound.works
  rw [finished.closed] at forth
  rw [closed] at back works
  have heard : later.client.rest.log.map Delivery.heard =
      (runs ledger.echoes).map Heard.data ++ [.data [], .eof] := by
    rw [sound.log, back.ended.1]
    exact OutputPipe.heard_sent (runs ledger.echoes) true
  cases works with
  | closed task listed echoed =>
    exact {
      returned := by rw [Delivery.flatMap_bytes heard, flatten_runs, streamed]
      plain := Delivery.metadata_not_mem heard
      ended := Delivery.ends_once heard
      echoed := by rw [echoed, streamed]
      connections := listed
      inputs := by
        rw [sound.inputs, forth.ended.1]
        apply Nat.sub_eq_zero_of_le
        apply List.countP_pos_iff.mpr
        exact ⟨OutputPipe.closing, OutputPipe.closing_mem_sent _, rfl⟩
      outputs := back.ended.2 }

/-- A frame is lost in either direction, and so is the acknowledgement of a frame that then comes
twice. -/
def troubled : List Move :=
  [.start, .advance, .arriveForth, .answerForth, .advance, .start, .advance, .loseForth, .expire,
    .advance, .arriveForth, .work, .answerForth, .advance, .work, .loseBack, .lapse, .work,
    .arriveBack, .answerBack, .work, .work, .work, .arriveBack, .answerBack, .work, .start,
    .advance, .arriveForth, .work, .work, .arriveBack, .lapse, .work, .arriveBack, .answerBack,
    .work, .answerForth, .advance]

/-- Three bytes come back in spite of the losses. -/
theorem round_trip_troubled :
    ∃ trial later, connect? {} [1, 2, 3] 2 = some trial ∧ trial.run? troubled = some later ∧
      later.Finished ∧ RoundTrip [1, 2, 3] later := by
  have joins : (connect? {} [1, 2, 3] 2).isSome = true := by decide +kernel
  obtain ⟨trial, connected⟩ := Option.isSome_iff_exists.mp joins
  have runs : ((connect? {} [1, 2, 3] 2).bind fun trial =>
      (trial.run? troubled).filter fun later => later.Finished).isSome = true := by decide +kernel
  rw [connected, Option.bind_some] at runs
  obtain ⟨later, found⟩ := Option.isSome_iff_exists.mp runs
  obtain ⟨ran, finished⟩ := Option.filter_eq_some_iff.mp found
  have ends : later.Finished := of_decide_eq_true finished
  exact ⟨trial, later, connected, ran, ends, round_trip connected ran ends⟩

end EchoTrial

end PipeBus

import PipeBus.Proofs.Sifting

/-! What a stream has taken of the frames that are written to it. A stream takes a part of what it
is given, takes nothing, or fails; after a part, and after a fault that is only passing, the writer
goes on behind the last byte that was taken. Main statement: whatever a stream answers, every call
gives it bytes of the frame from the first on, each once, and its result says how far that went;
when all calls succeed, a reader finds these frames in what was taken (`Outlet.writes_in_turn`). -/

namespace PipeBus

/-- Faults after which a call is made again. -/
inductive Fault.Passing : Fault → Prop where
  | interrupted : Passing .interrupted
  | wouldBlock : Passing .wouldBlock

theorem Fault.isTransient_iff (fault : Fault) : fault.isTransient = true ↔ fault.Passing := by
  constructor
  · intro transient
    rcases of_decide_eq_true transient with rfl | rfl
    · exact .interrupted
    · exact .wouldBlock
  · rintro (_ | _) <;> rfl

namespace WriteReply

/-- Answers after which a writer goes on. -/
inductive Onward : WriteReply → Prop where
  | accept {limit : Nat} (some : 0 < limit) : Onward (.accept limit)
  | fault {fault : Fault} (passing : fault.Passing) : Onward (.fault fault)

/-- How many bytes a stream that is given enough takes with an answer. -/
def taken : WriteReply → Nat
  | .accept limit => limit
  | .fault _ => 0

end WriteReply

namespace Outlet

/-- How many bytes a stream that is given enough takes with its answers. -/
def taken : List WriteReply → Nat
  | [] => 0
  | reply :: replies => reply.taken + taken replies

/-- What becomes of bytes that are written: `replies` are the answers that were used up. -/
inductive Takes (before : Outlet) (bytes : Bytes) : Except FrameError Unit → Outlet → Prop where
  | whole {after : Outlet} (replies : List WriteReply)
      (script : before.writes = replies ++ after.writes) (onward : ∀ reply ∈ replies, reply.Onward)
      (enough : bytes.length ≤ taken replies ∨ after.writes = [])
      (accepted : after.accepted = before.accepted ++ bytes)
      (flushes : after.flushes = before.flushes) : Takes before bytes (.ok ()) after
  /-- The stream takes nothing although bytes are left. -/
  | closed {after : Outlet} (replies : List WriteReply)
      (script : before.writes = replies ++ .accept 0 :: after.writes)
      (onward : ∀ reply ∈ replies, reply.Onward) (short : taken replies < bytes.length)
      (accepted : after.accepted = before.accepted ++ bytes.take (taken replies))
      (flushes : after.flushes = before.flushes) :
      Takes before bytes (.error .connectionClosed) after
  /-- The first fault that is not passing is reported. -/
  | failed {after : Outlet} (replies : List WriteReply) {fault : Fault}
      (script : before.writes = replies ++ .fault fault :: after.writes)
      (onward : ∀ reply ∈ replies, reply.Onward) (lasting : ¬ fault.Passing)
      (short : taken replies < bytes.length)
      (accepted : after.accepted = before.accepted ++ bytes.take (taken replies))
      (flushes : after.flushes = before.flushes) : Takes before bytes (.error (.stream fault)) after

/-- What becomes of a flush: `faults` are those after which it was tried again. -/
inductive Flushes (before : Outlet) : Except FrameError Unit → Outlet → Prop where
  | done {after : Outlet} (faults : List Fault)
      (script : before.flushes = faults.map some ++ none :: after.flushes ∨
        before.flushes = faults.map some ∧ after.flushes = [])
      (passing : ∀ fault ∈ faults, fault.Passing) (accepted : after.accepted = before.accepted)
      (writes : after.writes = before.writes) : Flushes before (.ok ()) after
  | failed {after : Outlet} (faults : List Fault) {fault : Fault}
      (script : before.flushes = faults.map some ++ some fault :: after.flushes)
      (passing : ∀ fault ∈ faults, fault.Passing) (lasting : ¬ fault.Passing)
      (accepted : after.accepted = before.accepted) (writes : after.writes = before.writes) :
      Flushes before (.error (.stream fault)) after

variable {before after : Outlet} {bytes : Bytes} {result : Except FrameError Unit}

theorem Takes.behind (called : Outlet) {reply : WriteReply} (onward : reply.Onward)
    (script : before.writes = reply :: called.writes)
    (accepted : called.accepted = before.accepted ++ bytes.take reply.taken)
    (flushes : called.flushes = before.flushes)
    (takes : called.Takes (bytes.drop reply.taken) result after) :
    before.Takes bytes result after := by
  have front {replies : List WriteReply} (rest : ∀ reply ∈ replies, reply.Onward) :
      ∀ one ∈ reply :: replies, one.Onward := List.forall_mem_cons.mpr ⟨onward, rest⟩
  have counts (replies : List WriteReply) :
      taken (reply :: replies) = reply.taken + taken replies := rfl
  cases takes with
  | whole replies further rest enough more same =>
    refine .whole (reply :: replies) ?_ (front rest) ?_ ?_ (same.trans flushes)
    · rw [script, further, List.cons_append]
    · rw [List.length_drop] at enough
      rw [counts]
      exact enough.imp_left fun fits => by omega
    · rw [more, accepted, List.append_assoc, List.take_append_drop]
  | closed replies further rest short more same =>
    rw [List.length_drop] at short
    refine .closed (reply :: replies) ?_ (front rest) ?_ ?_ (same.trans flushes)
    · rw [script, further, List.cons_append]
    · rw [counts]
      omega
    · rw [more, accepted, List.append_assoc, counts, List.take_add]
  | failed replies further rest lasting short more same =>
    rw [List.length_drop] at short
    refine .failed (reply :: replies) ?_ (front rest) lasting ?_ ?_ (same.trans flushes)
    · rw [script, further, List.cons_append]
    · rw [counts]
      omega
    · rw [more, accepted, List.append_assoc, counts, List.take_add]

theorem Takes.accepted_ok (takes : before.Takes bytes (.ok ()) after) :
    after.accepted = before.accepted ++ bytes := by
  cases takes with
  | whole _ _ _ _ accepted _ => exact accepted

theorem takes_nil (before : Outlet) : before.Takes [] (.ok ()) before :=
  .whole [] rfl (List.forall_mem_nil _) (.inl (Nat.le_refl _))
    (List.append_nil _).symm rfl

theorem takes_writeWith {script : List WriteReply} (outlet : Outlet) (bytes : Bytes)
    (coming : outlet.writes = script) :
    outlet.Takes bytes (outlet.writeWith bytes script).1 (outlet.writeWith bytes script).2 := by
  induction script generalizing outlet bytes with
  | nil =>
    cases bytes with
    | nil => exact takes_nil outlet
    | cons first rest =>
      exact .whole [] coming (List.forall_mem_nil _) (.inr rfl) rfl rfl
  | cons reply rest ih =>
    cases bytes with
    | nil => exact takes_nil outlet
    | cons first others =>
      have waiting : taken [] < (first :: others).length := Nat.succ_pos _
      have nothing : outlet.accepted = outlet.accepted ++ (first :: others).take (taken []) :=
        (List.append_nil _).symm
      cases reply with
      | fault fault =>
        rw [writeWith, if_neg (by simp)]
        dsimp only
        split
        · rename_i transient
          have passing := (fault.isTransient_iff).mp transient
          exact .behind { outlet with writes := rest, writeCalls := outlet.writeCalls + 1 }
            (.fault passing) coming nothing rfl (ih _ _ rfl)
        · rename_i lasting
          rw [fault.isTransient_iff] at lasting
          exact .failed [] coming (List.forall_mem_nil _) lasting waiting nothing rfl
      | accept limit =>
        cases limit with
        | zero => exact .closed [] coming (List.forall_mem_nil _) waiting nothing rfl
        | succ limit =>
          let called : Outlet := { outlet with
            writes := rest
            writeCalls := outlet.writeCalls + 1
            accepted := outlet.accepted ++ (first :: others).take (limit + 1) }
          exact .behind called (.accept (Nat.succ_pos limit)) coming rfl rfl (ih _ _ rfl)

theorem takes_write (outlet : Outlet) (bytes : Bytes) :
    outlet.Takes bytes (outlet.write bytes).1 (outlet.write bytes).2 :=
  takes_writeWith outlet bytes rfl

theorem Flushes.accepted (flushes : before.Flushes result after) :
    after.accepted = before.accepted := by
  cases flushes with
  | done _ _ _ accepted | failed _ _ _ _ accepted => exact accepted

theorem Flushes.again (called : Outlet) {fault : Fault} (passing : fault.Passing)
    (script : before.flushes = some fault :: called.flushes)
    (accepted : called.accepted = before.accepted) (writes : called.writes = before.writes)
    (flushes : called.Flushes result after) : before.Flushes result after := by
  have front {faults : List Fault} (rest : ∀ fault ∈ faults, fault.Passing) :
      ∀ one ∈ fault :: faults, one.Passing := List.forall_mem_cons.mpr ⟨passing, rest⟩
  cases flushes with
  | done faults further rest more same =>
    refine .done (fault :: faults) ?_ (front rest) (more.trans accepted)
      (same.trans writes)
    rw [script]
    rcases further with stopped | ⟨all, last⟩
    · exact .inl (congrArg _ stopped)
    · exact .inr ⟨congrArg _ all, last⟩
  | failed faults further rest lasting more same =>
    refine .failed (fault :: faults) ?_ (front rest) lasting (more.trans accepted)
      (same.trans writes)
    rw [script, further]
    rfl

theorem flushes_flushWith {script : List (Option Fault)} (outlet : Outlet)
    (coming : outlet.flushes = script) :
    outlet.Flushes (outlet.flushWith script).1 (outlet.flushWith script).2 := by
  induction script generalizing outlet with
  | nil => exact .done [] (.inr ⟨coming, rfl⟩) (List.forall_mem_nil _) rfl rfl
  | cons answer rest ih =>
    cases answer with
    | none => exact .done [] (.inl coming) (List.forall_mem_nil _) rfl rfl
    | some fault =>
      rw [flushWith]
      split
      · rename_i transient
        exact .again { outlet with flushes := rest, flushCalls := outlet.flushCalls + 1 }
          ((fault.isTransient_iff).mp transient) coming rfl rfl (ih _ rfl)
      · rename_i lasting
        rw [fault.isTransient_iff] at lasting
        exact .failed [] coming (List.forall_mem_nil _) lasting rfl rfl

theorem flushes_flush (outlet : Outlet) : outlet.Flushes outlet.flush.1 outlet.flush.2 :=
  flushes_flushWith outlet rfl

/-- One call to write a frame, with the stream before and after it. -/
structure Writing where
  frame : Frame
  before : Outlet
  result : Except FrameError Unit
  after : Outlet

/-- What one call comes to. The bytes are written first, and flushed when all of them were taken. -/
inductive Writing.Comes : Writing → Prop where
  | written {frame : Frame} {before middle after : Outlet}
      (takes : before.Takes frame.toBytes (.ok ()) middle)
      (flushes : middle.Flushes (.ok ()) after) : Comes ⟨frame, before, .ok (), after⟩
  | unflushed {frame : Frame} {before middle after : Outlet} {error : FrameError}
      (takes : before.Takes frame.toBytes (.ok ()) middle)
      (flushes : middle.Flushes (.error error) after) : Comes ⟨frame, before, .error error, after⟩
  | broken {frame : Frame} {before after : Outlet} {error : FrameError}
      (takes : before.Takes frame.toBytes (.error error) after) :
      Comes ⟨frame, before, .error error, after⟩

namespace Writing

/-- The stream takes bytes of the frame from the first on, each once, and the result says how far
that went. -/
structure InTurn (writing : Writing) : Prop where
  accepted : ∃ sent, sent <+: writing.frame.toBytes ∧
    writing.after.accepted = writing.before.accepted ++ sent
  comes : writing.Comes

theorem comes_writeFrame (outlet : Outlet) (frame : Frame) :
    Comes ⟨frame, outlet, (outlet.writeFrame frame).1, (outlet.writeFrame frame).2⟩ := by
  have takes := outlet.takes_write frame.toBytes
  rw [writeFrame]
  generalize outlet.write frame.toBytes = written at takes ⊢
  obtain ⟨_ | ⟨⟨⟩⟩, middle⟩ := written
  · exact .broken takes
  · have flushes := middle.flushes_flush
    dsimp only at takes ⊢
    generalize middle.flush = flushed at flushes ⊢
    obtain ⟨_ | ⟨⟨⟩⟩, last⟩ := flushed
    · exact .unflushed takes flushes
    · exact .written takes flushes

variable {writing : Writing}

theorem Comes.accepted_ok (comes : writing.Comes) (well : writing.result = .ok ()) :
    writing.after.accepted = writing.before.accepted ++ writing.frame.toBytes := by
  cases comes with
  | written takes flushes => exact flushes.accepted.trans takes.accepted_ok
  | unflushed | broken => cases well

theorem Comes.inTurn (comes : writing.Comes) : writing.InTurn := by
  refine ⟨?_, comes⟩
  cases comes with
  | written takes flushes | unflushed takes flushes =>
    exact ⟨_, List.prefix_refl _, flushes.accepted.trans takes.accepted_ok⟩
  | broken takes =>
    cases takes with
    | closed _ _ _ _ accepted | failed _ _ _ _ _ accepted =>
      exact ⟨_, List.take_prefix .., accepted⟩

end Writing

def writings : List Frame → Outlet → List Writing × Outlet
  | [], outlet => ([], outlet)
  | frame :: rest, outlet =>
    let (result, after) := outlet.writeFrame frame
    let (others, last) := writings rest after
    (⟨frame, outlet, result, after⟩ :: others, last)

theorem inTurn_of_mem_writings {frames : List Frame} {outlet : Outlet} {writing : Writing}
    (member : writing ∈ (writings frames outlet).1) : writing.InTurn := by
  induction frames generalizing outlet with
  | nil => cases member
  | cons frame rest ih =>
    rcases List.mem_cons.mp member with rfl | later
    · exact (Writing.comes_writeFrame outlet frame).inTurn
    · exact ih later

/-- Calls that succeed bring the frames end to end. -/
theorem accepted_writings {frames : List Frame} {outlet : Outlet}
    (well : ∀ writing ∈ (writings frames outlet).1, writing.result = .ok ()) :
    (writings frames outlet).2.accepted = outlet.accepted ++ frames.flatMap Frame.toBytes := by
  induction frames generalizing outlet with
  | nil => exact (List.append_nil _).symm
  | cons frame rest ih =>
    obtain ⟨first, others⟩ := List.forall_mem_cons.mp well
    have front := (Writing.comes_writeFrame outlet frame).accepted_ok first
    rw [List.flatMap_cons, ← List.append_assoc, ← front]
    exact ih others

end Outlet

namespace FrameReader

/-- A reader with frames in its buffer whose checksums are right returns them, whatever it does
about what is no frame. -/
theorem returns_unharmed {frames : List Frame} (skipInvalid : Bool)
    (fine : ∀ frame ∈ frames, frame.crc = frame.computeCrc ∧ frame.payload.length ≤ maxPayload) :
    ({ source := [], buffer := frames.flatMap Frame.toBytes, skipInvalid } : FrameReader).Returns
      frames := by
  induction frames with
  | nil => exact returns_nil (next_result rfl rfl)
  | cons frame rest ih =>
    obtain ⟨⟨right, room⟩, others⟩ := List.forall_mem_cons.mp fine
    have turned : ({ source := [], buffer := (frame :: rest).flatMap Frame.toBytes, skipInvalid } :
        FrameReader).turn =
          (.frame frame, { source := [], buffer := rest.flatMap Frame.toBytes, skipInvalid }) := by
      simp only [turn, List.flatMap_cons, Frame.scan_toBytes room, ← right, bne_self_eq_false,
        Bool.and_false, Bool.false_eq_true, ↓reduceIte]
    exact (returns_cons (next_result turned rfl)).mpr (ih others)

end FrameReader

namespace Outlet

/-- Whatever a stream answers to the calls that write frames to it: in each call it takes bytes of
the frame from the first on, each once, and the result of the call says how far that went. When all
calls succeed, what the stream has taken meanwhile, cut into reads in any way, has a reader return
just these frames, if they are sealed and no longer than frames may be. -/
theorem writes_in_turn (outlet : Outlet) (frames : List Frame) :
    (∀ writing ∈ (outlet.writings frames).1, writing.InTurn) ∧
    ((∀ writing ∈ (outlet.writings frames).1, writing.result = .ok ()) →
      (∀ frame ∈ frames, frame.crc = frame.computeCrc ∧ frame.payload.length ≤ maxPayload) →
      ∀ (reads : List Bytes) (skipInvalid : Bool), [] ∉ reads →
        reads.flatten = (outlet.writings frames).2.accepted.drop outlet.accepted.length →
        ({ source := reads.map Supply.bytes, verifyCrc := true, skipInvalid } : FrameReader).Returns
          frames) := by
  refine ⟨fun writing member => inTurn_of_mem_writings member, ?_⟩
  intro well fine reads skipInvalid filled content count
  have split : Supply.bytes [] ∉ reads.map Supply.bytes := by simpa using filled
  rw [accepted_writings well, List.drop_left] at content
  rw [FrameReader.results_filled (Source.lasting_of_split split) (Source.faults_map_bytes reads)]
  simp only [FrameReader.filled, FrameReader.unread, List.nil_append, Source.content_map_bytes,
    content]
  exact FrameReader.returns_unharmed skipInvalid fine count

/-- A stream that takes the bytes of its frames in small parts, with faults in between. -/
def reluctant : Outlet where
  writes := [.fault .interrupted, .accept 5, .fault .wouldBlock, .accept 4, .accept 40, .accept 1]
  flushes := [some .wouldBlock, some .interrupted, none, some .interrupted]
  accepted := [9, 9]

/-- Two frames go to it, the second of which has a packet; the bytes are read in two parts. -/
theorem writes_in_turn_reluctant :
    let report : Frame := { device := 0, flags := 0, crc := 0xe139 }
    let command : Frame := { device := 5, flags := 1, crc := 0x243e, payload := [0, 2, 3, 0] }
    let written := reluctant.writings [report, command]
    let reads := [(written.2.accepted.drop 2).take 13, written.2.accepted.drop 15]
    (∀ writing ∈ written.1, writing.InTurn ∧ writing.result = .ok ()) ∧ [] ∉ reads ∧
      ({ source := reads.map Supply.bytes } : FrameReader).Returns [report, command] := by
  intro report command written reads
  obtain ⟨turns, returns⟩ := writes_in_turn reluctant [report, command]
  have well : written.1.map Writing.result = [.ok (), .ok ()] := rfl
  have succeeds (writing : Writing) (member : writing ∈ written.1) : writing.result = .ok () := by
    have inside : writing.result ∈ written.1.map Writing.result := List.mem_map_of_mem member
    rw [well] at inside
    simpa using inside
  have filled : [] ∉ reads := by decide
  exact ⟨fun writing member => ⟨turns writing member, succeeds writing member⟩, filled,
    returns succeeds (by decide) reads false filled (by decide)⟩

end Outlet

end PipeBus

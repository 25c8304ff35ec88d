import PipeBus.Proofs.Encoding
import PipeBus.Proofs.Reading
import PipeBus.Stream.Link

/-! What a reader makes of a stream in which frames are damaged. A reader that skips what is no frame
passes over a frame with a wrong checksum and goes on right behind it. Main statement: of frames laid
end to end it returns those whose checksum is right, however the stream is cut, and a link that
reads such a stream to its end keeps the first of them, as many as its inbox holds
(`FrameReader.sifts_damaged`). -/

namespace PipeBus

namespace Frame

/-- The stored checksum is that of the contents. -/
def isSound (frame : Frame) : Bool := frame.computeCrc == frame.crc

end Frame

namespace Source

theorem content_map_bytes (reads : List Bytes) :
    Source.content (reads.map Supply.bytes) = reads.flatten := by
  induction reads with
  | nil => rfl
  | cons first rest ih => rw [List.map_cons, content, ih, List.flatten_cons]

theorem faults_map_bytes (reads : List Bytes) : Source.faults (reads.map Supply.bytes) = [] := by
  induction reads with
  | nil => rfl
  | cons first rest ih => exact ih

end Source

namespace FrameReader

variable {reader later other : FrameReader} {frame : Frame} {frames : List Frame}

/-- A reader returns these frames in their order, and then nothing more, however often it is asked. -/
def Returns (reader : FrameReader) (frames : List Frame) : Prop :=
  ∀ count, reader.results (frames.length + count) =
    frames.map (fun frame => .ok (some frame)) ++ List.replicate count (.ok none)

theorem returns_congr (same : reader.next = other.next) :
    reader.Returns frames ↔ other.Returns frames := by
  simp only [Returns, results_congr same]

theorem returns_nil (ends : reader.next = (.ok none, reader)) : reader.Returns [] := by
  intro count
  rw [List.length_nil, Nat.zero_add, List.map_nil, List.nil_append]
  induction count with
  | zero => rfl
  | succ count ih => rw [results, ends, ih, List.replicate_succ]

theorem returns_cons (found : reader.next = (.ok (some frame), later)) :
    reader.Returns (frame :: frames) ↔ later.Returns frames := by
  have shift (count : Nat) : (frame :: frames).length + count = frames.length + count + 1 := by
    rw [List.length_cons]
    omega
  simp only [Returns, shift, results, found, List.map_cons, List.cons_append, List.cons.injEq,
    true_and]

/-- The first result of a reader that returns frames is the first of them. -/
theorem Returns.next_cons (returns : reader.Returns (frame :: frames)) :
    reader.next = (.ok (some frame), reader.next.2) := by
  have first := returns 0
  rw [List.length_cons, Nat.add_zero, results, List.map_cons, List.cons_append,
    List.cons.injEq] at first
  exact Prod.ext first.1 rfl

theorem Returns.next_nil (returns : reader.Returns []) : reader.next.1 = .ok none := by
  have first := returns 1
  rw [List.length_nil, Nat.zero_add, results, List.map_nil, List.nil_append, List.replicate_succ,
    List.cons.injEq] at first
  exact first.1

theorem collect_eq (reader : FrameReader) :
    reader.collect =
      match reader.next with
      | (.ok (some found), later) => (found :: later.collect.1, later.collect.2)
      | (.ok none, _) => ([], none)
      | (.error error, _) => ([], some error) := by
  fun_induction next reader with
  | case1 reader later turned ih =>
    rw [collect_of_turn turned]
    exact ih
  | case2 reader found later turned | case3 reader error later turned | case4 reader later turned =>
    rw [collect_of_turn turned]

theorem Returns.collect (returns : reader.Returns frames) : reader.collect = (frames, none) := by
  induction frames generalizing reader with
  | nil =>
    have ends := returns.next_nil
    rw [collect_eq]
    generalize reader.next = call at ends ⊢
    obtain ⟨result, later⟩ := call
    obtain rfl : result = .ok none := ends
    rfl
  | cons frame frames ih =>
    have found := returns.next_cons
    rw [collect_eq, found]
    simp only [ih ((returns_cons found).mp returns)]

/-- A skipping reader that has all of its stream in its buffer. -/
def full (buffer : Bytes) : FrameReader := { source := [], buffer, skipInvalid := true }

/-- However a stream is cut, its frames are those of the stream in one piece. -/
theorem returns_full {reads : List Bytes} (filled : [] ∉ reads) :
    ({ source := reads.map Supply.bytes, skipInvalid := true } : FrameReader).Returns frames ↔
      (full reads.flatten).Returns frames := by
  have split : Supply.bytes [] ∉ reads.map Supply.bytes := by simpa using filled
  have same (count : Nat) :
      ({ source := reads.map Supply.bytes, skipInvalid := true } : FrameReader).results count =
        (full reads.flatten).results count := by
    rw [results_filled (Source.lasting_of_split split) (Source.faults_map_bytes reads)]
    simp only [FrameReader.filled, unread, List.nil_append, Source.content_map_bytes, full]
  simp only [Returns, same]

theorem next_full_nil : (full []).next = (.ok none, full []) := by
  have turned : (full []).turn = (.finished, full []) := rfl
  exact next_result turned rfl

theorem next_full_sound (room : frame.payload.length ≤ maxPayload) (sound : frame.isSound = true)
    (rest : Bytes) : (full (frame.toBytes ++ rest)).next = (.ok (some frame), full rest) := by
  have right : (frame.computeCrc != frame.crc) = false := by simpa [Frame.isSound] using sound
  have turned : (full (frame.toBytes ++ rest)).turn = (.frame frame, full rest) := by
    simp only [turn, full, Frame.scan_toBytes room, right, Bool.and_false, Bool.false_eq_true,
      ↓reduceIte]
  exact next_result turned rfl

theorem next_full_damaged (room : frame.payload.length ≤ maxPayload)
    (damaged : frame.isSound = false) (rest : Bytes) :
    (full (frame.toBytes ++ rest)).next = (full rest).next := by
  have wrong : (frame.computeCrc != frame.crc) = true := by simpa [Frame.isSound] using damaged
  refine next_again ?_
  simp only [turn, full, Frame.scan_toBytes room, wrong, Bool.and_true, ↓reduceIte]

theorem returns_sound (room : ∀ frame ∈ frames, frame.payload.length ≤ maxPayload) :
    (full (frames.flatMap Frame.toBytes)).Returns (frames.filter Frame.isSound) := by
  induction frames with
  | nil => exact returns_nil next_full_nil
  | cons frame rest ih =>
    obtain ⟨front, others⟩ := List.forall_mem_cons.mp room
    rw [List.flatMap_cons]
    cases judged : frame.isSound with
    | true =>
      rw [List.filter_cons_of_pos judged, returns_cons (next_full_sound front judged _)]
      exact ih others
    | false =>
      have skipped := next_full_damaged front judged (rest.flatMap Frame.toBytes)
      rw [List.filter_cons_of_neg (Bool.eq_false_iff.mp judged), returns_congr skipped]
      exact ih others

end FrameReader

namespace StreamLink

variable {link : StreamLink}

/-- The frames that so many calls take off the inbox. -/
def taken : Nat → StreamLink → List (Option Frame)
  | 0, _ => []
  | count + 1, link => link.receive.1 :: taken count link.receive.2

/-- A link gives out these frames in their order, and then nothing more. -/
def Delivers (link : StreamLink) (frames : List Frame) : Prop :=
  ∀ count, link.taken (frames.length + count) =
    frames.map some ++ List.replicate count none

theorem delivers_inbox (link : StreamLink) : link.Delivers link.inbox := by
  intro count
  generalize waiting : link.inbox = frames
  induction frames generalizing link with
  | nil =>
    have empty : link.receive = (none, link) := by rw [receive, waiting]
    rw [List.length_nil, Nat.zero_add, List.map_nil, List.nil_append]
    induction count with
    | zero => rfl
    | succ count ih => rw [taken, empty, ih, List.replicate_succ]
  | cons frame rest ih =>
    have first : link.receive = (some frame, { link with inbox := rest }) := by
      rw [receive, waiting]
    rw [List.length_cons, Nat.add_right_comm, taken, first, List.map_cons, List.cons_append]
    exact congrArg _ (ih { link with inbox := rest } rfl)

/-- A frame that meets a full inbox is dropped, so that the oldest frames are kept. -/
theorem inbox_enqueued (frames : List Frame) (fits : link.inbox.length ≤ link.depth) :
    (frames.foldl enqueue link).inbox = (link.inbox ++ frames).take link.depth := by
  induction frames generalizing link with
  | nil => rw [List.foldl_nil, List.append_nil, List.take_of_length_le fits]
  | cons frame rest ih =>
    rw [List.foldl_cons]
    by_cases room : link.inbox.length < link.depth
    · have queued : link.enqueue frame = { link with inbox := link.inbox ++ [frame] } :=
        if_pos room
      have more : (link.inbox ++ [frame]).length ≤ link.depth := by
        rw [List.length_append]
        exact room
      rw [queued, ih more, List.append_assoc]
      rfl
    · have dropped : link.enqueue frame = link := if_neg room
      have fully : link.inbox.length = link.depth := Nat.le_antisymm fits (Nat.not_lt.mp room)
      rw [dropped, ih fits, ← fully, List.take_left, List.take_left]

end StreamLink

namespace FrameReader

variable {frames : List Frame} {reads : List Bytes}

/-- However frames that lie end to end are damaged, and however their bytes are cut into reads, a
reader that skips what is no frame returns those whose checksum is right, unaltered and in order,
and then nothing more. A link that reads them to the end before anybody takes a frame gives out the
first of them, as many as its inbox holds. -/
theorem sifts_damaged (room : ∀ frame ∈ frames, frame.payload.length ≤ maxPayload)
    (filled : [] ∉ reads) (content : reads.flatten = frames.flatMap Frame.toBytes)
    (outlet : Outlet) (depth : Nat) :
    let source := reads.map Supply.bytes
    let sound := frames.filter fun frame => frame.crc == frame.computeCrc
    ({ source, skipInvalid := true } : FrameReader).Returns sound ∧
    (StreamLink.start source outlet depth).readToEnd.Delivers (sound.take (max depth 1)) := by
  intro source sound
  have judged : sound = frames.filter Frame.isSound :=
    List.filter_congr fun frame _ => Bool.beq_comm
  have returns : ({ source, skipInvalid := true } : FrameReader).Returns sound := by
    rw [returns_full filled, content, judged]
    exact returns_sound room
  refine ⟨returns, ?_⟩
  have read : (StreamLink.start source outlet depth).reader.collect.1 = sound :=
    congrArg Prod.fst returns.collect
  have kept : (StreamLink.start source outlet depth).readToEnd.inbox =
      sound.take (max depth 1) := by
    rw [StreamLink.readToEnd, read]
    exact StreamLink.inbox_enqueued sound (Nat.zero_le _)
  rw [← kept]
  exact StreamLink.delivers_inbox _

/-- Two frames whose checksum is right among damaged ones; the last one is damaged as well. -/
def mixedFrames : List Frame :=
  let damaged : Frame := { device := 9, flags := 1, crc := 0x1234, payload := [0, 1, 7, 0] }
  let report : Frame := { device := 0, flags := 0, crc := 0xe139 }
  let command : Frame := { device := 5, flags := 1, crc := 0x243e, payload := [0, 2, 3, 0] }
  [damaged, report, damaged, damaged, command, damaged]

/-- Their bytes in three reads, which end inside of frames. -/
def mixedReads : List Bytes :=
  let bytes := mixedFrames.flatMap Frame.toBytes
  [bytes.take 3, (bytes.drop 3).take 40, bytes.drop 43]

theorem sifts_damaged_mixed :
    (∀ frame ∈ mixedFrames, frame.payload.length ≤ maxPayload) ∧ [] ∉ mixedReads ∧
    mixedReads.flatten = mixedFrames.flatMap Frame.toBytes ∧
    let report : Frame := { device := 0, flags := 0, crc := 0xe139 }
    let command : Frame := { device := 5, flags := 1, crc := 0x243e, payload := [0, 2, 3, 0] }
    let source := mixedReads.map Supply.bytes
    ({ source, skipInvalid := true } : FrameReader).Returns [report, command] ∧
    (StreamLink.start source {} 0).readToEnd.Delivers [report] := by
  have room : ∀ frame ∈ mixedFrames, frame.payload.length ≤ maxPayload := by decide
  have filled : [] ∉ mixedReads := by decide
  have content : mixedReads.flatten = mixedFrames.flatMap Frame.toBytes := by decide
  exact ⟨room, filled, content, sifts_damaged room filled content {} 0⟩

end FrameReader

end PipeBus

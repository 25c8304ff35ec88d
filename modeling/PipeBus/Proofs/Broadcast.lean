import PipeBus.Bus
import PipeBus.Proofs.Decoding
import PipeBus.Proofs.Packing

/-! Who gets what on a shared wire. Which endpoints are attached, which frames the fault plan loses
and what waits in every inbox can be told from what was done with the bus and what it handed out
(`Bus.told`), without the bus. Main statement: every endpoint has received, and finds in its inbox,
just the frames of the others that found room there, in the order in which they were sent, and the
counters count all frames that did not get there (`Bus.broadcasts_in_turn`). -/

namespace PipeBus

namespace Frame

variable {frame : Frame}

/-- Frames that can be made: empty ones, those that come of filling, walking and relabelling others,
and those that are read from bytes. -/
inductive Made : Frame → Prop where
  | empty (device : UInt64) (flags : UInt8) : Made (empty device flags)
  | filled {frame next : Frame} {service : UInt8} {command : UInt16} {data : Bytes}
      (made : Made frame) (pushed : frame.push? service command data = some next) : Made next
  | walked {frame next : Frame} (made : Made frame) (shifted : frame.shift? = some next) : Made next
  | relabelled {frame : Frame} (made : Made frame) (device : UInt64) (flags : UInt8)
      (crc : UInt16) : Made { frame with device, flags, crc }
  | decoded {frame : Frame} {bytes : Bytes} (found : decode bytes = .ok frame) : Made frame
  | scanned {frame : Frame} {verifyCrc : Bool} {buffer rest : Bytes}
      (found : scan verifyCrc buffer = .frame frame rest) : Made frame

/-- A payload can only grow past its capacity by the zeros behind its last packet. -/
theorem Made.length_le (made : frame.Made) : frame.payload.length ≤ maxPayload + 3 := by
  induction made with
  | empty => exact Nat.zero_le _
  | @filled frame next service command data made pushed ih =>
    unfold push? at pushed
    split at pushed
    · cases pushed
    · rename_i fits
      cases pushed
      have padded : stride data.length ≤ packetHeader + data.length + 3 := by
        unfold stride align4
        omega
      rw [List.length_append, length_packetBytes]
      unfold remaining at fits
      unfold packetHeader at *
      omega
  | walked made shifted ih => exact Nat.le_of_lt (Nat.lt_of_lt_of_le (shift?_length shifted) ih)
  | relabelled made device flags crc ih => exact ih
  | @decoded frame bytes found => exact Nat.le_add_right_of_le ((decodes bytes).room (.inl found))
  | @scanned frame verifyCrc buffer rest found =>
    have taken : (takeFrame verifyCrc buffer).1 = .ok (some frame) := by
      rw [takeFrame, found]
      rfl
    cases verifyCrc with
    | true => exact Nat.le_add_right_of_le ((decodes buffer).room (.inr (.inl taken)))
    | false => exact Nat.le_add_right_of_le ((decodes buffer).room (.inr (.inr taken)))

theorem Made.unaltered (made : frame.Made) {received : Frame}
    (arrives : decode frame.toBytes = .ok received) : received = frame := by
  by_cases room : frame.payload.length ≤ maxPayload
  · have front := decode_front room []
    rw [List.append_nil, arrives, verify] at front
    split at front
    · cases front
      rfl
    · cases front
  · -- The size field still tells the length, and no frame has one that large.
    have small : frame.payload.length < 256 := Nat.lt_of_le_of_lt made.length_le (by decide)
    have size : sizeField frame.toBytes = frame.payload.length := by
      have field := size_toBytes small []
      rwa [List.append_nil] at field
    have header : frameHeader ≤ frame.toBytes.length := by simp
    rw [decode, announced_oversized header (size ▸ Nat.not_le.mp room)] at arrives
    cases arrives

end Frame

namespace Bus

inductive Act where
  | attach
  | detach (id : Nat)
  | send (sender : Nat) (frame : Frame) (made : frame.Made)
  | receive (id : Nat)
  | loseNext (count : Nat)
  | loseEvery (count : Nat)

/-- The frame that the bus hands out, if it hands out one, and the bus afterwards. -/
def perform (bus : Bus) : Act → Option Frame × Bus
  | .attach => (none, bus.attach.2)
  | .detach id => (none, bus.detach id)
  | .send sender frame _ => (none, bus.send sender frame)
  | .receive id => bus.receive id
  | .loseNext count => (none, { bus with dropNext := count })
  | .loseEvery count => (none, { bus with dropEvery := count })

/-- What was done with a bus and what it handed out, the latest first. -/
abbrev Log := List (Act × Option Frame)

/-- The bus after all this has been done with it, the latest first. -/
def after (depth : Nat) : List Act → Bus
  | [] => { depth }
  | act :: earlier => ((after depth earlier).perform act).2

def log (depth : Nat) : List Act → Log
  | [] => []
  | act :: earlier => (act, ((after depth earlier).perform act).1) :: log depth earlier

/-! What a log says. -/

/-- How many endpoints have been attached. They are numbered in turn, from one. -/
def attached : Log → Nat
  | [] => 0
  | (.attach, _) :: earlier => attached earlier + 1
  | _ :: earlier => attached earlier

def present (id : Nat) : Log → Bool
  | [] => false
  | (.attach, _) :: earlier => present id earlier || id == attached earlier + 1
  | (.detach other, _) :: earlier => present id earlier && id != other
  | _ :: earlier => present id earlier

/-- The endpoints that are attached now. -/
def listeners (log : Log) : List Nat := (List.range' 1 (attached log)).filter (present · log)

def sent : Log → Nat
  | [] => 0
  | (.send .., _) :: earlier => sent earlier + 1
  | _ :: earlier => sent earlier

/-- How many of the next frames are to be lost. -/
def losing : Log → Nat
  | [] => 0
  | (.send .., _) :: earlier => losing earlier - 1
  | (.loseNext count, _) :: _ => count
  | _ :: earlier => losing earlier

/-- Frames with a number that this divides are to be lost; none when it is zero. -/
def period : Log → Nat
  | [] => 0
  | (.loseEvery count, _) :: _ => count
  | _ :: earlier => period earlier

/-- Whether the plan loses the frame that is sent next. -/
def Loses (log : Log) : Prop := 0 < losing log ∨ period log ≠ 0 ∧ period log ∣ sent log + 1

instance (log : Log) : Decidable (Loses log) := inferInstanceAs (Decidable (_ ∨ _ ∧ _))

def lost : Log → Nat
  | [] => 0
  | (.send .., _) :: earlier => if Loses earlier then lost earlier + 1 else lost earlier
  | _ :: earlier => lost earlier

def received (id : Nat) : Log → List Frame
  | [] => []
  | (.receive other, frame) :: earlier =>
    if other = id then received id earlier ++ frame.toList else received id earlier
  | _ :: earlier => received id earlier

/-- Whether a frame that is sent next gets as far as the inbox of an endpoint. -/
def Meets (sender : Nat) (frame : Frame) (log : Log) (id : Nat) : Prop :=
  present id log = true ∧ sender ≠ id ∧ ¬ Loses log ∧ (Frame.decode frame.toBytes).isOk = true

instance (sender : Nat) (frame : Frame) (log : Log) (id : Nat) :
    Decidable (Meets sender frame log id) := inferInstanceAs (Decidable (_ ∧ _ ∧ _ ∧ _))

/-- The frames that found room in the inbox of an endpoint. -/
def admitted (depth id : Nat) : Log → List Frame
  | [] => []
  | (.send sender frame _, _) :: earlier =>
    let before := admitted depth id earlier
    let waiting := before.drop (received id earlier).length
    if Meets sender frame earlier id ∧ waiting.length < max depth 1 then before ++ [frame]
    else before
  | _ :: earlier => admitted depth id earlier

/-- The frames that wait for an endpoint. -/
def waiting (depth id : Nat) (log : Log) : List Frame :=
  (admitted depth id log).drop (received id log).length

/-- The frames that met a full inbox, each with the endpoint that it did not get to. -/
def refused (depth : Nat) : Log → List (Frame × Nat)
  | [] => []
  | (.send sender frame _, _) :: earlier =>
    let full := (listeners earlier).filter fun id =>
      Meets sender frame earlier id ∧ ¬ (waiting depth id earlier).length < max depth 1
    refused depth earlier ++ full.map (frame, ·)
  | _ :: earlier => refused depth earlier

/-- What an endpoint has received and what waits for it is all that found room, in turn. -/
def InTurn (depth : Nat) (log : Log) : Prop :=
  ∀ id, received id log ++ waiting depth id log = admitted depth id log

/-- The bus that a log tells of. -/
def told (depth : Nat) (log : Log) : Bus where
  depth := depth
  endpoints := (listeners log).map fun id => { id, inbox := waiting depth id log }
  nextId := attached log + 1
  dropNext := losing log
  dropEvery := period log
  stats := { sent := sent log, dropped := lost log, overflows := (refused depth log).length }

variable {depth id : Nat} {log : Log} {answer : Option Frame}

/-! Endpoints. -/

theorem present_le (there : present id log = true) : 0 < id ∧ id ≤ attached log := by
  induction log with
  | nil => cases there
  | cons entry earlier ih =>
    obtain ⟨act, answer⟩ := entry
    cases act with
    | attach =>
      rw [present, Bool.or_eq_true, beq_iff_eq] at there
      rw [attached]
      rcases there with before | rfl
      · obtain ⟨least, most⟩ := ih before
        omega
      · omega
    | detach other =>
      rw [present, Bool.and_eq_true] at there
      exact ih there.1
    | send | receive | loseNext | loseEvery => exact ih there

theorem mem_listeners : id ∈ listeners log ↔ present id log = true := by
  rw [listeners, List.mem_filter, List.mem_range'_1]
  constructor
  · exact And.right
  · intro there
    obtain ⟨least, most⟩ := present_le there
    exact ⟨by omega, there⟩

/-- The inbox of an endpoint holds what its log leaves waiting for it. -/
theorem inbox?_told (depth id : Nat) (log : Log) :
    (told depth log).inbox? id =
      if present id log = true then some (waiting depth id log) else none := by
  have find : (told depth log).inbox? id =
      ((listeners log).find? (· == id)).map (waiting depth · log) := by
    rw [inbox?, told, List.find?_map, Option.map_map]
    rfl
  rw [find]
  cases found : (listeners log).find? (· == id) with
  | none =>
    have absent : ¬ present id log = true := by
      intro there
      simpa using List.find?_eq_none.mp found id (mem_listeners.mpr there)
    rw [if_neg absent]
    rfl
  | some other =>
    obtain rfl : other = id := by simpa using List.find?_some found
    have there := mem_listeners.mp (List.mem_of_find?_eq_some found)
    rw [if_pos there]
    rfl

/-! What each act does. -/

theorem receive_told_fst (depth id : Nat) (log : Log) :
    ((told depth log).receive id).1 =
      if present id log = true then (waiting depth id log).head? else none := by
  rw [receive, inbox?_told]
  split <;> rfl

theorem received_receive :
    received id ((.receive id, answer) :: log) = received id log ++ answer.toList :=
  if_pos rfl

theorem waiting_receive (depth id : Nat) (log : Log) :
    waiting depth id ((.receive id, (waiting depth id log).head?) :: log) =
      (waiting depth id log).drop 1 := by
  have same : admitted depth id ((.receive id, (waiting depth id log).head?) :: log) =
      admitted depth id log := rfl
  rw [waiting, received_receive, same, List.length_append, ← List.drop_drop, ← waiting]
  cases waiting depth id log <;> rfl

theorem received_receive_other {other : Nat} (different : other ≠ id) :
    received other ((.receive id, answer) :: log) = received other log :=
  if_neg (Ne.symm different)

theorem waiting_receive_other {other : Nat} (different : other ≠ id) :
    waiting depth other ((.receive id, answer) :: log) = waiting depth other log := by
  rw [waiting, received_receive_other different]
  rfl

/-- The bus once a frame is on the wire: it is counted, and the plan has one frame less to lose. -/
def spent (bus : Bus) : Bus :=
  { bus with dropNext := bus.dropNext - 1, stats := { bus.stats with sent := bus.stats.sent + 1 } }

variable {sender : Nat} {frame : Frame} {made : frame.Made}

theorem admitted_send (admits : Meets sender frame log id)
    (room : (waiting depth id log).length < max depth 1) :
    admitted depth id ((.send sender frame made, answer) :: log) =
      admitted depth id log ++ [frame] :=
  if_pos ⟨admits, room⟩

theorem admitted_send_refused
    (refuses : ¬ (Meets sender frame log id ∧ (waiting depth id log).length < max depth 1)) :
    admitted depth id ((.send sender frame made, answer) :: log) = admitted depth id log :=
  if_neg refuses

theorem InTurn.waiting_send (inTurn : InTurn depth log) (admits : Meets sender frame log id)
    (room : (waiting depth id log).length < max depth 1) :
    waiting depth id ((.send sender frame made, answer) :: log) =
      waiting depth id log ++ [frame] := by
  have same : received id ((.send sender frame made, answer) :: log) = received id log := rfl
  rw [waiting, same, admitted_send admits room, ← inTurn id, List.append_assoc, List.drop_left]

theorem waiting_send_refused
    (refuses : ¬ (Meets sender frame log id ∧ (waiting depth id log).length < max depth 1)) :
    waiting depth id ((.send sender frame made, answer) :: log) = waiting depth id log := by
  rw [waiting, admitted_send_refused refuses]
  rfl

theorem InTurn.receive (inTurn : InTurn depth log) (id other : Nat) :
    received other ((.receive id, ((told depth log).receive id).1) :: log) ++
        waiting depth other ((.receive id, ((told depth log).receive id).1) :: log) =
      admitted depth other log := by
  rw [receive_told_fst, ← inTurn other]
  by_cases same : other = id
  · subst same
    by_cases there : present other log = true
    · have rejoined : (waiting depth other log).head?.toList ++ (waiting depth other log).drop 1 =
          waiting depth other log := by
        cases waiting depth other log <;> rfl
      rw [if_pos there, received_receive, waiting_receive, List.append_assoc, rejoined]
    · have nothing : received other ((.receive other, none) :: log) = received other log := by
        rw [received_receive, Option.toList_none, List.append_nil]
      rw [if_neg there, waiting, nothing]
      rfl
  · rw [received_receive_other same, waiting_receive_other same]

/-- What an endpoint has received is the front of what found room in its inbox. -/
theorem InTurn.perform (inTurn : InTurn depth log) (act : Act) :
    InTurn depth ((act, ((told depth log).perform act).1) :: log) := by
  intro id
  cases act with
  | attach | detach | loseNext | loseEvery => exact inTurn id
  | send sender frame made =>
    by_cases admits : Meets sender frame log id ∧ (waiting depth id log).length < max depth 1
    · rw [inTurn.waiting_send admits.1 admits.2, admitted_send admits.1 admits.2, ← inTurn id,
        List.append_assoc]
      rfl
    · rw [waiting_send_refused admits, admitted_send_refused admits, ← inTurn id]
      rfl
  | receive other => exact inTurn.receive other id

end Bus

end PipeBus

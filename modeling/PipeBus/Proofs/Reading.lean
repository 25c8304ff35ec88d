import Mathlib.Logic.Relation
import PipeBus.Stream.Reader

/-! How a stream is read, and what is read from it. A decision about the front of a buffer stands
when more bytes come in behind it (`Frame.scan_append`), so a reader finds the same frames and the
same errors however its stream is cut. Main statement: apart from the failed reads, which are
reported once each, the results of a reader are those of one that has the whole stream in one piece
(`FrameReader.reads_alike`). -/

namespace PipeBus

namespace Source

/-- All bytes that a stream has in store. -/
def content : Source → Bytes
  | [] => []
  | .bytes content :: rest => content ++ Source.content rest
  | .fault _ :: rest => Source.content rest

/-- The failed reads that a stream has in store, but for those that are to be repeated at once. -/
def faults : Source → List Fault
  | [] => []
  | .bytes _ :: rest => faults rest
  | .fault fault :: rest => if fault = .interrupted then faults rest else fault :: faults rest

/-- A stream that has ended when a read brings nothing. -/
def Lasting : Source → Prop
  | [] => True
  | .fault _ :: rest => Lasting rest
  | .bytes content :: rest => (content = [] → rest = []) ∧ Lasting rest

theorem lasting_of_split {source : Source} (split : .bytes [] ∉ source) : source.Lasting := by
  induction source with
  | nil => trivial
  | cons supply rest ih =>
    rw [List.mem_cons, not_or] at split
    cases supply with
    | fault fault => exact ih split.2
    | bytes content =>
      exact ⟨fun empty => absurd (congrArg Supply.bytes empty.symm) split.1, ih split.2⟩

/-- What a read of a stream comes to. -/
inductive Reads (source : Source) : Except Fault Bytes → Source → Prop where
  | bytes {first : UInt8} {others : Bytes} {rest : Source}
      (content : source.content = first :: others ++ rest.content)
      (faults : source.faults = rest.faults) (lasting : rest.Lasting) :
      Reads source (.ok (first :: others)) rest
  | ended (content : source.content = []) (faults : source.faults = []) : Reads source (.ok []) []
  | fault {fault : Fault} {rest : Source} (content : source.content = rest.content)
      (faults : source.faults = if fault = .interrupted then rest.faults else fault :: rest.faults)
      (lasting : rest.Lasting) : Reads source (.error fault) rest

theorem Lasting.reads {source : Source} (lasting : source.Lasting) {limit : Nat}
    (positive : 0 < limit) : source.Reads (source.read limit).1 (source.read limit).2 := by
  unfold read
  split
  · exact .ended rfl rfl
  · exact .fault rfl rfl lasting
  · rename_i content rest
    cases content with
    | nil =>
      obtain rfl := lasting.1 rfl
      exact .ended rfl rfl
    | cons first others =>
      split
      · exact .bytes rfl rfl lasting.2
      · rename_i long
        obtain ⟨size, rfl⟩ := Nat.exists_eq_succ_of_ne_zero (Nat.ne_of_gt positive)
        refine .bytes ?_ rfl ⟨fun empty => ?_, lasting.2⟩
        · rw [Source.content, Source.content, ← List.append_assoc]
          exact congrArg (· ++ _) (List.take_append_drop (size + 1) (first :: others)).symm
        · exact absurd (List.drop_eq_nil_iff.mp empty) long

end Source

namespace Frame

/-- What a scan says when more bytes have come in behind the buffer. -/
def Scan.followed (more : Bytes) : Scan → Scan
  | .frame found rest => .frame found (rest ++ more)
  | .mismatch stored computed rest => .mismatch stored computed (rest ++ more)
  | other => other

theorem announced_append {buffer : Bytes} (header : announced buffer ≠ .incomplete)
    (more : Bytes) : announced (buffer ++ more) = announced buffer := by
  unfold announced at header ⊢
  have enough : ¬ buffer.length < frameHeader := fun short => header (if_pos short)
  have still : ¬ (buffer ++ more).length < frameHeader := by
    rw [List.length_append]
    omega
  have size : (buffer ++ more).getD 2 0 = buffer.getD 2 0 := by
    simp only [frameHeader] at enough
    rw [List.getD_eq_getElem?_getD, List.getElem?_append_left (by omega),
      List.getD_eq_getElem?_getD]
  rw [if_neg enough, if_neg still, size]

/-- A decision about the front of a buffer stands when more bytes come in. -/
theorem scan_append {verifyCrc : Bool} {buffer : Bytes}
    (decided : scan verifyCrc buffer ≠ .incomplete) (more : Bytes) :
    scan verifyCrc (buffer ++ more) = (scan verifyCrc buffer).followed more := by
  have header : announced buffer ≠ .incomplete := by
    intro none
    rw [scan, none] at decided
    exact decided rfl
  have same := announced_append header more
  unfold scan at decided ⊢
  rw [same]
  cases found : announced buffer with
  | incomplete => exact absurd found header
  | outOfRange size => rfl
  | total total =>
    rw [found] at decided
    have enough : ¬ buffer.length < total := fun short => decided (if_pos short)
    have still : ¬ (buffer ++ more).length < total := by
      rw [List.length_append]
      omega
    have inside := Nat.not_lt.mp enough
    simp only [if_neg enough, if_neg still, List.take_append_of_le_length inside,
      List.drop_append_of_le_length inside]
    split <;> rfl

end Frame

namespace FrameReader

variable {reader later : FrameReader}

theorem next_again (turned : reader.turn = (.again, later)) : reader.next = later.next := by
  rw [next]
  split <;> rename_i found <;> rw [turned] at found <;> cases found
  rfl

def Turn.result? : Turn → Option (Except FrameError (Option Frame))
  | .again => none
  | .frame found => some (.ok (some found))
  | .failed error => some (.error error)
  | .finished => some (.ok none)

theorem next_result {turn : Turn} {result : Except FrameError (Option Frame)}
    (turned : reader.turn = (turn, later)) (ends : turn.result? = some result) :
    reader.next = (result, later) := by
  rw [next]
  split <;> rename_i found <;> rw [turned] at found <;> cases found <;> cases ends <;> rfl

theorem collect_of_turn {turn : Turn} (turned : reader.turn = (turn, later)) :
    reader.collect = match turn with
      | .again => later.collect
      | .frame found => (found :: later.collect.1, later.collect.2)
      | .failed error => ([], some error)
      | .finished => ([], none) := by
  rw [collect]
  split <;> rename_i same <;> rw [turned] at same <;> cases same <;> rfl

def fault? : Except FrameError (Option Frame) → Option Fault
  | .error (.stream fault) => some fault
  | _ => none

/-- All bytes that have not been taken as frames, read or not. -/
def unread (reader : FrameReader) : Bytes := reader.buffer ++ reader.source.content

/-- The same reader when all of its stream has been read. -/
def filled (reader : FrameReader) : FrameReader :=
  { reader with source := [], buffer := reader.unread }

/-- What one round comes to, and what it comes to when all has been read before. -/
inductive Compares (reader : FrameReader) : Turn → FrameReader → Prop where
  /-- More bytes are read, or a read is to be repeated. -/
  | reads {later : FrameReader} (filled : later.filled = reader.filled)
      (faults : later.source.faults = reader.source.faults) : Compares reader .again later
  | fails {fault : Fault} {later : FrameReader} (filled : later.filled = reader.filled)
      (faults : reader.source.faults = fault :: later.source.faults)
      (other : fault ≠ .interrupted) : Compares reader (.failed (.stream fault)) later
  | decides {turn : Turn} {later : FrameReader} (turned : reader.filled.turn = (turn, later.filled))
      (faults : later.source.faults = reader.source.faults)
      (plain : turn.result?.bind fault? = none) : Compares reader turn later

/-- A round that reads: a full reader has nothing left to read in it. -/
theorem compares_fill (lasting : reader.source.Lasting)
    (scanned : Frame.scan reader.verifyCrc reader.buffer = .incomplete) :
    reader.Compares reader.fill.1 reader.fill.2 ∧ reader.fill.2.source.Lasting := by
  obtain ⟨source, buffer, verifyCrc, skipInvalid⟩ := reader
  have positive : 0 < readSize := by decide
  have reads := lasting.reads positive
  simp only [fill] at reads ⊢
  generalize source.read readSize = read at reads ⊢
  obtain ⟨result, rest⟩ := read
  cases reads with
  | bytes content faults lasting =>
    refine ⟨.reads ?_ faults.symm, lasting⟩
    simp only [filled, unread, content, List.append_assoc]
  | ended content faults =>
    have last : Frame.scan verifyCrc buffer = .incomplete := scanned
    refine ⟨.decides ?_ faults.symm ?_, trivial⟩
    · simp only [turn, filled, unread, content, Source.content, List.append_nil, last]
      rfl
    · cases buffer <;> rfl
  | @fault fault _ content faults lasting =>
    have same : filled { source := rest, buffer, verifyCrc, skipInvalid } =
        filled { source, buffer, verifyCrc, skipInvalid } := by
      simp only [filled, unread, content]
    cases fault with
    | interrupted => exact ⟨.reads same faults.symm, lasting⟩
    | _ => exact ⟨.fails same faults nofun, lasting⟩

/-- A round that finds something to decide at the front of the buffer, as a full reader does. -/
theorem turn_decided (decided : Frame.scan reader.verifyCrc reader.buffer ≠ .incomplete) :
    reader.filled.turn = (reader.turn.1, reader.turn.2.filled) ∧
      reader.turn.2.source = reader.source ∧ reader.turn.1.result?.bind fault? = none := by
  obtain ⟨source, buffer, verifyCrc, skipInvalid⟩ := reader
  have again := Frame.scan_append decided source.content
  cases scanned : Frame.scan verifyCrc buffer with
  | incomplete => exact absurd scanned decided
  | frame found rest =>
    simp only [turn, filled, unread, again, scanned]
    exact ⟨rfl, trivial, rfl⟩
  | mismatch stored computed rest =>
    simp only [turn, filled, unread, again, scanned]
    exact ⟨rfl, trivial, by cases skipInvalid <;> rfl⟩
  | outOfRange size =>
    have long := Frame.scan_outOfRange_length scanned
    simp only [turn, filled, unread, again, scanned, Frame.Scan.followed]
    cases skipInvalid with
    | false => exact ⟨rfl, rfl, rfl⟩
    | true =>
      rw [List.drop_append_of_le_length (Nat.le_trans (by decide) long)]
      exact ⟨rfl, rfl, rfl⟩

theorem compares_turn (lasting : reader.source.Lasting) :
    reader.Compares reader.turn.1 reader.turn.2 ∧ reader.turn.2.source.Lasting := by
  by_cases scanned : Frame.scan reader.verifyCrc reader.buffer = .incomplete
  · rw [turn, scanned]
    exact compares_fill lasting scanned
  · obtain ⟨turned, source, plain⟩ := turn_decided scanned
    rw [source]
    exact ⟨.decides turned (congrArg Source.faults source) plain, lasting⟩

/-- What a reader passes over without a result, if it skips what is no frame: whole frames with a
wrong checksum, and single bytes where the size is one that no frame has. -/
inductive Passes (verifyCrc skipInvalid : Bool) : Bytes → Bytes → Prop where
  | here (bytes : Bytes) : Passes verifyCrc skipInvalid bytes bytes
  | corrupt {bytes rest later : Bytes} {stored computed : UInt16} (skips : skipInvalid = true)
      (scanned : Frame.scan verifyCrc bytes = .mismatch stored computed rest)
      (passes : Passes verifyCrc skipInvalid rest later) : Passes verifyCrc skipInvalid bytes later
  | misplaced {bytes later : Bytes} {size : Nat} (skips : skipInvalid = true)
      (scanned : Frame.scan verifyCrc bytes = .outOfRange size)
      (passes : Passes verifyCrc skipInvalid (bytes.drop 1) later) :
      Passes verifyCrc skipInvalid bytes later

/-- What a reader passes over on the way from one state to another. -/
def Skips (reader later : FrameReader) : Prop :=
  later.verifyCrc = reader.verifyCrc ∧ later.skipInvalid = reader.skipInvalid ∧
    Passes reader.verifyCrc reader.skipInvalid reader.unread later.unread

/-- A round of a full reader without a result passes something over. -/
theorem Skips.of_again {last : FrameReader} (turned : reader.filled.turn = (.again, later.filled))
    (skips : later.Skips last) : reader.Skips last := by
  obtain ⟨source, buffer, verifyCrc, skipInvalid⟩ := reader
  obtain ⟨verify, skip, passes⟩ := skips
  simp only [turn, filled] at turned
  split at turned
  · -- Nothing more can be read, so the round has a result.
    simp only [fill, Source.read, Prod.mk.injEq] at turned
    split at turned <;> cases turned.1
  · cases turned
  · rename_i scanned
    cases skipInvalid with
    | false => cases turned
    | true =>
      simp only [↓reduceIte, Prod.mk.injEq, FrameReader.mk.injEq, true_and] at turned
      obtain ⟨rest, rfl, same⟩ := turned
      rw [← rest, ← same] at passes
      exact ⟨verify, skip.trans same.symm, .corrupt rfl scanned passes⟩
  · rename_i scanned
    cases skipInvalid with
    | false => cases turned
    | true =>
      simp only [↓reduceIte, Prod.mk.injEq, FrameReader.mk.injEq, true_and] at turned
      obtain ⟨rest, rfl, same⟩ := turned
      rw [← rest, ← same] at passes
      exact ⟨verify, skip.trans same.symm, .misplaced rfl scanned passes⟩

theorem Skips.of_filled {last : FrameReader} (same : later.filled = reader.filled)
    (skips : later.Skips last) : reader.Skips last := by
  obtain ⟨-, unread, verify, skip⟩ := FrameReader.mk.inj same
  rwa [Skips, verify, skip, unread] at skips

theorem Skips.refl (reader : FrameReader) : reader.Skips reader := ⟨rfl, rfl, .here _⟩

/-- What a call comes to, and what it comes to when all has been read before. -/
inductive Answers (reader : FrameReader) :
    Except FrameError (Option Frame) → FrameReader → Prop where
  | fails {fault : Fault} {later : FrameReader} (next : reader.filled.next = later.filled.next)
      (skips : reader.Skips later) (faults : reader.source.faults = fault :: later.source.faults)
      (other : fault ≠ .interrupted) : Answers reader (.error (.stream fault)) later
  | decides {result : Except FrameError (Option Frame)} {later : FrameReader}
      (next : reader.filled.next = (result, later.filled))
      (faults : later.source.faults = reader.source.faults) (plain : fault? result = none) :
      Answers reader result later

theorem Compares.again {result : Except FrameError (Option Frame)} {last : FrameReader}
    (compares : reader.Compares .again later) (answers : later.Answers result last) :
    reader.Answers result last := by
  have moved : reader.filled.next = later.filled.next ∧
      later.source.faults = reader.source.faults ∧ (later.Skips last → reader.Skips last) := by
    cases compares with
    | reads filled faults => exact ⟨by rw [filled], faults, .of_filled filled⟩
    | decides turned faults => exact ⟨next_again turned, faults, .of_again turned⟩
  obtain ⟨next, faults, skips⟩ := moved
  cases answers with
  | fails later_next passed found other =>
    exact .fails (next.trans later_next) (skips passed) (faults ▸ found) other
  | decides decided found plain =>
    exact .decides (next.trans decided) (found.trans faults) plain

theorem Compares.result {turn : Turn} {result : Except FrameError (Option Frame)}
    (compares : reader.Compares turn later) (ends : turn.result? = some result) :
    reader.Answers result later := by
  cases compares with
  | reads => cases ends
  | fails filled faults other =>
    cases ends
    exact .fails (by rw [filled]) ((Skips.refl later).of_filled filled) faults other
  | decides turned faults plain =>
    rw [ends] at plain
    exact .decides (next_result turned ends) faults plain

theorem answers_next (lasting : reader.source.Lasting) :
    reader.Answers reader.next.1 reader.next.2 ∧ reader.next.2.source.Lasting := by
  fun_induction next reader with
  | case1 reader later turned ih =>
    obtain ⟨compares, still⟩ := compares_turn lasting
    rw [turned] at compares still
    obtain ⟨answers, last⟩ := ih still
    exact ⟨compares.again answers, last⟩
  | case2 reader found later turned | case3 reader error later turned | case4 reader later turned =>
    obtain ⟨compares, still⟩ := compares_turn lasting
    rw [turned] at compares still
    exact ⟨compares.result rfl, still⟩

def results : Nat → FrameReader → List (Except FrameError (Option Frame))
  | 0, _ => []
  | count + 1, reader => reader.next.1 :: results count reader.next.2

def after : Nat → FrameReader → FrameReader
  | 0, reader => reader
  | count + 1, reader => after count reader.next.2

/-- The results that are not about a failed read. -/
def plain (results : List (Except FrameError (Option Frame))) :
    List (Except FrameError (Option Frame)) :=
  results.filter fun result => (fault? result).isNone

theorem length_plain (results : List (Except FrameError (Option Frame))) :
    (plain results).length + (results.filterMap fault?).length = results.length := by
  induction results with
  | nil => rfl
  | cons result rest ih =>
    rw [plain] at ih ⊢
    cases found : fault? result with
    | none =>
      rw [List.filter_cons_of_pos (by rw [found]; rfl), List.filterMap_cons_none found,
        List.length_cons, List.length_cons, Nat.add_right_comm, ih]
    | some fault =>
      rw [List.filter_cons_of_neg (by rw [found]; exact Bool.false_ne_true),
        List.filterMap_cons_some found, List.length_cons, List.length_cons, ← Nat.add_assoc, ih]

theorem length_results (count : Nat) (reader : FrameReader) :
    (reader.results count).length = count := by
  induction count generalizing reader with
  | zero => rfl
  | succ count ih => rw [results, List.length_cons, ih]

theorem lasting_after (lasting : reader.source.Lasting) (count : Nat) :
    (reader.after count).source.Lasting := by
  induction count generalizing reader with
  | zero => exact lasting
  | succ count ih => exact ih (answers_next lasting).2

theorem results_congr {other : FrameReader} (same : reader.next = other.next) (count : Nat) :
    reader.results count = other.results count := by
  cases count with
  | zero => rfl
  | succ count => rw [results, results, same]

/-- Calls that report no failed read have the results of a reader that has everything in its
buffer. -/
theorem plain_results (lasting : reader.source.Lasting) (count : Nat) :
    plain (reader.results count) = reader.filled.results (plain (reader.results count)).length := by
  induction count generalizing reader with
  | zero => rfl
  | succ count ih =>
    obtain ⟨answers, still⟩ := answers_next lasting
    have later := ih still
    rw [results, plain, List.filter_cons]
    generalize reader.next = call at answers later ⊢
    obtain ⟨result, last⟩ := call
    cases answers with
    | fails next skips faults other => exact later.trans (results_congr next _).symm
    | decides next faults ends =>
      rw [ends]
      simp only [Option.isNone_none, ↓reduceIte, List.length_cons, results, next]
      exact congrArg _ later

theorem faults_results (lasting : reader.source.Lasting) (count : Nat) :
    (reader.results count).filterMap fault? ++ (reader.after count).source.faults =
      reader.source.faults := by
  induction count generalizing reader with
  | zero => rfl
  | succ count ih =>
    obtain ⟨answers, still⟩ := answers_next lasting
    have later := ih still
    rw [results, after, List.filterMap_cons]
    generalize reader.next = call at answers later ⊢
    obtain ⟨result, last⟩ := call
    cases answers with
    | fails next skips faults other =>
      rw [faults, ← later]
      rfl
    | decides next faults plain =>
      rw [plain, ← faults]
      exact later

/-- Without failed reads every call has the result of a reader that has everything in its buffer. -/
theorem results_filled (lasting : reader.source.Lasting) (silent : reader.source.faults = [])
    (count : Nat) : reader.results count = reader.filled.results count := by
  have none : (reader.results count).filterMap fault? = [] := by
    have all := faults_results lasting count
    rw [silent] at all
    exact (List.append_eq_nil_iff.mp all).1
  have whole : plain (reader.results count) = reader.results count := by
    refine List.filter_eq_self.mpr fun result member => ?_
    rw [List.filterMap_eq_nil_iff.mp none result member]
    rfl
  have same := plain_results lasting count
  rwa [whole, length_results] at same

/-- The same reader when its stream comes in one piece and no read fails. -/
def whole (reader : FrameReader) : FrameReader :=
  { reader with source := [.bytes reader.source.content] }

theorem results_whole (reader : FrameReader) (count : Nat) :
    reader.whole.results count = reader.filled.results count := by
  have lasting : reader.whole.source.Lasting := ⟨fun _ => rfl, trivial⟩
  have same : reader.whole.filled = reader.filled := by
    simp only [filled, whole, unread, Source.content, List.append_nil]
  rw [results_filled lasting rfl, same]

/-- What so many calls of a reader come to, however its stream is cut and its reads fail. -/
structure Faithful (reader : FrameReader) (count : Nat) : Prop where
  /-- The results are those of the stream in one piece, apart from failed reads. -/
  same : plain (reader.results count) =
    reader.whole.results (plain (reader.results count)).length
  /-- Failed reads put off no more results than there are of them. -/
  reached : count ≤ (plain (reader.results count)).length + reader.source.faults.length
  /-- Every failed read that has been met was reported, once and in order. -/
  reported : (reader.results count).filterMap fault? ++ (reader.after count).source.faults =
    reader.source.faults
  repeated : .error (.stream .interrupted) ∉ reader.results count
  /-- A call that reports a failed read loses nothing but what the reader skips in any case. -/
  kept : ∀ place fault, (reader.after place).next.1 = .error (.stream fault) →
    (reader.after place).Skips (reader.after place).next.2

theorem interrupted_not_mem (source : Source) : .interrupted ∉ source.faults := by
  induction source with
  | nil => exact List.not_mem_nil
  | cons supply rest ih =>
    cases supply with
    | bytes content => exact ih
    | fault fault =>
      rw [Source.faults]
      split
      · exact ih
      · rename_i other
        exact List.not_mem_cons_of_ne_of_not_mem (Ne.symm other) ih

/-- However a stream is cut into pieces that are not empty, and wherever reads of it fail, a reader
has the results that it has when the stream comes in one piece. -/
theorem reads_alike (reader : FrameReader) (split : .bytes [] ∉ reader.source) (count : Nat) :
    reader.Faithful count := by
  have lasting := Source.lasting_of_split split
  have reported := faults_results lasting count
  refine ⟨?_, ?_, reported, fun member => ?_, fun place fault failed => ?_⟩
  · rw [results_whole]
    exact plain_results lasting count
  · have reports := congrArg List.length reported
    have all := length_plain (reader.results count)
    rw [List.length_append] at reports
    rw [length_results] at all
    omega
  · refine interrupted_not_mem reader.source ?_
    rw [← reported]
    exact List.mem_append_left _ (List.mem_filterMap.mpr ⟨_, member, rfl⟩)
  · have answers := (answers_next (lasting_after lasting place)).1
    rw [failed] at answers
    cases answers with
    | fails _ skips => exact skips
    | decides _ _ plain => cases plain

/-- Two frames, both of which are cut; a read is interrupted, and two others fail. -/
def troubledStream : Source :=
  [.bytes [57, 225, 0], .fault .interrupted, .bytes [0, 0], .fault .timedOut,
    .bytes [0, 0, 0, 0, 0, 0, 0, 2, 205], .fault .timedOut, .bytes [0, 1, 7, 0, 0, 0, 0, 0, 0, 0]]

theorem reads_alike_troubled :
    .bytes [] ∉ troubledStream ∧
      ∀ count, (FrameReader.mk troubledStream [] true false).Faithful count :=
  have split : .bytes [] ∉ troubledStream := by decide
  ⟨split, fun count => reads_alike _ split count⟩

end FrameReader

end PipeBus

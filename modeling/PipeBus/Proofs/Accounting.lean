import PipeBus.Proofs.Decoding
import PipeBus.Proofs.Reading

/-! Where the bytes of a stream go. One round of a reader takes at most one thing off the front of
the bytes that it has not taken yet, a whole frame or a single byte, and says what it does with it
(`FrameReader.accounts_turn`). Main statement: whatever a reader has in its buffer and whatever its
stream has in store, a call ends after finitely many rounds, and every byte that is gone then
belongs to a frame that was returned, reported or skipped, or was dropped at a size that no frame
has (`FrameReader.accounts_for_bytes`). -/

namespace PipeBus

/-- What a reader takes off the front of its bytes. -/
inductive Removal where
  | returned (frame : Frame)
  | reported (frame : Frame)
  | skipped (frame : Frame)
  | dropped (byte : UInt8)

namespace Removal

def bytes : Removal → Bytes
  | returned frame | reported frame | skipped frame => frame.toBytes
  | dropped byte => [byte]

/-- A removal that is not a result. -/
def IsSilent : Removal → Prop
  | returned _ | reported _ => False
  | skipped _ | dropped _ => True

/-- A frame that is taken for one with the wrong checksum. -/
structure Corrupt (verifyCrc : Bool) (frame : Frame) : Prop where
  room : frame.payload.length ≤ maxPayload
  verified : verifyCrc = true
  wrong : frame.computeCrc ≠ frame.crc

/-- When a reader may take something off the front of these bytes. -/
def Due (verifyCrc skipInvalid : Bool) (front : Bytes) : Removal → Prop
  | returned frame =>
    frame.payload.length ≤ maxPayload ∧ (verifyCrc = true → frame.computeCrc = frame.crc)
  | reported frame => Corrupt verifyCrc frame ∧ skipInvalid = false
  | skipped frame => Corrupt verifyCrc frame ∧ skipInvalid = true
  | dropped _ =>
    (frameHeader ≤ front.length ∧ maxPayload < Frame.sizeField front) ∧ skipInvalid = true

/-- The removal that comes with a result. -/
inductive Closes : Except FrameError (Option Frame) → Option Removal → Prop where
  | frame (found : Frame) : Closes (.ok (some found)) (some (.returned found))
  | mismatch (found : Frame) :
      Closes (.error (.crcMismatch found.crc found.computeCrc)) (some (.reported found))
  | outOfRange (size : Nat) : Closes (.error (.sizeOutOfRange size)) none
  | fault (fault : Fault) : Closes (.error (.stream fault)) none
  | closed : Closes (.error .connectionClosed) none
  | finished : Closes (.ok none) none

end Removal

/-- One removal after the other from the front of some bytes, and the bytes that are left. -/
inductive Sheds (verifyCrc skipInvalid : Bool) : Bytes → List Removal → Bytes → Prop where
  | nil (bytes : Bytes) : Sheds verifyCrc skipInvalid bytes [] bytes
  | cons {removal : Removal} {removals : List Removal} {rest last : Bytes}
      (due : removal.Due verifyCrc skipInvalid (removal.bytes ++ rest))
      (sheds : Sheds verifyCrc skipInvalid rest removals last) :
      Sheds verifyCrc skipInvalid (removal.bytes ++ rest) (removal :: removals) last

namespace Sheds

variable {verifyCrc skipInvalid : Bool} {bytes between last : Bytes}
  {removals others : List Removal}

theorem append (sheds : Sheds verifyCrc skipInvalid bytes removals between)
    (further : Sheds verifyCrc skipInvalid between others last) :
    Sheds verifyCrc skipInvalid bytes (removals ++ others) last := by
  induction sheds with
  | nil bytes => exact further
  | cons due _ ih => exact .cons due (ih further)

/-- What is left is what was there, without the bytes that were taken off the front. -/
theorem layout (sheds : Sheds verifyCrc skipInvalid bytes removals last) :
    bytes = removals.flatMap Removal.bytes ++ last := by
  induction sheds with
  | nil bytes => rfl
  | cons due _ ih => rw [List.flatMap_cons, List.append_assoc, ← ih]

end Sheds

namespace Frame

/-- A complete header claims the same size whatever comes in behind it. -/
theorem sizeField_append {buffer : Bytes} (header : frameHeader ≤ buffer.length) (more : Bytes) :
    sizeField (buffer ++ more) = sizeField buffer := by
  have inside : 2 < buffer.length := Nat.lt_of_lt_of_le (by decide) header
  simp only [sizeField, List.getD_eq_getElem?_getD, List.getElem?_append_left inside]

/-- What a scan finds at the front of a buffer. -/
inductive Scans (verifyCrc : Bool) (buffer : Bytes) : Scan → Prop where
  | incomplete : Scans verifyCrc buffer .incomplete
  | outOfRange (header : frameHeader ≤ buffer.length) (large : maxPayload < sizeField buffer) :
      Scans verifyCrc buffer (.outOfRange (sizeField buffer))
  | frame {found : Frame} {rest : Bytes} (layout : buffer = found.toBytes ++ rest)
      (room : found.payload.length ≤ maxPayload)
      (right : verifyCrc = true → found.computeCrc = found.crc) :
      Scans verifyCrc buffer (.frame found rest)
  | mismatch {found : Frame} {rest : Bytes} (layout : buffer = found.toBytes ++ rest)
      (corrupt : Removal.Corrupt verifyCrc found) :
      Scans verifyCrc buffer (.mismatch found.crc found.computeCrc rest)

theorem scans (verifyCrc : Bool) (buffer : Bytes) :
    Scans verifyCrc buffer (scan verifyCrc buffer) := by
  by_cases header : buffer.length < frameHeader
  · rw [scan, announced_short header]
    exact .incomplete
  have header := Nat.not_lt.mp header
  by_cases large : maxPayload < sizeField buffer
  · rw [scan, announced_oversized header large]
    exact .outOfRange header large
  have size := Nat.not_lt.mp large
  by_cases missing : buffer.length < span buffer
  · simp only [scan, announced_span header size, if_pos missing]
    exact .incomplete
  obtain ⟨found, rest, rfl, room⟩ := front_of_complete size (Nat.not_lt.mp missing)
  rw [scan_toBytes room]
  split
  · rename_i wrong
    obtain ⟨verified, differs⟩ := Bool.and_eq_true_iff.mp wrong
    exact .mismatch rfl ⟨room, verified, bne_iff_ne.mp differs⟩
  · rename_i kept
    refine .frame rfl room fun verified => ?_
    rw [verified, Bool.true_and] at kept
    simpa using kept

end Frame

namespace Source

variable {source rest : Source} {limit : Nat}

theorem content_of_read {content : Bytes} (read : source.read limit = (.ok content, rest)) :
    source.content = content ++ rest.content := by
  unfold Source.read at read
  split at read
  · cases read
    rfl
  · cases read
  · split at read
    · cases read
      rfl
    · cases read
      rw [Source.content, Source.content, ← List.append_assoc, List.take_append_drop]

/-- A failed read brings nothing and loses nothing. -/
theorem content_of_fault {fault : Fault} (read : source.read limit = (.error fault, rest)) :
    source.content = rest.content := by
  unfold Source.read at read
  split at read
  · cases read
  · cases read
    rfl
  · split at read <;> cases read

end Source

namespace FrameReader

variable {reader later : FrameReader}

/-- What one round comes to, and what it takes off the front. -/
inductive Brings : Turn → Option Removal → Prop where
  | reads : Brings .again none
  | passes {removal : Removal} (silent : removal.IsSilent) : Brings .again (some removal)
  | ends {turn : Turn} {result : Except FrameError (Option Frame)} {taken : Option Removal}
      (ends : turn.result? = some result) (closes : Removal.Closes result taken) :
      Brings turn taken

structure AccountsRound (reader : FrameReader) (turn : Turn) (later : FrameReader)
    (taken : Option Removal) : Prop where
  verifyCrc : later.verifyCrc = reader.verifyCrc
  skipInvalid : later.skipInvalid = reader.skipInvalid
  brings : Brings turn taken
  sheds : Sheds reader.verifyCrc reader.skipInvalid reader.unread taken.toList later.unread

theorem accounts_fill (reader : FrameReader) :
    reader.AccountsRound reader.fill.1 reader.fill.2 none := by
  obtain ⟨source, buffer, verifyCrc, skipInvalid⟩ := reader
  have same {between : Bytes} (unread : buffer ++ source.content = between) :
      Sheds verifyCrc skipInvalid (buffer ++ source.content) [] between := unread ▸ .nil _
  unfold fill
  split <;> rename_i read
  · exact ⟨rfl, rfl, .reads, same (congrArg _ (Source.content_of_fault read))⟩
  · exact ⟨rfl, rfl, .ends rfl (.fault _), same (congrArg _ (Source.content_of_fault read))⟩
  · refine ⟨rfl, rfl, ?_, same (congrArg _ (Source.content_of_read read))⟩
    dsimp only
    split
    · exact .ends rfl .finished
    · exact .ends rfl .closed
  · refine ⟨rfl, rfl, .reads, same ?_⟩
    have content : source.content = _ := Source.content_of_read read
    rw [content]
    exact (List.append_assoc ..).symm

theorem accounts_turn (reader : FrameReader) :
    ∃ taken, reader.AccountsRound reader.turn.1 reader.turn.2 taken := by
  obtain ⟨source, buffer, verifyCrc, skipInvalid⟩ := reader
  have single {removal : Removal} {rest : Bytes} (layout : buffer = removal.bytes ++ rest)
      (due : removal.Due verifyCrc skipInvalid (buffer ++ source.content)) :
      Sheds verifyCrc skipInvalid (buffer ++ source.content) [removal]
        (rest ++ source.content) := by
    rw [layout, List.append_assoc] at due ⊢
    exact .cons due (.nil _)
  have found := Frame.scans verifyCrc buffer
  unfold turn
  dsimp only
  generalize Frame.scan verifyCrc buffer = scanned at found ⊢
  cases found with
  | incomplete => exact ⟨none, accounts_fill _⟩
  | @frame found rest layout room right =>
    exact ⟨some (.returned found), rfl, rfl, .ends rfl (.frame found), single layout ⟨room, right⟩⟩
  | @mismatch found rest layout corrupt =>
    cases skipInvalid with
    | true =>
      exact ⟨some (.skipped found), rfl, rfl, .passes trivial, single layout ⟨corrupt, rfl⟩⟩
    | false =>
      exact ⟨some (.reported found), rfl, rfl, .ends rfl (.mismatch found),
        single layout ⟨corrupt, rfl⟩⟩
  | outOfRange header large =>
    cases skipInvalid with
    | false => exact ⟨none, rfl, rfl, .ends rfl (.outOfRange _), .nil _⟩
    | true =>
      cases buffer with
      | nil => cases header
      | cons byte rest =>
        refine ⟨some (.dropped byte), rfl, rfl, .passes trivial, single rfl ⟨⟨?_, ?_⟩, rfl⟩⟩
        · rw [List.length_append]
          exact Nat.le_add_right_of_le header
        · rwa [Frame.sizeField_append header]

def turned (reader : FrameReader) : Nat → FrameReader
  | 0 => reader
  | rounds + 1 => reader.turn.2.turned rounds

/-- Where the bytes go in a call that ends after so many rounds without a result. -/
structure Accounts (reader : FrameReader) (rounds : Nat) (passed : List Removal)
    (taken : Option Removal) (result : Except FrameError (Option Frame)) (later : FrameReader) :
    Prop where
  goes : ∀ round < rounds, (reader.turned round).turn.1 = .again
  ends : (reader.turned rounds).turn.1.result? = some result
  left : (reader.turned rounds).turn.2 = later
  /-- There are no more rounds than work in the stream and in the buffer. -/
  few : rounds ≤ reader.pending
  silent : ∀ removal ∈ passed, removal.IsSilent
  closes : Removal.Closes result taken
  /-- What is passed over and what comes with the result is all that is taken off the front. -/
  sheds : Sheds reader.verifyCrc reader.skipInvalid reader.unread (passed ++ taken.toList)
    later.unread

theorem AccountsRound.accounts {turn : Turn} {taken : Option Removal}
    {result : Except FrameError (Option Frame)} (turned : reader.turn = (turn, later))
    (ends : turn.result? = some result) (round : reader.AccountsRound turn later taken) :
    reader.Accounts 0 [] taken result later := by
  refine ⟨nofun, ?_, congrArg Prod.snd turned, Nat.zero_le _, List.forall_mem_nil _, ?_,
    round.sheds⟩
  · rw [FrameReader.turned, turned]
    exact ends
  · cases round.brings with
    | reads | passes => cases ends
    | ends same closes =>
      rw [ends] at same
      cases same
      exact closes

theorem Accounts.again {rounds : Nat} {passed : List Removal} {first taken : Option Removal}
    {result : Except FrameError (Option Frame)} {last : FrameReader}
    (turned : reader.turn = (.again, later)) (round : reader.AccountsRound .again later first)
    (accounts : later.Accounts rounds passed taken result last) :
    reader.Accounts (rounds + 1) (first.toList ++ passed) taken result last := by
  have next (round : Nat) : reader.turned (round + 1) = later.turned round := by
    rw [FrameReader.turned, turned]
  refine ⟨?_, ?_, ?_, ?_, ?_, accounts.closes, ?_⟩
  · intro earlier before
    cases earlier with
    | zero => exact congrArg Prod.fst turned
    | succ earlier =>
      rw [next]
      exact accounts.goes earlier (Nat.lt_of_succ_lt_succ before)
  · rw [next]
    exact accounts.ends
  · rw [next]
    exact accounts.left
  · exact Nat.le_trans (Nat.succ_le_succ accounts.few) (turn_again turned)
  · refine List.forall_mem_append.mpr ⟨?_, accounts.silent⟩
    cases round.brings with
    | reads => exact List.forall_mem_nil _
    | passes silent => exact List.forall_mem_singleton.mpr silent
    | ends ends => cases ends
  · rw [List.append_assoc]
    have further := accounts.sheds
    rw [round.verifyCrc, round.skipInvalid] at further
    exact round.sheds.append further

theorem exists_accounts (reader : FrameReader) :
    ∃ rounds passed taken, reader.Accounts rounds passed taken reader.next.1 reader.next.2 := by
  -- A call is followed round by round: what a round takes off the front comes before what the later
  -- ones take.
  fun_induction next reader with
  | case1 reader later turned ih =>
    obtain ⟨first, round⟩ := reader.accounts_turn
    rw [turned] at round
    obtain ⟨rounds, passed, taken, accounts⟩ := ih
    exact ⟨_, _, _, accounts.again turned round⟩
  | case2 reader found later turned | case3 reader error later turned | case4 reader later turned =>
    obtain ⟨taken, round⟩ := reader.accounts_turn
    rw [turned] at round
    exact ⟨0, [], taken, round.accounts turned rfl⟩

/-- Whatever is in the buffer and in store, a call ends, and what is left then, in the buffer and in
store, is what was there before without the frames and the single bytes that are accounted for. -/
theorem accounts_for_bytes (reader : FrameReader) :
    ∃ rounds passed taken, reader.Accounts rounds passed taken reader.next.1 reader.next.2 ∧
      reader.unread =
        (passed ++ taken.toList).flatMap Removal.bytes ++ reader.next.2.unread := by
  obtain ⟨rounds, passed, taken, accounts⟩ := reader.exists_accounts
  exact ⟨rounds, passed, taken, accounts, accounts.sheds.layout⟩

end FrameReader

end PipeBus

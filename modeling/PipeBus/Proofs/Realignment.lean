import PipeBus.Proofs.Decoding
import PipeBus.Proofs.Sifting

/-! What a reader makes of stray bytes in front of the first frame. A byte goes when the size field
behind it holds a size that no frame has, so the last two stray bytes are measured by the checksum of
the first frame; where a byte of it reads as a size, a whole frame is taken from the wrong place. Main
statement: the frames come through just when that checksum cannot be read so
(`FrameReader.realigns_iff`). -/

namespace PipeBus

/-- Bytes none of which is the size of a frame. -/
def Stray (bytes : Bytes) : Prop := ∀ byte ∈ bytes, maxPayload < byte.toNat

namespace Frame

variable {frame : Frame} {lead more rest : Bytes}

/-- The checksum stands in front, its low byte first. -/
theorem toBytes_cons (frame : Frame) :
    frame.toBytes =
      UInt8.ofNat frame.crc.toNat :: UInt8.ofNat (frame.crc.toNat / 256) :: frame.checked := rfl

/-- Behind one stray byte the high byte of the checksum is taken for the size. -/
theorem sizeField_behind_one (frame : Frame) (byte : UInt8) (more : Bytes) :
    sizeField (byte :: (frame.toBytes ++ more)) = frame.crc.toNat / 256 := by
  have small := frame.crc.toNat_lt
  have high : sizeField (byte :: (frame.toBytes ++ more)) =
      (UInt8.ofNat (frame.crc.toNat / 256)).toNat := by rw [toBytes_cons]; rfl
  rw [high, UInt8.toNat_ofNat', Nat.mod_eq_of_lt (by omega)]

/-- Behind two stray bytes it is the low byte. -/
theorem sizeField_behind_two (frame : Frame) (one two : UInt8) (more : Bytes) :
    sizeField (one :: two :: (frame.toBytes ++ more)) = frame.crc.toNat % 256 := by
  have low : sizeField (one :: two :: (frame.toBytes ++ more)) =
      (UInt8.ofNat frame.crc.toNat).toNat := by rw [toBytes_cons]; rfl
  rw [low, UInt8.toNat_ofNat']

/-- A frame that is its own beginning one or two bytes on begins with the bytes in between. -/
theorem sizeField_of_overlap (stray : Stray lead) (some_ : lead ≠ []) (few : lead.length ≤ 2)
    (overlap : lead ++ (frame.toBytes ++ more) = frame.toBytes ++ rest) :
    maxPayload < sizeField (lead ++ (frame.toBytes ++ more)) := by
  rw [toBytes_cons] at overlap ⊢
  match lead, some_, few with
  | [byte], _, _ =>
    simp only [List.cons_append, List.nil_append, List.cons.injEq] at overlap
    obtain ⟨front, behind, -⟩ := overlap
    change maxPayload < (UInt8.ofNat (frame.crc.toNat / 256)).toNat
    rw [← behind, ← front]
    exact stray byte (by simp)
  | [one, two], _, _ =>
    simp only [List.cons_append, List.nil_append, List.cons.injEq] at overlap
    change maxPayload < (UInt8.ofNat frame.crc.toNat).toNat
    rw [← overlap.1]
    exact stray one (by simp)

end Frame

namespace FrameReader

variable {buffer rest left : Bytes} {first frame : Frame} {frames others : List Frame}
  {result : Except FrameError (Option Frame)}

/-- What a skipping reader makes of all its bytes: its result, and the bytes left then. -/
inductive Salvages : Bytes → Except FrameError (Option Frame) → Bytes → Prop where
  | ended : Salvages [] (.ok none) []
  | cut {buffer : Bytes} (some_ : buffer ≠ []) (scanned : Frame.scan true buffer = .incomplete) :
      Salvages buffer (.error .connectionClosed) buffer
  | stray {byte : UInt8} {rest left : Bytes} {result : Except FrameError (Option Frame)}
      (header : frameHeader ≤ (byte :: rest).length)
      (large : maxPayload < Frame.sizeField (byte :: rest)) (salvages : Salvages rest result left) :
      Salvages (byte :: rest) result left
  | damaged {frame : Frame} {rest left : Bytes} {result : Except FrameError (Option Frame)}
      (room : frame.payload.length ≤ maxPayload) (wrong : frame.isSound = false)
      (salvages : Salvages rest result left) : Salvages (frame.toBytes ++ rest) result left
  | sound {frame : Frame} {rest : Bytes} (room : frame.payload.length ≤ maxPayload)
      (right : frame.isSound = true) : Salvages (frame.toBytes ++ rest) (.ok (some frame)) rest

/-- One byte is dropped where the size is one that no frame has. -/
theorem next_full_stray {byte : UInt8} (header : frameHeader ≤ (byte :: rest).length)
    (large : maxPayload < Frame.sizeField (byte :: rest)) :
    (full (byte :: rest)).next = (full rest).next := by
  refine next_again ?_
  simp only [turn, full, Frame.scan, Frame.announced_oversized header large, ↓reduceIte,
    List.drop_one, List.tail_cons]

/-- Where no frame is complete the stream has ended in the middle of one. -/
theorem next_full_cut (some_ : buffer ≠ []) (scanned : Frame.scan true buffer = .incomplete) :
    (full buffer).next = (.error .connectionClosed, full buffer) := by
  have occupied : buffer.isEmpty = false := by simpa using some_
  have turned : (full buffer).turn = (.failed .connectionClosed, full buffer) := by
    simp only [turn, full, scanned, fill, Source.read, occupied]
    rfl
  exact next_result turned rfl

theorem salvages_next (buffer : Bytes) :
    ∃ left, Salvages buffer (full buffer).next.1 left ∧ (full buffer).next.2 = full left := by
  induction size : buffer.length using Nat.strongRecOn generalizing buffer with
  | ind length ih =>
    subst size
    by_cases empty : buffer = []
    · rw [empty, next_full_nil]
      exact ⟨[], .ended, rfl⟩
    by_cases scanned : Frame.scan true buffer = .incomplete
    · rw [next_full_cut empty scanned]
      exact ⟨buffer, .cut empty scanned, rfl⟩
    have header : frameHeader ≤ buffer.length := by
      refine Nat.not_lt.mp fun short => scanned ?_
      simp only [Frame.scan, Frame.announced_short short]
    by_cases large : maxPayload < Frame.sizeField buffer
    · obtain ⟨byte, rest, rfl⟩ := List.exists_cons_of_ne_nil empty
      obtain ⟨left, salvages, after⟩ := ih rest.length (Nat.lt_succ_self _) rest rfl
      rw [next_full_stray header large]
      exact ⟨left, .stray header large salvages, after⟩
    have size := Nat.not_lt.mp large
    have complete : Frame.span buffer ≤ buffer.length := by
      refine Nat.not_lt.mp fun missing => scanned ?_
      simp only [Frame.scan, Frame.announced_span header size, if_pos missing]
    obtain ⟨frame, rest, rfl, room⟩ := Frame.front_of_complete size complete
    cases judged : frame.isSound with
    | true =>
      rw [next_full_sound room judged]
      exact ⟨rest, .sound room judged, rfl⟩
    | false =>
      have shorter : rest.length < (frame.toBytes ++ rest).length := by
        rw [List.length_append, Frame.length_toBytes, frameHeader]
        omega
      obtain ⟨left, salvages, after⟩ := ih rest.length shorter rest rfl
      rw [next_full_damaged room judged]
      exact ⟨left, .damaged room judged salvages, after⟩

theorem Salvages.length_le (salvages : Salvages buffer result left)
    (found : result = .ok (some frame)) : frame.toBytes.length + left.length ≤ buffer.length := by
  induction salvages with
  | ended | cut => cases found
  | stray _ _ _ ih =>
    have shorter := ih found
    rw [List.length_cons]
    omega
  | damaged _ _ _ ih =>
    have shorter := ih found
    rw [List.length_append]
    omega
  | sound =>
    cases found
    exact Nat.le_of_eq List.length_append.symm

theorem Returns.salvages (returns : (full buffer).Returns (first :: others)) :
    ∃ left, Salvages buffer (.ok (some first)) left ∧ (full left).Returns others := by
  have found := returns.next_cons
  obtain ⟨left, salvages, after⟩ := salvages_next buffer
  rw [found] at salvages
  rw [after] at found
  exact ⟨left, salvages, (returns_cons found).mp returns⟩

theorem Returns.length_le (returns : (full buffer).Returns frames) :
    (frames.flatMap Frame.toBytes).length ≤ buffer.length := by
  induction frames generalizing buffer with
  | nil => exact Nat.zero_le _
  | cons first others ih =>
    obtain ⟨left, salvages, more⟩ := returns.salvages
    have front := salvages.length_le rfl
    have behind := ih more
    rw [List.flatMap_cons, List.length_append]
    omega

/-- When the size is looked for in the checksum of the first frame and found there, the bytes of
that frame are lost. -/
theorem not_returns_misread {lead : Bytes} (stray : Stray lead) (some_ : lead ≠ [])
    (few : lead.length ≤ 2)
    (misread : Frame.sizeField (lead ++ (first :: others).flatMap Frame.toBytes) ≤ maxPayload) :
    ¬ (full (lead ++ (first :: others).flatMap Frame.toBytes)).Returns (first :: others) := by
  intro returns
  obtain ⟨left, salvages, -⟩ := returns.salvages
  generalize layout : lead ++ (first :: others).flatMap Frame.toBytes = buffer
    at returns salvages misread
  cases salvages with
  | stray header large => exact absurd misread (Nat.not_le.mpr large)
  | @damaged bad rest _ _ room wrong =>
    -- What is taken from the wrong place is longer than the bytes in front of the first frame.
    rw [returns_congr (next_full_damaged room wrong rest)] at returns
    have kept := returns.length_le
    have total := congrArg List.length layout
    rw [List.length_append, List.length_append, Frame.length_toBytes, frameHeader] at total
    omega
  | sound =>
    rw [List.flatMap_cons] at layout
    have large := Frame.sizeField_of_overlap stray some_ few layout
    rw [layout] at large
    exact absurd misread (Nat.not_le.mpr large)

/-- Stray bytes with nothing behind them are an incomplete frame in the end. -/
theorem next_full_strays {strays : Bytes} (stray : Stray strays) (some_ : strays ≠ []) :
    (full strays).next.1 = .error .connectionClosed := by
  induction strays with
  | nil => exact absurd rfl some_
  | cons byte rest ih =>
    by_cases header : frameHeader ≤ (byte :: rest).length
    · match rest, header with
      | two :: three :: rest, header =>
        have large : maxPayload < Frame.sizeField (byte :: two :: three :: rest) :=
          stray three (by simp)
        rw [next_full_stray header large]
        exact ih (fun other member => stray other (List.mem_cons_of_mem _ member)) nofun
      | [], header | [_], header => simp [frameHeader] at header
    · have scanned : Frame.scan true (byte :: rest) = .incomplete := by
        simp only [Frame.scan, Frame.announced_short (Nat.not_le.mp header)]
      rw [next_full_cut some_ scanned]

/-- A byte in front of a whole frame is dropped when the size behind it is one that no frame has. -/
theorem returns_dropped {byte : UInt8} {rest : Bytes} (header : frameHeader ≤ rest.length)
    (large : maxPayload < Frame.sizeField (byte :: rest)) :
    (full (byte :: rest)).Returns frames ↔ (full rest).Returns frames :=
  returns_congr (next_full_stray (Nat.le_succ_of_le header) large)

theorem header_le (first : Frame) (others : List Frame) :
    frameHeader ≤ ((first :: others).flatMap Frame.toBytes).length := by
  rw [List.flatMap_cons, List.length_append, Frame.length_toBytes]
  omega

section

variable (room : ∀ frame ∈ first :: others, frame.payload.length ≤ maxPayload)
  (sound : ∀ frame ∈ first :: others, frame.isSound = true)

include room sound

theorem returns_behind_one {byte : UInt8} (stray : Stray [byte]) :
    (full (byte :: (first :: others).flatMap Frame.toBytes)).Returns (first :: others) ↔
      maxPayload < first.crc.toNat / 256 := by
  have size : Frame.sizeField (byte :: (first :: others).flatMap Frame.toBytes) =
      first.crc.toNat / 256 := Frame.sizeField_behind_one first byte _
  by_cases large : maxPayload < first.crc.toNat / 256
  · have whole := returns_sound room
    rw [List.filter_eq_self.mpr sound] at whole
    rw [returns_dropped (header_le first others) (size ▸ large)]
    exact ⟨fun _ => large, fun _ => whole⟩
  · have lost := not_returns_misread stray nofun (Nat.le_succ 1) (size ▸ Nat.not_lt.mp large)
    exact ⟨fun returns => absurd returns lost, fun right => absurd right large⟩

theorem returns_behind_two {one two : UInt8} (stray : Stray [one, two]) :
    (full (one :: two :: (first :: others).flatMap Frame.toBytes)).Returns (first :: others) ↔
      maxPayload < first.crc.toNat / 256 ∧ maxPayload < first.crc.toNat % 256 := by
  have size : Frame.sizeField (one :: two :: (first :: others).flatMap Frame.toBytes) =
      first.crc.toNat % 256 := Frame.sizeField_behind_two first one two _
  by_cases large : maxPayload < first.crc.toNat % 256
  · have long : frameHeader ≤ (two :: (first :: others).flatMap Frame.toBytes).length :=
      Nat.le_succ_of_le (header_le first others)
    have alone : Stray [two] := fun byte member => stray byte (List.mem_cons_of_mem _ member)
    rw [returns_dropped long (size ▸ large), returns_behind_one room sound alone,
      and_iff_left large]
  · have lost := not_returns_misread stray nofun (Nat.le_refl 2) (size ▸ Nat.not_lt.mp large)
    exact ⟨fun returns => absurd returns lost, fun right => absurd right.2 large⟩

/-- Of all stray bytes only the last two meet the checksum of the first frame. -/
theorem returns_behind {strays : Bytes} (stray : Stray strays) (some_ : strays ≠ []) :
    (full (strays ++ (first :: others).flatMap Frame.toBytes)).Returns (first :: others) ↔
      maxPayload < first.crc.toNat / 256 ∧
        (1 < strays.length → maxPayload < first.crc.toNat % 256) := by
  induction strays with
  | nil => exact absurd rfl some_
  | cons one rest ih =>
    match rest with
    | [] => simpa using returns_behind_one room sound stray
    | [two] => simpa using returns_behind_two room sound stray
    | two :: three :: rest =>
      have long : frameHeader ≤
          (two :: three :: rest ++ (first :: others).flatMap Frame.toBytes).length := by
        rw [List.length_append]
        exact Nat.le_trans (header_le first others) (Nat.le_add_left ..)
      have large : maxPayload < Frame.sizeField
          (one :: (two :: three :: rest ++ (first :: others).flatMap Frame.toBytes)) :=
        stray three (by simp)
      have fewer : Stray (two :: three :: rest) :=
        fun byte member => stray byte (List.mem_cons_of_mem _ member)
      rw [List.cons_append, returns_dropped long large, ih fewer nofun]
      simp

end

/-- However the bytes are cut into reads, the frames behind stray bytes come through, all of them and
in order, just when there is a first one and the bytes of its checksum that stand where a size is
looked for are sizes that no frame has: the high byte, and the low byte as well behind more than one
stray byte. -/
theorem realigns_iff {strays : Bytes} {reads : List Bytes}
    (room : ∀ frame ∈ frames, frame.payload.length ≤ maxPayload)
    (sealed : ∀ frame ∈ frames, frame.crc = frame.computeCrc)
    (some_ : strays ≠ []) (stray : ∀ byte ∈ strays, maxPayload < byte.toNat)
    (filled : [] ∉ reads) (content : reads.flatten = strays ++ frames.flatMap Frame.toBytes) :
    ({ source := reads.map Supply.bytes, skipInvalid := true } : FrameReader).Returns frames ↔
      ∃ first ∈ frames.head?, maxPayload < first.crc.toNat / 256 ∧
        (1 < strays.length → maxPayload < first.crc.toNat % 256) := by
  rw [returns_full filled, content]
  cases frames with
  | nil =>
    have broken := next_full_strays stray some_
    constructor
    · intro returns
      rw [List.flatMap_nil, List.append_nil] at returns
      cases returns.next_nil.symm.trans broken
    · simp
  | cons first others =>
    have sound : ∀ frame ∈ first :: others, frame.isSound = true :=
      fun frame member => beq_iff_eq.mpr (sealed frame member).symm
    rw [returns_behind room sound stray some_]
    simp

/-- Two frames, the first of which has a checksum that holds no size. -/
def plainFrames : List Frame :=
  [{ device := 91, flags := 0, crc := 0xfcf2 }, { device := 0, flags := 0, crc := 0xe139 }]

/-- Both behind three stray bytes, in two reads. -/
def strayReads : List Bytes :=
  [[0xff, 0xed], [0xf0] ++ plainFrames.flatMap Frame.toBytes]

theorem realigns_iff_plain :
    (∀ frame ∈ plainFrames, frame.payload.length ≤ maxPayload) ∧
    (∀ frame ∈ plainFrames, frame.crc = frame.computeCrc) ∧
    (∀ byte ∈ ([0xff, 0xed, 0xf0] : Bytes), maxPayload < byte.toNat) ∧ [] ∉ strayReads ∧
    strayReads.flatten = [0xff, 0xed, 0xf0] ++ plainFrames.flatMap Frame.toBytes ∧
    ({ source := strayReads.map Supply.bytes, skipInvalid := true } : FrameReader).Returns
      plainFrames := by
  have room : ∀ frame ∈ plainFrames, frame.payload.length ≤ maxPayload := by decide
  have sealed : ∀ frame ∈ plainFrames, frame.crc = frame.computeCrc := by decide
  have some_ : ([0xff, 0xed, 0xf0] : Bytes) ≠ [] := by decide
  have stray : ∀ byte ∈ ([0xff, 0xed, 0xf0] : Bytes), maxPayload < byte.toNat := by
    simp [maxPayload]
  have filled : [] ∉ strayReads := by decide
  have content : strayReads.flatten =
      [0xff, 0xed, 0xf0] ++ plainFrames.flatMap Frame.toBytes := by decide
  refine ⟨room, sealed, stray, filled, content, ?_⟩
  exact (realigns_iff room sealed some_ stray filled content).mpr ⟨_, rfl, by decide, by decide⟩

/-- One stray byte in front of a frame whose checksum reads as a size: the frame is lost. -/
theorem realigns_not_always :
    let frame : Frame := { device := 0, flags := 0, crc := 0xe139 }
    let strays : Bytes := [0xff]
    frame.payload.length ≤ maxPayload ∧ frame.crc = frame.computeCrc ∧ strays ≠ [] ∧
    (∀ byte ∈ strays, maxPayload < byte.toNat) ∧
    ¬ ({ source := [.bytes (strays ++ frame.toBytes)], skipInvalid := true } : FrameReader).Returns
      [frame] := by
  intro frame strays
  have room : ∀ other ∈ [frame], other.payload.length ≤ maxPayload := by decide
  have sound : ∀ other ∈ [frame], other.isSound = true := by decide
  have listed : ∀ byte ∈ strays, maxPayload < byte.toNat := by simp [strays, maxPayload]
  have stray : Stray strays := listed
  refine ⟨by decide, by decide, nofun, listed, fun returns => ?_⟩
  have whole : (full ([strays ++ frame.toBytes] : List Bytes).flatten).Returns [frame] :=
    (returns_full (by simp [strays])).mp returns
  have unread : maxPayload < frame.crc.toNat / 256 :=
    (returns_behind_one room sound stray).mp whole
  exact absurd unread (by decide)

end FrameReader

end PipeBus

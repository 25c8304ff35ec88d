import PipeBus.Text.Digits
import PipeBus.Text.HexInput

/-! Which texts are read as bytes, said about their characters: the bytes of a text are told apart
where its characters are, since no byte of a longer character is a digit, a sign or a separator.
Main statement: the texts that are read are those in which, but for separators, every two characters
are digits or a plus sign and a digit; they consist of digits alone if there is no plus sign in them
(`HexInput.parse_spells`). -/

namespace PipeBus.HexInput

/-- ASCII white space and the colon. -/
def separators : List Char := [' ', '\t', '\n', '\x0c', '\r', ':']

def glyphs (text : String) : List Char := text.toList.filter (· ∉ separators)

/-- Every digit stands at its value. -/
def digits : List Char :=
  ['0', '1', '2', '3', '4', '5', '6', '7', '8', '9', 'a', 'b', 'c', 'd', 'e', 'f']

def digit? (glyph : Char) : Option Nat := digits.idxOf? glyph.toLower

/-- Two characters for every byte: two digits or, where signs count, a plus sign and a digit. -/
inductive Spells (signs : Prop) : List Char → Bytes → Prop
  | nil : Spells signs [] []
  | digits {high low : Char} {first second : Nat} {glyphs : List Char} {bytes : Bytes}
      (left : digit? high = some first) (right : digit? low = some second)
      (rest : Spells signs glyphs bytes) :
      Spells signs (high :: low :: glyphs) (UInt8.ofNat (16 * first + second) :: bytes)
  | signed {low : Char} {second : Nat} {glyphs : List Char} {bytes : Bytes} (allowed : signs)
      (right : digit? low = some second) (rest : Spells signs glyphs bytes) :
      Spells signs ('+' :: low :: glyphs) (UInt8.ofNat second :: bytes)

section Characters

variable {glyph high low : Char} {byte : UInt8}

theorem ascii_induction {motive : Char → Prop}
    (each : ∀ code < 128, motive (Char.ofNat code)) (ascii : glyph.toNat < 128) : motive glyph :=
  Char.ofNat_toNat glyph ▸ each glyph.toNat ascii

theorem encode_ascii (ascii : glyph.toNat < 128) :
    String.utf8EncodeChar glyph = [UInt8.ofNat glyph.toNat] :=
  if_pos (Nat.le_of_lt_succ ascii)

/-- Some low bits of a number below a mark that takes the highest bit. -/
theorem le_marked (code : Nat) {size mark : Nat} (some_ : 0 < size) (high : 128 ≤ mark)
    (room : size + mark ≤ 256) : 0x80 ≤ UInt8.ofNat (code % size + mark) := by
  have small := Nat.mod_lt code some_
  rw [UInt8.le_iff_toNat_le, UInt8.toNat_ofNat_of_lt' (Nat.lt_of_lt_of_le (by omega) room)]
  exact Nat.le_add_left_of_le high

/-- Every other character has at least two bytes, and none of them is that of an ASCII character. -/
theorem encode_wide (wide : 128 ≤ glyph.toNat) :
    ∃ first second others, String.utf8EncodeChar glyph = first :: second :: others ∧
      ∀ byte ∈ String.utf8EncodeChar glyph, 0x80 ≤ byte := by
  have follows (code : Nat) : 0x80 ≤ UInt8.ofNat (code % 64 + 128) :=
    le_marked code (by decide) (by decide) (by decide)
  unfold String.utf8EncodeChar
  dsimp only
  split
  · rename_i small
    exact absurd wide (Nat.not_le_of_lt (Nat.lt_succ_of_le small))
  -- Two, three or four bytes, of which the first is marked in its own way.
  split <;> try split
  all_goals
    refine ⟨_, _, _, rfl, ?_⟩
    simp only [List.forall_mem_cons, follows, true_and]
    exact ⟨le_marked _ (by decide) (by decide) (by decide), List.forall_mem_nil _⟩

theorem isSeparator_ascii (ascii : glyph.toNat < 128) :
    isSeparator (UInt8.ofNat glyph.toNat) = decide (glyph ∈ separators) :=
  ascii_induction (motive := fun glyph =>
    isSeparator (UInt8.ofNat glyph.toNat) = decide (glyph ∈ separators)) (by decide) ascii

theorem digitValue?_ascii (ascii : glyph.toNat < 128) :
    digitValue? (UInt8.ofNat glyph.toNat) = digit? glyph :=
  ascii_induction (motive := fun glyph =>
    digitValue? (UInt8.ofNat glyph.toNat) = digit? glyph) (by decide) ascii

theorem plus_ascii (ascii : glyph.toNat < 128) :
    UInt8.ofNat glyph.toNat = 0x2b ↔ glyph = '+' :=
  ascii_induction (motive := fun glyph => UInt8.ofNat glyph.toNat = 0x2b ↔ glyph = '+')
    (by decide) ascii

theorem isSeparator_wide (wide : 0x80 ≤ byte) : isSeparator byte = false := by
  grind [isSeparator]

theorem narrow_of_digitValue? {value : Nat} (found : digitValue? byte = some value) :
    byte < 0x80 := by
  grind [digitValue?]

theorem narrow_of_pairValue? {first second : UInt8} (found : pairValue? first second = some byte) :
    first < 0x80 ∧ second < 0x80 := by
  unfold pairValue? at found
  split at found
  · rename_i left right
    exact ⟨narrow_of_digitValue? left, narrow_of_digitValue? right⟩
  · rename_i right
    split at found
    · rename_i sign
      exact ⟨sign ▸ by decide, narrow_of_digitValue? right⟩
    · cases found
  · cases found

theorem ascii_of_digit? {value : Nat} (found : digit? glyph = some value) : glyph.toNat < 128 := by
  refine Decidable.byContradiction fun wide => ?_
  have unchanged : glyph.toLower = glyph := dif_neg fun upper => wide (by
    have below := UInt32.le_iff_toNat_le.mp upper.2
    exact Nat.lt_of_le_of_lt below (by decide))
  have listed : glyph ∈ digits := by
    rw [digit?, unchanged] at found
    exact List.isSome_idxOf?.mp (Option.isSome_of_eq_some found)
  have narrow : digits.all (·.toNat < 128) = true := by decide
  exact wide (of_decide_eq_true (List.all_eq_true.mp narrow glyph listed))

/-- A character is left out or kept with all of its bytes. -/
theorem filter_encode (glyph : Char) :
    (String.utf8EncodeChar glyph).filter (fun byte => !isSeparator byte) =
      if glyph ∈ separators then [] else String.utf8EncodeChar glyph := by
  by_cases ascii : glyph.toNat < 128
  · rw [encode_ascii ascii, List.filter_cons, isSeparator_ascii ascii]
    by_cases separates : glyph ∈ separators
    · rw [if_pos separates, decide_eq_true separates]
      rfl
    · rw [if_neg separates, decide_eq_false separates]
      rfl
  · have narrow : separators.all (·.toNat < 128) = true := by decide
    have kept : glyph ∉ separators := fun separates =>
      ascii (of_decide_eq_true (List.all_eq_true.mp narrow glyph separates))
    rw [if_neg kept, List.filter_eq_self]
    intro byte member
    obtain ⟨-, -, -, -, wide⟩ := encode_wide (Nat.not_lt.mp ascii)
    rw [isSeparator_wide (wide byte member)]
    rfl

/-- A byte from two characters: from two digits, or from a plus sign and a digit. -/
theorem pairValue?_iff (left : high.toNat < 128) (right : low.toNat < 128) :
    pairValue? (UInt8.ofNat high.toNat) (UInt8.ofNat low.toNat) = some byte ↔
      ∃ second, digit? low = some second ∧
        ((∃ first, digit? high = some first ∧ UInt8.ofNat (16 * first + second) = byte) ∨
          high = '+' ∧ UInt8.ofNat second = byte) := by
  have unsigned : digit? '+' = none := rfl
  rw [pairValue?, digitValue?_ascii left, digitValue?_ascii right]
  simp only [plus_ascii left]
  cases digit? low with
  | none => cases digit? high <;> simp
  | some second =>
    by_cases sign : high = '+'
    · simp [sign, unsigned]
    · cases digit? high <;> simp [sign]

end Characters

theorem significant_eq (text : String) :
    significant text = (glyphs text).flatMap String.utf8EncodeChar := by
  rw [significant, glyphs]
  induction text.toList with
  | nil => rfl
  | cons glyph others ih =>
    rw [List.flatMap_cons, List.filter_append, ih, filter_encode, List.filter_cons]
    by_cases separates : glyph ∈ separators
    · rw [if_pos separates, if_neg (by simpa using separates), List.nil_append]
    · rw [if_neg separates, if_pos (by simpa using separates), List.flatMap_cons]

variable {high low : Char} {text : String} {bytes : Bytes}

theorem pairs_cons_iff {first second : UInt8} {rest : Bytes} :
    pairs (first :: second :: rest) = .ok bytes ↔
      ∃ byte others, pairValue? first second = some byte ∧ pairs rest = .ok others ∧
        byte :: others = bytes := by
  rw [pairs]
  cases pairValue? first second with
  | none => simp
  | some byte => cases pairs rest <;> simp [Except.map]

theorem ascii_first {more : Bytes} (read : pairs (String.utf8EncodeChar high ++ more) = .ok bytes) :
    high.toNat < 128 := by
  refine Decidable.byContradiction fun wide => ?_
  obtain ⟨first, second, others, encoded, all⟩ := encode_wide (Nat.not_lt.mp wide)
  rw [encoded, List.cons_append, List.cons_append, pairs_cons_iff] at read
  obtain ⟨byte, rest, found, -, -⟩ := read
  rw [encoded] at all
  exact UInt8.not_le.mpr (narrow_of_pairValue? found).1 (all first List.mem_cons_self)

theorem ascii_second {first : UInt8} {more : Bytes}
    (read : pairs (first :: (String.utf8EncodeChar low ++ more)) = .ok bytes) :
    low.toNat < 128 := by
  refine Decidable.byContradiction fun wide => ?_
  obtain ⟨second, third, others, encoded, all⟩ := encode_wide (Nat.not_lt.mp wide)
  rw [encoded, List.cons_append, pairs_cons_iff] at read
  obtain ⟨byte, rest, found, -, -⟩ := read
  rw [encoded] at all
  exact UInt8.not_le.mpr (narrow_of_pairValue? found).2 (all second List.mem_cons_self)

theorem encode_pair (left : high.toNat < 128) (right : low.toNat < 128) (others : List Char) :
    (high :: low :: others).flatMap String.utf8EncodeChar =
      UInt8.ofNat high.toNat :: UInt8.ofNat low.toNat :: others.flatMap String.utf8EncodeChar := by
  rw [List.flatMap_cons, List.flatMap_cons, encode_ascii left, encode_ascii right]
  rfl

theorem spells_of_pairs : ∀ {glyphs : List Char} {bytes : Bytes},
    (glyphs.flatMap String.utf8EncodeChar).length % 2 = 0 →
      pairs (glyphs.flatMap String.utf8EncodeChar) = .ok bytes → Spells True glyphs bytes
  | [], _, _, read => by
    cases read
    exact .nil
  | [single], _, even, read => by
    rw [List.flatMap_cons] at read
    rw [List.flatMap_cons, encode_ascii (ascii_first read)] at even
    cases even
  | high :: low :: others, _, even, read => by
    have left : high.toNat < 128 := ascii_first (List.flatMap_cons ▸ read)
    have right : low.toNat < 128 := by
      rw [List.flatMap_cons, List.flatMap_cons, encode_ascii left] at read
      exact ascii_second read
    rw [encode_pair left right] at even read
    obtain ⟨byte, rest, found, tail, rfl⟩ := pairs_cons_iff.mp read
    have spelled := spells_of_pairs ((Nat.add_mod_right _ 2).symm.trans even) tail
    obtain ⟨second, last, ⟨first, front, rfl⟩ | ⟨rfl, rfl⟩⟩ := (pairValue?_iff left right).mp found
    · exact .digits front last spelled
    · exact .signed trivial last spelled

theorem pairs_of_spells {glyphs : List Char} (spelled : Spells True glyphs bytes) :
    (glyphs.flatMap String.utf8EncodeChar).length % 2 = 0 ∧
      pairs (glyphs.flatMap String.utf8EncodeChar) = .ok bytes := by
  induction spelled with
  | nil => exact ⟨rfl, rfl⟩
  | digits left right rest ih =>
    rw [encode_pair (ascii_of_digit? left) (ascii_of_digit? right), pairs_cons_iff]
    have found := (pairValue?_iff (ascii_of_digit? left) (ascii_of_digit? right)).mpr
      ⟨_, right, .inl ⟨_, left, rfl⟩⟩
    exact ⟨(Nat.add_mod_right _ 2).trans ih.1, _, _, found, ih.2, rfl⟩
  | signed allowed right rest ih =>
    have sign : '+'.toNat < 128 := by decide
    rw [encode_pair sign (ascii_of_digit? right), pairs_cons_iff]
    have found := (pairValue?_iff sign (ascii_of_digit? right)).mpr
      ⟨_, right, .inr ⟨rfl, rfl⟩⟩
    exact ⟨(Nat.add_mod_right _ 2).trans ih.1, _, _, found, ih.2, rfl⟩

theorem parse_iff : parse text = .ok bytes ↔ Spells True (glyphs text) bytes := by
  rw [parse, significant_eq]
  split
  · rename_i odd
    exact ⟨nofun, fun spelled => absurd (pairs_of_spells spelled).1 odd⟩
  · rename_i even
    exact ⟨spells_of_pairs (Decidable.not_not.mp even), fun spelled => (pairs_of_spells spelled).2⟩

theorem Spells.spells_true {signs : Prop} {glyphs : List Char} (spelled : Spells signs glyphs bytes) :
    Spells True glyphs bytes := by
  induction spelled with
  | nil => exact .nil
  | digits left right rest ih => exact .digits left right ih
  | signed allowed right rest ih => exact .signed trivial right ih

theorem plus_ne_of_digit? {value : Nat} (found : digit? high = some value) : '+' ≠ high := by
  rintro rfl
  cases found

theorem spells_false_iff {glyphs : List Char} :
    Spells False glyphs bytes ↔ Spells True glyphs bytes ∧ '+' ∉ glyphs := by
  constructor
  · refine fun spelled => ⟨spelled.spells_true, ?_⟩
    induction spelled with
    | nil => exact List.not_mem_nil
    | digits left right rest ih =>
      rw [List.mem_cons, List.mem_cons, not_or, not_or]
      exact ⟨plus_ne_of_digit? left, plus_ne_of_digit? right, ih⟩
    | signed allowed => exact allowed.elim
  · rintro ⟨spelled, plain⟩
    induction spelled with
    | nil => exact .nil
    | digits left right rest ih =>
      rw [List.mem_cons, List.mem_cons, not_or, not_or] at plain
      exact .digits left right (ih plain.2.2)
    | signed => exact absurd List.mem_cons_self plain

theorem Spells.all_digits {glyphs : List Char} (spelled : Spells False glyphs bytes) :
    (∀ glyph ∈ glyphs, (digit? glyph).isSome) ∧ glyphs.length % 2 = 0 := by
  induction spelled with
  | nil => exact ⟨List.forall_mem_nil _, rfl⟩
  | digits left right rest ih =>
    refine ⟨?_, (Nat.add_mod_right _ 2).trans ih.2⟩
    rw [List.forall_mem_cons, List.forall_mem_cons, left, right]
    exact ⟨rfl, rfl, ih.1⟩
  | signed allowed => exact allowed.elim

theorem exists_spells : ∀ {glyphs : List Char}, (∀ glyph ∈ glyphs, (digit? glyph).isSome) →
    glyphs.length % 2 = 0 → ∃ bytes, Spells False glyphs bytes
  | [], _, _ => ⟨[], .nil⟩
  | [_], _, even => by cases even
  | high :: low :: others, all, even => by
    rw [List.forall_mem_cons, List.forall_mem_cons] at all
    obtain ⟨left, right, rest⟩ := all
    obtain ⟨bytes, spelled⟩ := exists_spells rest ((Nat.add_mod_right _ 2).symm.trans even)
    obtain ⟨first, left⟩ := Option.isSome_iff_exists.mp left
    obtain ⟨second, right⟩ := Option.isSome_iff_exists.mp right
    exact ⟨_, .digits left right spelled⟩

/-- The text of bytes spells them, in any case that leaves the digits what they are. -/
theorem spells_hexOfBytes (style : Char → Char)
    (keeps : ∀ value < 16, digit? (style (Text.hexDigit value)) = some value) (bytes : Bytes) :
    Spells False ((Text.hexOfBytes bytes).toList.map style) bytes := by
  rw [Text.hexOfBytes, String.toList_ofList]
  induction bytes with
  | nil => exact .nil
  | cons byte rest ih =>
    have bounded := byte.toNat_lt
    have spelled := Spells.digits (keeps (byte.toNat / 16) (by omega))
      (keeps (byte.toNat % 16) (by omega)) ih
    rwa [Nat.div_add_mod, UInt8.ofNat_toNat] at spelled

theorem plus_mem_glyphs : '+' ∈ glyphs text ↔ '+' ∈ text.toList := by
  have kept : '+' ∉ separators := by decide
  rw [glyphs, List.mem_filter, and_iff_left (decide_eq_true kept)]

/-- A text is read just when its characters, but for separators, are two for every byte. If there is
no plus sign in it, these are an even number of digits; every such text is read as the bytes that the
digits denote, the hexadecimal text of bytes in either case among them. -/
theorem parse_spells (text : String) :
    (∀ bytes, parse text = .ok bytes ↔ Spells True (glyphs text) bytes) ∧
      (∀ bytes, parse text = .ok bytes ∧ '+' ∉ text.toList ↔ Spells False (glyphs text) bytes) ∧
      ((∃ bytes, parse text = .ok bytes ∧ '+' ∉ text.toList) ↔
        (∀ glyph ∈ glyphs text, (digit? glyph).isSome) ∧ (glyphs text).length % 2 = 0) ∧
      ∀ bytes, glyphs text = (Text.hexOfBytes bytes).toList ∨
          glyphs text = (Text.hexOfBytes bytes).toList.map Char.toUpper →
        parse text = .ok bytes := by
  have plain (bytes : Bytes) :
      parse text = .ok bytes ∧ '+' ∉ text.toList ↔ Spells False (glyphs text) bytes := by
    rw [parse_iff, spells_false_iff, plus_mem_glyphs]
  refine ⟨fun _ => parse_iff, plain, ⟨?_, ?_⟩, ?_⟩
  · rintro ⟨bytes, read⟩
    exact ((plain bytes).mp read).all_digits
  · rintro ⟨all, even⟩
    obtain ⟨bytes, spelled⟩ := exists_spells all even
    exact ⟨bytes, (plain bytes).mpr spelled⟩
  · rintro bytes (lower | upper)
    · have spelled := spells_hexOfBytes id (by decide) bytes
      rw [List.map_id, ← lower] at spelled
      exact ((plain bytes).mpr spelled).1
    · have spelled := spells_hexOfBytes Char.toUpper (by decide) bytes
      rw [← upper] at spelled
      exact ((plain bytes).mpr spelled).1

/-- A plus sign is no digit, but with a digit it is a byte. -/
theorem parse_signed : ¬ ((∃ bytes, parse "+f" = .ok bytes) ↔
    (∀ glyph ∈ glyphs "+f", (digit? glyph).isSome) ∧ (glyphs "+f").length % 2 = 0) := by
  intro same
  have read : parse "+f" = .ok [0x0f] := rfl
  exact absurd ((same.mp ⟨_, read⟩).1 '+' (by decide)) (by decide)

end PipeBus.HexInput

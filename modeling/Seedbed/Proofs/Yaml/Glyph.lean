import Seedbed.Power
import Seedbed.Proofs.Text.Number
import Seedbed.Yaml.Quoted

/-!
# Texts between double quotes

A text is written character by character: a quote and a backslash after a backslash, other printable
ASCII characters as they are, all else as an escape of two, four or eight hexadecimal digits. Its
writer may choose more digits than an escape needs, and capitals. Whatever the choice, the text is
read back (`readQuoted_quoted`).
-/

namespace Seedbed.Yaml

open Seedbed.Text

/-! ## Hexadecimal digits -/

/-- A hexadecimal digit, whose letters may be capitals. -/
def hexDigit (capital : Bool) (digit : Nat) : Char :=
  if capital then (Nat.digitChar digit).toUpper else Nat.digitChar digit

/-- The last hexadecimal digits of a number, with zeros before them where it has fewer. -/
def hexDigits (capital : Bool) : (count number : Nat) → List Char
  | 0, _ => []
  | count + 1, number => hexDigits capital count (number / 16) ++ [hexDigit capital (number % 16)]

theorem digitValue?_hexDigit (capital : Bool) {digit : Nat} (small : digit < 16) :
    digitValue? 16 (hexDigit capital digit) = some digit := by
  have value : ∀ digit < 16, ∀ capital, digitValue? 16 (hexDigit capital digit) = some digit := by
    decide
  exact value digit small capital

theorem length_hexDigits (capital : Bool) (count number : Nat) :
    (hexDigits capital count number).length = count := by
  induction count generalizing number with
  | zero => rfl
  | succ count ih =>
    rw [hexDigits, List.length_append, ih]
    rfl

/-- Enough digits are as many values, which make up the number. -/
theorem mapM_hexDigits (capital : Bool) {count number : Nat} (enough : number < 16 ^ count) :
    ∃ values, (hexDigits capital count number).mapM (digitValue? 16) = some values ∧
      values.length = count ∧ values.foldl (· * 16 + ·) 0 = number := by
  induction count generalizing number with
  | zero => exact ⟨[], rfl, rfl, (Nat.lt_one_iff.mp enough).symm⟩
  | succ count ih =>
    have fewer : number / 16 < 16 ^ count := Nat.div_lt_of_lt_mul (by rwa [Nat.pow_succ'] at enough)
    obtain ⟨values, read, length, value⟩ := ih fewer
    have last : digitValue? 16 (hexDigit capital (number % 16)) = some (number % 16) :=
      digitValue?_hexDigit capital (Nat.mod_lt number (by decide))
    refine ⟨values ++ [number % 16], ?_, ?_, ?_⟩
    · rw [hexDigits, List.mapM_append, read]
      simp [last]
    · rw [List.length_append, length]
      rfl
    · rw [List.foldl_append, value]
      exact Nat.div_add_mod' number 16

/-! ## Writing -/

/-- How many digits an escape has. -/
inductive EscapeWidth where
  | two
  | four
  | eight
  deriving DecidableEq, Repr

namespace EscapeWidth

def digits : EscapeWidth → Nat
  | two => 2
  | four => 4
  | eight => 8

/-- The letter after the backslash. -/
def letter : EscapeWidth → Char
  | two => 'x'
  | four => 'u'
  | eight => 'U'

/-- The width that is wished for, if it is enough for a character's number; else the least that is.
-/
def enough (wish : EscapeWidth) (c : Char) : EscapeWidth :=
  if c.toNat < 0x100 then wish
  else if c.toNat < 0x10000 then if wish = two then four else wish
  else eight

theorem toNat_lt_enough (wish : EscapeWidth) (c : Char) :
    c.toNat < 16 ^ (wish.enough c).digits := by
  have most : c.toNat < 0x110000 := by
    have valid : c.toNat < 0xd800 ∨ 0xdfff < c.toNat ∧ c.toNat < 0x110000 := c.valid
    omega
  unfold enough
  cases wish <;> (split <;> try split) <;> simp [digits] <;> omega

end EscapeWidth

/-- What a writer chooses if a character is written as an escape. -/
structure EscapeStyle where
  /-- How many digits there should be, if they are enough. -/
  wish : EscapeWidth := .two
  /-- Whether the digits are capitals. -/
  capital : Bool := false
  deriving DecidableEq, Repr

/-- A character and the style of its escape. -/
structure Glyph extends EscapeStyle where
  char : Char
  deriving DecidableEq, Repr

/-- Whether a character is one of ASCII that can be seen, or a space. -/
def isPrintable (c : Char) : Bool := ' ' ≤ c && c ≤ '~'

/-- How a character is written between double quotes. -/
def Glyph.written (glyph : Glyph) : List Char :=
  if glyph.char = '"' ∨ glyph.char = '\\' then ['\\', glyph.char]
  else if isPrintable glyph.char then [glyph.char]
  else
    '\\' :: (glyph.wish.enough glyph.char).letter ::
      hexDigits glyph.capital (glyph.wish.enough glyph.char).digits glyph.char.toNat

theorem isPrintable_of_mem_hexDigits {capital : Bool} {count number : Nat} {c : Char}
    (member : c ∈ hexDigits capital count number) : isPrintable c := by
  have digits : ∀ digit < 16, ∀ capital, isPrintable (hexDigit capital digit) := by decide
  induction count generalizing number with
  | zero => cases member
  | succ count ih =>
    rcases List.mem_append.mp member with member | last
    · exact ih member
    · exact List.mem_singleton.mp last ▸ digits _ (Nat.mod_lt number (by decide)) capital

/-- Whatever a character is, it is written with printable ones. -/
theorem Glyph.isPrintable_of_mem_written {glyph : Glyph} {c : Char} (member : c ∈ glyph.written) :
    isPrintable c := by
  unfold Glyph.written at member
  split at member
  · rename_i marked
    simp only [List.mem_cons, List.not_mem_nil, or_false] at member
    rcases member with rfl | rfl
    · decide
    · rcases marked with same | same <;> rw [same] <;> decide
  · split at member
    · rename_i printable
      rwa [List.mem_singleton.mp member]
    · rcases List.mem_cons.mp member with rfl | member
      · decide
      · rcases List.mem_cons.mp member with rfl | member
        · cases glyph.wish.enough glyph.char <;> decide
        · exact isPrintable_of_mem_hexDigits member

/-- A text between double quotes. -/
def quoted (text : List Glyph) : List Char := '"' :: (text.flatMap Glyph.written ++ ['"'])

/-! ## Cursors -/

theorem Cursor.rest_skips (count : Nat) (cursor : Cursor) :
    (cursor.skips count).rest = cursor.rest.drop count := by
  induction count with
  | zero => rfl
  | succ count ih =>
    have step : (cursor.skips (count + 1)).rest = (cursor.skips count).rest.tail := rfl
    rw [step, ih, List.tail_drop]

theorem Cursor.column_skips (count : Nat) (cursor : Cursor) :
    (cursor.skips count).place.column = cursor.place.column + count := by
  induction count with
  | zero => rfl
  | succ count ih =>
    have step : (cursor.skips (count + 1)).place.column = (cursor.skips count).place.column + 1 :=
      rfl
    rw [step, ih]
    rfl

variable {start place : Place} {rest : List Char} {c : Char}

@[simp] theorem Cursor.peek_zero : (⟨c :: rest, place⟩ : Cursor).peek = c := rfl

@[simp] theorem Cursor.peek_succ {ahead : Nat} :
    (⟨c :: rest, place⟩ : Cursor).peek (ahead + 1) = (⟨rest, place⟩ : Cursor).peek ahead := rfl

theorem Cursor.skip_cons : (⟨c :: rest, place⟩ : Cursor).skip = ⟨rest, place.next c⟩ := rfl

theorem Cursor.lineBreak?_eq_none (notBreak : isBreak c = false) :
    (⟨c :: rest, place⟩ : Cursor).lineBreak? = none := by
  have unbroken : Yaml.lineBreak? (c :: rest) = none := by
    unfold Yaml.lineBreak?
    split <;> simp_all [isBreak]
  rw [Cursor.lineBreak?, unbroken]
  rfl

theorem Cursor.lineBreak?_feed :
    (⟨'\n' :: rest, place⟩ : Cursor).lineBreak? = some ('\n', ⟨rest, place.nextLine ['\n']⟩) := rfl

/-! ## Reading an escape -/

theorem readCode_hexDigits (capital : Bool) {count : Nat} (enough : c.toNat < 16 ^ count) :
    readCode start count ⟨hexDigits capital count c.toNat ++ rest, place⟩ =
      .ok (c, (⟨hexDigits capital count c.toNat ++ rest, place⟩ : Cursor).skips count) := by
  obtain ⟨values, read, length, value⟩ := mapM_hexDigits capital enough
  have taken : (hexDigits capital count c.toNat ++ rest).take count =
      hexDigits capital count c.toNat :=
    List.take_left' (length_hexDigits capital count c.toNat)
  have valid : c.toNat.isValidChar := c.valid
  simp only [readCode, taken, read, length, Nat.lt_irrefl, if_false, value, charOfCode,
    if_pos valid, Char.ofNat_toNat]

theorem readEscape_code (width : EscapeWidth) (capital : Bool)
    (enough : c.toNat < 16 ^ width.digits) :
    ∃ after : Place, place.column < after.column ∧
      readEscape start ⟨'\\' :: width.letter ::
        (hexDigits capital width.digits c.toNat ++ rest), place⟩ = .ok (c, ⟨rest, after⟩) := by
  have escape : Escape.of? width.letter = some (.code width.digits) := by cases width <;> rfl
  generalize entry : (⟨'\\' :: width.letter ::
    (hexDigits capital width.digits c.toNat ++ rest), place⟩ : Cursor) = cursor
  have second : cursor.peek 1 = width.letter := by rw [← entry]; rfl
  have inside : cursor.skip.skip.rest = hexDigits capital width.digits c.toNat ++ rest := by
    rw [← entry]; rfl
  have column : cursor.skip.skip.place.column = place.column + 2 := by rw [← entry]; rfl
  have left : (cursor.skip.skip.skips width.digits).rest = rest := by
    rw [Cursor.rest_skips, inside, List.drop_left' (length_hexDigits capital _ _)]
  refine ⟨(cursor.skip.skip.skips width.digits).place, ?_, ?_⟩
  · rw [Cursor.column_skips, column]
    omega
  · have read := @readCode_hexDigits start cursor.skip.skip.place rest c capital width.digits enough
    rw [← inside] at read
    simp only [readEscape, second, escape]
    rw [read]
    generalize cursor.skip.skip.skips width.digits = after at left
    subst left
    rfl

/-! ## Reading a text -/

theorem not_isBreak_of_isPrintable {c : Char} (printable : isPrintable c) : isBreak c = false := by
  simp only [isBreak, Bool.or_eq_false_iff, beq_eq_false_iff_ne]
  refine ⟨⟨⟨⟨?_, ?_⟩, ?_⟩, ?_⟩, ?_⟩ <;>
    · rintro rfl
      exact absurd printable (by decide)

theorem not_isBlank_of_isPrintable {c : Char} (printable : isPrintable c) (other : c ≠ ' ') :
    isBlank c = false := by
  simp only [isBlank, Bool.or_eq_false_iff, beq_eq_false_iff_ne]
  refine ⟨other, ?_⟩
  rintro rfl
  exact absurd printable (by decide)

/-- A document marker stands at the start of a line. -/
theorem refuseMarker_inside {cursor : Cursor} (inside : 0 < cursor.place.column) :
    refuseMarker start cursor = .ok () := by
  have column : (cursor.place.column == 0) = false := beq_eq_false_iff_ne.mpr (Nat.ne_of_gt inside)
  simp [refuseMarker, Cursor.atDocumentMarker, Cursor.atMarker, column]

/-- Reads on in a line of a text between double quotes: the rest of a gap, and what is after it. -/
def readOn (start : Place) (gap : Gap) (text : List Char) (cursor : Cursor) :
    Except Fault (List Char × Cursor) :=
  match readGap none start gap cursor with
  | .error fault => .error fault
  | .ok (gap, after) => do
    refuseMarker start after
    readQuoted '"' start (gap.text.reverse ++ text) after

variable {gap : Gap} {text : List Char}

theorem readOn_blank (unbroken : gap.broken = false) :
    readOn start gap text ⟨' ' :: rest, place⟩ =
      readOn start { gap with blanks := gap.blanks ++ [' '] } text ⟨rest, place.next ' '⟩ := by
  rw [readOn, readGap]
  simp [Cursor.peek, isBlank, unbroken, Gap.addBlank, Cursor.skip, readOn]

theorem readGap_end {least : Option Nat} (notBlank : isBlank c = false)
    (notBreak : isBreak c = false) :
    readGap least start gap ⟨c :: rest, place⟩ = .ok (gap, ⟨c :: rest, place⟩) := by
  rw [readGap]
  simp only [Cursor.peek_zero, notBlank, List.isEmpty_cons, Bool.false_eq_true, if_false]
  split
  · rename_i broken
    rw [Cursor.lineBreak?_eq_none notBreak] at broken
    cases broken
  · rfl

theorem readOn_end (notBlank : isBlank c = false) (notBreak : isBreak c = false)
    (inside : 0 < place.column) :
    readOn start gap text ⟨c :: rest, place⟩ =
      readQuoted '"' start (gap.text.reverse ++ text) ⟨c :: rest, place⟩ := by
  rw [readOn, readGap_end notBlank notBreak]
  have passed : refuseMarker start ⟨c :: rest, place⟩ = .ok () := refuseMarker_inside inside
  simp only [passed]
  rfl

/-- In a line a text is read on without a gap as it is. -/
theorem readQuoted_eq_readOn (notBreak : isBreak c = false) (inside : 0 < place.column) :
    readQuoted '"' start text ⟨c :: rest, place⟩ = readOn start {} text ⟨c :: rest, place⟩ := by
  cases blank : isBlank c with
  | false => rw [readOn_end blank notBreak inside]; rfl
  | true =>
    rw [readQuoted, readOn]
    simp only [Cursor.peek_zero, blank, List.isEmpty_cons, Bool.false_eq_true, if_false,
      Bool.true_or, if_true]
    split <;> simp_all

theorem readQuoted_escape {cursor : Cursor} {read : Char} (notBreak : isBreak c = false)
    (escape : readEscape start ⟨'\\' :: c :: rest, place⟩ = .ok (read, cursor)) :
    readQuoted '"' start text ⟨'\\' :: c :: rest, place⟩ =
      readQuoted '"' start (read :: text) cursor := by
  have notGap : (isBlank '\\' || isBreak '\\') = false := by decide
  have notQuote : ('"' == '\'' && '\\' == '\'') = false ∧ ('\\' == '"') = false := by decide
  have noMark : ('"' == '\'') = false := by decide
  rw [readQuoted]
  simp only [Cursor.peek_zero, Cursor.peek_succ, List.isEmpty_cons, notGap, notQuote, notBreak,
    noMark, Bool.false_and, Bool.and_false, beq_self_eq_true, Bool.true_and, if_true,
    Bool.false_eq_true, if_false]
  split <;> simp_all

theorem readQuoted_plain (notBlank : isBlank c = false) (notBreak : isBreak c = false)
    (unmarked : ¬ (c = '"' ∨ c = '\\')) :
    readQuoted '"' start text ⟨c :: rest, place⟩ =
      readQuoted '"' start (c :: text) ⟨rest, place.next c⟩ := by
  obtain ⟨notQuote, notMark⟩ := not_or.mp unmarked
  have noMark : ('"' == '\'') = false := by decide
  rw [readQuoted]
  simp only [Cursor.peek_zero, List.isEmpty_cons, notBlank, notBreak, noMark,
    beq_eq_false_iff_ne.mpr notQuote, beq_eq_false_iff_ne.mpr notMark, Bool.or_false,
    Bool.false_and, Bool.and_false, Bool.false_eq_true, if_false]
  rfl

/-- A character other than a space is read from the way it is written. -/
theorem readQuoted_written (glyph : Glyph) (other : glyph.char ≠ ' ') :
    ∃ after : Place, place.column < after.column ∧
      readQuoted '"' start text ⟨glyph.written ++ rest, place⟩ =
        readQuoted '"' start (glyph.char :: text) ⟨rest, after⟩ := by
  unfold Glyph.written
  split
  · rename_i marked
    have notBreak : isBreak glyph.char = false := by rcases marked with h | h <;> rw [h] <;> rfl
    have escape : Escape.of? glyph.char = some (.char glyph.char) := by
      rcases marked with h | h <;> rw [h] <;> rfl
    refine ⟨(place.next '\\').next glyph.char, Nat.lt_succ_of_lt (Nat.lt_succ_self _), ?_⟩
    refine readQuoted_escape notBreak ?_
    simp only [readEscape, Cursor.peek_zero, Cursor.peek_succ, escape]
    rfl
  · rename_i unmarked
    split
    · rename_i printable
      exact ⟨place.next glyph.char, Nat.lt_succ_self _,
        readQuoted_plain (not_isBlank_of_isPrintable printable other)
          (not_isBreak_of_isPrintable printable) unmarked⟩
    · obtain ⟨after, later, read⟩ := @readEscape_code start place rest glyph.char
        (glyph.wish.enough glyph.char) glyph.capital (glyph.wish.toNat_lt_enough glyph.char)
      have notBreak : isBreak (glyph.wish.enough glyph.char).letter = false := by
        cases glyph.wish.enough glyph.char <;> rfl
      exact ⟨after, later, readQuoted_escape notBreak read⟩

/-- A glyph is written with a printable character first, which is a space for spaces alone. -/
theorem Glyph.written_eq_cons (glyph : Glyph) :
    ∃ c others, glyph.written = c :: others ∧ isPrintable c ∧ (c = ' ' → glyph.char = ' ') := by
  unfold Glyph.written
  split
  · exact ⟨_, _, rfl, by decide, nofun⟩
  · split
    · exact ⟨_, _, rfl, by assumption, id⟩
    · exact ⟨_, _, rfl, by decide, nofun⟩

/-- Inside a text a printable character comes next. -/
theorem exists_cons_of_glyphs (glyphs : List Glyph) (rest : List Char) :
    ∃ c others, glyphs.flatMap Glyph.written ++ '"' :: rest = c :: others ∧ isPrintable c := by
  cases glyphs with
  | nil => exact ⟨_, _, rfl, by decide⟩
  | cons glyph glyphs =>
    obtain ⟨c, others, written, printable, -⟩ := glyph.written_eq_cons
    exact ⟨c, _, by rw [List.flatMap_cons, written]; rfl, printable⟩

/-- Some of a text is read, after the part of a gap that has been read before. -/
theorem readOn_written (glyphs : List Glyph) (unbroken : gap.broken = false)
    (inside : 0 < place.column) :
    ∃ after, readOn start gap text ⟨glyphs.flatMap Glyph.written ++ '"' :: rest, place⟩ =
      .ok (text.reverse ++ (gap.blanks ++ glyphs.map Glyph.char), ⟨rest, after⟩) := by
  have gapText : gap.text = gap.blanks := by simp [Gap.text, unbroken]
  -- Spaces in a row are read as one gap, so the induction carries the gap that is still open.
  induction glyphs generalizing gap text place with
  | nil =>
    refine ⟨place.next '"', ?_⟩
    rw [List.flatMap_nil, List.nil_append, readOn_end (by decide) (by decide) inside, readQuoted]
    simp [Cursor.peek, isBlank, isBreak, gapText, Cursor.skip]
  | cons glyph glyphs ih =>
    rw [List.flatMap_cons, List.append_assoc]
    by_cases space : glyph.char = ' '
    · have written : glyph.written = [' '] := by
        rw [Glyph.written, space]
        rfl
      let wider : Gap := { gap with blanks := gap.blanks ++ [' '] }
      have widerText : wider.text = wider.blanks := by simp [Gap.text, wider, unbroken]
      obtain ⟨after, read⟩ :=
        @ih (place.next ' ') wider text unbroken (Nat.zero_lt_succ _) widerText
      refine ⟨after, ?_⟩
      rw [written, List.singleton_append, readOn_blank unbroken, read, List.map_cons, space]
      simp [wider]
    · obtain ⟨c, others, written, printable, blank⟩ := glyph.written_eq_cons
      obtain ⟨next, later, more, printable'⟩ := exists_cons_of_glyphs glyphs rest
      obtain ⟨between, further, step⟩ := @readQuoted_written start place
        (glyphs.flatMap Glyph.written ++ '"' :: rest) (gap.text.reverse ++ text) glyph space
      have inside' : 0 < between.column := Nat.zero_lt_of_lt further
      obtain ⟨after, read⟩ :=
        @ih between {} (glyph.char :: (gap.text.reverse ++ text)) rfl inside' rfl
      refine ⟨after, ?_⟩
      have first : readOn start gap text
          ⟨glyph.written ++ (glyphs.flatMap Glyph.written ++ '"' :: rest), place⟩ =
            readQuoted '"' start (gap.text.reverse ++ text)
              ⟨glyph.written ++ (glyphs.flatMap Glyph.written ++ '"' :: rest), place⟩ := by
        rw [written]
        exact readOn_end (not_isBlank_of_isPrintable printable (mt blank space))
          (not_isBreak_of_isPrintable printable) inside
      rw [first, step]
      rw [more] at read ⊢
      rw [readQuoted_eq_readOn (not_isBreak_of_isPrintable printable') inside', read]
      simp [gapText]

/-- A text between double quotes is read back, and its closing quote is passed over. -/
theorem readQuoted_quoted (glyphs : List Glyph) (inside : 0 < place.column) :
    ∃ after, readQuoted '"' start [] ⟨glyphs.flatMap Glyph.written ++ '"' :: rest, place⟩ =
      .ok (glyphs.map Glyph.char, ⟨rest, after⟩) := by
  obtain ⟨next, later, more, printable⟩ := exists_cons_of_glyphs glyphs rest
  obtain ⟨after, read⟩ := @readOn_written start place rest {} [] glyphs rfl inside
  refine ⟨after, ?_⟩
  rw [more] at read ⊢
  rw [readQuoted_eq_readOn (not_isBreak_of_isPrintable printable) inside, read]
  rfl

end Seedbed.Yaml

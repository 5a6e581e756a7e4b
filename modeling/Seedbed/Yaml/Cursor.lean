import Seedbed.Yaml.Place

/-!
# Cursors

A cursor is what is left of a document together with its place. The end of a document looks like a
NUL character, which no document holds. Five spellings break a line, and all of them are read as a
line feed but the line and the paragraph separator, which stay themselves.
-/

namespace Seedbed.Yaml

/-! ## Characters -/

def isBlank (c : Char) : Bool := c == ' ' || c == '\t'

/-- A character that breaks a line, alone or with the one after it. -/
def isBreak (c : Char) : Bool :=
  c == '\n' || c == '\r' || c == '\x85' || c == '\u2028' || c == '\u2029'

def isBreakOrEnd (c : Char) : Bool := isBreak c || c == '\x00'

def isBlankOrEnd (c : Char) : Bool := isBlank c || isBreakOrEnd c

def isNameChar (c : Char) : Bool := c.isAlphanum || c == '-' || c == '_'

/-- A line break at the head of a text: the character it is read as, and how many it takes up. -/
def lineBreak? : List Char → Option (Char × Nat)
  | '\r' :: '\n' :: _ => some ('\n', 2)
  | c :: _ =>
    if c == '\u2028' || c == '\u2029' then some (c, 1)
    else if isBreak c then some ('\n', 1)
    else none
  | [] => none

/-! ## Cursors -/

structure Cursor where
  rest : List Char
  place : Place := .start
  deriving DecidableEq, Repr

namespace Cursor

/-- The character some places ahead; NUL after the end. -/
def peek (cursor : Cursor) (ahead : Nat := 0) : Char := (cursor.rest[ahead]?).getD '\x00'

def skip (cursor : Cursor) : Cursor := ⟨cursor.rest.tail, cursor.place.next cursor.peek⟩

def skips (cursor : Cursor) (count : Nat) : Cursor := Nat.repeat skip count cursor

/-- Passes over a line break, and tells what it is read as. -/
def lineBreak? (cursor : Cursor) : Option (Char × Cursor) :=
  (Yaml.lineBreak? cursor.rest).map fun (read, count) =>
    (read, ⟨cursor.rest.drop count, cursor.place.nextLine (cursor.rest.take count)⟩)

def skipLine (cursor : Cursor) : Cursor := (cursor.lineBreak?.map (·.2)).getD cursor

/-- The longest run of characters of a class, and the cursor after it. The class must hold no line
break. -/
def takeWhile (cursor : Cursor) (holds : Char → Bool) : List Char × Cursor :=
  let run := cursor.rest.takeWhile holds
  (run, ⟨cursor.rest.dropWhile holds, { cursor.place with
    index := cursor.place.index + octetCount run
    column := cursor.place.column + run.length }⟩)

def skipWhile (cursor : Cursor) (holds : Char → Bool) : Cursor := (cursor.takeWhile holds).2

/-- Passes over blanks, and over a comment after them. -/
def skipComment (cursor : Cursor) : Cursor :=
  let cursor := cursor.skipWhile isBlank
  if cursor.peek == '#' then cursor.skipWhile (! isBreakOrEnd ·) else cursor

/-- Whether a mark of three equal characters stands alone at the start of a line. -/
def atMarker (cursor : Cursor) (mark : Char) : Bool :=
  cursor.place.column == 0 && cursor.peek 0 == mark && cursor.peek 1 == mark &&
    cursor.peek 2 == mark && isBlankOrEnd (cursor.peek 3)

def atDocumentMarker (cursor : Cursor) : Bool := cursor.atMarker '-' || cursor.atMarker '.'

theorem length_skip {cursor : Cursor} (more : cursor.rest ≠ []) :
    cursor.skip.rest.length < cursor.rest.length := by
  cases h : cursor.rest with
  | nil => exact absurd h more
  | cons c rest => simp [skip, h]

theorem length_skips_le (count : Nat) (cursor : Cursor) :
    (cursor.skips count).rest.length ≤ cursor.rest.length := by
  induction count with
  | zero => simp [skips, Nat.repeat]
  | succ count ih =>
    have step : (cursor.skips (count + 1)).rest = (cursor.skips count).rest.tail := rfl
    rw [step, List.length_tail]
    omega

theorem length_skips_lt {count : Nat} {cursor : Cursor} (positive : 0 < count)
    (more : cursor.rest ≠ []) : (cursor.skips count).rest.length < cursor.rest.length := by
  obtain ⟨count, rfl⟩ := Nat.exists_eq_succ_of_ne_zero (Nat.pos_iff_ne_zero.1 positive)
  have step : (cursor.skips (count + 1)).rest = (cursor.skips count).rest.tail := rfl
  have := length_skips_le count cursor
  have := List.length_pos_iff.2 more
  rw [Nat.succ_eq_add_one, step, List.length_tail]
  omega

theorem length_skipWhile_le (cursor : Cursor) (holds : Char → Bool) :
    (cursor.skipWhile holds).rest.length ≤ cursor.rest.length := by
  exact (List.dropWhile_sublist _).length_le

theorem rest_ne_nil_of_peek {cursor : Cursor} {c : Char} (head : cursor.peek = c)
    (some : c ≠ '\x00') : cursor.rest ≠ [] := by
  rintro empty
  simp [peek, empty] at head
  exact some head.symm

theorem length_of_lineBreak {cursor after : Cursor} {read : Char}
    (broken : cursor.lineBreak? = some (read, after)) :
    after.rest.length < cursor.rest.length := by
  simp only [lineBreak?, Option.map_eq_some_iff, Prod.mk.injEq] at broken
  obtain ⟨⟨c, count⟩, found, -, rfl⟩ := broken
  have positive : 0 < count ∧ cursor.rest ≠ [] := by
    cases h : cursor.rest with
    | nil => simp [h, Yaml.lineBreak?] at found
    | cons first others =>
      rw [h] at found
      unfold Yaml.lineBreak? at found
      split at found <;> (try split at found) <;> (try split at found) <;> simp_all <;> omega
  have nonempty : 0 < cursor.rest.length := List.length_pos_iff.2 positive.2
  simp only [List.length_drop]
  omega

theorem length_skipLine (cursor : Cursor) :
    cursor.skipLine.rest.length ≤ cursor.rest.length := by
  unfold skipLine
  cases h : cursor.lineBreak? with
  | none => simp
  | some pair => exact Nat.le_of_lt (@length_of_lineBreak cursor pair.2 pair.1 (by simp [h]))

end Cursor
end Seedbed.Yaml

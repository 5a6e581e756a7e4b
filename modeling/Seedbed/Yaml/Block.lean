import Seedbed.Yaml.Cursor
import Seedbed.Yaml.Fault

/-!
# Block scalars

A block scalar is the lines that are indented further than what holds it. Its header may give the
indentation and say what becomes of the last line breaks. A literal scalar keeps its line breaks; a
folded one turns a single break between two lines that start with no blank into a space.
-/

namespace Seedbed.Yaml

/-! ## Header -/

/-- What becomes of the line breaks at the end. -/
inductive Chomping where
  /-- All are dropped. -/
  | strip
  /-- One is kept. -/
  | clip
  /-- All are kept. -/
  | keep
  deriving DecidableEq, Repr

def Chomping.of? (c : Char) : Option Chomping :=
  if c == '+' then some .keep else if c == '-' then some .strip else none

structure BlockHeader where
  chomping : Chomping := .clip
  /-- The indentation relative to what holds the scalar; zero if it is not given. -/
  increment : Nat := 0
  deriving DecidableEq, Repr

/-- Reads an indentation indicator, a digit other than zero, if there is one. -/
def readIncrement (start : Place) (cursor : Cursor) : Except Fault (Nat × Cursor) :=
  let c := cursor.peek
  if !c.isDigit then .ok (0, cursor)
  else if c == '0' then .error (.during .blockScalar start .zeroIndentation cursor.place)
  else .ok (c.toNat - '0'.toNat, cursor.skip)

/-- Reads a header up to the end of its line: the two indicators in either order, and a comment. -/
def readBlockHeader (start : Place) (cursor : Cursor) : Except Fault (BlockHeader × Cursor) := do
  let (header, cursor) ← (do
    match Chomping.of? cursor.peek with
    | some chomping =>
      let (increment, cursor) ← readIncrement start cursor.skip
      return ({ chomping, increment }, cursor)
    | none =>
      let (increment, cursor) ← readIncrement start cursor
      match if increment = 0 then none else Chomping.of? cursor.peek with
      | some chomping => return ({ chomping, increment }, cursor.skip)
      | none => return ({ increment }, cursor))
  let cursor := cursor.skipComment
  if isBreakOrEnd cursor.peek then return (header, cursor.skipLine)
  else throw (.during .blockScalar start .noCommentOrBreak cursor.place)

/-! ## Lines -/

/-- Whether a column still belongs to the indentation, which is unknown if it is zero. -/
def inIndentation (indent column : Nat) : Bool := indent == 0 || column < indent

def skipIndentation (indent : Nat) (cursor : Cursor) : Cursor :=
  if cursor.rest.isEmpty then cursor
  else if inIndentation indent cursor.place.column && cursor.peek == ' ' then
    skipIndentation indent cursor.skip
  else cursor
  termination_by cursor.rest.length
  decreasing_by exact Cursor.length_skip (by simp_all)

theorem length_skipIndentation (indent : Nat) (cursor : Cursor) :
    (skipIndentation indent cursor).rest.length ≤ cursor.rest.length := by
  fun_induction skipIndentation indent cursor with
  | case1 => simp
  | case2 cursor more _ ih =>
    exact Nat.le_trans ih (Nat.le_of_lt (Cursor.length_skip (by simp_all)))
  | case3 => simp

/-- Passes over empty lines and the indentation after them. Yields the line breaks and the widest
indentation met. -/
def readEmptyLines (start : Place) (indent widest : Nat) (breaks : List Char) (cursor : Cursor) :
    Except Fault (List Char × Nat × Cursor) :=
  let indented := skipIndentation indent cursor
  let widest := max widest indented.place.column
  if inIndentation indent indented.place.column && indented.peek == '\t' then
    .error (.during .blockScalar start .tabInIndentation indented.place)
  else
    match _broken : indented.lineBreak? with
    | some (read, after) => readEmptyLines start indent widest (breaks ++ [read]) after
    | none => .ok (breaks, widest, indented)
  termination_by cursor.rest.length
  decreasing_by
    exact Nat.lt_of_lt_of_le (Cursor.length_of_lineBreak _broken)
      (length_skipIndentation indent cursor)

structure BlockReading where
  /-- The lines read, with the breaks that count, backwards. -/
  text : List Char := []
  lead : List Char := []
  /-- The line breaks of the empty lines after that. -/
  breaks : List Char := []
  /-- Whether the last line started with a blank. -/
  blankLine : Bool := false
  deriving DecidableEq, Repr

/-- What the breaks before a line add to the text. A single line feed between two lines that start
with no blank is folded. -/
def BlockReading.joined (literal : Bool) (reading : BlockReading) (blankNow : Bool) : List Char :=
  if !literal && reading.lead == ['\n'] && !reading.blankLine && !blankNow then
    if reading.breaks.isEmpty then [' '] else reading.breaks
  else reading.lead ++ reading.breaks

/-- Reads the lines of a block scalar; the fuel bounds their number. -/
def readLines (literal : Bool) (start : Place) (indent : Nat) :
    (fuel : Nat) → BlockReading → Cursor → Except Fault (BlockReading × Cursor)
  | 0, reading, cursor => .ok (reading, cursor)
  | fuel + 1, reading, cursor =>
    if cursor.place.column == indent && !cursor.rest.isEmpty then do
      let blankNow := isBlank cursor.peek
      let joined := reading.joined literal blankNow
      let (line, ended) := cursor.takeWhile (! isBreakOrEnd ·)
      let (lead, next) :=
        match ended.lineBreak? with
        | some (read, next) => ([read], next)
        | none => ([], ended)
      let (breaks, _, after) ← readEmptyLines start indent 0 [] next
      readLines literal start indent fuel
        { text := line.reverse ++ (joined.reverse ++ reading.text)
          lead, breaks, blankLine := blankNow } after
    else .ok (reading, cursor)

def BlockReading.chomped (reading : BlockReading) : Chomping → List Char
  | .strip => reading.text.reverse
  | .clip => reading.text.reverse ++ reading.lead
  | .keep => reading.text.reverse ++ reading.lead ++ reading.breaks

/-- Reads a block scalar from its indicator on. `parent` is the column of what holds it, one less
than zero at the top. -/
def readBlock (literal : Bool) (parent : Int) (cursor : Cursor) :
    Except Fault (List Char × Cursor) := do
  let start := cursor.place
  let (header, cursor) ← readBlockHeader start cursor.skip
  let given :=
    if header.increment = 0 then 0 else (max parent 0).toNat + header.increment
  let (breaks, widest, cursor) ← readEmptyLines start given 0 [] cursor
  let indent := if given = 0 then max (max widest (parent + 1).toNat) 1 else given
  let (reading, cursor) ←
    readLines literal start indent (cursor.rest.length + 1) { breaks } cursor
  return (reading.chomped header.chomping, cursor)

end Seedbed.Yaml

import Seedbed.Yaml.Gap

/-!
# Plain scalars

A scalar without quotes runs over words and gaps. It ends before a colon with a blank after it,
before a comment, before a document marker, before an indicator of a flow collection that it stands
in, and outside flow collections before a line that is not indented far enough.
-/

namespace Seedbed.Yaml

def isFlowIndicator (c : Char) : Bool :=
  c == ',' || c == '[' || c == ']' || c == '\x7b' || c == '\x7d'

structure PlainReading where
  /-- The words and the gaps between them, backwards. -/
  text : List Char := []
  gap : Gap := {}
  stop : Place
  cursor : Cursor
  deriving Repr

def endsWord (inFlow : Bool) (cursor : Cursor) : Bool :=
  let c := cursor.peek
  isBlankOrEnd c || (c == ':' && isBlankOrEnd (cursor.peek 1)) || (inFlow && isFlowIndicator c)

/-- Whether a colon inside a flow collection is followed by one of its indicators. -/
def colonMeetsIndicator (cursor : Cursor) : Bool :=
  cursor.peek == ':' && (isFlowIndicator (cursor.peek 1) || cursor.peek 1 == '?')

def readWord (inFlow : Bool) (start : Place) (reading : PlainReading) :
    Except Fault PlainReading :=
  if inFlow && colonMeetsIndicator reading.cursor then
    .error (.during .plainScalar start .unexpectedColon reading.cursor.place)
  else if reading.cursor.rest.isEmpty || endsWord inFlow reading.cursor then .ok reading
  else
    readWord inFlow start
      { text := reading.cursor.peek :: (reading.gap.text.reverse ++ reading.text)
        gap := {}
        stop := reading.cursor.skip.place
        cursor := reading.cursor.skip }
  termination_by reading.cursor.rest.length
  decreasing_by exact Cursor.length_skip (by simp_all)

theorem length_readWord {inFlow : Bool} {start : Place} {reading read : PlainReading}
    (ok : readWord inFlow start reading = .ok read) :
    read.cursor.rest.length ≤ reading.cursor.rest.length := by
  fun_induction readWord inFlow start reading with
  | case1 => simp at ok
  | case2 => simp_all
  | case3 reading _ more ih =>
    exact Nat.le_trans (ih ok) (Nat.le_of_lt (Cursor.length_skip (by simp_all)))

def atGap (cursor : Cursor) : Bool := isBlank cursor.peek || isBreak cursor.peek

/-- Reads words and gaps from where a word may start. `least` is the first column that a line of the
scalar may start in. -/
def readPlain (inFlow : Bool) (least : Nat) (start : Place) (reading : PlainReading) :
    Except Fault PlainReading :=
  if reading.cursor.atDocumentMarker || reading.cursor.peek == '#' then .ok reading
  else
    match _word : readWord inFlow start reading with
    | .error fault => .error fault
    | .ok word =>
      if _more : word.cursor.rest = [] ∨ atGap word.cursor = false then .ok word
      else
        match _gap : readGap (some least) start word.gap word.cursor with
        | .error fault => .error fault
        | .ok (gap, after) =>
          if !inFlow && after.place.column < least then .ok { word with gap, cursor := after }
          else readPlain inFlow least start { word with gap, cursor := after }
  termination_by reading.cursor.rest.length
  decreasing_by
    simp only [not_or, Bool.not_eq_false] at _more
    exact Nat.lt_of_lt_of_le (length_readGap_lt _more.1 _more.2 _gap) (length_readWord _word)

end Seedbed.Yaml

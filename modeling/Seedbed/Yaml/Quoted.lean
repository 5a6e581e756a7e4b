import Seedbed.Text.Words
import Seedbed.Yaml.Gap

/-!
# Quoted scalars

Between single quotes only a doubled quote is special. Between double quotes a backslash starts an
escape, or takes a line break out of the text.
-/

namespace Seedbed.Yaml

inductive Escape where
  | char (c : Char)
  /-- The code point that so many hexadecimal digits name. -/
  | code (digits : Nat)
  deriving DecidableEq, Repr

def Escape.of? : Char → Option Escape
  | '0' => some (.char '\x00')
  | 'a' => some (.char '\x07')
  | 'b' => some (.char '\x08')
  | 't' => some (.char '\t')
  | '\t' => some (.char '\t')
  | 'n' => some (.char '\n')
  | 'v' => some (.char '\x0b')
  | 'f' => some (.char '\x0c')
  | 'r' => some (.char '\r')
  | 'e' => some (.char '\x1b')
  | ' ' => some (.char ' ')
  | '"' => some (.char '"')
  | '/' => some (.char '/')
  | '\\' => some (.char '\\')
  | 'N' => some (.char '\x85')
  | '_' => some (.char '\xa0')
  | 'L' => some (.char '\u2028')
  | 'P' => some (.char '\u2029')
  | 'x' => some (.code 2)
  | 'u' => some (.code 4)
  | 'U' => some (.code 8)
  | _ => none

/-- The character of a code point, if it has one; the cursors stand before and after its digits. -/
def charOfCode (start : Place) (code : Nat) (before after : Cursor) :
    Except Fault (Char × Cursor) :=
  if code.isValidChar then .ok (Char.ofNat code, after)
  else .error (.during .quotedEscape start .badCodePoint before.place)

def readCode (start : Place) (digits : Nat) (cursor : Cursor) : Except Fault (Char × Cursor) :=
  match (cursor.rest.take digits).mapM (Text.digitValue? 16) with
  | some values =>
    if values.length < digits then
      .error (.during .quotedEscape start .noHexadecimal cursor.place)
    else
      charOfCode start (values.foldl (· * 16 + ·) 0) cursor (cursor.skips digits)
  | none => .error (.during .quotedEscape start .noHexadecimal cursor.place)

def readEscape (start : Place) (cursor : Cursor) : Except Fault (Char × Cursor) :=
  match Escape.of? (cursor.peek 1) with
  | none => .error (.during .quotedEscape start .unknownEscape cursor.place)
  | some (.char c) => .ok (c, cursor.skip.skip)
  | some (.code digits) => readCode start digits cursor.skip.skip

theorem length_readEscape {start : Place} {cursor after : Cursor} {c : Char}
    (more : cursor.rest ≠ []) (ok : readEscape start cursor = .ok (c, after)) :
    after.rest.length < cursor.rest.length := by
  have short : cursor.skip.skip.rest.length < cursor.rest.length := by
    have := Cursor.length_skip more
    simp only [Cursor.skip, List.length_tail] at this ⊢
    omega
  unfold readEscape at ok
  split at ok
  · simp at ok
  · simp only [Except.ok.injEq, Prod.mk.injEq] at ok
    exact ok.2 ▸ short
  · unfold readCode at ok
    split at ok
    · split at ok
      · simp at ok
      · unfold charOfCode at ok
        split at ok
        · simp only [Except.ok.injEq, Prod.mk.injEq] at ok
          exact ok.2 ▸ Nat.lt_of_le_of_lt (Cursor.length_skips_le _ _) short
        · simp at ok
    · simp at ok

/-- A document marker inside a quoted scalar is a fault. -/
def refuseMarker (start : Place) (cursor : Cursor) : Except Fault Unit :=
  if cursor.atDocumentMarker then
    .error (.during .quotedScalar start .documentMarker cursor.place)
  else .ok ()

/-- Reads the text of a scalar up to its closing quote and passes over that. `text` is what was read
before, backwards. -/
def readQuoted (quote : Char) (start : Place) (text : List Char) (cursor : Cursor) :
    Except Fault (List Char × Cursor) :=
  let c := cursor.peek
  if cursor.rest.isEmpty then .error (.during .quotedScalar start .endOfStream cursor.place)
  else if isBlank c || isBreak c then
    match _gap : readGap none start {} cursor with
    | .error fault => .error fault
    | .ok (gap, after) => do
      refuseMarker start after
      readQuoted quote start (gap.text.reverse ++ text) after
  else if quote == '\'' && c == '\'' && cursor.peek 1 == '\'' then
    readQuoted quote start ('\'' :: text) cursor.skip.skip
  else if c == quote then .ok (text.reverse, cursor.skip)
  else if quote == '"' && c == '\\' && isBreak (cursor.peek 1) then
    match _gap : readGap none start .escaped cursor.skip.skipLine with
    | .error fault => .error fault
    | .ok (gap, after) => do
      refuseMarker start after
      readQuoted quote start (gap.text.reverse ++ text) after
  else if quote == '"' && c == '\\' then
    match _escape : readEscape start cursor with
    | .error fault => .error fault
    | .ok (read, after) => readQuoted quote start (read :: text) after
  else readQuoted quote start (c :: text) cursor.skip
  termination_by cursor.rest.length
  decreasing_by
    · exact length_readGap_lt (by simp_all) (by assumption) _gap
    · have := @Cursor.length_skip cursor (by simp_all)
      simp only [Cursor.skip, List.length_tail] at this ⊢
      omega
    · have := length_readGap _gap
      have := @Cursor.length_skip cursor (by simp_all)
      have := Cursor.length_skipLine cursor.skip
      omega
    · exact length_readEscape (by simp_all) _escape
    · exact Cursor.length_skip (by simp_all)

end Seedbed.Yaml

import Seedbed.Yaml.Cursor
import Seedbed.Yaml.Fault

/-!
# Gaps in flowing scalars

Blanks and line breaks between the words of a scalar. Without a line break the blanks count as they
are. With one they do not count at all: a single break is folded into a space, and of more breaks
the first is dropped.
-/

namespace Seedbed.Yaml

/-- Blanks and line breaks that have been read since the last word. -/
structure Gap where
  blanks : List Char := []
  /-- Whether a line has ended. -/
  broken : Bool := false
  /-- The first line break, if it counts. -/
  first : List Char := []
  others : List Char := []
  deriving DecidableEq, Repr

namespace Gap

def text (gap : Gap) : List Char :=
  if !gap.broken then gap.blanks
  else if gap.first = ['\n'] then if gap.others.isEmpty then [' '] else gap.others
  else gap.first ++ gap.others

def addBlank (gap : Gap) (c : Char) : Gap :=
  if gap.broken then gap else { gap with blanks := gap.blanks ++ [c] }

def addBreak (gap : Gap) (c : Char) : Gap :=
  if gap.broken then { gap with others := gap.others ++ [c] }
  else { blanks := [], broken := true, first := [c], others := [] }

/-- The gap that starts with a line break which does not count. -/
def escaped : Gap := { broken := true }

end Gap

/-- Reads blanks and line breaks. After a line break a tab before the column `least` is a fault of
the plain scalar that began at `start`, if such a column is given. -/
def readGap (least : Option Nat) (start : Place) (gap : Gap) (cursor : Cursor) :
    Except Fault (Gap × Cursor) :=
  if cursor.rest.isEmpty then .ok (gap, cursor)
  else if isBlank cursor.peek then
    if gap.broken && cursor.peek == '\t' &&
        (least.map (decide <| cursor.place.column < ·)).getD false then
      .error (.during .plainScalar start .tabBreaksIndentation cursor.place)
    else readGap least start (gap.addBlank cursor.peek) cursor.skip
  else
    match _broken : cursor.lineBreak? with
    | some (read, after) => readGap least start (gap.addBreak read) after
    | none => .ok (gap, cursor)
  termination_by cursor.rest.length
  decreasing_by
    · exact Cursor.length_skip (by simp_all)
    · exact Cursor.length_of_lineBreak _broken

theorem length_readGap {least : Option Nat} {start : Place} {gap read : Gap}
    {cursor after : Cursor} (ok : readGap least start gap cursor = .ok (read, after)) :
    after.rest.length ≤ cursor.rest.length := by
  fun_induction readGap least start gap cursor with
  | case1 => simp_all
  | case2 => simp at ok
  | case3 gap cursor more _ _ ih =>
    exact Nat.le_trans (ih ok) (Nat.le_of_lt (Cursor.length_skip (by simp_all)))
  | case4 gap cursor _ _ _ _ broken ih =>
    exact Nat.le_trans (ih ok) (Nat.le_of_lt (Cursor.length_of_lineBreak broken))
  | case5 => simp_all

/-- A gap that starts with a blank or a line break takes up something. -/
theorem length_readGap_lt {least : Option Nat} {start : Place} {gap read : Gap}
    {cursor after : Cursor} (more : cursor.rest ≠ [])
    (opens : isBlank cursor.peek || isBreak cursor.peek)
    (ok : readGap least start gap cursor = .ok (read, after)) :
    after.rest.length < cursor.rest.length := by
  unfold readGap at ok
  split at ok
  · simp_all
  · split at ok
    · split at ok
      · simp at ok
      · exact Nat.lt_of_le_of_lt (length_readGap ok) (Cursor.length_skip more)
    · split at ok
      · rename_i broken
        exact Nat.lt_of_le_of_lt (length_readGap ok) (Cursor.length_of_lineBreak broken)
      · rename_i notBlank unbroken
        exfalso
        have isBroken : isBreak cursor.peek = true := by simp_all
        cases h : cursor.rest with
        | nil => exact more h
        | cons c rest =>
          have head : cursor.peek = c := by simp [Cursor.peek, h]
          rw [head] at isBroken
          simp only [Cursor.lineBreak?, Option.map_eq_none_iff, h] at unbroken
          unfold lineBreak? at unbroken
          split at unbroken
          · simp at unbroken
          · split at unbroken <;> simp_all
          · simp_all

end Seedbed.Yaml

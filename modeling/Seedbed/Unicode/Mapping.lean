import Seedbed.Text.Words

/-!
# Mappings of characters to texts

A mapping is a list of entries, each a range of code points with the text of its first one. A range
of more than one code point has a single character as its text, and the others follow it in step. An
entry is written as `lo-hi=target` or `code=target,target`, all hexadecimal.
-/

namespace Seedbed.Unicode
open Seedbed.Text

/-- The image of a range of code points. -/
structure MappingEntry where
  low : Nat
  high : Nat
  /-- The code points that the first one maps to. -/
  target : List Nat
  deriving DecidableEq, Repr

structure Mapping where
  /-- The entries; the first that spans a code point decides. -/
  entries : List MappingEntry

/-- The parts of a word around each occurrence of a mark. -/
def splitAtMark (mark : Char) (word : List Char) : List (List Char) :=
  word.foldr (fun c parts =>
    match parts with
    | part :: others => if c == mark then [] :: part :: others else (c :: part) :: others
    | [] => [[c]]) [[]]

def MappingEntry.ofWord? (word : List Char) : Option MappingEntry :=
  match splitAtMark '=' word with
  | [range, target] => do
    let target ← (splitAtMark ',' target).mapM (number? 16)
    match splitAtMark '-' range with
    | [code] => do let n ← number? 16 code; return ⟨n, n, target⟩
    | [low, high] => return ⟨← number? 16 low, ← number? 16 high, target⟩
    | _ => none
  | _ => none

def MappingEntry.image (entry : MappingEntry) (code : Nat) : List Nat :=
  match entry.target with
  | [first] => [first + (code - entry.low)]
  | target => target

namespace Mapping

def ofText (text : String) : Mapping := ⟨(words text).filterMap MappingEntry.ofWord?⟩

def image? (mapping : Mapping) (code : Nat) : Option (List Nat) :=
  (mapping.entries.find? fun entry => entry.low ≤ code && code ≤ entry.high).map (·.image code)

end Mapping
end Seedbed.Unicode

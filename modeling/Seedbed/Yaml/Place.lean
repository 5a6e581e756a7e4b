/-!
# Places in a document

A place is a character's position: how many octets, and how many lines, come before it, and how many
characters of its own line. Messages count lines and columns from one, and leave the very first
place out.
-/

namespace Seedbed.Yaml

/-- How many octets encode a text. -/
def octetCount (text : List Char) : Nat := (String.ofList text).utf8ByteSize

structure Place where
  /-- How many octets come before, as the text is encoded. -/
  index : Nat := 0
  line : Nat := 0
  column : Nat := 0
  deriving DecidableEq, Repr, Inhabited

namespace Place

def start : Place := {}

/-- Whether a place is in the first column of the first line. -/
def isFirst (place : Place) : Bool := place.line == 0 && place.column == 0

def next (place : Place) (c : Char) : Place :=
  { place with index := place.index + c.utf8Size, column := place.column + 1 }

def nextLine (place : Place) (spelling : List Char) : Place :=
  { index := place.index + octetCount spelling, line := place.line + 1, column := 0 }

def text (place : Place) : String :=
  "line " ++ toString (place.line + 1) ++ " column " ++ toString (place.column + 1)

def suffix (place : Place) : String := if place.isFirst then "" else " at " ++ place.text

end Place
end Seedbed.Yaml

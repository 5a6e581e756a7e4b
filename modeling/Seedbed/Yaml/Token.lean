import Seedbed.Yaml.Place

/-!
# Tokens

A token is a mark, a name or a scalar of a document. Block collections have no marks of their own:
where one starts or ends follows from the indentation, and a token stands for it all the same.
-/

namespace Seedbed.Yaml

inductive ScalarStyle where
  | plain
  | quoted
  /-- In lines that are kept. -/
  | literal
  /-- In lines that are folded. -/
  | folded
  deriving DecidableEq, Repr, Inhabited

inductive Token.Kind where
  | streamEnd
  | version (major minor : Nat)
  | tagHandle (handle start : List Char)
  | documentStart
  | documentEnd
  | blockSequenceStart
  | blockMappingStart
  | blockEnd
  | flowSequenceStart
  | flowSequenceEnd
  | flowMappingStart
  | flowMappingEnd
  | blockEntry
  | flowEntry
  | key
  | value
  | alias (name : List Char)
  | anchor (name : List Char)
  /-- A tag; a tag without a handle is whole. -/
  | tag (handle rest : List Char)
  | scalar (text : List Char) (style : ScalarStyle)
  deriving DecidableEq, Repr, Inhabited

structure Token where
  kind : Token.Kind
  start : Place
  /-- The place after its last character. -/
  stop : Place
  deriving DecidableEq, Repr, Inhabited

/-- A token that takes up no characters. -/
def Token.between (kind : Token.Kind) (place : Place) : Token := ⟨kind, place, place⟩

end Seedbed.Yaml

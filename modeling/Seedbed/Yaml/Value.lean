import Seedbed.Decimal.Reading
import Seedbed.Decimal.Shortest
import Seedbed.Text.Quoted
import Seedbed.Yaml.Node

/-!
# Values of scalars

What a scalar stands for: nothing, a truth value, a whole number, a floating-point number or a text.
A plain scalar stands for the first of these that it is written like. Of several tags each names one
kind; a tag that starts with an exclamation mark leaves the kind open, and any other tag makes a
text of the scalar.
-/

namespace Seedbed.Yaml

/-! ## Plain texts -/

/-- Whether a text is a way to write nothing, other than writing nothing. -/
def isNull (text : List Char) : Bool :=
  ["null", "Null", "NULL", "~"].contains (String.ofList text)

def boolean? (text : List Char) : Option Bool :=
  let text := String.ofList text
  if ["true", "True", "TRUE"].contains text then some true
  else if ["false", "False", "FALSE"].contains text then some false
  else none

/-- Whether a text is digits with a zero before them, which is no number. -/
def hasLeadingZero (text : List Char) : Bool :=
  text.head? == some '0' && 1 < text.length && text.all Char.isDigit

/-- The number that a text without a sign stands for, in base sixteen, eight, two or ten. -/
def magnitude? (text : List Char) : Option Nat :=
  match text with
  | '0' :: 'x' :: digits => Text.number? 16 digits
  | '0' :: 'o' :: digits => Text.number? 8 digits
  | '0' :: 'b' :: digits => Text.number? 2 digits
  | digits => if hasLeadingZero digits then none else Text.number? 10 digits

/-- How many bits a whole number takes up at most, and how many a common one. -/
def wideBits : Nat := 128
def wordBits : Nat := 64

def natural? (text : List Char) : Option Nat :=
  let magnitude := match text with
    | '+' :: rest => magnitude? rest
    | rest => magnitude? rest
  magnitude.filter (· < 2 ^ wordBits)

/-- The whole number that a text stands for, its sign apart. -/
def integer? (text : List Char) : Option (Bool × Nat) :=
  match text with
  | '-' :: rest => ((magnitude? rest).filter (· ≤ 2 ^ (wideBits - 1))).map (true, ·)
  | '+' :: rest => ((magnitude? rest).filter (· < 2 ^ wideBits)).map (false, ·)
  | rest => ((magnitude? rest).filter (· < 2 ^ wideBits)).map (false, ·)

inductive FloatValue where
  | finite (x : Decimal.Binary64)
  | infinite (negative : Bool)
  | notANumber
  deriving DecidableEq, Repr

def float? (text : List Char) : Option FloatValue :=
  let (negative, rest) := match text with
    | '+' :: rest => (false, rest)
    | '-' :: rest => (true, rest)
    | rest => (false, rest)
  if [".inf", ".Inf", ".INF"].contains (String.ofList rest) then some (.infinite negative)
  else if [".nan", ".NaN", ".NAN"].contains (String.ofList text) then some .notANumber
  else if rest.head? == some '+' || rest.head? == some '-' then none
  else (Decimal.ofText? text).map .finite

def FloatValue.text : FloatValue → String
  | .finite x => x.text
  | .infinite negative => if negative then "-inf" else "inf"
  | .notANumber => "NaN"

/-! ## What a node is -/

inductive Found where
  | unit
  | boolean (value : Bool)
  | integer (negative : Bool) (magnitude : Nat)
  | float (value : FloatValue)
  | string (text : List Char)
  | sequence
  | map
  deriving DecidableEq, Repr

/-- A whole number, with what it takes up if it is no common word. -/
def integerText (negative : Bool) (magnitude : Nat) : String :=
  let number := if negative && magnitude != 0 then "-" ++ toString magnitude else toString magnitude
  let width :=
    if negative then if magnitude ≤ 2 ^ (wordBits - 1) then "" else " as i128"
    else if magnitude < 2 ^ wordBits then "" else " as u128"
  "integer \x60" ++ number ++ "\x60" ++ width

def Found.text : Found → String
  | .unit => "unit value"
  | .boolean value => "boolean \x60" ++ toString value ++ "\x60"
  | .integer negative magnitude => integerText negative magnitude
  | .float value => "floating point \x60" ++ value.text ++ "\x60"
  | .string text => "string " ++ Text.quoted (String.ofList text)
  | .sequence => "sequence"
  | .map => "map"

/-- What a plain scalar is whose tag names no kind. -/
def foundPlain (text : List Char) : Found :=
  if text.isEmpty || isNull text then .unit
  else
    match boolean? text, integer? text, float? text with
    | some value, _, _ => .boolean value
    | none, some (negative, magnitude), _ => .integer negative magnitude
    | none, none, some value =>
      if hasLeadingZero (unsigned text) then .string text else .float value
    | none, none, none => .string text
where
  unsigned : List Char → List Char
    | '-' :: rest | '+' :: rest => rest
    | text => text

inductive StandardTag where
  | null
  | boolean
  | integer
  | float
  deriving DecidableEq, Repr

def StandardTag.text (tag : StandardTag) : List Char :=
  "tag:yaml.org,2002:".toList ++ match tag with
    | .null => "null".toList
    | .boolean => "bool".toList
    | .integer => "int".toList
    | .float => "float".toList

def StandardTag.wanted : StandardTag → String
  | .null => "null"
  | .boolean => "a boolean"
  | .integer => "an integer"
  | .float => "a float"

/-- What a text with a standard tag is, if it is written like that. -/
def StandardTag.found? (tag : StandardTag) (text : List Char) : Option Found :=
  match tag with
  | .null => if isNull text then some .unit else none
  | .boolean => (boolean? text).map .boolean
  | .integer => (integer? text).map fun (negative, magnitude) => .integer negative magnitude
  | .float => (float? text).map .float

namespace Scalar

def standardTag? (scalar : Scalar) : Option StandardTag :=
  [.null, .boolean, .integer, .float].find? fun tag => scalar.tag? == some tag.text

/-- Whether a scalar's tag leaves its kind open: there is none, or it is a local one, which starts
with an exclamation mark. -/
def isOpen (scalar : Scalar) : Bool :=
  match scalar.tag? with
  | none => true
  | some tag => tag.head? == some '!'

/-- What a scalar is. With a standard tag that its text is not written like it is nothing, and the
tag is told. -/
def found (scalar : Scalar) : Except StandardTag Found :=
  match scalar.standardTag? with
  | some tag => (tag.found? scalar.text).elim (.error tag) .ok
  | none =>
    if scalar.isOpen && scalar.style = .plain then .ok (foundPlain scalar.text)
    else .ok (.string scalar.text)

/-- Whether a scalar may be read as a kind other than text: it is plain, or in kept lines with the
kind's own tag. -/
def converts (scalar : Scalar) (tag : StandardTag) : Bool :=
  scalar.style = .plain || (scalar.style = .literal && scalar.tag? == some tag.text)

end Scalar
end Seedbed.Yaml

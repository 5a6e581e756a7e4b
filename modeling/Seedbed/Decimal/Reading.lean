import Seedbed.Decimal.Binary64
import Seedbed.Text.Words

/-!
# Reading decimals

A decimal text has a sign at most, digits with a point at most among or beside them, and an exponent
at most. It is read as the nearest binary floating-point number.
-/

namespace Seedbed.Decimal

def readSign : List Char → Bool × List Char
  | '-' :: rest => (true, rest)
  | '+' :: rest => (false, rest)
  | rest => (false, rest)

/-- The number that an exponent part stands for: none of it, or a letter and a whole number. -/
def exponentPart? : List Char → Option Int
  | [] => some 0
  | c :: rest =>
    if c == 'e' || c == 'E' then
      let (negative, digits) := readSign rest
      (Text.number? 10 digits).map fun value => if negative then -(value : Int) else value
    else none

def readDigits (text : List Char) : List Char × List Char :=
  (text.takeWhile Char.isDigit, text.dropWhile Char.isDigit)

/-- The number that a decimal text stands for; none if it is no decimal text or is too large. -/
def ofText? (text : List Char) : Option Binary64 := do
  let (negative, rest) := readSign text
  let (whole, rest) := readDigits rest
  let (places, rest) :=
    match rest with
    | '.' :: rest => readDigits rest
    | rest => ([], rest)
  let digits ← Text.number? 10 (whole ++ places)
  let exponent ← exponentPart? rest
  let magnitude ←
    Binary64.ofDecimal? digits (whole.length + places.length) (exponent - places.length)
  return { magnitude with negative }

end Seedbed.Decimal

import Seedbed.Decimal.Binary64

/-!
# Shortest decimals

The decimal with the fewest digits that rounds to a given binary floating-point number, and of those
the nearest to it, a tie going up. It is written with all its places, never with an exponent.
-/

namespace Seedbed.Decimal

/-- A decimal: `digits * 10 ^ exponent`. -/
structure Numeral where
  digits : Nat
  exponent : Int
  deriving DecidableEq, Repr

/-- The ratios that round to one number: the number itself between two bounds, all over one
denominator. The bounds belong to it or not. -/
structure RoundingInterval where
  low : Nat
  middle : Nat
  high : Nat
  denominator : Nat
  closed : Bool
  deriving Repr

/-- What rounds to a number other than zero. Below a power of two the numbers lie closer. -/
def RoundingInterval.of (x : Binary64) : RoundingInterval :=
  let unit := 2 ^ x.exponent.toNat
  let close := x.mantissa = 2 ^ (Binary64.precision - 1) ∧ Binary64.minExponent < x.exponent
  { low := (4 * x.mantissa - if close then 1 else 2) * unit
    middle := 4 * x.mantissa * unit
    high := (4 * x.mantissa + 2) * unit
    denominator := 4 * 2 ^ (-x.exponent).toNat
    closed := x.mantissa % 2 == 0 }

namespace RoundingInterval

def contains (interval : RoundingInterval) (d : Numeral) : Bool :=
  let point := d.digits * 10 ^ d.exponent.toNat * interval.denominator
  let scale := 10 ^ (-d.exponent).toNat
  if interval.closed then interval.low * scale ≤ point && point ≤ interval.high * scale
  else interval.low * scale < point && point < interval.high * scale

/-- The greatest decimal with an exponent that is not greater than the number, and the remainder
against one unit of that exponent, as a ratio. -/
def below (interval : RoundingInterval) (exponent : Int) : Numeral × Nat × Nat :=
  let numerator := interval.middle * 10 ^ (-exponent).toNat
  let unit := interval.denominator * 10 ^ exponent.toNat
  (⟨numerator / unit, exponent⟩, numerator % unit, unit)

/-- The decimal with an exponent that lies in an interval, if one does: of two the nearer to the
number. -/
def at? (interval : RoundingInterval) (exponent : Int) : Option Numeral :=
  let (down, remainder, unit) := interval.below exponent
  let up : Numeral := { down with digits := down.digits + 1 }
  let first := if 2 * remainder < unit then down else up
  let second := if 2 * remainder < unit then up else down
  if interval.contains first then some first
  else if interval.contains second then some second
  else none

/-- The decimal exponents to try, the widest first: one more than any number reaches, and as many as
no number needs. -/
def exponents : List Int := (List.range 640).map fun (n : Nat) => 309 - (n : Int)

end RoundingInterval

/-- The shortest decimal of the magnitude of a number. -/
def shortest (x : Binary64) : Numeral :=
  if x.mantissa = 0 then ⟨0, 0⟩
  else
    let interval := RoundingInterval.of x
    (RoundingInterval.exponents.findSome? interval.at?).getD ⟨0, 0⟩

/-- A decimal with all its places; a whole one ends in a point and a zero. -/
def positional (d : Numeral) : String :=
  let digits := toString (d.digits * 10 ^ d.exponent.toNat)
  let places := (-d.exponent).toNat
  if places = 0 then digits ++ ".0"
  else
    let padded := List.replicate (places + 1 - digits.length) '0' ++ digits.toList
    let split := padded.length - places
    String.ofList (padded.take split ++ '.' :: padded.drop split)

def Binary64.text (x : Binary64) : String :=
  (if x.negative then "-" else "") ++ positional (shortest x)

end Seedbed.Decimal

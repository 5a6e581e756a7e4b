import Seedbed.Power

/-!
# Binary floating-point numbers

A finite number with a mantissa of at most 53 bits and an exponent of limited range, and how a ratio
of natural numbers is rounded to the nearest of them, a tie going to the even mantissa.
-/

namespace Seedbed.Decimal

/-- A finite binary floating-point number: a sign, and a magnitude of `mantissa * 2 ^ exponent`. -/
structure Binary64 where
  negative : Bool := false
  mantissa : Nat
  exponent : Int
  deriving DecidableEq, Repr, Inhabited

namespace Binary64

/-- How many bits a mantissa has at most. -/
def precision : Nat := 53

def minExponent : Int := -1074

def maxExponent : Int := 971

def zero : Binary64 := ⟨false, 0, minExponent⟩

def one : Binary64 := ⟨false, 2 ^ (52 : Nat), -52⟩

/-- The quotient of two numbers as a natural number, a half going to the even one. -/
def roundQuotient (numerator denominator : Nat) : Nat :=
  let quotient := numerator / denominator
  let twice := 2 * (numerator % denominator)
  if denominator < twice || (twice == denominator && quotient % 2 == 1) then quotient + 1
  else quotient

/-- A ratio in units of a power of two, as numerator and denominator. -/
def inUnits (numerator denominator : Nat) (exponent : Int) : Nat × Nat :=
  (numerator * 2 ^ (-exponent).toNat, denominator * 2 ^ exponent.toNat)

/-- The exponent at which a ratio has a mantissa of full length, if that is in range from below. -/
def exponentOfRatio (numerator denominator : Nat) : Int :=
  let guess := (numerator.log2 : Int) - denominator.log2 - precision
  let (n, d) := inUnits numerator denominator guess
  max minExponent (if n / d < 2 ^ precision then guess else guess + 1)

/-- The number nearest to a ratio; none if that is too large. -/
def ofRatio? (numerator denominator : Nat) : Option Binary64 :=
  if numerator = 0 then some zero
  else
    let exponent := exponentOfRatio numerator denominator
    let (n, d) := inUnits numerator denominator exponent
    let mantissa := roundQuotient n d
    let (mantissa, exponent) :=
      if mantissa = 2 ^ precision then (2 ^ (precision - 1), exponent + 1) else (mantissa, exponent)
    if maxExponent < exponent then none else some ⟨false, mantissa, exponent⟩

/-- Powers of ten beyond which a number of one digit is too large, or rounds to zero. -/
def decimalRange : Int := 400

/-- The number nearest to `digits * 10 ^ exponent`, where `digits` is written with `length` digits
at most; none if that is too large. -/
def ofDecimal? (digits : Nat) (length : Nat) (exponent : Int) : Option Binary64 :=
  if digits = 0 then some zero
  else if decimalRange < exponent then none
  else if length + exponent < -decimalRange then some zero
  else ofRatio? (digits * 10 ^ exponent.toNat) (10 ^ (-exponent).toNat)

/-- The greatest natural number that is not greater than the magnitude in units of `2 ^ -shift`. -/
def floorShifted (x : Binary64) (shift : Nat) : Nat :=
  x.mantissa * 2 ^ (x.exponent + shift).toNat / 2 ^ (-(x.exponent + shift)).toNat

end Binary64
end Seedbed.Decimal

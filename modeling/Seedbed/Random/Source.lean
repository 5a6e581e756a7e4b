import Seedbed.Decimal.Binary64

/-!
# Random draws

A source of random words, and the draws that are made from them: a number below a bound, one of two
outcomes with given odds, and a length out of a range. A bounded number is the upper half of a word
times the bound; words whose lower half lies in the last, incomplete part of the range are drawn
again, so that every number is equally likely.
-/

namespace Seedbed

inductive Halt where
  /-- What was asked for makes no sense. -/
  | panic
  /-- The source gave words to draw again for too long. -/
  | stalled
  deriving DecidableEq, Repr, Inhabited

class RandomSource (ρ : Type) where
  word32 : ρ → UInt32 × ρ
  word64 : ρ → UInt64 × ρ

abbrev Draw (ρ : Type) := StateT ρ (Except Halt)

namespace Draw

variable {ρ : Type} [RandomSource ρ]

def word32 : Draw ρ Nat := fun source =>
  let (word, source) := RandomSource.word32 source
  .ok (word.toNat, source)

def word64 : Draw ρ Nat := fun source =>
  let (word, source) := RandomSource.word64 source
  .ok (word.toNat, source)

/-- How many words may be drawn again before a draw counts as stalled. -/
def patience : Nat := 2 ^ (32 : Nat)

def until? (word : Draw ρ Nat) (accept : Nat → Option Nat) : (tries : Nat) → Draw ρ Nat
  | 0 => throw .stalled
  | tries + 1 => do
    match accept (← word) with
    | some value => return value
    | none => until? word accept tries

/-- The last lower half of a product that is accepted: the bound as often as it fits, less one. -/
def zone (bits bound : Nat) : Nat := bound * 2 ^ (bits - 1 - bound.log2) - 1

/-- The number below a bound that a word of some bits stands for, if the word is accepted. A bound
of zero stands for the number of all words. -/
def reduce? (bits bound word : Nat) : Option Nat :=
  if bound = 0 then some word
  else if word * bound % 2 ^ bits ≤ zone bits bound then some (word * bound / 2 ^ bits)
  else none

def below32 (bound : Nat) : Draw ρ Nat := until? word32 (reduce? 32 bound) patience

def below64 (bound : Nat) : Draw ρ Nat := until? word64 (reduce? 64 bound) patience

def octet : Draw ρ Nat := return (← word32) % 256

/-- A number from a range that does not hold its end. -/
def range (start stop : Nat) : Draw ρ Nat := return start + (← below64 (stop - start))

/-- True with a given probability. Certainty needs no word; what is no probability is refused. -/
def chance (rate : Decimal.Binary64) : Draw ρ Bool := do
  let threshold := rate.floorShifted 64
  if rate.negative && rate.mantissa != 0 then throw .panic
  if threshold = 2 ^ (64 : Nat) then return true
  if 2 ^ (64 : Nat) < threshold then throw .panic
  return (← word64) < threshold

def times (draw : Draw ρ α) : (count : Nat) → Draw ρ (List α)
  | 0 => return []
  | count + 1 => return (← draw) :: (← times draw count)

end Draw
end Seedbed

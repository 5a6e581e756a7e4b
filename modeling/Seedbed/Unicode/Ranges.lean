import Seedbed.Text.Words

/-!
# Sets of characters as ranges of code points

A property of characters is a list of inclusive ranges. The tables that instantiate it are written
as words: `a0-aa` for a range and `a0` for a single code point, both hexadecimal.
-/

namespace Seedbed.Unicode
open Seedbed.Text

/-- A set of characters, as inclusive ranges of code points. -/
structure Ranges where
  /-- First and last code point of each range. -/
  bounds : List (Nat × Nat)

namespace Ranges

def contains (set : Ranges) (c : Char) : Bool :=
  set.bounds.any fun (low, high) => low ≤ c.toNat && c.toNat ≤ high

/-- One range as it is written: two numbers around a hyphen, or one number. -/
def bound? (word : List Char) : Option (Nat × Nat) :=
  match word.span (· != '-') with
  | (low, []) => (number? 16 low).map fun n => (n, n)
  | (low, _ :: high) => do return (← number? 16 low, ← number? 16 high)

def ofText (text : String) : Ranges := ⟨(words text).filterMap bound?⟩

end Ranges
end Seedbed.Unicode

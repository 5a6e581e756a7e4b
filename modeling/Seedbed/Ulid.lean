import Seedbed.Power
import Seedbed.Text.Words

/-!
# Identifiers

An identifier is a number of 128 bits: the time in milliseconds, and 80 random bits after it. Its
text has 26 characters of 32 kinds, none of which looks like another. An identifier that is made in
the same millisecond as the one before it, or earlier, is the next number after that; so identifiers
always grow, in number and in text.
-/

namespace Seedbed

structure Ulid where
  value : Nat
  value_lt : value < 2 ^ (128 : Nat)
  deriving DecidableEq, Repr

namespace Ulid

def randomBits : Nat := 80

def timeBits : Nat := 48

/-- The identifier before all others. -/
def nil : Ulid := ⟨0, by decide⟩

instance : Inhabited Ulid := ⟨nil⟩

def time (id : Ulid) : Nat := id.value / 2 ^ randomBits

def ofParts (time random : Nat) : Ulid where
  value := time % 2 ^ timeBits * 2 ^ randomBits + random % 2 ^ randomBits
  value_lt := by
    have := @Nat.mod_lt time (2 ^ timeBits) (by decide)
    have := @Nat.mod_lt random (2 ^ randomBits) (by decide)
    simp only [timeBits, randomBits] at *
    omega

/-- The next number, unless the random bits are used up. -/
def succ? (id : Ulid) : Option Ulid :=
  if h : (id.value + 1) % 2 ^ randomBits = 0 then none
  else some ⟨id.value + 1, by
    have := id.value_lt
    simp only [randomBits] at h
    omega⟩

/-- The identifier made after another, when the clock shows a time and the random bits are given. -/
def after? (previous : Ulid) (clock random : Nat) : Option Ulid :=
  if clock ≤ previous.time then previous.succ? else some (ofParts clock random)

/-! ## Texts -/

def alphabet : List Char := "0123456789ABCDEFGHJKMNPQRSTVWXYZ".toList

def textLength : Nat := 26

def text (id : Ulid) : String :=
  String.ofList <| (List.range textLength).map fun place =>
    alphabet.getD (id.value / 32 ^ (textLength - 1 - place) % 32) '0'

/-- The identifier that a text in large or small letters stands for. -/
def ofText? (text : String) : Option Ulid := do
  let values ← text.toList.mapM fun c => alphabet.idxOf? c.toUpper
  let value := values.foldl (· * 32 + ·) 0
  if values.length = textLength then
    if h : value < 2 ^ (128 : Nat) then some ⟨value, h⟩ else none
  else none

/-- A later identifier is greater, as long as the clock's time has no more bits than an
identifier's. -/
theorem lt_of_after?_eq_some {previous id : Ulid} {clock random : Nat}
    (inRange : clock < 2 ^ timeBits) (made : previous.after? clock random = some id) :
    previous.value < id.value := by
  unfold after? at made
  split at made
  · unfold succ? at made
    split at made
    · simp at made
    · simp only [Option.some.injEq] at made
      simp [← made]
  · rename_i late
    simp only [Option.some.injEq] at made
    simp only [← made, ofParts, time, timeBits, randomBits] at *
    omega

end Ulid
end Seedbed

import Seedbed.Fake.FirstNames
import Seedbed.Fake.LastNames
import Seedbed.Fake.ProseWords

/-!
# Made-up values

Names, mail addresses and prose that look like what people would write.
-/

namespace Seedbed.Fake

variable {ρ : Type} [RandomSource ρ]

inductive UserNameForm where
  | wordDotName
  | name
  | nameNumber
  | nameLineWord
  deriving DecidableEq, Repr

def UserNameForm.of (octet : Nat) : UserNameForm :=
  if octet = 0 then .name
  else if octet ≤ 2 then .wordDotName
  else if octet ≤ 4 then .nameNumber
  else .nameLineWord

/-- Draws a first name in small letters. -/
def smallName : Draw ρ String := return (← firstNames.pick).toLower

def userName : Draw ρ String := do
  match UserNameForm.of (← Draw.octet) with
  | .name => smallName
  | .wordDotName =>
    let word ← proseWords.pick
    return word ++ "." ++ (← smallName)
  | .nameNumber =>
    let name ← smallName
    return name ++ toString (← Draw.octet)
  | .nameLineWord =>
    let name ← smallName
    return name ++ "_" ++ (← proseWords.pick)

def email : Draw ρ String := do
  let name ← userName
  return name ++ "@" ++ (← providers.pick)

def fullName : Draw ρ String := do
  let name ← firstNames.pick
  return name ++ " " ++ (← lastNames.pick)

/-- Draws a sentence; the number of its words lies in a range. -/
def sentence (start stop : Nat) : Draw ρ String := do
  let words ← Draw.times proseWords.pick (← Draw.range start stop)
  return " ".intercalate words ++ "."

def paragraph (start stop : Nat) : Draw ρ String := do
  let sentences ← Draw.times (sentence 4 10) (← Draw.range start stop)
  return "\n".intercalate sentences

end Seedbed.Fake

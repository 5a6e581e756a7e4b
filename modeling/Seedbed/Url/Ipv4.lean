import Seedbed.Power
import Seedbed.Text.Words

/-!
# IPv4 addresses

Up to four numbers between full stops, each decimal, octal after a zero or hexadecimal after `0x`.
The last number fills all the bytes that the others leave, and one full stop may end the address.
-/

namespace Seedbed.Url

open Seedbed.Text

/-- A number of an IPv4 address. -/
inductive Ipv4Number where
  /-- Not written as a number at all. -/
  | malformed
  /-- A number of more than 32 bits. -/
  | tooLarge
  | value (n : Nat)
  deriving DecidableEq, Repr

/-- The digits of a base as a number, none of them standing for zero. -/
def Ipv4Number.ofDigits (base : Nat) (digits : List Char) : Ipv4Number :=
  if digits.isEmpty then .value 0
  else
    match number? base digits with
    | none => .malformed
    | some n => if n < 2 ^ (32 : Nat) then .value n else .tooLarge

/-- A part of an address as a number; the empty part is none. -/
def Ipv4Number.ofText : List Char → Ipv4Number
  | [] => .malformed
  | '0' :: 'x' :: digits => .ofDigits 16 digits
  | '0' :: 'X' :: digits => .ofDigits 16 digits
  | '0' :: c :: digits => .ofDigits 8 (c :: digits)
  | digits => .ofDigits 10 digits

def splitDots (text : List Char) : List (List Char) :=
  text.foldr (fun c parts =>
    match parts with
    | part :: others => if c == '.' then [] :: part :: others else (c :: part) :: others
    | [] => [[c]]) [[]]

/-- The parts of a text, less an empty part after a last full stop. -/
def partsOf (text : List Char) : List (List Char) :=
  let parts := splitDots text
  if parts.length > 1 ∧ parts.getLast? = some [] then parts.dropLast else parts

/-- Whether the last part of a domain makes it an IPv4 address: it holds digits only, or it is
written as a number. -/
def endsInNumber (domain : List Char) : Bool :=
  match (partsOf domain).getLast? with
  | none => false
  | some last =>
    (!last.isEmpty && last.all Char.isDigit) || Ipv4Number.ofText last != .malformed

def ipv4Value? (numbers : List Nat) : Option Nat :=
  match numbers.getLast? with
  | none => none
  | some last =>
    let bytes := numbers.dropLast
    if bytes.length ≤ 3 ∧ last < 256 ^ (4 - bytes.length) ∧ bytes.all (· < 256) then
      some (bytes.foldl (· * 256 + ·) 0 * 256 ^ (4 - bytes.length) + last)
    else none

def ipv4OfDomain? (domain : List Char) : Option Nat := do
  let numbers ← (partsOf domain).mapM fun part =>
    match Ipv4Number.ofText part with
    | .value n => some n
    | _ => none
  ipv4Value? numbers

def ipv4Text (address : Nat) : List Char :=
  let byte (k : Nat) := Nat.toDigits 10 (address / 256 ^ k % 256)
  byte 3 ++ '.' :: byte 2 ++ '.' :: byte 1 ++ '.' :: byte 0

end Seedbed.Url

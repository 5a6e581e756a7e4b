import Seedbed.Text.Words
import Seedbed.Url.Ipv4

/-!
# IPv6 addresses

Eight groups of sixteen bits. An address is read with at most one `::`, which stands for a run of
zero groups, and with a dotted tail for its last two groups; it is written with its first longest
run of at least two zero groups shortened, and an IPv4 address mapped into IPv6 with a dotted tail.
-/

namespace Seedbed.Url
open Seedbed.Text

/-- The decimal number at the head of a dotted tail: no leading zero, at most 255. -/
def dottedByte? (digits : List Char) : Option Nat :=
  match digits with
  | '0' :: _ :: _ => none
  | _ => (number? 10 digits).filter (· < 256)

/-- A dotted tail as two groups: four bytes, and nothing after them. -/
def dottedGroups? (tail : List Char) : Option (List Nat) :=
  match (splitDots tail).mapM dottedByte? with
  | some [a, b, c, d] => some [a * 256 + b, c * 256 + d]
  | _ => none

/-- Groups read so far. `head` holds those before a `::` once there was one, `tail` the others. -/
structure Ipv6Reading where
  head : Option (List Nat)
  tail : List Nat
  deriving DecidableEq, Repr

/-- How many of the eight places are taken; a `::` takes at least one. -/
def Ipv6Reading.taken (reading : Ipv6Reading) : Nat :=
  (match reading.head with
    | none => 0
    | some groups => groups.length + 1) + reading.tail.length

def readGroups (reading : Ipv6Reading) (text : List Char) : Option Ipv6Reading :=
  if text.isEmpty then some reading
  else if reading.taken = 8 then none
  else if text.head? = some ':' then
    match reading.head with
    | some _ => none
    | none =>
      match text with
      | [] => none
      | _ :: rest => readGroups ⟨some reading.tail, []⟩ rest
  else
    let digits := text.takeWhile (digitValue? 16 · |>.isSome) |>.take 4
    let group := (number? 16 digits).getD 0
    match _split : text.drop digits.length with
    | [] => some { reading with tail := reading.tail ++ [group] }
    | '.' :: _ =>
      if digits.isEmpty ∨ reading.taken > 6 then none
      else (dottedGroups? text).map fun groups => { reading with tail := reading.tail ++ groups }
    | ':' :: rest =>
      if rest.isEmpty then none
      else readGroups { reading with tail := reading.tail ++ [group] } rest
    | _ => none
  termination_by text.length
  decreasing_by
    · simp
    · have shorter := congrArg List.length _split
      simp at shorter
      omega

def ipv6Groups? (text : List Char) : Option (List Nat) := do
  let reading ← match text with
    | ':' :: ':' :: rest => readGroups ⟨some [], []⟩ rest
    | ':' :: _ => none
    | _ => readGroups ⟨none, []⟩ text
  match reading.head with
  | none => if reading.tail.length = 8 then some reading.tail else none
  | some head =>
    some (head ++ List.replicate (8 - (head.length + reading.tail.length)) 0 ++ reading.tail)

/-! ## Writing -/

/-- A run of zero groups: where it starts and how long it is. -/
structure ZeroRun where
  start : Nat
  length : Nat
  deriving DecidableEq, Repr

/-- The first longest run of zero groups; `current` ends just before the groups left. -/
def longestZeroRun : (best current : ZeroRun) → List Nat → ZeroRun
  | best, _, [] => best
  | best, current, group :: rest =>
    if group = 0 then
      let current := { current with length := current.length + 1 }
      longestZeroRun (if best.length < current.length then current else best) current rest
    else longestZeroRun best ⟨current.start + current.length + 1, 0⟩ rest

def groupsText (groups : List Nat) : List Char :=
  ([':'] : List Char).intercalate (groups.map (Nat.toDigits 16))

def ipv6Text (groups : List Nat) : List Char :=
  match groups with
  | [0, 0, 0, 0, 0, 0xFFFF, high, low] => "::ffff:".toList ++ ipv4Text (high * 65536 + low)
  | _ =>
    let run := longestZeroRun ⟨0, 0⟩ ⟨0, 0⟩ groups
    if run.length > 1 then
      groupsText (groups.take run.start) ++ "::".toList ++
        groupsText (groups.drop (run.start + run.length))
    else groupsText groups

end Seedbed.Url

/-!
# Texts of the system

Arguments, variables and paths are octets, and these need not be those of a text. What is no text is
shown with U+FFFD in place of each part that begins no letter, or does not end the one it begins.
-/

namespace Seedbed

structure SystemText where
  octets : List UInt8
  deriving DecidableEq, Repr, Inhabited

namespace SystemText

/-! Octets with a meaning of their own. -/

@[match_pattern]
abbrev dash : UInt8 := 45

abbrev slash : UInt8 := 47

abbrev equals : UInt8 := 61

def ofText (text : String) : SystemText := ⟨text.toList.flatMap String.utf8EncodeChar⟩

instance : Coe String SystemText := ⟨ofText⟩

instance : Append SystemText := ⟨fun first second => ⟨first.octets ++ second.octets⟩⟩

theorem octets_append (first second : SystemText) :
    (first ++ second).octets = first.octets ++ second.octets := rfl

def bytes (text : SystemText) : ByteArray := text.octets.toByteArray

def text? (text : SystemText) : Option String := String.fromUTF8? text.bytes

/-! ## What is shown -/

/-- How many octets a letter has after its second, and where that one lies, by the first. -/
def secondAfter? (first : UInt8) : Option (Nat × UInt8 × UInt8) :=
  if first < 0xC2 then none
  else if first ≤ 0xDF then some (0, 0x80, 0xBF)
  else if first = 0xE0 then some (1, 0xA0, 0xBF)
  else if first = 0xED then some (1, 0x80, 0x9F)
  else if first ≤ 0xEF then some (1, 0x80, 0xBF)
  else if first = 0xF0 then some (2, 0x90, 0xBF)
  else if first ≤ 0xF3 then some (2, 0x80, 0xBF)
  else if first = 0xF4 then some (2, 0x80, 0x8F)
  else none

/-- How many octets belong to a letter that is broken off, after its first. -/
def brokenAfter (first : UInt8) : List UInt8 → Nat
  | [] => 0
  | second :: rest =>
    match secondAfter? first with
    | none => 0
    | some (more, least, greatest) =>
      if second < least || greatest < second then 0
      else 1 + ((rest.take (more - 1)).takeWhile fun octet => 0x80 ≤ octet && octet ≤ 0xBF).length

def letterOf? (octets : List UInt8) : Option Char := octets.toByteArray.utf8DecodeChar? 0

/-- The letters of octets, with U+FFFD for each part that is none. -/
def shownLetters : List UInt8 → List Char
  | [] => []
  | first :: rest =>
    match letterOf? (first :: rest) with
    | some letter => letter :: shownLetters (rest.drop (letter.utf8Size - 1))
    | none => Char.ofNat 0xFFFD :: shownLetters (rest.drop (brokenAfter first rest))
  termination_by octets => octets.length
  decreasing_by all_goals exact Nat.lt_succ_of_le (List.length_drop ▸ Nat.sub_le ..)

def shown (text : SystemText) : String :=
  text.text?.getD (String.ofList (shownLetters text.octets))

def letter? (text : SystemText) : Option Char := letterOf? text.octets

end SystemText
end Seedbed

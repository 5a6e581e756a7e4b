import Seedbed.Unicode.Direction
import Seedbed.Unicode.Joining
import Seedbed.Unicode.Normal
import Seedbed.Url.DomainMapping
import Seedbed.Url.Ipv4
import Seedbed.Url.Punycode

/-!
# Domain names

The ASCII form of a domain name. Characters are mapped and normalised; each label is then checked,
and written in Punycode after `xn--` where it is not ASCII. A label that starts with `xn--` is
decoded and must itself be such a form; a label that is not in ASCII has a bounded length. In a name
with letters that read from right to left every label must keep to one direction.
-/

namespace Seedbed.Url.Domain
open Seedbed.Unicode

/-! ## Mapping -/

/-- The code points that a character is written with: none for an ignored one, no result for one
that is not allowed. -/
def mapChar? (c : Char) : Option (List Nat) :=
  if domainValid.contains c then some [c.toNat]
  else if domainIgnored.contains c then some []
  else domainMapping.image? c.toNat

def mapped? (text : List Char) : Option (List Char) := do
  let codes ← text.mapM mapChar?
  return (normalForm codes.flatten).map Char.ofNat

/-! ## Labels -/

/-- How many characters a label may have that is not in ASCII. -/
def labelLimit : Nat := 1000

/-- How many characters may follow `xn--` in a label. -/
def codedLimit : Nat := 2000

/-- ASCII characters that a domain name of an address must not hold. -/
def isForbidden (c : Char) : Bool :=
  c.toNat ≤ 0x20 || c.toNat == 0x7F ||
    c ∈ ['%', '#', '/', ':', '<', '>', '?', '@', '[', '\\', ']', '^', '|']

/-- Whether a joiner that stands after `before` (backwards) and before `after` is in place: after a
virama, or for the non-joiner between letters that would join. -/
def joinerFits (joiner : Char) (before after : List Char) : Bool :=
  let through := joiningThrough.contains
  (match before with
    | c :: _ => combiningClass c.toNat == 9
    | [] => false) ||
  (joiner == '\u200c' &&
    (match before.dropWhile through, after.dropWhile through with
      | left :: _, right :: _ =>
        (joiningLeft.contains left || joiningBoth.contains left) &&
          (joiningRight.contains right || joiningBoth.contains right)
      | _, _ => false))

/-- Whether every joiner of a label is in place; `before` holds what was passed, backwards. -/
def joinersFit (before : List Char) : List Char → Bool
  | [] => true
  | c :: after =>
    (!(c == '\u200c' || c == '\u200d') || joinerFits c before after) &&
      joinersFit (c :: before) after

def isAscii (c : Char) : Bool := c.toNat < 0x80

def isLabel (label : List Char) : Bool :=
  (label.all isAscii || label.length ≤ labelLimit) &&
  (match label with
    | first :: _ => !marks.contains first
    | [] => true) &&
  !label.any isForbidden && joinersFit [] label

/-- The label that a written one stands for, with whether it is allowed. -/
def decoded? (label : List Char) : Option (List Char) :=
  if label.take 4 = "xn--".toList then do
    let coded := label.drop 4
    guard (label.all isAscii && coded.length ≤ codedLimit)
    let codes ← Punycode.decode? coded
    let text := codes.map Char.ofNat
    if !text.all isAscii && mapped? text == some text && isLabel text then some text else none
  else if isLabel label then some label
  else none

/-! ## Direction -/

def isRightward (c : Char) : Bool :=
  rightToLeft.contains c || arabicLetters.contains c

/-- Whether a character makes its name one with right-to-left labels. -/
def turnsDirection (c : Char) : Bool := isRightward c || arabicNumbers.contains c

def isNeutral (c : Char) : Bool :=
  europeanSeparators.contains c || commonSeparators.contains c ||
    europeanTerminators.contains c || otherNeutrals.contains c ||
    boundaryNeutrals.contains c || nonspacingMarks.contains c

def keepsDirection (label : List Char) : Bool :=
  match label with
  | [] => true
  | first :: _ =>
    let last := (label.reverse.dropWhile nonspacingMarks.contains).headD first
    if isRightward first then
      label.all (fun c => turnsDirection c || europeanNumbers.contains c || isNeutral c) &&
        (turnsDirection last || europeanNumbers.contains last) &&
        !(label.any europeanNumbers.contains && label.any arabicNumbers.contains)
    else if leftToRight.contains first then
      label.all (fun c => leftToRight.contains c || europeanNumbers.contains c || isNeutral c) &&
        (leftToRight.contains last || europeanNumbers.contains last)
    else false

/-! ## The ASCII form -/

def written (label : List Char) : List Char :=
  if label.all isAscii then label
  else "xn--".toList ++ Punycode.encode (label.map Char.toNat)

/-- The ASCII form of the name that some bytes spell, if there is one. -/
def toAscii? (bytes : List UInt8) : Option (List Char) := do
  let text ← String.fromUTF8? ⟨bytes.toArray⟩
  let name ← mapped? text.toList
  let labels ← (splitDots name).mapM decoded?
  if labels.any (·.any turnsDirection) && !labels.all keepsDirection then none
  else some (['.'].intercalate (labels.map written))

end Seedbed.Url.Domain

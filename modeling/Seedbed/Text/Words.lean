/-!
# Words of a text

Tables of names and numbers are kept as one text each and cut at blanks. A word is a maximal run
of characters that are neither a space nor a line break, so no word is empty.
-/

namespace Seedbed.Text

def isSeparator (c : Char) : Bool := c == ' ' || c == '\n'

/-- Words of `text`, the first of them continuing `pending`, which is held backwards. -/
def wordsFrom : (pending text : List Char) → List (List Char)
  | pending, [] => if pending.isEmpty then [] else [pending.reverse]
  | pending, c :: rest =>
    if isSeparator c then
      if pending.isEmpty then wordsFrom [] rest
      else pending.reverse :: wordsFrom [] rest
    else wordsFrom (c :: pending) rest

def words (text : String) : List (List Char) := wordsFrom [] text.toList

theorem ne_nil_of_mem_wordsFrom {pending text word : List Char}
    (member : word ∈ wordsFrom pending text) : word ≠ [] := by
  induction text generalizing pending with
  | nil =>
    cases pending <;> simp [wordsFrom] at member
    simp [member]
  | cons c rest ih =>
    unfold wordsFrom at member
    split at member
    · cases pending with
      | nil => exact ih (by simpa using member)
      | cons p ps =>
        rcases List.mem_cons.1 (by simpa using member) with rfl | later
        · simp
        · exact ih later
    · exact ih member

theorem ne_nil_of_mem_words {text : String} {word : List Char}
    (member : word ∈ words text) : word ≠ [] :=
  ne_nil_of_mem_wordsFrom member

/-! ## Numbers in a text -/

/-- The value of one digit of a base up to thirty-six, letters of either case standing for ten and
up. -/
def digitValue? (base : Nat) (c : Char) : Option Nat :=
  let value :=
    if c.isDigit then some (c.toNat - '0'.toNat)
    else if c.isLower then some (c.toNat - 'a'.toNat + 10)
    else if c.isUpper then some (c.toNat - 'A'.toNat + 10)
    else none
  value.filter (· < base)

/-- The number that a run of digits of a base stands for; the empty run is no number. -/
def number? (base : Nat) : List Char → Option Nat
  | [] => none
  | digits => digits.foldlM (fun value c => (digitValue? base c).map (value * base + ·)) 0

end Seedbed.Text

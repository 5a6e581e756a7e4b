import Seedbed.Unicode.Ranges

/-!
# Blank characters

The characters with the property White_Space. A text of such characters alone counts as empty
where a setting must say something.
-/

namespace Seedbed.Unicode

/-- The code points with the property White_Space. -/
def blanks : Ranges :=
  ⟨[(0x9, 0xD), (0x20, 0x20), (0x85, 0x85), (0xA0, 0xA0), (0x1680, 0x1680), (0x2000, 0x200A),
    (0x2028, 0x2029), (0x202F, 0x202F), (0x205F, 0x205F), (0x3000, 0x3000)]⟩

def isBlank (c : Char) : Bool := blanks.contains c

/-- Whether every character of a text is blank, as in the empty text. -/
def isBlankText (text : String) : Bool := text.toList.all isBlank

example : isBlankText "" = true := rfl
example : isBlank '\u3000' = true := by decide
example : isBlank '\u200b' = false := by decide

end Seedbed.Unicode

import Seedbed.Text.Words
import Seedbed.Yaml.Cursor
import Seedbed.Yaml.Fault

/-!
# Tags

A tag names the kind of a node. It is written out between angle brackets, or starts with a handle
that stands for the start of an address. The rest of a tag is made of address characters and of
octets written as a percent sign and two hexadecimal digits, which must come as whole encoded
characters. An octet is kept as the character with its number. A NUL ends what a tag says, though
not what is read of it.
-/

namespace Seedbed.Yaml

/-- A character that may stand in a tag; between angle brackets a comma and brackets may, too. -/
def isTagChar (verbatim : Bool) (c : Char) : Bool :=
  isNameChar c || ";/?:@&=+$.!~*'()".toList.contains c || (verbatim && ",[]".toList.contains c)

def escapedOctet? (cursor : Cursor) : Option Nat :=
  if cursor.peek == '%' then Text.number? 16 ((cursor.rest.drop 1).take 2) |>.filter fun _ =>
    2 < cursor.rest.length
  else none

/-- How many octets follow the first one of an encoded character. -/
def octetsOwed? (octet : Nat) : Option Nat :=
  if octet < 0x80 then some 0
  else if octet / 0x20 = 6 then some 1
  else if octet / 0x10 = 14 then some 2
  else if octet / 8 = 30 then some 3
  else none

/-- Reads the text of a tag. `owed` octets must follow first, and `text` was read before, backwards.
-/
def readTagText (activity : Activity) (verbatim : Bool) (start : Place) (owed : Nat)
    (text : List Char) (cursor : Cursor) : Except Fault (List Char × Cursor) :=
  if 0 < owed || cursor.peek == '%' then
    match _octet : escapedOctet? cursor with
    | none => .error (.during activity start .noEscapedOctet cursor.place)
    | some octet =>
      if 0 < owed then
        if octet / 0x40 = 2 then
          readTagText activity verbatim start (owed - 1) (Char.ofNat octet :: text) (cursor.skips 3)
        else .error (.during activity start .badTrailingOctet cursor.place)
      else
        match octetsOwed? octet with
        | none => .error (.during activity start .badLeadingOctet cursor.place)
        | some owed =>
          readTagText activity verbatim start owed (Char.ofNat octet :: text) (cursor.skips 3)
  else if cursor.rest.isEmpty || !isTagChar verbatim cursor.peek then .ok (text.reverse, cursor)
  else readTagText activity verbatim start 0 (cursor.peek :: text) cursor.skip
  termination_by cursor.rest.length
  decreasing_by
    all_goals try exact Cursor.length_skip (by simp_all)
    all_goals
      have percent : cursor.peek = '%' := by
        unfold escapedOctet? at _octet
        split at _octet <;> simp_all
      exact Cursor.length_skips_lt (by decide) (Cursor.rest_ne_nil_of_peek percent (by decide))

def readTagAddress (activity : Activity) (verbatim : Bool) (start : Place) (cursor : Cursor) :
    Except Fault (List Char × Cursor) := do
  let (text, after) ← readTagText activity verbatim start 0 [] cursor
  if text.isEmpty then throw (.during activity start .noTagAddress after.place)
  return (text, after)

/-- Reads an exclamation mark, the name after it, and a second mark if there is one. -/
def readTagHandle (cursor : Cursor) : List Char × Cursor :=
  let (name, after) := cursor.skip.takeWhile isNameChar
  if after.peek == '!' then ('!' :: name ++ ['!'], after.skip) else ('!' :: name, after)

def isClosedHandle (handle : List Char) : Bool :=
  1 < handle.length && handle.getLast? == some '!'

/-- The part of a tag's text that counts: what comes before a NUL. -/
def meant (text : List Char) : List Char := text.takeWhile (· != '\x00')

/-- Reads a tag from its exclamation mark on: its handle, empty if it has none, and its rest. -/
def readTag (inFlow : Bool) (cursor : Cursor) :
    Except Fault ((List Char × List Char) × Cursor) := do
  let start := cursor.place
  let (tag, after) ← (do
    if cursor.peek 1 == '<' then
      let (text, after) ← readTagAddress .tagAddress true start (cursor.skips 2)
      if after.peek != '>' then throw (.during .tag start .noTagClose after.place)
      return (([], text), after.skip)
    else
      let (handle, after) := readTagHandle cursor
      if isClosedHandle handle then
        let (text, after) ← readTagAddress .tagAddress false start after
        return ((handle, text), after)
      else
        let (text, after) ← readTagText .tagAddress false start 0 [] after
        let text := handle.tail ++ text
        return (if (meant text).isEmpty then ([], ['!']) else (['!'], text), after))
  if isBlankOrEnd after.peek || (inFlow && after.peek == ',') then return (tag, after)
  throw (.during .tag start .noWhitespaceOrBreak after.place)

end Seedbed.Yaml

import Seedbed.Yaml.Tag
import Seedbed.Yaml.Token

/-!
# Directives

A directive stands before a document and gives the version of the format, or a handle for tags.
-/

namespace Seedbed.Yaml

def versionDigits : Nat := 9

def readVersionNumber (start : Place) (cursor : Cursor) : Except Fault (Nat × Cursor) := do
  let (digits, after) := cursor.takeWhile Char.isDigit
  if versionDigits < digits.length then
    throw (.during .versionDirective start .longVersion (cursor.skips versionDigits).place)
  match Text.number? 10 digits with
  | some number => return (number, after)
  | none => throw (.during .versionDirective start .noVersionNumber cursor.place)

/-- Reads a version: two numbers with a point between them. -/
def readVersion (start : Place) (cursor : Cursor) : Except Fault (Token.Kind × Cursor) := do
  let (major, after) ← readVersionNumber start (cursor.skipWhile isBlank)
  if after.peek != '.' then throw (.during .versionDirective start .noVersionPoint after.place)
  let (minor, after) ← readVersionNumber start after.skip
  return (.version major minor, after)

def readHandle (start : Place) (cursor : Cursor) : Except Fault (Token.Kind × Cursor) := do
  let cursor := cursor.skipWhile isBlank
  if cursor.peek != '!' then throw (.during .tagDirectiveStart start .noTagBang cursor.place)
  let (handle, after) := readTagHandle cursor
  if handle != ['!'] && !isClosedHandle handle then
    throw (.during .tagDirectiveHandle start .noTagBang after.place)
  if !isBlank after.peek then throw (.during .tagDirectiveEnd start .noWhitespace after.place)
  let (text, after) ← readTagAddress .tagDirective true start (after.skipWhile isBlank)
  if !isBlankOrEnd after.peek then
    throw (.during .tagDirectiveEnd start .noWhitespaceOrBreak after.place)
  return (.tagHandle handle text, after)

/-- Reads a directive from its percent sign on, with the end of its line. -/
def readDirective (cursor : Cursor) : Except Fault (Token × Cursor) := do
  let start := cursor.place
  let (name, after) := cursor.skip.takeWhile isNameChar
  if name.isEmpty then throw (.during .directive start .noDirectiveName after.place)
  if !isBlankOrEnd after.peek then throw (.during .directive start .nonAlphabetic after.place)
  let (kind, after) ←
    if name = "YAML".toList then readVersion start after
    else if name = "TAG".toList then readHandle start after
    else throw (.during .directive start .unknownDirective after.place)
  let token : Token := ⟨kind, start, after.place⟩
  let after := after.skipComment
  if !isBreakOrEnd after.peek then throw (.during .directive start .noCommentOrBreak after.place)
  return (token, after.skipLine)

end Seedbed.Yaml
